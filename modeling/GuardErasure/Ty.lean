namespace GuardErasure

/-!
# Static types

Every node of a query expression carries a static type.  This module holds the
types and the few questions the rest of the library asks of them:

* `Ty` — the closed family of static types, with an explicit nullable wrapper;
* `Ty.mayBeNull` — may an expression of this type be null;
* `Ty.stripped` / `Ty.orNull` — take one nullable wrapper off, or put one on
  where null would otherwise be refused;
* `Ty.text` — the way a type is written in messages.
-/

/-- The static type of an expression.  A nullable wrapper is a constructor of its
    own, so that wrapping is never a matter of inspection. -/
inductive Ty where
  /-- Truth values. -/
  | bool
  /-- 64-bit signed integers. -/
  | int64
  /-- Double-precision floating point numbers. -/
  | float64
  /-- Text; may be null without a wrapper. -/
  | string
  /-- A named record; may be null without a wrapper. -/
  | record (name : String)
  /-- A sequence of elements; may be null without a wrapper. -/
  | seq (element : Ty)
  /-- The nullable wrapper around another type. -/
  | option (wrapped : Ty)
  /-- Anything else; may be null. -/
  | object
deriving DecidableEq

namespace Ty

/-! ### Questions about a type -/

/-- Is this type a nullable wrapper? -/
def isOption : Ty → Bool
  | option _ => true
  | _ => false

/-- Is this type the nullable wrapper around `bool` itself? -/
def isOptionBool : Ty → Bool
  | option bool => true
  | _ => false

/-- May an expression of this type be null?  True of nullable wrappers and of
    every type whose values are references. -/
def mayBeNull : Ty → Bool
  | bool | int64 | float64 => false
  | _ => true

/-- The type inside a nullable wrapper. -/
def payload? : Ty → Option Ty
  | option t => some t
  | _ => none

/-- The element type of a sequence. -/
def element? : Ty → Option Ty
  | seq t => some t
  | _ => none

/-- Is this a sequence type? -/
def isSeq (t : Ty) : Bool := t.element?.isSome

/-- The element type of a sequence, and `object` for any other type. -/
def elementOrObject (t : Ty) : Ty := t.element?.getD object

/-! ### Taking a wrapper off and putting one on -/

/-- The type without its outermost nullable wrapper, if it has one. -/
def stripped : Ty → Ty
  | option t => t
  | t => t

/-- The same type, wrapped if it would otherwise refuse null. -/
def orNull (t : Ty) : Ty := if t.mayBeNull then t else option t

/-- Is this type, wrapper aside, one of the two number types? -/
def isNumber (t : Ty) : Bool :=
  match t.stripped with
  | int64 | float64 => true
  | _ => false

/-- What `orNull` gives always admits null. -/
theorem mayBeNull_orNull (t : Ty) : t.orNull.mayBeNull = true := by
  unfold orNull
  split
  · assumption
  · rfl

/-- Only a sequence has an element type. -/
theorem element?_eq_some {t e : Ty} : t.element? = some e ↔ t = seq e := by
  cases t <;> simp [element?]

/-! ### Text -/

/-- The way a type is written: a record by its name, a wrapper by a question mark
    after the wrapped type. -/
def text : Ty → String
  | bool => "Bool"
  | int64 => "Int64"
  | float64 => "Float64"
  | string => "String"
  | record name => name
  | seq t => s!"Seq<{t.text}>"
  | option t => s!"{t.text}?"
  | object => "Object"

instance : ToString Ty := ⟨text⟩

end Ty

end GuardErasure
