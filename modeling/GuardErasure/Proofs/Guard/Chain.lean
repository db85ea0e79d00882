import GuardErasure.Proofs.Guard.Alike
import GuardErasure.Proofs.Guard.Recognised

namespace GuardErasure

/-!
# Chains of guarded accesses

The lowering of `base?.a?.f(x)?.b` nests: every link of the chain is a choice on what the links
before it come to, and holds that twice, so that the first of `n` links stands there `2 ^ n` times.

* `Link` — one link of a chain, with the types that are stored in its choice;
* `Expr.lifted`, `Expr.accessed` — the lowering of a chain, and the plain path that it is about;
* `Shape.swept_lift` — what one link comes to inside a guard, whether it is a guard itself or only
  gives way there, and `Shape.swept_lifted` for all of them;
* `erase_guarded_lifted` — a guard on a chain gives way to the plain path.
-/

/-- What is accessed at one link of a chain. -/
inductive Access where
  /-- A named member. -/
  | read (name : String) (ty : Ty)
  /-- A method of the object. -/
  | invoke (method : Method) (args : List Expr) (ty : Ty)

namespace Access

/-- The access to an object. -/
def on : Access → Expr → Expr
  | read name ty, path => .member path (.named name) ty
  | invoke method args ty, path => .callOn path method args ty

/-- The arguments of a call; a read has none. -/
def args : Access → List Expr
  | read .. => []
  | invoke _ args _ => args

end Access

/-- One link of a chain, `path == null ? null : access(path)`. -/
structure Link where
  access : Access
  /-- Is what is accessed converted to a nullable truth value? -/
  converted : Bool
  /-- The type of the null that the path is compared with. -/
  nullTy : Ty
  /-- The type of the comparison. -/
  testTy : Ty
  /-- The type of the null that stands for what is missing. -/
  missingTy : Ty
  /-- The type of the choice. -/
  ty : Ty

namespace Link

/-- The access, converted if the link says so. -/
def use (l : Link) (path : Expr) : Expr :=
  if l.converted then (l.access.on path).convertTo (.option .bool) else l.access.on path

/-- The choice on a path. -/
def lift (l : Link) (path : Expr) : Expr :=
  .cond (.binary .equal path (.const .null l.nullTy) l.testTy) (.const .null l.missingTy)
    (l.use path) l.ty

end Link

namespace Expr

/-- The lowering of a chain: each link is a choice on all that comes before it. -/
def lifted (base : Expr) (links : List Link) : Expr :=
  links.foldl (fun path l => l.lift path) base

/-- The plain path of a chain: one access after another. -/
def accessed (base : Expr) (links : List Link) : Expr :=
  links.foldl (fun path l => l.access.on path) base

/-- A plain path holds the choices of its base and of the arguments along it. -/
theorem choices_accessed (base : Expr) (links : List Link) :
    (base.accessed links).choices
      = base.choices ++ links.flatMap fun l => l.access.args.flatMap choices := by
  -- by induction on the links, over any base
  induction links generalizing base with
  | nil => exact (List.append_nil _).symm
  | cons l ls ih =>
    have hone : (l.access.on base).choices = base.choices ++ l.access.args.flatMap choices := by
      cases l.access with
      | read name ty => simp [Access.on, Access.args]
      | invoke m args ty => simp [Access.on, Access.args]
    show ((l.access.on base).accessed ls).choices = _
    rw [ih, hone, List.flatMap_cons, List.append_assoc]

end Expr

/-! ### Links inside a guard -/

namespace Shape

variable {s : Shape}

/-- An access to an object is an access to what is left of it, if the arguments stay. -/
theorem swept_access {a : Access} (hargs : ∀ e ∈ a.args, s.swept true e = e) (path : Expr) :
    s.swept true (a.on path) = a.on (s.swept true path) := by
  cases a with
  | read name ty => exact swept_member path (.named name) ty
  | invoke m args ty =>
    have hmap : args.map (s.swept true) = args.map id := List.map_congr_left hargs
    rw [Access.on, swept_callOn, hmap, List.map_id]
    rfl

/-- The use in a link is no read of a wrapper's value. -/
theorem use_ne_wrappedValue (l : Link) (path owner : Expr) (t : Ty) :
    l.use path ≠ .member owner .wrappedValue t := by
  rw [Link.use]
  cases l.converted with
  | true => simp [Expr.convertTo]
  | false => cases l.access <;> simp [Access.on]

/-- **Inside a guard a link gives way** to its use, whether or not it is a guard itself. -/
theorem givesWay_lift (l : Link) (path : Expr) : s.GivesWay true (l.lift path) (l.use path) := by
  rw [Link.lift]
  cases hg : s.guard? (.binary .equal path (.const .null l.nullTy) l.testTy)
      (.const .null l.missingTy) (l.use path) with
  | none => exact givesWay_collapsed hg rfl
  | some g =>
    obtain ⟨tested, part⟩ := g
    cases part with
    | whole => exact givesWay_wholeGuard hg
    | owner =>
      obtain ⟨owner, t, huse⟩ := guard?_owner hg
      exact absurd huse (use_ne_wrappedValue l path owner t)

/-- **One link**: what is left is the access to what is left of the path before it. -/
theorem swept_lift {l : Link} (hargs : ∀ e ∈ l.access.args, s.swept true e = e) (path : Expr) :
    s.swept true (l.lift path) = l.access.on (s.swept true path) := by
  rw [(givesWay_lift l path).1, Link.use]
  cases l.converted with
  | false => exact swept_access hargs path
  | true =>
    -- the conversion is stripped
    have hstripped : s.GivesWay true ((l.access.on path).convertTo (.option .bool))
        (l.access.on path) := givesWay_stripped rfl
    exact hstripped.1.trans (swept_access hargs path)

/-- **All links**: what is left is the plain path from what is left of the base. -/
theorem swept_lifted {links : List Link}
    (hargs : ∀ l ∈ links, ∀ e ∈ l.access.args, s.swept true e = e) (base : Expr) :
    s.swept true (base.lifted links) = (s.swept true base).accessed links := by
  -- by induction on the links, over any base
  induction links generalizing base with
  | nil => rfl
  | cons l ls ih =>
    have hlift : s.swept true (l.lift base) = l.access.on (s.swept true base) :=
      swept_lift (hargs l (by simp)) base
    show s.swept true ((l.lift base).lifted ls) = _
    rw [ih (fun m hm => hargs m (by simp [hm])), hlift]
    rfl

/-- A member guard on a nullable path without a NaN gives way to what is left of the path. -/
theorem erase_memberGuard {path : Expr} (hs : s = .member ∨ s = .both)
    (hoption : path.ty.isOption = true) (hnan : ∀ f ∈ path.floats, f.isNaN = false)
    (nullTy testTy valueTy ty : Ty) :
    s.erase (path.memberGuard nullTy testTy valueTy ty) = s.swept true path := by
  have hguard := guard?_memberGuard_of_isOption nullTy testTy valueTy hs hoption
  rw [if_pos (path.beq_self_iff.mpr hnan)] at hguard
  exact (givesWay_ownerGuard hguard).1

end Shape

/-! ### The whole chain -/

/-- **A guard on a chain of any length gives way to the plain path**, in the pass for member guards
    and in the pass for both sorts of guards.  The base and the arguments are to be such that
    nothing happens to them inside a guard.

    No choice of the lowering is left: those on the plain path are in the base and in the
    arguments. -/
theorem erase_guarded_lifted {base : Expr} {links : List Link}
    (hbase : Shape.member.swept true base = base)
    (hargs : ∀ l ∈ links, ∀ e ∈ l.access.args, Shape.member.swept true e = e)
    (hoption : (base.lifted links).ty.isOption = true)
    (hnan : ∀ f ∈ (base.lifted links).floats, f.isNaN = false)
    (nullTy testTy valueTy ty : Ty) :
    eraseMemberGuards ((base.lifted links).memberGuard nullTy testTy valueTy ty)
        = base.accessed links
      ∧ eraseGuards ((base.lifted links).memberGuard nullTy testTy valueTy ty)
        = base.accessed links
      ∧ (base.accessed links).choices
        = base.choices ++ links.flatMap fun l => l.access.args.flatMap Expr.choices := by
  have hswept : Shape.member.swept true (base.lifted links) = base.accessed links := by
    rw [Shape.swept_lifted hargs, hbase]
  refine ⟨?_, ?_, base.choices_accessed links⟩
  · rw [← hswept]
    exact Shape.erase_memberGuard (.inl rfl) hoption hnan nullTy testTy valueTy ty
  · -- inside the guard both passes do the same
    rw [← hswept, ← Shape.swept_inside_both]
    exact Shape.erase_memberGuard (.inr rfl) hoption hnan nullTy testTy valueTy ty

namespace Samples

/-- The links of `_?.Address?.zone_of(1.5, "k")?.Active`.  The call is a guard of its own. -/
def zoneLinks : List Link :=
  [⟨.read "Address" addressTy, false, personTy, .bool, addressTy, addressTy⟩,
   ⟨.invoke (.onReceiver "zone_of") [.ofValue (.float64 1.5), .ofValue (.string "k")]
      (.record "Zone"), false, addressTy, .bool, .record "Zone", .record "Zone"⟩,
   ⟨.read "Active" .bool, true, .record "Zone", .bool, .option .bool, .option .bool⟩]

end Samples

/-- `p?.Address?.zone_of(1.5, "k")?.Active` comes to `p.Address.zone_of(1.5, "k").Active`. -/
theorem erase_guarded_zoneLinks :
    (Samples.person.lifted Samples.zoneLinks).ty.isOption = true
      ∧ (∀ f ∈ (Samples.person.lifted Samples.zoneLinks).floats, f.isNaN = false)
      ∧ eraseMemberGuards (Samples.person.lifted Samples.zoneLinks).guarded
        = (Samples.address.invoke "zone_of" [.ofValue (.float64 1.5), .ofValue (.string "k")]
          (.record "Zone")).read "Active" .bool
      ∧ eraseGuards (Samples.person.lifted Samples.zoneLinks).guarded
        = (Samples.address.invoke "zone_of" [.ofValue (.float64 1.5), .ofValue (.string "k")]
          (.record "Zone")).read "Active" .bool
      ∧ (Samples.person.accessed Samples.zoneLinks).choices = [] := by
  have hargs : ∀ l ∈ Samples.zoneLinks, ∀ e ∈ l.access.args, Shape.member.swept true e = e := by
    intro l hl e he
    simp only [Samples.zoneLinks, List.mem_cons, List.not_mem_nil, or_false] at hl
    rcases hl with rfl | rfl | rfl
    · cases he
    · have hleaf : e.isLeaf = true := by
        simp only [Access.args, List.mem_cons, List.not_mem_nil, or_false] at he
        rcases he with rfl | rfl <;> rfl
      exact Shape.swept_leaf hleaf
    · cases he
  have hbase : Shape.member.swept true Samples.person = Samples.person := rfl
  have hnan : ∀ f ∈ (Samples.person.lifted Samples.zoneLinks).floats, f.isNaN = false := by decide
  exact ⟨rfl, hnan, erase_guarded_lifted hbase hargs rfl hnan _ _ _ _⟩

end GuardErasure
