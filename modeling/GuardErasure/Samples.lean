import GuardErasure.Expr.Basic

namespace GuardErasure.Samples

/-!
# Sample expressions

A record type of people, and small expressions over it in the shapes that the lowering of
null-propagating access produces: `p?.Flag`, `p?.Name.to_lower()` and their relatives.
-/

/-- The type of a person: a name, a flag that may be missing, and an address. -/
def personTy : Ty := .record "Person"

/-- The type of an address, which may or may not be verified. -/
def addressTy : Ty := .record "Address"

/-- `p` -/
def person : Expr := .param "p" personTy

/-- `p.Name` -/
def name : Expr := person.read "Name" .string

/-- `p.Flag`, a truth value that may be missing. -/
def flag : Expr := person.read "Flag" (.option .bool)

/-- `p.Address` -/
def address : Expr := person.read "Address" addressTy

/-- `p.Address.Verified` -/
def verified : Expr := address.read "Verified" .bool

/-- The lowering of `p?.Flag` as a condition. -/
def flagGuard : Expr := flag.guarded

/-- `p.Name.to_lower()` -/
def lowerName : Expr := name.invoke "to_lower" [] .string

/-- `(p.Name == null ? "k" : p.Name.to_lower()) == "k"` -/
def nameGuardTest : Expr :=
  (Expr.choose name.eqNull (.ofValue (.string "k")) lowerName).combine .equal
    (.ofValue (.string "k"))

/-- `p.Name.to_lower() == "k"` -/
def nameTest : Expr := lowerName.combine .equal (.ofValue (.string "k"))

/-- `p?.Address?.Verified`, missing where the address is. -/
def verifiedOrNull : Expr :=
  .choose address.eqNull (.null (.option .bool)) (verified.convertTo (.option .bool))

/-- A guard whose path is itself a guarded access. -/
def nestedGuard : Expr := verifiedOrNull.guarded

/-- A guard over `p.Name != null && p.Flag`. -/
def guardWithCheck : Expr := (name.neNull.combine .and flag).guarded

/-- A choice like a guard, but for its default `true`. -/
def oppositeGuard : Expr :=
  .choose flag.eqNull (.ofValue (.bool true)) flag.readValue

/-- A condition on a person, as a function of `p`. -/
def condition (body : Expr) : Expr := .lambda ["p"] body

/-- The row of a person; what is missing is null. -/
def row (name : Option String) (flag verified : Option Bool) : Value :=
  .ofFields
    [("Name", name.elim .null .string), ("Flag", flag.elim .null .bool),
     ("Address", .ofFields [("Verified", verified.elim .null .bool)])]

end GuardErasure.Samples
