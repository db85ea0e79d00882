import GuardErasure.Change

namespace GuardErasure.Change

/-!
# The tree that an answer leaves

What becomes of a node is told in three answers.  Read as trees they are simpler: a node that is
rebuilt around its parts leaves the node around what the parts leave, whether any of them
changes or not.
-/

theorem result_inParent (c : Change) (rebuild : Expr → Expr) (part : Expr) :
    (c.inParent rebuild).result (rebuild part) = rebuild (c.result part) := by
  cases c <;> rfl

theorem isDrop_inParent (c : Change) (rebuild : Expr → Expr) :
    (c.inParent rebuild).isDrop = false := by
  cases c <;> rfl

theorem result_inPlaceOf (c : Change) (part whole : Expr) :
    (c.inPlaceOf part).result whole = c.result part := by
  cases c <;> rfl

theorem isDrop_inPlaceOf (c : Change) (part : Expr) : (c.inPlaceOf part).isDrop = c.isDrop := by
  cases c <;> rfl

/-- A dropped node leaves `true`. -/
theorem result_of_isDrop {c : Change} (h : c.isDrop = true) (old : Expr) :
    c.result old = .trueLiteral := by
  cases c with
  | drop => rfl
  | _ => exact absurd h (by simp [isDrop])

/-- A node that stays is left as it was. -/
theorem result_of_not_isChange {c : Change} {old : Expr} (h : c.isChange = false) :
    c.result old = old := by
  cases c with
  | keep => rfl
  | _ => exact absurd h (by simp [isChange])

theorem left?_of_isDrop {c : Change} (h : c.isDrop = true) (old : Expr) :
    c.left? old = none := by
  cases c with
  | drop => rfl
  | _ => exact absurd h (by simp [isDrop])

theorem left?_of_not_isDrop {c : Change} (h : c.isDrop = false) (old : Expr) :
    c.left? old = some (c.result old) := by
  cases c with
  | drop => exact absurd h (by simp [isDrop])
  | _ => rfl

/-- A binary operation stays one; only its stored type may be another. -/
theorem result_inBinary (op : BinOp) (left right : Expr) (t : Ty) (l r : Change) :
    ∃ t', (inBinary op left right l r).result (.binary op left right t)
      = .binary op (l.result left) (r.result right) t' := by
  cases l <;> cases r <;> exact ⟨_, rfl⟩

/-- A binary operation of which an operand changes is typed anew. -/
theorem result_inBinary_of_change {op : BinOp} {left right : Expr} {l r : Change}
    (h : ¬(l = .keep ∧ r = .keep)) (old : Expr) :
    (inBinary op left right l r).result old = (l.result left).combine op (r.result right) := by
  cases l with
  | keep =>
    cases r with
    | keep => exact absurd ⟨rfl, rfl⟩ h
    | _ => rfl
  | _ => cases r <;> rfl

theorem isDrop_inBinary (op : BinOp) (left right : Expr) (l r : Change) :
    (inBinary op left right l r).isDrop = false := by
  cases l <;> cases r <;> rfl

theorem result_inCond (test ifTrue ifFalse : Expr) (t : Ty) (a b c : Change) :
    (inCond test ifTrue ifFalse t a b c).result (.cond test ifTrue ifFalse t)
      = .cond (a.result test) (b.result ifTrue) (c.result ifFalse) t := by
  cases a <;> cases b <;> cases c <;> rfl

theorem isDrop_inCond (test ifTrue ifFalse : Expr) (t : Ty) (a b c : Change) :
    (inCond test ifTrue ifFalse t a b c).isDrop = false := by
  cases a <;> cases b <;> cases c <;> rfl

theorem getD_consArg (arg : Expr) (c : Change) (args : List Expr) (rest : Option (List Expr)) :
    (consArg arg c args rest).getD (arg :: args) = c.result arg :: rest.getD args := by
  cases c <;> cases rest <;> rfl

theorem result_inCall (m : Method) (args : List Expr) (t : Ty) (new : Option (List Expr)) :
    (inCall m t new).result (.call m args t) = .call m (new.getD args) t := by
  cases new <;> rfl

theorem isDrop_inCall (m : Method) (t : Ty) (new : Option (List Expr)) :
    (inCall m t new).isDrop = false := by
  cases new <;> rfl

theorem result_inCallOn (receiver : Expr) (m : Method) (args : List Expr) (t : Ty) (r : Change)
    (new : Option (List Expr)) :
    (inCallOn receiver m args t r new).result (.callOn receiver m args t)
      = .callOn (r.result receiver) m (new.getD args) t := by
  cases r <;> cases new <;> rfl

theorem isDrop_inCallOn (receiver : Expr) (m : Method) (args : List Expr) (t : Ty) (r : Change)
    (new : Option (List Expr)) : (inCallOn receiver m args t r new).isDrop = false := by
  cases r <;> cases new <;> rfl

/-! ### Nodes that stay

A node stays exactly if all of its parts do. -/

theorem inParent_eq_keep_iff {c : Change} {rebuild : Expr → Expr} :
    c.inParent rebuild = .keep ↔ c = .keep := by
  cases c <;> simp [inParent, newPart?]

theorem inBinary_eq_keep_iff {op : BinOp} {left right : Expr} {l r : Change} :
    inBinary op left right l r = .keep ↔ l = .keep ∧ r = .keep := by
  cases l <;> cases r <;> simp [inBinary, newPart?]

theorem inCond_eq_keep_iff {test ifTrue ifFalse : Expr} {t : Ty} {a b c : Change} :
    inCond test ifTrue ifFalse t a b c = .keep ↔ a = .keep ∧ b = .keep ∧ c = .keep := by
  cases a <;> cases b <;> cases c <;> simp [inCond, newPart?]

theorem consArg_eq_none_iff {arg : Expr} {c : Change} {args : List Expr}
    {rest : Option (List Expr)} : consArg arg c args rest = none ↔ c = .keep ∧ rest = none := by
  cases c <;> cases rest <;> simp [consArg, newPart?]

theorem inCall_eq_keep_iff {m : Method} {t : Ty} {new : Option (List Expr)} :
    inCall m t new = .keep ↔ new = none := by
  cases new <;> simp [inCall]

theorem inCallOn_eq_keep_iff {receiver : Expr} {m : Method} {args : List Expr} {t : Ty}
    {r : Change} {new : Option (List Expr)} :
    inCallOn receiver m args t r new = .keep ↔ r = .keep ∧ new = none := by
  cases r <;> cases new <;> simp [inCallOn, newPart?]

end GuardErasure.Change
