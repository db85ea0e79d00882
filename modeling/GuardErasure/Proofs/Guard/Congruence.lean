import GuardErasure.Proofs.Expr.Head
import GuardErasure.Proofs.Guard.Rebuilt
import GuardErasure.Proofs.Rules.Removal

namespace GuardErasure

/-!
# Outside of guards the pass goes by the parts

A node that is no guard is only rebuilt around what is left of its parts, and it hands the count of
removed guards from one part to the next:

* `Expr.rebuilt` — a node around other parts;
* `Shape.erase_eq_rebuilt`, `Shape.removals_eq_sum` — the pass at a node that is no guard;
* `Eraser.erase_by_parts` — the node before and after a run of the pass, and the count.
-/

namespace Expr

/-! ### A node around other parts -/

/-- A node around the images of its parts; a binary operation is typed anew if an operand changes. -/
def rebuilt (f : Expr → Expr) : Expr → Expr
  | member owner n t => member (f owner) n t
  | callOn receiver m args t => callOn (f receiver) m (args.map f) t
  | call m args t => call m (args.map f) t
  | unary op operand t => unary op (f operand) t
  | binary op left right t =>
    binary op (f left) (f right) (op.newTy left right t (f left) (f right))
  | cond test ifTrue ifFalse t => cond (f test) (f ifTrue) (f ifFalse) t
  | lambda params body => lambda params (f body)
  | e => e

variable (f : Expr → Expr)

theorem kind_rebuilt (e : Expr) : (e.rebuilt f).kind = e.kind := by
  cases e <;> rfl

theorem head_rebuilt (e : Expr) : (e.rebuilt f).head = e.head := by
  cases e <;> rfl

theorem parts_rebuilt (e : Expr) : (e.rebuilt f).parts = e.parts.map f := by
  cases e <;> rfl

end Expr

/-! ### The pass at a node that is no guard -/

namespace Shape

variable {s : Shape} {e : Expr}

/-- **A node that is no guard** is rebuilt around what is left of its parts. -/
theorem erase_eq_rebuilt (hg : s.isGuard e = false) : s.erase e = e.rebuilt s.erase := by
  rw [erase_eq_swept]
  cases e with
  | const | param | root | source | foreign => rfl
  | member owner n t => exact swept_member owner n t
  | callOn receiver m args t => exact swept_callOn receiver m args t
  | call m args t => exact swept_call m args t
  | unary op operand t => exact swept_unary (by simp)
  | binary op left right t => exact swept_outside_eq op left right t
  | cond test ifTrue ifFalse t => exact swept_cond (guard?_eq_none hg) (by simp)
  | lambda params body => exact swept_lambda params body

/-- The guards that are removed from it are those that are removed from its parts. -/
theorem removals_eq_sum (hg : s.isGuard e = false) :
    s.removals e = (e.parts.map s.removals).sum := by
  show s.removed false e = (e.parts.map (s.removed false)).sum
  cases e with
  | const | param | root | source | foreign => rfl
  | member owner n t => rfl
  | callOn receiver m args t => exact removed_callOn receiver m args t
  | call m args t => exact removed_call m args t
  | unary op operand t => exact removed_unary op operand t
  | binary op left right t => exact removed_binary op left right t
  | cond test ifTrue ifFalse t =>
    rw [removed_cond (guard?_eq_none hg) (by simp), Nat.add_assoc]
    rfl
  | lambda params body => rfl

end Shape

/-- **Outside of guards the pass is a congruence.**  A run of it that meets a node which is no guard
    leaves a node of the same kind, with the same things of its own, around what it leaves of each
    part; a binary operation is typed anew if an operand is another one.  It adds up what is removed
    from the parts, and is ready for the next tree.  So to remove guards from a call, as a composed
    query is one, is to remove them from each argument. -/
theorem Eraser.erase_by_parts {s : Shape} {e : Expr} (hg : s.isGuard e = false) (n : Nat) :
    Eraser.erase { shape := s, removed := n } e
        = (s.erase e, { shape := s, removed := n + (e.parts.map s.removals).sum })
      ∧ (s.erase e).kind = e.kind
      ∧ (s.erase e).head = e.head
      ∧ (s.erase e).parts = e.parts.map s.erase
      ∧ (∀ op left right t, e = .binary op left right t → (s.erase e).ty =
          if s.erase left = left ∧ s.erase right = right then t
          else op.resultTy (s.erase left).ty (s.erase right).ty)
      ∧ ∀ m args t, e = .call m args t → s.erase e = .call m (args.map s.erase) t := by
  have hnode : s.erase e = e.rebuilt s.erase := Shape.erase_eq_rebuilt hg
  refine ⟨?_, ?_, ?_, ?_, ?_, ?_⟩
  · rw [Eraser.erase_outside, Shape.removals_eq_sum hg]
  · rw [hnode, Expr.kind_rebuilt]
  · rw [hnode, Expr.head_rebuilt]
  · rw [hnode, Expr.parts_rebuilt]
  · rintro op left right t rfl
    rw [hnode]
    rfl
  · rintro m args t rfl
    exact hnode

namespace Samples

/-- `p.Name != null`, as a truth value that may be missing. -/
def nameGiven : Expr := .binary .notEqual name (.null .string) (.option .bool)

/-- Two guards side by side, of which the first has nothing in it but a companion check. -/
def guardedPair : Expr := nameGiven.guarded.combine .and flagGuard

end Samples

/-- Of a guard that is dropped as a whole `true` is left, and the type follows the second operand. -/
theorem Eraser.erase_by_parts_guardedPair :
    Shape.both.isGuard Samples.guardedPair = false
      ∧ Samples.guardedPair.ty = .bool
      ∧ (Eraser.erase { shape := .both, removed := 3 } Samples.guardedPair).2.removed = 5
      ∧ (Shape.both.erase Samples.guardedPair).kind = .binary
      ∧ (Shape.both.erase Samples.guardedPair).head = .binary .and
      ∧ (Shape.both.erase Samples.guardedPair).parts = [.trueLiteral, Samples.flag]
      ∧ (Shape.both.erase Samples.guardedPair).ty = .option .bool := by
  have hguard : Shape.both.isGuard Samples.guardedPair = false := by decide
  obtain ⟨hrun, hkind, hhead, hparts, hty, _⟩ := Eraser.erase_by_parts hguard 3
  refine ⟨hguard, rfl, congrArg (·.2.removed) hrun, hkind, hhead, hparts, ?_⟩
  exact hty .and _ _ _ rfl

end GuardErasure
