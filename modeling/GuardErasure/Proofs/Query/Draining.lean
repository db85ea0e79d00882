import GuardErasure.Proofs.Eval.Follow
import GuardErasure.Proofs.Query.Delivery

namespace GuardErasure.Batches

/-!
# Draining batches

Batches are drained in three ways: all rows at once, their number, or one row after another.  Whatever the
batches are, and wherever one of them fails, the three tell the same.

* `Batches.exists_split` — batches of which none fails, or some before the first that does;
* `Batches.gather_of_fails`, `Batches.totalFrom_eq`, `Batches.items_append` — each of the drains by
  itself;
* `Batches.drains_agree` — the three of them together.
-/

/-- Batches of which none fails, or the batches before the first one that fails, its fault, and the
    rest. -/
theorem exists_split (bs : Batches) :
    (∃ batches : List (List Value), bs = batches.map .ok)
      ∨ ∃ (before : List (List Value)) (f : Fault) (after : Batches),
        bs = before.map .ok ++ .error f :: after := by
  induction bs with
  | nil => exact .inl ⟨[], rfl⟩
  | cons b bs ih =>
    cases b with
    | error f => exact .inr ⟨[], f, bs, rfl⟩
    | ok batch =>
      rcases ih with ⟨batches, rfl⟩ | ⟨before, f, after, rfl⟩
      · exact .inl ⟨batch :: batches, rfl⟩
      · exact .inr ⟨batch :: before, f, after, rfl⟩

/-! ### Each drain by itself -/

section Drains

variable {c : Combinators} (hc : c.Lawful)

include hc

/-- Up to the first batch that fails. -/
theorem gather_of_fails (before : List (List Value)) (f : Fault) (after : Batches) :
    gather (before.map .ok ++ .error f :: after) c = .error f := by
  induction before with
  | nil => exact hc.tryConcat_error f after
  | cons batch before ih =>
    rw [gather] at ih
    rw [List.map_cons, List.cons_append, gather, hc.tryConcat_ok, ih]
    rfl

/-- The number of rows is counted up batch by batch, and is that of the rows that are gathered. -/
theorem totalFrom_eq (n : Nat) (bs : Batches) :
    totalFrom n bs = (bs.gather c).map fun rows => n + rows.length := by
  induction bs generalizing n with
  | nil =>
    rw [gather, hc.tryConcat_nil]
    rfl
  | cons b bs ih =>
    cases b with
    | error f =>
      rw [gather, hc.tryConcat_error]
      rfl
    | ok batch =>
      show totalFrom (n + batch.length) bs = _
      rw [ih, gather, gather, hc.tryConcat_ok]
      cases c.tryConcat bs with
      | error f => rfl
      | ok more =>
        have hsum : n + batch.length + more.length = n + (batch ++ more).length := by
          rw [List.length_append, Nat.add_assoc]
        exact congrArg Except.ok hsum

theorem total_eq (bs : Batches) : bs.total = (bs.gather c).map List.length := by
  rw [total, totalFrom_eq hc]
  simp only [Nat.zero_add]

/-- The rows of batches in two parts come one part after the other. -/
theorem items_append (as bs : Batches) : items (as ++ bs) c = as.items c ++ bs.items c := by
  induction as with
  | nil => rw [List.nil_append, items_nil hc, List.nil_append]
  | cons a as ih =>
    cases a with
    | ok batch => rw [List.cons_append, items_ok hc, items_ok hc, ih, List.append_assoc]
    | error f => rw [List.cons_append, items_error hc, items_error hc, ih, List.cons_append]

omit hc in
theorem mapM_map_ok (rows : List Value) : (rows.map Except.ok : Delivery Value).mapM id = .ok rows := by
  induction rows with
  | nil => rfl
  | cons v vs ih =>
    rw [List.map_cons, List.mapM_cons, ih]
    rfl

/-- **Row by row**, up to the first fault, one reads what is gathered. -/
theorem mapM_items (bs : Batches) : (bs.items c).mapM id = bs.gather c := by
  rcases exists_split bs with ⟨batches, rfl⟩ | ⟨before, f, after, rfl⟩
  · rw [items_map_ok hc, mapM_map_ok, gather_map_ok hc]
  · rw [items_append hc, items_map_ok hc, items_error hc, List.mapM_append, mapM_map_ok,
      gather_of_fails hc]
    rfl

/-- **The three drains agree**, whatever combinators they are made of, as long as these keep what they
    promise.  The number of rows is that of the rows gathered, and whoever reads row by row until there
    is a fault has gathered them as well.  If no batch fails, what is gathered is all batches put
    together, and these are the rows one by one.  Otherwise all three come to the first fault: there is
    nothing gathered or counted beside it, and row by row it comes right after the rows of the batches
    before it. -/
theorem drains_agree (bs : Batches) :
    bs.total = (bs.gather c).map List.length
      ∧ (bs.items c).mapM id = bs.gather c
      ∧ ((∃ batches : List (List Value), bs = batches.map .ok
          ∧ bs.gather c = .ok batches.flatten
          ∧ bs.total = .ok batches.flatten.length
          ∧ bs.items c = batches.flatten.map .ok)
        ∨ ∃ (before : List (List Value)) (f : Fault) (after : Batches),
          bs = before.map .ok ++ .error f :: after
          ∧ bs.gather c = .error f
          ∧ bs.total = .error f
          ∧ bs.items c = before.flatten.map .ok ++ .error f :: after.items c) := by
  refine ⟨total_eq hc bs, mapM_items hc bs, ?_⟩
  rcases exists_split bs with ⟨batches, rfl⟩ | ⟨before, f, after, rfl⟩
  · refine .inl ⟨batches, rfl, gather_map_ok hc batches, ?_, items_map_ok hc batches⟩
    rw [total_eq hc, gather_map_ok hc]
    rfl
  · refine .inr ⟨before, f, after, rfl, gather_of_fails hc before f after, ?_, ?_⟩
    · rw [total_eq hc, gather_of_fails hc]
      rfl
    · rw [items_append hc, items_map_ok hc, items_error hc]

end Drains

/-- Batches between which there is an empty one, and one that fails before the last. -/
def interrupted : Batches := [.ok [.int64 1], .ok [], .error .noMatch, .ok [.int64 2]]

/-- What comes after the first fault is there row by row only. -/
theorem drains_agree_interrupted :
    Combinators.plain.Lawful
      ∧ interrupted.total = (interrupted.gather .plain).map List.length
      ∧ (interrupted.items .plain).mapM id = interrupted.gather .plain
      ∧ interrupted.gather .plain = .error .noMatch
      ∧ interrupted.items .plain = [.ok (.int64 1), .error .noMatch, .ok (.int64 2)] := by
  obtain ⟨htotal, hrows, -⟩ := drains_agree Combinators.plain_lawful interrupted
  exact ⟨Combinators.plain_lawful, htotal, hrows, rfl, rfl⟩

end GuardErasure.Batches
