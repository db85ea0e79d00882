import Mathlib.Algebra.Order.Floor.Div
import GuardErasure.Proofs.Query.Delivery

namespace GuardErasure

/-!
# Polling a cursor

Whoever reads from a cursor polls it, again and again, and perhaps once more behind the last batch.

* `Cursor.poll`, `Cursor.after` — one poll, and any number of them;
* `Cursor.index_after`, `Cursor.remaining_after` — how far a cursor has got by then, and how many batches
  are still to come;
* `Cursor.poll_after` — the batches that are taken are the answers of the polls;
* `Cursor.InRange` — the sum, the difference and the slice that a poll forms stay within their limits;
* `Cursor.polls_ofRows` — every row comes once, in order, in batches that are full.
-/

namespace Cursor

/-- Ask for a batch.  Behind the last one the answer is none, and the cursor stays where it is. -/
def poll (c : Cursor) : Option (List Value) × Cursor :=
  match c.next? with
  | some (batch, c) => (some batch, c)
  | none => (none, c)

/-- The cursor after a number of polls. -/
def after : Nat → Cursor → Cursor
  | 0, c => c
  | n + 1, c => after n c.poll.2

variable {c : Cursor}

theorem poll_of_lt (h : c.index < c.rows.length) :
    c.poll = (some ((c.rows.drop c.index).take c.size),
      { c with index := min (c.index + c.size) c.rows.length }) := by
  rw [poll, next?_eq_some h]

theorem poll_of_le (h : c.rows.length ≤ c.index) : c.poll = (none, c) := by
  rw [poll, next?_eq_none h]

/-! ### What a poll changes -/

@[simp] theorem rows_poll (c : Cursor) : c.poll.2.rows = c.rows := by
  by_cases h : c.index < c.rows.length
  · rw [poll_of_lt h]
  · rw [poll_of_le (Nat.not_lt.mp h)]

@[simp] theorem size_poll (c : Cursor) : c.poll.2.size = c.size := by
  by_cases h : c.index < c.rows.length
  · rw [poll_of_lt h]
  · rw [poll_of_le (Nat.not_lt.mp h)]

/-- A poll goes on by one batch, but not beyond the last row. -/
theorem index_poll (h : c.index ≤ c.rows.length) :
    c.poll.2.index = min (c.index + c.size) c.rows.length := by
  by_cases hleft : c.index < c.rows.length
  · rw [poll_of_lt hleft]
  · rw [poll_of_le (Nat.not_lt.mp hleft)]
    show c.index = _
    omega

theorem index_poll_le (h : c.index ≤ c.rows.length) : c.poll.2.index ≤ c.poll.2.rows.length := by
  rw [index_poll h, rows_poll]
  exact Nat.min_le_right _ _

/-- As many batches are still to come as it takes for the rows that are left. -/
theorem remaining_eq_ceilDiv (c : Cursor) :
    c.remaining = (c.rows.length - c.index) ⌈/⌉ c.size := by
  have hpos := c.size_pos
  rw [Nat.ceilDiv_eq_add_pred_div, remaining]
  congr 1
  omega

/-- There is one batch less to come, if there was one. -/
theorem remaining_poll (h : c.index ≤ c.rows.length) : c.poll.2.remaining = c.remaining - 1 := by
  have hpos := c.size_pos
  rw [remaining, remaining, index_poll h, rows_poll, size_poll]
  by_cases hleft : c.index < c.rows.length
  · -- all but the first of the rows that are left, and one whole batch
    have hbefore : c.rows.length - c.index + (c.size - 1)
        = c.rows.length - c.index - 1 + c.size := by omega
    rw [hbefore, Nat.add_div_right _ hpos, Nat.succ_sub_one]
    by_cases hmore : c.index + c.size ≤ c.rows.length
    · congr 1
      omega
    · rw [Nat.div_eq_of_lt (by omega), Nat.div_eq_of_lt (by omega)]
  · rw [Nat.div_eq_of_lt (by omega), Nat.div_eq_of_lt (by omega)]

/-! ### Many polls -/

@[simp] theorem rows_after (n : Nat) (c : Cursor) : (c.after n).rows = c.rows := by
  induction n generalizing c with
  | zero => rfl
  | succ n ih => rw [after, ih, rows_poll]

@[simp] theorem size_after (n : Nat) (c : Cursor) : (c.after n).size = c.size := by
  induction n generalizing c with
  | zero => rfl
  | succ n ih => rw [after, ih, size_poll]

/-- **After any number of polls** a cursor is that many batches further on, or behind the last row. -/
theorem index_after (n : Nat) (h : c.index ≤ c.rows.length) :
    (c.after n).index = min (c.index + n * c.size) c.rows.length := by
  induction n generalizing c with
  | zero =>
    rw [after, Nat.zero_mul, Nat.add_zero]
    omega
  | succ n ih =>
    rw [after, ih (index_poll_le h), size_poll, rows_poll, index_poll h, Nat.succ_mul]
    omega

theorem index_after_le (n : Nat) (h : c.index ≤ c.rows.length) :
    (c.after n).index ≤ (c.after n).rows.length := by
  rw [index_after n h, rows_after]
  exact Nat.min_le_right _ _

/-- **How many batches are still to come** goes down by one with every poll, until there are none. -/
theorem remaining_after (n : Nat) (h : c.index ≤ c.rows.length) :
    (c.after n).remaining = c.remaining - n := by
  induction n generalizing c with
  | zero => rfl
  | succ n ih =>
    rw [after, ih (index_poll_le h), remaining_poll h]
    omega

theorem after_of_le (n : Nat) (h : c.rows.length ≤ c.index) : c.after n = c := by
  induction n with
  | zero => rfl
  | succ n ih => rw [after, poll_of_le h, ih]

/-! ### The batches -/

/-- A batch comes just if one is still to come. -/
theorem isSome_poll_iff : c.poll.1.isSome = true ↔ 0 < c.remaining := by
  have hpos := c.size_pos
  rw [remaining, Nat.div_pos_iff]
  by_cases h : c.index < c.rows.length
  · rw [poll_of_lt h]
    exact iff_of_true rfl ⟨hpos, by omega⟩
  · rw [poll_of_le (Nat.not_lt.mp h)]
    exact iff_of_false Bool.false_ne_true (by omega)

/-- The batches that are taken are those that the polls answer with. -/
theorem getElem?_take (m n : Nat) (c : Cursor) :
    (c.take m)[n]? = if n < m then (c.after n).poll.1 else none := by
  induction m generalizing n c with
  | zero => rfl
  | succ m ih =>
    by_cases h : c.index < c.rows.length
    · have hpoll := poll_of_lt h
      rw [take, next?_eq_some h]
      cases n with
      | zero => rw [if_pos (Nat.succ_pos m), after, hpoll, List.getElem?_cons_zero]
      | succ n =>
        rw [List.getElem?_cons_succ, ih, after, hpoll]
        simp only [Nat.succ_lt_succ_iff]
    · rw [Nat.not_lt] at h
      rw [take, next?_eq_none h, after_of_le n h, poll_of_le h, List.getElem?_nil, ite_self]

/-- As many polls as there are batches to come are enough, and each of them has its batch. -/
theorem poll_after (n : Nat) (h : c.index ≤ c.rows.length) :
    (c.after n).poll.1 = (c.take c.remaining)[n]? := by
  rw [getElem?_take]
  by_cases hn : n < c.remaining
  · rw [if_pos hn]
  · have hnone : ¬(c.after n).poll.1.isSome = true := by
      rw [isSome_poll_iff, remaining_after n h]
      omega
    rw [if_neg hn, Option.not_isSome_iff_eq_none.mp hnone]

theorem length_take_remaining (h : c.index ≤ c.rows.length) :
    (c.take c.remaining).length = c.remaining := by
  have hnone (n : Nat) : (c.take c.remaining)[n]? = none ↔ c.remaining ≤ n := by
    rw [← poll_after n h, ← Option.not_isSome_iff_eq_none, isSome_poll_iff, remaining_after n h]
    omega
  exact Nat.le_antisymm (List.getElem?_eq_none_iff.mp ((hnone _).mpr (Nat.le_refl _)))
    ((hnone _).mp (List.getElem?_eq_none_iff.mpr (Nat.le_refl _)))

/-- A batch is as large as the cursor says, or as what is left, and it is not empty. -/
theorem length_of_poll {batch : List Value} (h : c.poll.1 = some batch) :
    0 < batch.length ∧ batch.length = min c.size (c.rows.length - c.index) := by
  have hpos := c.size_pos
  by_cases hleft : c.index < c.rows.length
  · rw [poll_of_lt hleft] at h
    cases h
    rw [List.length_take, List.length_drop]
    omega
  · rw [poll_of_le (Nat.not_lt.mp hleft)] at h
    cases h

/-- Only the last batch can be less than full. -/
theorem length_of_poll_of_remaining {batch : List Value} (h : c.poll.1 = some batch)
    (hmore : 1 < c.remaining) : batch.length = c.size := by
  have htwo : 2 * c.size ≤ c.rows.length - c.index + (c.size - 1) :=
    (Nat.le_div_iff_mul_le c.size_pos).mp hmore
  have hlength := (length_of_poll h).2
  omega

/-! ### Limits -/

/-- What a poll computes stays within its limits, where `limit` is the largest number that there is: the
    rows that are left are never fewer than none, the end of the next batch is computed without going
    beyond the limit, and it cuts a slice out of the rows. -/
structure InRange (limit : Nat) (c : Cursor) : Prop where
  difference : c.index ≤ c.rows.length
  sum : c.index < c.rows.length → c.index + c.size ≤ limit
  slice : c.index ≤ min (c.index + c.size) c.rows.length
    ∧ min (c.index + c.size) c.rows.length ≤ c.rows.length

/-- However large the batches may be, the cursor is still at the start, or a whole batch was among the
    rows, of which there are at most half as many as the limit says. -/
theorem inRange_after {limit : Nat} {rows : List Value} {size : Nat} (hrows : rows.length ≤ limit / 2)
    (hsize : size ≤ limit) (n : Nat) : ((ofRows rows size).after n).InRange limit := by
  have hle := index_after_le (c := ofRows rows size) n (Nat.zero_le _)
  refine ⟨hle, fun hleft => ?_, by omega, Nat.min_le_right _ _⟩
  rw [index_after n (Nat.zero_le _), rows_after] at hleft
  rw [index_after n (Nat.zero_le _), size_after]
  change min (0 + n * max size 1) rows.length < rows.length at hleft
  show min (0 + n * max size 1) rows.length + max size 1 ≤ limit
  cases n with
  | zero => omega
  | succ n =>
    rw [Nat.succ_mul] at hleft ⊢
    omega

/-! ### All rows -/

/-- **Every row comes once, in order, in full batches.**  Polled again and again, a cursor from the start
    of some rows answers with one batch after another, and then with none for ever.  Together the batches
    are the rows; none is empty, and all but the last are of the size that was asked for, where zero
    counts as one; there are as many as it takes for the rows, and before every poll the cursor knows how
    many are still to come.  If the rows are at most half as many as the largest number that there is,
    no poll goes beyond that number, nor below zero, nor outside the rows. -/
theorem polls_ofRows (rows : List Value) (size : Nat) :
    (∃ batches : List (List Value), batches.length = rows.length ⌈/⌉ max size 1
        ∧ batches.flatten = rows
        ∧ (∀ batch ∈ batches, batch ≠ [])
        ∧ (∀ batch ∈ batches.dropLast, batch.length = max size 1)
        ∧ (∀ batch ∈ batches, batch.length ≤ max size 1)
        ∧ (∀ n, ((ofRows rows size).after n).poll.1 = batches[n]?
          ∧ ((ofRows rows size).after n).remaining = batches.length - n)
        ∧ (ofRows rows size).batches = batches.map .ok)
      ∧ ∀ limit, rows.length ≤ limit / 2 → size ≤ limit →
        ∀ n, ((ofRows rows size).after n).InRange limit := by
  have hstart : (ofRows rows size).index ≤ (ofRows rows size).rows.length := Nat.zero_le _
  have hpoll (n : Nat) := poll_after n hstart
  have hremaining (n : Nat) := remaining_after n hstart
  have hlength := length_take_remaining hstart
  refine ⟨⟨(ofRows rows size).take (ofRows rows size).remaining, ?_, ?_, fun batch hbatch => ?_,
    fun batch hbatch => ?_, fun batch hbatch => ?_, fun n => ⟨hpoll n, ?_⟩, rfl⟩, ?_⟩
  · rw [hlength, remaining_eq_ceilDiv]
    rfl
  · exact flatten_take _ _ (length_le_remaining _)
  · obtain ⟨n, hn⟩ := List.mem_iff_getElem?.mp hbatch
    exact List.length_pos_iff.mp (length_of_poll ((hpoll n).trans hn)).1
  · obtain ⟨n, hn⟩ := List.mem_iff_getElem?.mp hbatch
    rw [List.getElem?_dropLast] at hn
    obtain ⟨hlt, hn⟩ := Option.ite_none_right_eq_some.mp hn
    have hfull := length_of_poll_of_remaining ((hpoll n).trans hn) (by
      rw [hremaining]
      omega)
    rw [hfull, size_after]
    rfl
  · obtain ⟨n, hn⟩ := List.mem_iff_getElem?.mp hbatch
    rw [(length_of_poll ((hpoll n).trans hn)).2, size_after]
    exact Nat.min_le_left _ _
  · rw [hremaining, hlength]
  · exact fun limit hrows hsize n => inRange_after hrows hsize n

end Cursor

namespace Samples

/-- Three rows that are numbers. -/
def numbers : List Value := [.int64 1, .int64 2, .int64 3]

end Samples

/-- Three rows come in two batches of two, and in one batch of the largest size that there is.  The next
    poll does not add that size to where the cursor stands by then. -/
theorem Cursor.polls_ofRows_largestSize :
    (∃ batches : List (List Value), batches.length = 2 ∧ batches.flatten = Samples.numbers
        ∧ (∀ batch ∈ batches.dropLast, batch.length = 2)
        ∧ ∀ n, ((ofRows Samples.numbers 2).after n).poll.1 = batches[n]?)
      ∧ Samples.numbers.length ≤ (UInt64.size - 1) / 2
      ∧ ((ofRows Samples.numbers (UInt64.size - 1)).after 1).index = 3
      ∧ ∀ n, ((ofRows Samples.numbers (UInt64.size - 1)).after n).InRange (UInt64.size - 1) := by
  obtain ⟨batches, hlength, hflatten, -, hfull, -, hpoll, -⟩ := (polls_ofRows Samples.numbers 2).1
  have hrows : Samples.numbers.length ≤ (UInt64.size - 1) / 2 := by decide
  exact ⟨⟨batches, hlength, hflatten, hfull, fun n => (hpoll n).1⟩, hrows, rfl,
    (polls_ofRows Samples.numbers (UInt64.size - 1)).2 _ hrows (Nat.le_refl _)⟩

end GuardErasure
