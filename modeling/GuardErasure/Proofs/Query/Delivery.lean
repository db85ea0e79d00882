import GuardErasure.Query.Batch

namespace GuardErasure

/-!
# Delivery in batches

Rows in memory are delivered batch by batch, and gathered again:

* `Batches.items_ok`, `Batches.items_error` — one more batch in front, row by row;
* `Batches.gather_map_ok`, `Batches.items_map_ok` — batches of which none fails, put together and
  row by row;
* `Cursor.next?_eq_some`, `Cursor.next?_eq_none` — one batch;
* `Cursor.flatten_take` — any number of batches that is enough for the rows that are left;
* `Cursor.gather_batches`, `Cursor.gather_ofRows`, `Cursor.items_ofRows` — all batches are all
  rows, in their order.
-/

namespace Batches

variable {c : Combinators} (hc : c.Lawful)

include hc

/-! ### One more batch in front -/

theorem items_nil : items [] c = [] := by
  rw [items, hc.mapOk_nil, hc.tryFlatten_nil]

theorem items_ok (batch : List Value) (bs : Batches) :
    items (.ok batch :: bs) c = batch.map .ok ++ bs.items c := by
  rw [items, hc.mapOk_ok, hc.tryFlatten_ok, items]

theorem items_error (f : Fault) (bs : Batches) : items (.error f :: bs) c = .error f :: bs.items c := by
  rw [items, hc.mapOk_error, hc.tryFlatten_error, items]

/-! ### Batches of which none fails -/

theorem gather_map_ok (bs : List (List Value)) : gather (bs.map .ok) c = .ok bs.flatten := by
  induction bs with
  | nil => exact hc.tryConcat_nil
  | cons b bs ih =>
    rw [gather] at ih
    rw [List.map_cons, gather, hc.tryConcat_ok, ih]
    rfl

/-- Batches of which none fails, one row after another. -/
theorem items_map_ok (bs : List (List Value)) : items (bs.map .ok) c = bs.flatten.map .ok := by
  induction bs with
  | nil => exact items_nil hc
  | cons b bs ih => rw [List.map_cons, items_ok hc, ih, List.flatten_cons, List.map_append]

end Batches

namespace Cursor

variable {c : Cursor}

/-- The next batch is as large as the cursor says, or as what is left. -/
theorem next?_eq_some (h : c.index < c.rows.length) :
    c.next? = some ((c.rows.drop c.index).take c.size,
      { c with index := min (c.index + c.size) c.rows.length }) := by
  have htake : (c.rows.drop c.index).take (min (c.index + c.size) c.rows.length - c.index)
      = (c.rows.drop c.index).take c.size := by
    rw [List.take_eq_take_iff, List.length_drop]
    omega
  rw [next?, if_pos h]
  simp only [htake]

/-- Behind the last row there is no batch. -/
theorem next?_eq_none (h : c.rows.length ≤ c.index) : c.next? = none := by
  rw [next?, if_neg (Nat.not_lt.mpr h)]

/-- The rows behind the next batch. -/
theorem drop_next (c : Cursor) :
    c.rows.drop (min (c.index + c.size) c.rows.length) = (c.rows.drop c.index).drop c.size := by
  rw [List.drop_drop, List.drop_eq_drop_iff]
  omega

/-- **Enough batches are all the rows that are left.** -/
theorem flatten_take (n : Nat) (c : Cursor) (h : c.rows.length ≤ c.index + n * c.size) :
    (c.take n).flatten = c.rows.drop c.index := by
  induction n generalizing c with
  | zero =>
    rw [Nat.zero_mul, Nat.add_zero] at h
    rw [take, List.flatten_nil, List.drop_eq_nil_of_le h]
  | succ n ih =>
    rw [take]
    by_cases hleft : c.index < c.rows.length
    · -- what is left behind the next batch is enough for one batch less
      have hrest : c.rows.length ≤ min (c.index + c.size) c.rows.length + n * c.size := by
        rw [Nat.succ_mul] at h
        omega
      rw [next?_eq_some hleft, List.flatten_cons, ih _ hrest, drop_next, List.take_append_drop]
    · rw [Nat.not_lt] at hleft
      rw [next?_eq_none hleft, List.flatten_nil, List.drop_eq_nil_of_le hleft]

/-- The batches that are still to come are enough. -/
theorem length_le_remaining (c : Cursor) :
    c.rows.length ≤ c.index + c.remaining * c.size := by
  have hmod := Nat.div_add_mod (c.rows.length - c.index + (c.size - 1)) c.size
  have hlt := Nat.mod_lt (c.rows.length - c.index + (c.size - 1)) c.size_pos
  rw [remaining, Nat.mul_comm]
  omega

section Drained

variable {k : Combinators} (hk : k.Lawful)

include hk

/-- All batches are all rows that are left. -/
theorem gather_batches (c : Cursor) : c.batches.gather k = .ok (c.rows.drop c.index) := by
  rw [batches, Batches.gather_map_ok hk, flatten_take c.remaining c c.length_le_remaining]

/-- **Delivered from the start, all batches are all rows**, however large they are. -/
theorem gather_ofRows (rows : List Value) (size : Nat) :
    (ofRows rows size).batches.gather k = .ok rows := gather_batches hk (ofRows rows size)

/-- Delivered from the start and row by row, they are the rows in their order. -/
theorem items_ofRows (rows : List Value) (size : Nat) :
    (ofRows rows size).batches.items k = rows.map .ok := by
  rw [batches, Batches.items_map_ok hk, flatten_take _ _ (length_le_remaining _)]
  rfl

end Drained

end Cursor

end GuardErasure
