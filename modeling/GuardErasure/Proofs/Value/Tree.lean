import GuardErasure.Value

namespace GuardErasure

/-!
# Trees of values

Records and lists hold values, so the induction that `Value` comes with speaks of fields and of lists
of items as well.  This module packs it up as one principle for single values:

* `Fields.toList` — fields as a list of names and values, which says all about them (`Fields.toList_inj`)
  and is increasing in its names (`Fields.increasing`);
* `Value.induct` — what holds of a value as soon as it holds of the values in it holds of every
  value;
* `Value.floats` — the floats in a value, with one equation for each kind of value that has some;
* `Value.beq_self_iff` — a value equals itself exactly if no float in it is a NaN.
-/

/-- Only a NaN differs from itself. -/
theorem float_beq_self_iff (f : Float) : (f == f) = true ↔ f.isNaN = false := by
  show f.toModel.unpack.beq f.toModel.unpack = true ↔ f.toModel.unpack.isNaN = false
  cases f.toModel.unpack with
  | notANumber => decide
  | infinity s => cases s <;> decide
  | zero s => cases s <;> decide
  | finite s m e hm =>
    have hself : (compare e e).then (compare m m) = .eq := by simp
    refine iff_of_true ?_ rfl
    cases s with
    | negative =>
      show (some ((compare e e).then (compare m m)).swap == some .eq) = true
      rw [hself]
      rfl
    | positive =>
      show (some ((compare e e).then (compare m m)) == some .eq) = true
      rw [hself]
      rfl

/-! ### Fields -/

namespace Fields

variable {bound : Option String}

@[simp]
theorem toList_nil : (nil : Fields bound).toList = [] := rfl

@[simp]
theorem toList_cons (name : String) (after : ∀ other ∈ bound, other < name) (v : Value)
    (rest : Fields (some name)) :
    (cons name after v rest).toList = (name, v) :: rest.toList := rfl

/-- **Induction over fields** alone, whatever values are in them. -/
@[elab_as_elim, induction_eliminator]
theorem induct {P : ∀ bound : Option String, Fields bound → Prop} (nil : ∀ bound, P bound .nil)
    (cons : ∀ (bound : Option String) (name : String) (after : ∀ other ∈ bound, other < name)
      (v : Value) (rest : Fields (some name)), P (some name) rest → P bound (.cons name after v rest)) :
    ∀ {bound : Option String} (fields : Fields bound), P bound fields
  | bound, .nil => nil bound
  | bound, .cons name after v rest => cons bound name after v rest (induct nil cons rest)

/-- Fields are told by their names and values. -/
theorem toList_inj {as bs : Fields bound} : as.toList = bs.toList ↔ as = bs := by
  refine ⟨fun h => ?_, congrArg toList⟩
  induction as with
  | nil bound =>
    cases bs with
    | nil => rfl
    | cons => cases h
  | cons bound m _ v as ih =>
    cases bs with
    | nil => cases h
    | cons n _ w bs =>
      rw [toList_cons, toList_cons, List.cons.injEq, Prod.mk.injEq] at h
      obtain ⟨⟨rfl, rfl⟩, hrest⟩ := h
      rw [ih hrest]

/-- Every field comes after the bound. -/
theorem lt_of_mem (fields : Fields bound) {other : String} (h : other ∈ bound) {f : String × Value}
    (hf : f ∈ fields.toList) : other < f.1 := by
  induction fields generalizing other with
  | nil bound => cases hf
  | cons bound name after v rest ih =>
    rcases List.mem_cons.mp hf with rfl | hf
    · exact after other h
    · exact String.lt_trans (after other h) (ih rfl hf)

/-- **Names increase strictly**, as the type of fields says. -/
theorem increasing (fields : Fields bound) : (fields.toList.map Prod.fst).Pairwise (· < ·) := by
  induction fields with
  | nil => exact .nil
  | cons bound name after v rest ih =>
    refine .cons (fun other h => ?_) ih
    obtain ⟨f, hf, rfl⟩ := List.mem_map.mp h
    exact rest.lt_of_mem rfl hf

end Fields

namespace Value

/-- **Induction over a value.**  The hypotheses for a record and for a list are about every value in
    them. -/
@[elab_as_elim, induction_eliminator]
theorem induct {P : Value → Prop} (null : P null) (bool : ∀ b, P (bool b))
    (int64 : ∀ i, P (int64 i)) (float64 : ∀ f, P (float64 f)) (string : ∀ s, P (string s))
    (record : ∀ fields, (∀ f ∈ fields.toList, P f.2) → P (record fields))
    (list : ∀ items, (∀ v ∈ items, P v) → P (list items)) (v : Value) : P v := by
  refine @Value.rec P (fun _ fields => ∀ f ∈ fields.toList, P f.2) (fun items => ∀ v ∈ items, P v)
    null bool int64 float64 string record list ?_ ?_ ?_ ?_ v
  · intro _ f hf
    exact absurd hf (by simp [Fields.toList_nil])
  · intro _ name _ v rest ihv ihrest f hf
    rcases List.mem_cons.mp hf with rfl | hf
    · exact ihv
    · exact ihrest f hf
  · intro v hv
    exact absurd hv (by simp)
  · intro v vs ihv ihvs w hw
    rcases List.mem_cons.mp hw with rfl | hw
    · exact ihv
    · exact ihvs w hw

/-! ### Floats -/

mutual

/-- The floats in a value, in the order in which they are written. -/
def floats : Value → List Float
  | float64 f => [f]
  | record fields => floatsOfFields fields
  | list items => floatsOfItems items
  | null | bool _ | int64 _ | string _ => []

/-- The floats in the fields of a record. -/
def floatsOfFields {bound : Option String} : Fields bound → List Float
  | .nil => []
  | .cons _ _ v rest => floats v ++ floatsOfFields rest

/-- The floats in the elements of a list. -/
def floatsOfItems : List Value → List Float
  | [] => []
  | v :: rest => floats v ++ floatsOfItems rest

end

theorem floats_float64 (f : Float) : (float64 f).floats = [f] := rfl

theorem floatsOfFields_eq {bound : Option String} (fields : Fields bound) :
    floatsOfFields fields = fields.toList.flatMap (·.2.floats) := by
  induction fields with
  | nil => rfl
  | cons _ name _ v rest ih => rw [floatsOfFields, ih, Fields.toList_cons, List.flatMap_cons]

theorem floats_record (fields : Fields none) :
    (record fields).floats = fields.toList.flatMap (·.2.floats) := floatsOfFields_eq fields

theorem floats_list (items : List Value) : (list items).floats = items.flatMap floats := by
  show floatsOfItems items = _
  induction items with
  | nil => rfl
  | cons v vs ih => rw [floatsOfItems, ih, List.flatMap_cons]

/-! ### Equality with itself -/

theorem sameFields_self_iff {bound : Option String} (fields : Fields bound) :
    sameFields fields fields = true ↔ ∀ f ∈ fields.toList, (f.2 == f.2) = true := by
  induction fields with
  | nil => simp [sameFields]
  | cons _ name _ v rest ih =>
    rw [sameFields, beq_self_eq_true, Bool.true_and, Bool.and_eq_true, ih, Fields.toList_cons,
      List.forall_mem_cons]
    rfl

theorem sameItems_self_iff (items : List Value) :
    sameItems items items = true ↔ ∀ v ∈ items, (v == v) = true := by
  induction items with
  | nil => simp [sameItems]
  | cons v vs ih =>
    rw [sameItems, Bool.and_eq_true, ih, List.forall_mem_cons]
    rfl

/-- **A value equals itself** exactly if no float in it is a NaN. -/
theorem beq_self_iff (v : Value) : (v == v) = true ↔ ∀ f ∈ v.floats, f.isNaN = false := by
  induction v with
  | null => exact iff_of_true rfl (List.forall_mem_nil _)
  | bool b => exact iff_of_true (beq_self_eq_true b) (List.forall_mem_nil _)
  | int64 i => exact iff_of_true (beq_self_eq_true i) (List.forall_mem_nil _)
  | string s => exact iff_of_true (beq_self_eq_true s) (List.forall_mem_nil _)
  | float64 f =>
    rw [floats_float64, List.forall_mem_singleton]
    exact float_beq_self_iff f
  | record fields ih =>
    rw [floats_record, List.forall_mem_flatMap]
    exact (sameFields_self_iff fields).trans (forall₂_congr ih)
  | list items ih =>
    rw [floats_list, List.forall_mem_flatMap]
    exact (sameItems_self_iff items).trans (forall₂_congr ih)

end Value

end GuardErasure
