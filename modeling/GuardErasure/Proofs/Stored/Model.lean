import GuardErasure.Proofs.Json.Layer
import GuardErasure.Proofs.Value.Tree
import GuardErasure.Stored.Model

namespace GuardErasure

/-!
# Stored types, values and operators are read back

For each part of expressions there are two statements: what is stored of it can be written, and it is
read back wherever the nesting leaves it levels enough:

* `Ty.ofJson?_toJson`, `Value.ofJson?_toJson`, and the same for operators, member names and methods;
* `Value.ofFields_toList` — fields are in order already, so that reading a record does not move them.
-/

open Json (Writable)

/-! ### Types -/

namespace Ty

theorem writable_toJson (t : Ty) : Writable t.toJson := by
  induction t with
  | bool | int64 | float64 | string | object => exact .str _
  | record name => exact (Writable.str name).variant _
  | seq t ih => exact ih.variant _
  | option t ih => exact ih.variant _

/-- No type is stored as null. -/
theorem toJson_ne_null (t : Ty) : t.toJson ≠ .null := by
  cases t <;> simp [toJson, Json.str, Json.variant]

/-- **A type** is read back. -/
theorem ofJson?_toJson {t : Ty} {levels : Nat} (h : t.toJson.depth < levels) :
    ofJson? levels t.toJson = some t := by
  induction t generalizing levels with
  | bool | int64 | float64 | string | object =>
    obtain ⟨levels, rfl⟩ : ∃ n, levels = n + 1 := ⟨levels - 1, by omega⟩
    rfl
  | record name =>
    obtain ⟨levels, rfl⟩ : ∃ n, levels = n + 1 := ⟨levels - 1, by omega⟩
    rw [toJson, Json.depth_variant] at h
    rw [toJson, ofJson?, Json.alternative?_variant (by omega) (by simp [Json.str])]
    rfl
  | seq t ih =>
    obtain ⟨levels, rfl⟩ : ∃ n, levels = n + 1 := ⟨levels - 1, by omega⟩
    rw [toJson, Json.depth_variant] at h
    rw [toJson, ofJson?, Json.alternative?_variant (by omega) t.toJson_ne_null]
    show (ofJson? levels t.toJson).map seq = _
    rw [ih (by omega)]
    rfl
  | option t ih =>
    obtain ⟨levels, rfl⟩ : ∃ n, levels = n + 1 := ⟨levels - 1, by omega⟩
    rw [toJson, Json.depth_variant] at h
    rw [toJson, ofJson?, Json.alternative?_variant (by omega) t.toJson_ne_null]
    show (ofJson? levels t.toJson).map option = _
    rw [ih (by omega)]
    rfl

end Ty

/-! ### Values -/

namespace Value

/-- A field whose name comes after all others is put behind them. -/
theorem toList_insert_of_lt {bound : Option String} {fields : Fields bound} {name : String}
    (h : ∀ f ∈ fields.toList, f.1 < name) (after : ∀ other ∈ bound, other < name) (v : Value) :
    (fields.insert name after v).toList = fields.toList ++ [(name, v)] := by
  induction fields with
  | nil => rfl
  | cons bound other hother w rest ih =>
    rw [Fields.toList_cons, List.forall_mem_cons] at h
    have hlt : ¬name < other := fun hlt => String.lt_irrefl _ (String.lt_trans h.1 hlt)
    have hne : ¬name = other := fun heq => String.lt_irrefl _ (heq ▸ h.1)
    rw [Fields.insert, dif_neg hlt, dif_neg hne, Fields.toList_cons, ih h.2]
    rfl

/-- The fields of a record, put in their places one by one, are that record. -/
theorem ofFields_toList (fields : Fields none) : ofFields fields.toList = record fields := by
  have hfold : ∀ (rest : List (String × Value)) (acc : Fields none),
      ((acc.toList ++ rest).map Prod.fst).Pairwise (· < ·) →
      (rest.foldl Fields.put acc).toList = acc.toList ++ rest := by
    -- by induction on the fields that are left, behind those that have their places
    intro rest
    induction rest with
    | nil => exact fun acc _ => (List.append_nil _).symm
    | cons f rest ih =>
      intro acc hnames
      have hlast : ∀ g ∈ acc.toList, g.1 < f.1 := by
        rw [List.map_append, List.pairwise_append] at hnames
        exact fun g hg => hnames.2.2 g.1 (List.mem_map_of_mem hg) f.1 (by simp)
      have hput : (acc.put f).toList = acc.toList ++ [f] := toList_insert_of_lt hlast _ f.2
      rw [← List.singleton_append, ← List.append_assoc, ← hput] at hnames ⊢
      rw [List.singleton_append, List.foldl_cons]
      exact ih _ hnames
  exact congrArg record (Fields.toList_inj.mp (hfold fields.toList .nil fields.increasing))

/-! #### Storage -/

theorem fieldsToJson_eq_tagged {bound : Option String} (fields : Fields bound) :
    fieldsToJson fields = Json.tagged (fields.toList.map fun f => (f.1, f.2.toJson)) := by
  induction fields with
  | nil => rfl
  | cons bound name _ v rest ih =>
    rw [fieldsToJson, ih]
    rfl

theorem itemsToJson_eq_map (items : List Value) : itemsToJson items = items.map toJson := by
  induction items with
  | nil => rfl
  | cons v vs ih => rw [itemsToJson, ih, List.map_cons]

/-- No value is stored as null. -/
theorem toJson_ne_null (v : Value) : v.toJson ≠ .null := by
  cases v <;> simp [toJson, Json.str, Json.variant]

theorem writable_toJson (v : Value) : Writable v.toJson := by
  induction v with
  | null => exact .str _
  | bool b => exact (Writable.bool b).variant _
  | int64 i =>
    have hhigh : i.toInt < UInt64.size := Int.lt_trans i.toInt_lt (by decide)
    exact (Writable.int i.minValue_le_toInt hhigh).variant _
  | float64 f =>
    rw [toJson]
    refine Writable.variant ?_ _
    split
    · rename_i hfinite
      exact .real hfinite
    · exact .null
  | string s => exact (Writable.str s).variant _
  | record fields ih =>
    rw [toJson, fieldsToJson_eq_tagged]
    refine (Writable.tagged fun m hm => ?_).variant _
    obtain ⟨f, hf, rfl⟩ := List.mem_map.mp hm
    exact ih f hf
  | list items ih =>
    rw [toJson, itemsToJson_eq_map]
    exact (Writable.array_map ih).variant _

/-- **A value** whose floats are finite is read back. -/
theorem ofJson?_toJson {v : Value} (hfinite : ∀ f ∈ v.floats, f.isFinite = true) {levels : Nat}
    (h : v.toJson.depth < levels) : ofJson? levels v.toJson = some v := by
  induction v generalizing levels with
  | null =>
    obtain ⟨levels, rfl⟩ : ∃ n, levels = n + 1 := ⟨levels - 1, by omega⟩
    rfl
  | bool b =>
    obtain ⟨levels, rfl⟩ : ∃ n, levels = n + 1 := ⟨levels - 1, by omega⟩
    rw [toJson, Json.depth_variant] at h
    rw [toJson, ofJson?, Json.alternative?_variant (by omega) (by simp)]
    rfl
  | int64 i =>
    obtain ⟨levels, rfl⟩ : ∃ n, levels = n + 1 := ⟨levels - 1, by omega⟩
    have hint : (Json.int i.toInt).int64? = some i := by
      rw [Json.int64?, if_pos ⟨i.minValue_le_toInt, i.toInt_le⟩, Int64.ofInt_toInt]
    rw [toJson, Json.depth_variant] at h
    rw [toJson, ofJson?, Json.alternative?_variant (by omega) (by simp)]
    show (Json.int i.toInt).int64?.map int64 = _
    rw [hint]
    rfl
  | float64 f =>
    obtain ⟨levels, rfl⟩ : ∃ n, levels = n + 1 := ⟨levels - 1, by omega⟩
    have hf : f.isFinite = true := hfinite f (by rw [floats_float64]; exact List.mem_singleton_self f)
    have hreal : (Json.real f).float? = some f := if_pos hf
    rw [toJson, if_pos hf, Json.depth_variant] at h
    rw [toJson, if_pos hf, ofJson?, Json.alternative?_variant (by omega) (by simp)]
    show (Json.real f).float?.map float64 = _
    rw [hreal]
    rfl
  | string s =>
    obtain ⟨levels, rfl⟩ : ∃ n, levels = n + 1 := ⟨levels - 1, by omega⟩
    rw [toJson, Json.depth_variant] at h
    rw [toJson, ofJson?, Json.alternative?_variant (by omega) (by simp [Json.str])]
    rfl
  | record fields ih =>
    rw [toJson, fieldsToJson_eq_tagged] at h ⊢
    rw [Json.depth_variant, Json.depth_object] at h
    rw [floats_record, List.forall_mem_flatMap] at hfinite
    obtain ⟨levels, rfl⟩ : ∃ n, levels = n + 3 := ⟨levels - 3, by omega⟩
    have hfields : (Json.tagged (fields.toList.map fun f => (f.1, f.2.toJson))).mapM
        (fun m : Option String × Json => do return (← m.1, ← ofJson? (levels + 1) m.2))
          = some (fields.toList.map id) := by
      rw [Json.tagged, List.map_map]
      refine Json.mapM_map_eq_some fun f hf => ?_
      have hmem : (f.1, f.2.toJson) ∈ fields.toList.map fun f => (f.1, f.2.toJson) :=
        List.mem_map_of_mem hf
      have hdepth : f.2.toJson.depth ≤ Json.depthOfMembers
        (Json.tagged (fields.toList.map fun f => (f.1, f.2.toJson))) := Json.depth_le_of_tagged hmem
      have hread : ofJson? (levels + 1) f.2.toJson = some f.2 :=
        ih f hf (hfinite f hf) (by omega)
      simp [hread]
    rw [ofJson?, Json.alternative?_variant (by omega) (by simp)]
    show Option.map ofFields _ = _
    rw [hfields, List.map_id, Option.map_some, ofFields_toList]
  | list items ih =>
    rw [toJson, itemsToJson_eq_map] at h ⊢
    rw [Json.depth_variant, Json.depth_array] at h
    rw [floats_list, List.forall_mem_flatMap] at hfinite
    obtain ⟨levels, rfl⟩ : ∃ n, levels = n + 3 := ⟨levels - 3, by omega⟩
    have hitems : (items.map toJson).mapM (ofJson? (levels + 1)) = some (items.map id) := by
      refine Json.mapM_map_eq_some fun v hv => ih v hv (hfinite v hv) ?_
      have hdepth : v.toJson.depth ≤ _ := Json.depth_le_of_mem (List.mem_map_of_mem hv)
      omega
    rw [ofJson?, Json.alternative?_variant (by omega) (by simp)]
    show Option.map list _ = _
    rw [hitems, List.map_id]
    rfl

end Value

/-! ### Operators and names -/

/-- **A unary operator** is read back from its name. -/
theorem UnOp.ofJson?_toJson (op : UnOp) (levels : Nat) : ofJson? levels op.toJson = some op := by
  cases op <;> rfl

/-- **A binary operator** is read back from its name. -/
theorem BinOp.ofJson?_toJson (op : BinOp) (levels : Nat) : ofJson? levels op.toJson = some op := by
  cases op <;> rfl

namespace MemberName

theorem writable_toJson (n : MemberName) : Writable n.toJson := by
  cases n with
  | named name => exact (Writable.str name).variant _
  | wrappedValue | hasValue => exact .str _

/-- **A member name** is read back, also where a member is named like one of the two others. -/
theorem ofJson?_toJson {n : MemberName} {levels : Nat} (h : n.toJson.depth < levels) :
    ofJson? levels n.toJson = some n := by
  cases n with
  | named name =>
    rw [toJson, Json.depth_variant] at h
    rw [toJson, ofJson?, Json.alternative?_variant (by omega) (by simp [Json.str])]
    rfl
  | wrappedValue | hasValue => rfl

end MemberName

namespace Method

theorem writable_toJson (m : Method) : Writable m.toJson := by
  refine Writable.tagged fun f hf => ?_
  simp only [List.mem_cons, List.not_mem_nil, or_false] at hf
  rcases hf with rfl | rfl
  · exact .str _
  · exact .bool _

/-- **A method** is read back. -/
theorem ofJson?_toJson {m : Method} {levels : Nat} (h : m.toJson.depth < levels) :
    ofJson? levels m.toJson = some m := by
  have hdepth : m.toJson.depth = 1 := by
    simp [toJson, Json.depth_record, Json.tagged, Json.depthOfMembers, Json.depth, Json.depth_str]
  have hfields : m.toJson.fields? ["name", "is_static"]
      = some [some (.str m.name), some (.bool m.isStatic)] :=
    Json.fields?_record [("name", .str m.name), ("is_static", .bool m.isStatic)]
      (show ["name", "is_static"].Nodup by decide)
  rw [ofJson?, if_neg (by omega), hfields]
  rfl

end Method

end GuardErasure
