import GuardErasure.Proofs.Expr.Same
import GuardErasure.Proofs.Stored.Model
import GuardErasure.Stored.Expr

namespace GuardErasure.Expr

open Json (Writable)

/-!
# Stored expressions are read back

A node is stored as an alternative whose contents are a structure, and it is read in two steps: first
the structure's fields, then what stands in them.

* `literals` — the values of the constants in a tree, which are all that a document may lose;
* `ofJson?_node` — the first step, the same for every kind of node, and `lt_of_field` — what it costs;
* `writable_toJson`, `ofJson?_toJson` — a tree can be written, and one whose floats are finite is read
  back wherever the nesting leaves it levels enough.
-/

/-! ### Literals -/

/-- The values of the constants in a tree, in the order of its nodes. -/
def literals (e : Expr) : List Value := e.nodes.filterMap literal?

theorem mem_literals_const (v : Value) (t : Ty) : v ∈ (const v t).literals :=
  List.mem_filterMap.mpr ⟨const v t, by simp [nodes], rfl⟩

theorem mem_literals_of_part {e part : Expr} (hpart : part ∈ e.parts) {v : Value}
    (hv : v ∈ part.literals) : v ∈ e.literals := by
  obtain ⟨n, hn, hliteral⟩ := List.mem_filterMap.mp hv
  exact List.mem_filterMap.mpr ⟨n, mem_nodes_of_part hpart hn, hliteral⟩

/-- The floats of a literal are floats of the tree. -/
theorem mem_floats_of_literal {e : Expr} {v : Value} (hv : v ∈ e.literals) {f : Float}
    (hf : f ∈ v.floats) : f ∈ e.floats := by
  obtain ⟨n, hn, hliteral⟩ := List.mem_filterMap.mp hv
  have hleaf : n.isLeaf = true := by
    cases n with
    | const => rfl
    | _ => cases hliteral
  refine List.mem_flatMap.mpr ⟨n, List.mem_filter.mpr ⟨hn, hleaf⟩, ?_⟩
  rw [hliteral]
  exact hf

/-! ### Reading a node -/

theorem argsToJson_eq_map (args : List Expr) : argsToJson args = args.map toJson := by
  induction args with
  | nil => rfl
  | cons a as ih => rw [argsToJson, ih, List.map_cons]

/-- No expression is stored as null. -/
theorem toJson_ne_null (e : Expr) : e.toJson ≠ .null := by
  cases e <;> simp [toJson, Json.variant]

theorem fieldNames_nodup (kind : String) : (fieldNames kind).Nodup := by
  unfold fieldNames
  split <;> decide

/-- A reader opens the alternative and the structure in it, and reads the fields of the latter. -/
theorem ofJson?_add_two (listed : Bool) (levels : Nat) (j : Json) :
    ofJson? listed (levels + 2) j = (do
      let (kind, contents) ← j.alternative? (levels + 1)
      let contents ← contents
      let fields ←
        if listed then contents.fields? (fieldNames kind)
        else contents.namedFields? (fieldNames kind)
      ofFields? levels (ofJson? listed levels) (ofJson? listed (levels - 1)) kind fields) := by
  cases levels with
  | zero => rfl
  | succ levels => rfl

/-- **A node is read from its fields**, whether or not these might be listed. -/
theorem ofJson?_node (listed : Bool) (levels : Nat) {kind : String}
    {members : List (String × Json)} (hmembers : members.map Prod.fst = fieldNames kind) :
    ofJson? listed (levels + 2) (.variant kind (.record members))
      = ofFields? levels (ofJson? listed levels) (ofJson? listed (levels - 1)) kind
          (members.map fun m => some m.2) := by
  have hnull : Json.record members ≠ .null := nofun
  have hnames : (members.map Prod.fst).Nodup := hmembers ▸ fieldNames_nodup kind
  have hlisted : (Json.record members).fields? (fieldNames kind)
      = some (members.map fun m => some m.2) := by
    rw [← hmembers, Json.fields?_record members hnames]
  have hnamed : (Json.record members).namedFields? (fieldNames kind)
      = some (members.map fun m => some m.2) := by
    rw [← hmembers, Json.namedFields?_record members hnames]
  rw [ofJson?_add_two, Json.alternative?_variant (Nat.succ_ne_zero levels) hnull]
  simp only [Option.bind_eq_bind, Option.bind_some, hlisted, hnamed, ite_self]

theorem depth_node (kind : String) (members : List (String × Json)) :
    (Json.variant kind (.record members)).depth
      = Json.depthOfMembers (Json.tagged members) + 2 := by
  rw [Json.depth_variant, Json.depth_record]

/-- The levels of a reader of a node include the two of the node itself. -/
theorem exists_levels {e : Expr} {levels : Nat} (h : e.toJson.depth < levels) :
    ∃ inside, levels = inside + 2 := by
  have hnode : 2 ≤ e.toJson.depth := by
    cases e <;> rw [toJson, depth_node] <;> exact Nat.le_add_left _ _
  exact ⟨levels - 2, by omega⟩

/-- A node leaves the reader of a field the levels that the field needs. -/
theorem lt_of_field (name : String) {c : Json} {kind : String} {members : List (String × Json)}
    {levels : Nat} (h : (Json.variant kind (.record members)).depth < levels + 2)
    (hm : (name, c) ∈ members) : c.depth < levels := by
  have hfield : c.depth ≤ Json.depthOfMembers (Json.tagged members) := Json.depth_le_of_tagged hm
  rw [depth_node] at h
  omega

/-! ### Writing -/

/-- A node can be written if its fields can. -/
theorem writable_node {kind : String} {members : List (String × Json)}
    (h : ∀ m ∈ members, Writable m.2) : Writable (.variant kind (.record members)) :=
  (Writable.tagged h).variant kind

theorem writable_args {args : List Expr} (h : ∀ a ∈ args, Writable a.toJson) :
    Writable (.array (argsToJson args)) :=
  argsToJson_eq_map args ▸ Writable.array_map h

/-- **An expression** can be written. -/
theorem writable_toJson (e : Expr) : Writable e.toJson := by
  induction e with
  | const v t =>
    refine writable_node ?_
    simp [v.writable_toJson, t.writable_toJson]
  | param name t =>
    refine writable_node ?_
    simp [Writable.str, t.writable_toJson]
  | member owner name t ih =>
    refine writable_node ?_
    simp [ih, name.writable_toJson, t.writable_toJson]
  | callOn receiver m args t ihr ih =>
    refine writable_node ?_
    simp [ihr, m.writable_toJson, writable_args ih, t.writable_toJson]
  | call m args t ih =>
    refine writable_node ?_
    simp [Writable.null, m.writable_toJson, writable_args ih, t.writable_toJson]
  | unary op operand t ih =>
    refine writable_node ?_
    simp [UnOp.toJson, Writable.str, ih, t.writable_toJson]
  | binary op left right t ihl ihr =>
    refine writable_node ?_
    simp [BinOp.toJson, Writable.str, ihl, ihr, t.writable_toJson]
  | cond test ifTrue ifFalse t iha ihb ihc =>
    refine writable_node ?_
    simp [iha, ihb, ihc, t.writable_toJson]
  | lambda params body ih =>
    have hparams : Writable (.array (params.map .str)) := .array_map fun p _ => .str p
    refine writable_node ?_
    simp [hparams, ih]
  | root element =>
    refine writable_node ?_
    simp [element.writable_toJson]
  | source name element =>
    refine writable_node ?_
    simp [Writable.str, element.writable_toJson]
  | foreign label t =>
    refine writable_node ?_
    simp [Writable.str, t.writable_toJson]

/-! ### Reading -/

/-- Whoever reads a list has two levels for it. -/
theorem not_levels_le_one {items : List Json} {levels : Nat}
    (h : (Json.array items).depth < levels) : ¬levels ≤ 1 := by
  rw [Json.depth_array] at h
  omega

/-- Any receiver but null is one. -/
theorem ofFields?_callOn {r : Json} (hr : r ≠ .null) (levels : Nat)
    (read readItem : Json → Option Expr) (m as t : Json) :
    ofFields? levels read readItem "Call" [some r, some m, some as, some t]
      = (do
          let m ← Method.ofJson? levels m
          let t ← Ty.ofJson? levels t
          if levels ≤ 1 then none
          else
            let as ← (← as.array?).mapM readItem
            return callOn (← read r) m as t) := by
  cases r with
  | null => exact absurd rfl hr
  | _ => rfl

/-- Every literal of the tree is read back. -/
def LiteralsRead (e : Expr) : Prop :=
  ∀ v ∈ e.literals, ∀ levels, v.toJson.depth < levels → Value.ofJson? levels v.toJson = some v

theorem LiteralsRead.part {e part : Expr} (h : LiteralsRead e) (hpart : part ∈ e.parts) :
    LiteralsRead part :=
  fun v hv => h v (mem_literals_of_part hpart hv)

/-- Arguments are read one level deeper than the node that they belong to. -/
theorem mapM_args {listed : Bool} {args : List Expr} {levels : Nat}
    (hargs : ∀ a ∈ args, ∀ n, a.toJson.depth < n → ofJson? listed n a.toJson = some a)
    (h : (Json.array (argsToJson args)).depth < levels) :
    (argsToJson args).mapM (ofJson? listed (levels - 1)) = some args := by
  rw [argsToJson_eq_map] at h ⊢
  rw [Json.depth_array] at h
  have hitems : (args.map toJson).mapM (ofJson? listed (levels - 1)) = some (args.map id) := by
    refine Json.mapM_map_eq_some fun a ha => hargs a ha _ ?_
    have hdepth : a.toJson.depth ≤ _ := Json.depth_le_of_mem (List.mem_map_of_mem ha)
    omega
  rw [hitems, List.map_id]

/-- **An expression** whose floats are finite is read back. -/
theorem ofJson?_toJson {listed : Bool} {e : Expr} (hfinite : ∀ f ∈ e.floats, f.isFinite = true)
    {levels : Nat} (h : e.toJson.depth < levels) : ofJson? listed levels e.toJson = some e := by
  have hread : LiteralsRead e := fun v hv _ hn =>
    Value.ofJson?_toJson (fun f hf => hfinite f (mem_floats_of_literal hv hf)) hn
  -- the tree itself asks nothing else of its literals
  clear hfinite
  induction e generalizing levels with
  | const v t =>
    obtain ⟨levels, rfl⟩ := exists_levels h
    rw [toJson] at h ⊢
    have hv := hread v (mem_literals_const v t) levels (lt_of_field "value" h (by simp))
    have ht := Ty.ofJson?_toJson (t := t) (lt_of_field "ty" h (by simp))
    rw [ofJson?_node listed levels rfl]
    show (do return const (← Value.ofJson? levels v.toJson) (← Ty.ofJson? levels t.toJson)) = _
    rw [hv, ht]
    rfl
  | param name t =>
    obtain ⟨levels, rfl⟩ := exists_levels h
    rw [toJson] at h ⊢
    have ht := Ty.ofJson?_toJson (t := t) (lt_of_field "ty" h (by simp))
    rw [ofJson?_node listed levels rfl]
    show (do return param name (← Ty.ofJson? levels t.toJson)) = _
    rw [ht]
    rfl
  | member owner name t ih =>
    obtain ⟨levels, rfl⟩ := exists_levels h
    rw [toJson] at h ⊢
    have howner := ih (lt_of_field "owner" h (by simp)) (hread.part (by simp [parts]))
    have hname := MemberName.ofJson?_toJson (n := name) (lt_of_field "member" h (by simp))
    have ht := Ty.ofJson?_toJson (t := t) (lt_of_field "ty" h (by simp))
    rw [ofJson?_node listed levels rfl]
    show (do
      return member (← ofJson? listed levels owner.toJson)
        (← MemberName.ofJson? levels name.toJson) (← Ty.ofJson? levels t.toJson)) = _
    rw [howner, hname, ht]
    rfl
  | callOn receiver m args t ihr ih =>
    obtain ⟨levels, rfl⟩ := exists_levels h
    rw [toJson] at h ⊢
    have hreceiver := ihr (lt_of_field "receiver" h (by simp)) (hread.part (by simp [parts]))
    have hm := Method.ofJson?_toJson (m := m) (lt_of_field "method" h (by simp))
    have hdepth := lt_of_field (c := .array (argsToJson args)) "args" h (by simp)
    have hargs : (argsToJson args).mapM (ofJson? listed (levels - 1)) = some args :=
      mapM_args (fun a ha n hn => ih a ha hn (hread.part (by simp [parts, ha]))) hdepth
    have ht := Ty.ofJson?_toJson (t := t) (lt_of_field "ty" h (by simp))
    have hlevels : ¬levels ≤ 1 := not_levels_le_one hdepth
    rw [ofJson?_node listed levels rfl]
    show ofFields? levels _ _ "Call" [some receiver.toJson, some m.toJson,
      some (.array (argsToJson args)), some t.toJson] = _
    rw [ofFields?_callOn receiver.toJson_ne_null, hm, ht]
    show (if levels ≤ 1 then none
      else do
        let as ← (argsToJson args).mapM (ofJson? listed (levels - 1))
        return callOn (← ofJson? listed levels receiver.toJson) m as t) = _
    rw [if_neg hlevels, hargs, hreceiver]
    rfl
  | call m args t ih =>
    obtain ⟨levels, rfl⟩ := exists_levels h
    rw [toJson] at h ⊢
    have hm := Method.ofJson?_toJson (m := m) (lt_of_field "method" h (by simp))
    have hdepth := lt_of_field (c := .array (argsToJson args)) "args" h (by simp)
    have hargs : (argsToJson args).mapM (ofJson? listed (levels - 1)) = some args :=
      mapM_args (fun a ha n hn => ih a ha hn (hread.part (by simp [parts, ha]))) hdepth
    have ht := Ty.ofJson?_toJson (t := t) (lt_of_field "ty" h (by simp))
    have hlevels : ¬levels ≤ 1 := not_levels_le_one hdepth
    rw [ofJson?_node listed levels rfl]
    show (do
      let m ← Method.ofJson? levels m.toJson
      let t ← Ty.ofJson? levels t.toJson
      if levels ≤ 1 then none
      else return call m (← (argsToJson args).mapM (ofJson? listed (levels - 1))) t) = _
    rw [hm, ht, hargs]
    exact if_neg hlevels
  | unary op operand t ih =>
    obtain ⟨levels, rfl⟩ := exists_levels h
    rw [toJson] at h ⊢
    have hop := op.ofJson?_toJson levels
    have hoperand := ih (lt_of_field "operand" h (by simp)) (hread.part (by simp [parts]))
    have ht := Ty.ofJson?_toJson (t := t) (lt_of_field "ty" h (by simp))
    rw [ofJson?_node listed levels rfl]
    show (do
      return unary (← UnOp.ofJson? levels op.toJson) (← ofJson? listed levels operand.toJson)
        (← Ty.ofJson? levels t.toJson)) = _
    rw [hop, hoperand, ht]
    rfl
  | binary op left right t ihl ihr =>
    obtain ⟨levels, rfl⟩ := exists_levels h
    rw [toJson] at h ⊢
    have hop := op.ofJson?_toJson levels
    have hleft := ihl (lt_of_field "left" h (by simp)) (hread.part (by simp [parts]))
    have hright := ihr (lt_of_field "right" h (by simp)) (hread.part (by simp [parts]))
    have ht := Ty.ofJson?_toJson (t := t) (lt_of_field "ty" h (by simp))
    rw [ofJson?_node listed levels rfl]
    show (do
      return binary (← BinOp.ofJson? levels op.toJson) (← ofJson? listed levels left.toJson)
        (← ofJson? listed levels right.toJson) (← Ty.ofJson? levels t.toJson)) = _
    rw [hop, hleft, hright, ht]
    rfl
  | cond test ifTrue ifFalse t iha ihb ihc =>
    obtain ⟨levels, rfl⟩ := exists_levels h
    rw [toJson] at h ⊢
    have htest := iha (lt_of_field "test" h (by simp)) (hread.part (by simp [parts]))
    have htrue := ihb (lt_of_field "if_true" h (by simp)) (hread.part (by simp [parts]))
    have hfalse := ihc (lt_of_field "if_false" h (by simp)) (hread.part (by simp [parts]))
    have ht := Ty.ofJson?_toJson (t := t) (lt_of_field "ty" h (by simp))
    rw [ofJson?_node listed levels rfl]
    show (do
      return cond (← ofJson? listed levels test.toJson) (← ofJson? listed levels ifTrue.toJson)
        (← ofJson? listed levels ifFalse.toJson) (← Ty.ofJson? levels t.toJson)) = _
    rw [htest, htrue, hfalse, ht]
    rfl
  | lambda params body ih =>
    obtain ⟨levels, rfl⟩ := exists_levels h
    rw [toJson] at h ⊢
    have hparams : (params.map Json.str).mapM Json.string? = some (params.map id) :=
      Json.mapM_map_eq_some fun p _ => rfl
    have hbody := ih (lt_of_field "body" h (by simp)) (hread.part (by simp [parts]))
    have hdepth := lt_of_field (c := .array (params.map .str)) "params" h (by simp)
    have hlevels : ¬levels ≤ 1 := not_levels_le_one hdepth
    rw [ofJson?_node listed levels rfl]
    show (if levels ≤ 1 then none
      else do
        return lambda (← (params.map Json.str).mapM Json.string?)
          (← ofJson? listed levels body.toJson)) = _
    rw [if_neg hlevels, hparams, hbody, List.map_id]
    rfl
  | root element =>
    obtain ⟨levels, rfl⟩ := exists_levels h
    rw [toJson] at h ⊢
    have helement := Ty.ofJson?_toJson (t := element) (lt_of_field "element" h (by simp))
    rw [ofJson?_node listed levels rfl]
    show (do return root (← Ty.ofJson? levels element.toJson)) = _
    rw [helement]
    rfl
  | source name element =>
    obtain ⟨levels, rfl⟩ := exists_levels h
    rw [toJson] at h ⊢
    have helement := Ty.ofJson?_toJson (t := element) (lt_of_field "element" h (by simp))
    rw [ofJson?_node listed levels rfl]
    show (do return source name (← Ty.ofJson? levels element.toJson)) = _
    rw [helement]
    rfl
  | foreign label t =>
    obtain ⟨levels, rfl⟩ := exists_levels h
    rw [toJson] at h ⊢
    have ht := Ty.ofJson?_toJson (t := t) (lt_of_field "ty" h (by simp))
    rw [ofJson?_node listed levels rfl]
    show (do return foreign label (← Ty.ofJson? levels t.toJson)) = _
    rw [ht]
    rfl

end GuardErasure.Expr
