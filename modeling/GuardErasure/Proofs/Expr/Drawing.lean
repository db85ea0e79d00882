import GuardErasure.Expr.Outline
import GuardErasure.Proofs.Expr.Tree
import GuardErasure.Proofs.Outline.Recovered
import GuardErasure.Samples

namespace GuardErasure

/-!
# What the drawing of an expression tells

An expression is drawn as the outline of its nodes.  What stands on the line of a node starts with the
name of the node's kind, so it is never taken for a margin.

* `Expr.at?`, `Expr.heading` — the node at a path, and what stands on its line;
* `Expr.at?_outline`, `Expr.unbroken_outline`, `Expr.lettered_outline` — the outline of an expression has
  these headings at these paths;
* `Expr.drawing_faithful` — outlines are drawn line by line, and two expressions have one drawing exactly
  if they have the same headings at the same paths.
-/

namespace Expr

/-- The node at a path, which says by numbers which part to go on with. -/
def at? (e : Expr) : List Nat → Option Expr
  | [] => some e
  | i :: p => e.parts[i]?.bind (·.at? p)

/-- What stands on the line of a node. -/
def heading (e : Expr) : String := Outline.header e.caption e.remark

/-- No text on the line of a node has a line feed in it. -/
def Unbroken (e : Expr) : Prop :=
  ∀ n ∈ e.nodes, '\n' ∉ n.caption.toList ∧ ∀ r ∈ n.remark, '\n' ∉ r.toList

/-! ### The outline, node by node -/

theorem outlines_eq_map (es : List Expr) : outlines es = es.map outline := by
  induction es with
  | nil => rfl
  | cons e es ih => rw [outlines, ih, List.map_cons]

/-- The outline of a node is over those of its parts. -/
theorem outline_eq (e : Expr) : e.outline = .node e.caption e.remark (e.parts.map outline) := by
  cases e with
  | callOn receiver m args t => rw [outline, outlines_eq_map, parts, List.map_cons]
  | call m args t => rw [outline, outlines_eq_map, parts]
  | _ => rfl

theorem heading_outline (e : Expr) : e.outline.heading = e.heading := by
  rw [outline_eq]
  rfl

/-- **The outline has the nodes at their paths.** -/
theorem at?_outline (e : Expr) (p : List Nat) : e.outline.at? p = (e.at? p).map outline := by
  induction p generalizing e with
  | nil => rfl
  | cons i p ih =>
    rw [Outline.at?, at?, outline_eq]
    show ((e.parts.map outline)[i]?).bind (Outline.at? · p) = _
    rw [List.getElem?_map]
    cases e.parts[i]? with
    | none => rfl
    | some part => exact ih part

theorem mem_nodes_of_at? {e n : Expr} {p : List Nat} (h : e.at? p = some n) : n ∈ e.nodes := by
  induction p generalizing e with
  | nil =>
    cases h
    rw [nodes_eq_cons]
    exact List.mem_cons_self
  | cons i p ih =>
    obtain ⟨part, hpart, hn⟩ := Option.bind_eq_some_iff.mp h
    exact mem_nodes_of_part (List.mem_of_getElem? hpart) (ih hn)

/-- The headings of the outline are nodes. -/
theorem exists_node_of_place {e : Expr} {x : List Nat × Outline} (h : x ∈ e.outline.places) :
    ∃ n ∈ e.nodes, n.outline = x.2 := by
  have hx := Outline.mem_places.mp h
  rw [at?_outline, Option.map_eq_some_iff] at hx
  obtain ⟨n, hn, hout⟩ := hx
  exact ⟨n, mem_nodes_of_at? hn, hout⟩

theorem unbroken_outline {e : Expr} (h : e.Unbroken) : e.outline.Unbroken := by
  intro x hx
  obtain ⟨n, hn, hout⟩ := exists_node_of_place hx
  rw [← hout, outline_eq]
  exact h n hn

/-- A heading starts with the name of the node's kind. -/
theorem exists_heading_eq (e : Expr) : ∃ s, e.heading = e.kind.name ++ s := by
  have hcaption : ∃ s, e.caption = e.kind.name ++ s := by
    cases e with
    | cond | root => exact ⟨"", String.append_empty.symm⟩
    | _ => exact ⟨_, String.append_assoc⟩
  obtain ⟨s, hs⟩ := hcaption
  rw [heading, hs]
  cases e.remark with
  | none => exact ⟨s, rfl⟩
  | some r => exact ⟨s ++ " (" ++ r ++ ")", by simp only [Outline.header, String.append_assoc]⟩

theorem lettered_outline (e : Expr) : e.outline.Lettered := by
  intro x hx
  obtain ⟨n, -, hout⟩ := exists_node_of_place hx
  obtain ⟨s, hs⟩ := n.exists_heading_eq
  rw [← hout, heading_outline, hs, String.toList_append]
  cases n.kind <;> rfl

/-- Two expressions have outlines that are alike if they have the same headings at the same paths. -/
theorem alike_outline_iff {e f : Expr} :
    e.outline.Alike f.outline ↔ ∀ p, (e.at? p).map heading = (f.at? p).map heading := by
  have hmap (e : Expr) (p : List Nat) :
      (e.outline.at? p).map Outline.heading = (e.at? p).map heading := by
    rw [at?_outline, Option.map_map]
    exact congrArg (fun g => (e.at? p).map g) (funext heading_outline)
  exact forall_congr' fun p => by rw [hmap, hmap]

/-! ### Drawings -/

/-- **Drawings are faithful.**

    * If no name and no remark in an outline has a line feed in it, its drawing is read line by line: one
      line for every heading, in the order of their paths, and nothing behind the last.  On a line stand
      the columns of the headings above this one but the top, then its joint, then its name and remark.
    * Two expressions of which this holds have one drawing exactly if they have the same headings at the
      same paths. -/
theorem drawing_faithful :
    (∀ t : Outline, t.Unbroken →
      t.draw.toList.splitOn '\n'
          = t.places.map (fun x => (t.margin x.1 ++ x.2.heading).toList) ++ [[]]
        ∧ (∀ p u, (p, u) ∈ t.places ↔ t.at? p = some u)
        ∧ t.places.Pairwise fun x y => List.Lex (· < ·) x.1 y.1)
      ∧ ∀ e f : Expr, e.Unbroken → f.Unbroken →
        (e.drawing = f.drawing ↔ ∀ p, (e.at? p).map heading = (f.at? p).map heading) := by
  refine ⟨fun t ht => ⟨Outline.splitOn_draw ht, fun p u => Outline.mem_places, t.pairwise_places⟩,
    fun e f he hf => ?_⟩
  rw [← alike_outline_iff]
  exact Outline.draw_eq_iff (unbroken_outline he) (unbroken_outline hf) e.lettered_outline
    f.lettered_outline

end Expr

namespace Samples

/-- `to_lower(p.Name)` -/
def lowerOfName : Expr := .callNamed "to_lower" [name] .string

end Samples

/-- The guard on a flag is drawn in nine lines, at most three steps deep; a call on a receiver and one of
    a function have one drawing, and the same headings. -/
theorem Expr.drawing_faithful_flagGuard :
    Samples.flagGuard.outline.Unbroken
      ∧ Samples.flagGuard.drawing.toList.splitOn '\n'
        = ["Conditional (Bool)", "├─ Binary == (Bool)", "│  ├─ Member .Flag (Bool?)",
            "│  │  └─ Parameter p (Person)", "│  └─ Constant null (Bool?)", "├─ Constant false (Bool)",
            "└─ Member .Value (Bool)", "   └─ Member .Flag (Bool?)",
            "      └─ Parameter p (Person)", ""].map String.toList
      ∧ Samples.lowerName.Unbroken ∧ Samples.lowerOfName.Unbroken
      ∧ ∀ p, (Samples.lowerName.at? p).map Expr.heading
        = (Samples.lowerOfName.at? p).map Expr.heading := by
  have hflag : Samples.flagGuard.outline.Unbroken := by unfold Outline.Unbroken; decide
  have hname : Samples.lowerName.Unbroken := by unfold Expr.Unbroken; decide
  have hof : Samples.lowerOfName.Unbroken := by unfold Expr.Unbroken; decide
  refine ⟨hflag, ?_, hname, hof, ?_⟩
  · exact (Expr.drawing_faithful.1 _ hflag).1.trans rfl
  · exact (Expr.drawing_faithful.2 _ _ hname hof).mp (by decide)

end GuardErasure
