import GuardErasure.Outline
import Mathlib.Data.List.Infix

namespace GuardErasure.Outline

/-!
# The headings of an outline and their lines

A heading is found by a path from the top, which is a list of numbers: each says under which of the
headings under the one before it goes on.

* `Outline.at?`, `Outline.places` — the heading at a path, and all headings with their paths, each before
  those under it (`mem_places`, `pairwise_places`);
* `Outline.hasLater`, `Outline.margin` — what stands in front of a heading on its line: a column for every
  heading above it but the top, and a joint;
* `Outline.lines_eq_map` — the lines of the drawing are those of the headings;
* `Outline.splitOn_draw` — the drawing is read line by line if no heading has a line feed in it.
-/

/-! ### What a heading holds -/

/-- The name of the heading at the top. -/
def name : Outline → String
  | node name _ _ => name

/-- The remark on the heading at the top. -/
def remark : Outline → Option String
  | node _ remark _ => remark

/-- The headings right under the top. -/
def under : Outline → List Outline
  | node _ _ ts => ts

/-- The text of the heading at the top. -/
def heading (t : Outline) : String := header t.name t.remark

/-- **Induction over an outline.**  The hypothesis is about every heading under the top. -/
@[elab_as_elim, induction_eliminator]
theorem induct {P : Outline → Prop}
    (node : ∀ name remark ts, (∀ t ∈ ts, P t) → P (node name remark ts)) (t : Outline) : P t := by
  refine @Outline.rec P (fun ts => ∀ t ∈ ts, P t) node (List.forall_mem_nil _) ?_ t
  intro t ts ht hts
  exact List.forall_mem_cons.mpr ⟨ht, hts⟩

/-! ### Paths -/

/-- The heading at a path, with all under it. -/
def at? (t : Outline) : List Nat → Option Outline
  | [] => some t
  | i :: p => t.under[i]?.bind (·.at? p)

/-- Is there a later heading under the same one?  The top stands alone. -/
def hasLater (t : Outline) : List Nat → Bool
  | [] => false
  | [i] => i + 1 < t.under.length
  | i :: p => t.under[i]?.any (·.hasLater p)

mutual

/-- All headings with their paths, each before those under it. -/
def places : Outline → List (List Nat × Outline)
  | node name remark ts => ([], node name remark ts) :: placesFrom 0 ts

/-- The same for several outlines, of which the first has this number. -/
def placesFrom (i : Nat) : List Outline → List (List Nat × Outline)
  | [] => []
  | t :: ts => t.places.map (fun x => (i :: x.1, x.2)) ++ placesFrom (i + 1) ts

end

theorem places_eq_cons (t : Outline) : t.places = ([], t) :: placesFrom 0 t.under := by
  cases t with
  | node => rfl

theorem mem_placesFrom {i : Nat} {ts : List Outline} {p : List Nat} {u : Outline} :
    (p, u) ∈ placesFrom i ts
      ↔ ∃ k t q, p = (i + k) :: q ∧ ts[k]? = some t ∧ (q, u) ∈ t.places := by
  induction ts generalizing i with
  | nil => simp [placesFrom]
  | cons t ts ih =>
    rw [placesFrom, List.mem_append, List.mem_map, ih]
    constructor
    · rintro (⟨⟨q, v⟩, hq, heq⟩ | ⟨k, v, q, rfl, hv, hq⟩)
      · cases heq
        exact ⟨0, t, q, rfl, rfl, hq⟩
      · exact ⟨k + 1, v, q, by rw [Nat.add_right_comm, Nat.add_assoc], hv, hq⟩
    · rintro ⟨k, v, q, rfl, hv, hq⟩
      cases k with
      | zero =>
        cases hv
        exact .inl ⟨(q, u), hq, rfl⟩
      | succ k => exact .inr ⟨k, v, q, by rw [Nat.add_right_comm, Nat.add_assoc], hv, hq⟩

/-- **The places are the paths that lead to a heading**, with that heading. -/
theorem mem_places {t u : Outline} {p : List Nat} : (p, u) ∈ t.places ↔ t.at? p = some u := by
  induction p generalizing t with
  | nil =>
    rw [places_eq_cons, List.mem_cons, mem_placesFrom]
    simp [at?, eq_comm]
  | cons i p ih =>
    rw [places_eq_cons, List.mem_cons, mem_placesFrom, at?, Option.bind_eq_some_iff]
    simp [ih]

/-- **The places are in the order of their paths**: a heading comes before those under it, and with all
    of these before the later headings beside it. -/
theorem pairwise_places (t : Outline) :
    t.places.Pairwise fun x y => List.Lex (· < ·) x.1 y.1 := by
  induction t with
  | node name remark ts ih =>
    rw [places_eq_cons, List.pairwise_cons]
    constructor
    · rintro ⟨p, u⟩ hp
      obtain ⟨k, v, q, rfl, -⟩ := mem_placesFrom.mp hp
      exact .nil
    · show (placesFrom 0 ts).Pairwise _
      generalize 0 = i
      induction ts generalizing i with
      | nil => exact .nil
      | cons t ts ihts =>
        obtain ⟨ht, hts⟩ := List.forall_mem_cons.mp ih
        rw [placesFrom, List.pairwise_append, List.pairwise_map]
        refine ⟨ht.imp fun h => .cons h, ihts hts _, ?_⟩
        rintro x hx ⟨p, u⟩ hp
        obtain ⟨y, -, rfl⟩ := List.mem_map.mp hx
        obtain ⟨k, v, q, rfl, -⟩ := mem_placesFrom.mp hp
        exact .rel (by omega)

/-! ### Margins -/

/-- The column below a heading, which passes its rule on if there is a later one beside it. -/
def column (t : Outline) (p : List Nat) : String := if t.hasLater p then "│  " else "   "

/-- The joint in front of a heading. -/
def joint (t : Outline) (p : List Nat) : String := if t.hasLater p then "├─ " else "└─ "

/-- What stands in front of the heading at a path: nothing at the top, else the columns of the headings
    above it but the top, from the outermost in, and its own joint. -/
def margin (t : Outline) (p : List Nat) : String :=
  if p = [] then "" else String.join (p.dropLast.inits.tail.map t.column) ++ t.joint p

variable {t u : Outline} {i : Nat} {p : List Nat}

theorem hasLater_cons (hu : t.under[i]? = some u) (hp : p ≠ []) :
    t.hasLater (i :: p) = u.hasLater p := by
  rw [hasLater, hu, Option.any_some]
  exact hp

theorem margin_singleton (t : Outline) (i : Nat) : t.margin [i] = t.joint [i] := by
  simp [margin]

/-- Below a heading there is one column more, its own. -/
theorem margin_cons (hu : t.under[i]? = some u) (hp : p ≠ []) :
    t.margin (i :: p) = t.column [i] ++ u.margin p := by
  have hinits : p.dropLast.inits = [] :: p.dropLast.inits.tail := by
    cases p.dropLast <;> simp
  have hne : ∀ q ∈ p.dropLast.inits.tail, q ≠ [] := by
    cases p.dropLast <;> simp
  have hcolumns : (p.dropLast.inits.tail.map (i :: ·)).map t.column
      = p.dropLast.inits.tail.map u.column := by
    rw [List.map_map]
    refine List.map_congr_left fun q hq => ?_
    simp only [Function.comp_apply, column, hasLater_cons hu (hne q hq)]
  rw [margin, margin, if_neg (List.cons_ne_nil i p), if_neg hp, List.dropLast_cons_of_ne_nil hp,
    List.inits_cons, List.tail_cons, hinits, List.map_cons, List.map_cons, List.tail_cons,
    hcolumns, String.join_cons, joint, joint, hasLater_cons hu hp, String.append_assoc]

/-! ### The lines -/

/-- The line of the heading `u` at a path. -/
def line (t : Outline) (p : List Nat) (u : Outline) : String := t.margin p ++ u.heading

theorem branch_eq (columns : String) (last : Bool) (t : Outline) :
    branch columns last t
      = (columns ++ (if last then "└─ " else "├─ ") ++ t.heading)
        :: rows (columns ++ if last then "   " else "│  ") t.under := by
  cases t with
  | node => rfl

/-- The lines of a heading right under the top and of all under it, once those under it are known. -/
theorem branch_eq_map (hu : t.under[i]? = some u) (columns : String)
    (hrows : ∀ columns, rows columns u.under
      = (placesFrom 0 u.under).map fun x => columns ++ u.line x.1 x.2) :
    branch columns (!t.hasLater [i]) u
      = u.places.map fun x => columns ++ t.line (i :: x.1) x.2 := by
  rw [branch_eq, hrows, places_eq_cons, List.map_cons]
  congr 1
  · rw [line, margin_singleton, joint, String.append_assoc]
    cases t.hasLater [i] <;> rfl
  · refine List.map_congr_left fun x hx => ?_
    have hne : x.1 ≠ [] := by
      obtain ⟨k, v, q, hq, -⟩ := mem_placesFrom.mp hx
      rw [hq]
      exact List.cons_ne_nil _ _
    rw [line, line, margin_cons hu hne, column, String.append_assoc, String.append_assoc]
    cases t.hasLater [i] <;> rfl

/-- The lines of the headings under the top are what is drawn below it, whatever columns stand in front. -/
theorem rows_eq_map (columns : String) (t : Outline) :
    rows columns t.under = (placesFrom 0 t.under).map fun x => columns ++ t.line x.1 x.2 := by
  induction t generalizing columns with
  | node name remark ts ih =>
    -- a later part of the headings under the top, behind some of them
    suffices hlater : ∀ before later, ts = before ++ later →
        rows columns later = (placesFrom before.length later).map
          fun x => columns ++ (node name remark ts).line x.1 x.2 from hlater [] ts rfl
    intro before later hts
    induction later generalizing before with
    | nil => rfl
    | cons u later ihlater =>
      have hu : (node name remark ts).under[before.length]? = some u := by
        show ts[before.length]? = some u
        rw [hts, List.getElem?_append_right (Nat.le_refl _), Nat.sub_self]
        rfl
      have hlast : later.isEmpty = !(node name remark ts).hasLater [before.length] := by
        show _ = !decide (before.length + 1 < ts.length)
        rw [hts]
        cases later <;> simp
      have hmem : u ∈ ts := hts ▸ List.mem_append_right _ List.mem_cons_self
      have hrest := ihlater (before ++ [u]) (by rw [hts, List.append_assoc]; rfl)
      rw [List.length_append] at hrest
      rw [rows, hlast, branch_eq_map hu columns fun columns => ih u hmem columns, hrest, placesFrom,
        List.map_append, List.map_map]
      rfl

theorem lines_eq_cons (t : Outline) : t.lines = t.heading :: rows "" t.under := by
  cases t with
  | node => rfl

/-- **The lines of the drawing are those of the headings**, each before those under it. -/
theorem lines_eq_map (t : Outline) : t.lines = t.places.map fun x => t.line x.1 x.2 := by
  rw [lines_eq_cons, rows_eq_map, places_eq_cons, List.map_cons]
  simp [line, margin]

/-! ### Reading the lines -/

/-- Is this one of the signs that margins are made of? -/
def isRule (c : Char) : Bool := c = ' ' || c = '│' || c = '├' || c = '└' || c = '─'

/-- The text is a margin of so many steps, three signs each. -/
def IsMargin (s : String) (steps : Nat) : Prop :=
  (∀ c ∈ s.toList, isRule c) ∧ s.toList.length = 3 * steps

theorem IsMargin.append {s s' : String} {m n : Nat} (h : IsMargin s m) (h' : IsMargin s' n) :
    IsMargin (s ++ s') (m + n) := by
  constructor
  · rw [String.toList_append]
    exact List.forall_mem_append.mpr ⟨h.1, h'.1⟩
  · rw [String.toList_append, List.length_append, h.2, h'.2, Nat.mul_add]

theorem isMargin_column (t : Outline) (p : List Nat) : IsMargin (t.column p) 1 := by
  rw [column]
  split <;> exact ⟨List.all_eq_true.mp rfl, rfl⟩

theorem isMargin_joint (t : Outline) (p : List Nat) : IsMargin (t.joint p) 1 := by
  rw [joint]
  split <;> exact ⟨List.all_eq_true.mp rfl, rfl⟩

/-- **A margin has a step for every number of the path.** -/
theorem isMargin_margin (t : Outline) (p : List Nat) : IsMargin (t.margin p) p.length := by
  have hcolumns (ps : List (List Nat)) : IsMargin (String.join (ps.map t.column)) ps.length := by
    induction ps with
    | nil => exact ⟨List.forall_mem_nil _, rfl⟩
    | cons q ps ih =>
      rw [List.map_cons, String.join_cons, List.length_cons, Nat.add_comm]
      exact (t.isMargin_column q).append ih
  by_cases hp : p = []
  · subst hp
    exact ⟨List.forall_mem_nil _, rfl⟩
  · have hlength : p.length = p.dropLast.inits.tail.length + 1 := by
      have hpos := List.length_pos_iff.mpr hp
      rw [List.length_tail, List.length_inits, List.length_dropLast]
      omega
    rw [margin, if_neg hp, hlength]
    exact (hcolumns _).append (t.isMargin_joint p)

/-- No name and no remark in the outline has a line feed in it. -/
def Unbroken (t : Outline) : Prop :=
  ∀ x ∈ t.places, '\n' ∉ x.2.name.toList ∧ ∀ r ∈ x.2.remark, '\n' ∉ r.toList

theorem not_mem_heading (hname : '\n' ∉ t.name.toList)
    (hremark : ∀ r ∈ t.remark, '\n' ∉ r.toList) : '\n' ∉ t.heading.toList := by
  rw [heading]
  cases h : t.remark with
  | none => exact hname
  | some r => simp [header, hname, hremark r h]

theorem not_mem_line (hu : '\n' ∉ u.heading.toList) : '\n' ∉ (t.line p u).toList := by
  rw [line, String.toList_append, List.mem_append, not_or]
  exact ⟨fun h => absurd ((t.isMargin_margin p).1 _ h) (by decide), hu⟩

/-- Lines that are each ended by a line feed are read back one by one. -/
theorem splitOn_join {lines : List String} (h : ∀ l ∈ lines, '\n' ∉ l.toList) :
    (String.join (lines.map (· ++ "\n"))).toList.splitOn '\n'
      = lines.map String.toList ++ [[]] := by
  induction lines with
  | nil => rfl
  | cons l lines ih =>
    obtain ⟨hl, hlines⟩ := List.forall_mem_cons.mp h
    have hchars : (String.join ((l :: lines).map (· ++ "\n"))).toList
        = l.toList ++ '\n' :: (String.join (lines.map (· ++ "\n"))).toList := by
      simp
    rw [hchars, List.splitOn_append_cons_self_of_not_mem hl, ih hlines]
    rfl

/-- **The drawing is read line by line**, one line for every heading and nothing behind the last one. -/
theorem splitOn_draw (h : t.Unbroken) :
    t.draw.toList.splitOn '\n' = t.places.map (fun x => (t.line x.1 x.2).toList) ++ [[]] := by
  rw [draw, splitOn_join, lines_eq_map, List.map_map]
  · rfl
  · rw [lines_eq_map, List.forall_mem_map]
    exact fun x hx => not_mem_line (not_mem_heading (h x hx).1 (h x hx).2)

end GuardErasure.Outline
