import GuardErasure.Proofs.Outline.Places
import Mathlib.Data.List.Forall2

namespace GuardErasure.Outline

/-!
# What a drawing tells

A margin tells by its length how deep a heading is, and the depths of the headings, in their order, tell
what is under what.  So an outline can be recovered from its drawing, as far as it is drawn.

* `Outline.Alike` — outlines with the same headings at the same paths, also by their parts (`alike_iff`);
* `Outline.readLine`, `readLine_line` — a line gives away its depth and its heading if this does not start
  like a margin;
* `Outline.Told`, `told` — the depths and headings of several outlines tell them from any others, whatever
  is behind that is no deeper;
* `Outline.draw_eq_iff` — two outlines have one drawing exactly if they are alike.
-/

/-! ### Outlines that are alike -/

/-- The two have the same headings at the same paths. -/
def Alike (t u : Outline) : Prop := ∀ p, (t.at? p).map heading = (u.at? p).map heading

/-- Outlines are alike one by one if the same headings are found in them. -/
theorem forall₂_alike_iff {ts us : List Outline} :
    List.Forall₂ Alike ts us
      ↔ ∀ (i : Nat) (p : List Nat),
        (ts[i]?.bind (at? · p)).map heading = (us[i]?.bind (at? · p)).map heading := by
  induction ts generalizing us with
  | nil =>
    cases us with
    | nil => simp
    | cons u us =>
      refine iff_of_false (by simp) fun h => ?_
      exact absurd (h 0 []) (by simp [at?])
  | cons t ts ih =>
    cases us with
    | nil =>
      refine iff_of_false (by simp) fun h => ?_
      exact absurd (h 0 []) (by simp [at?])
    | cons u us =>
      rw [List.forall₂_cons, ih]
      constructor
      · rintro ⟨ht, hts⟩ i p
        cases i with
        | zero => exact ht p
        | succ i => exact hts i p
      · exact fun h => ⟨h 0, fun i => h (i + 1)⟩

/-- Two outlines are alike if their tops and the outlines under these are. -/
theorem alike_iff {t u : Outline} :
    t.Alike u ↔ t.heading = u.heading ∧ List.Forall₂ Alike t.under u.under := by
  rw [forall₂_alike_iff]
  constructor
  · exact fun h => ⟨Option.some.inj (h []), fun i p => h (i :: p)⟩
  · rintro ⟨hheading, hunder⟩ p
    cases p with
    | nil => exact congrArg some hheading
    | cons i p => exact hunder i p

/-! ### A line -/

/-- How deep a line is by its margin, and what comes behind it. -/
def readLine (l : List Char) : Nat × String :=
  ((l.takeWhile isRule).length / 3, String.ofList (l.dropWhile isRule))

/-- Every heading in the outline starts with another sign than those of margins. -/
def Lettered (t : Outline) : Prop := ∀ x ∈ t.places, x.2.heading.toList.head?.any (!isRule ·)

/-- **A line gives away** its depth and its heading. -/
theorem readLine_line (t : Outline) (p : List Nat) {u : Outline}
    (hu : u.heading.toList.head?.any (!isRule ·)) :
    readLine (t.line p u).toList = (p.length, u.heading) := by
  obtain ⟨hrules, hlength⟩ := t.isMargin_margin p
  have hhead : u.heading.toList.takeWhile isRule = []
      ∧ u.heading.toList.dropWhile isRule = u.heading.toList := by
    cases h : u.heading.toList with
    | nil => exact ⟨rfl, rfl⟩
    | cons c cs =>
      have hc : isRule c = false := by simpa [h] using hu
      exact ⟨List.takeWhile_cons_of_neg (by simp [hc]), List.dropWhile_cons_of_neg (by simp [hc])⟩
  rw [readLine, line, String.toList_append, List.takeWhile_append_of_pos hrules,
    List.dropWhile_append_of_pos hrules, hhead.1, hhead.2, List.append_nil, hlength,
    Nat.mul_div_cancel_left _ (by decide), String.ofList_toList]

/-! ### Depths and headings -/

/-- How deep a place is, counted on from `d`, and its heading. -/
def level (d : Nat) (x : List Nat × Outline) : Nat × String := (d + x.1.length, x.2.heading)

/-- The levels of several outlines, first to last. -/
def levels (d : Nat) (ts : List Outline) : List (Nat × String) := (placesFrom 0 ts).map (level d)

/-- The numbers of outlines play no part in their levels. -/
theorem map_level_placesFrom (d i : Nat) (ts : List Outline) :
    (placesFrom i ts).map (level d) = levels d ts := by
  rw [levels]
  generalize 0 = j
  induction ts generalizing i j with
  | nil => rfl
  | cons t ts ih =>
    simp only [placesFrom, List.map_append, List.map_map, ih (i + 1) (j + 1)]
    rfl

/-- The first outline comes first, with those under it one step deeper. -/
theorem levels_cons (d : Nat) (t : Outline) (ts : List Outline) :
    levels d (t :: ts) = (d + 1, t.heading) :: (levels (d + 1) t.under ++ levels d ts) := by
  rw [levels, placesFrom, List.map_append, map_level_placesFrom, places_eq_cons, List.map_cons,
    List.map_cons, List.cons_append, levels, List.map_map]
  congr 2
  refine List.map_congr_left fun x _ => ?_
  show (d + (x.1.length + 1), x.2.heading) = (d + 1 + x.1.length, x.2.heading)
  rw [Nat.add_right_comm, Nat.add_assoc]

/-- The list starts no deeper than `d`. -/
def StartsBy (d : Nat) (rest : List (Nat × String)) : Prop := ∀ x ∈ rest.head?, x.1 ≤ d

theorem StartsBy.levels_append {d : Nat} {rest : List (Nat × String)} (h : StartsBy d rest)
    (ts : List Outline) : StartsBy (d + 1) (levels d ts ++ rest) := by
  cases ts with
  | nil => exact fun x hx => Nat.le_succ_of_le (h x hx)
  | cons t ts =>
    intro x hx
    rw [levels_cons, List.cons_append, List.head?_cons, Option.mem_some_iff] at hx
    exact hx ▸ Nat.le_refl _

/-- What starts no deeper than `d` is not the levels of an outline under a heading there. -/
theorem StartsBy.ne_levels_append {d : Nat} {rest : List (Nat × String)} (h : StartsBy d rest)
    (t : Outline) (ts : List Outline) (rest' : List (Nat × String)) :
    rest ≠ levels d (t :: ts) ++ rest' := by
  intro heq
  have hdeep : d + 1 ≤ d := h (d + 1, t.heading) (by rw [heq, levels_cons]; rfl)
  omega

/-- The levels of these outlines tell them from any others, also with more behind them that starts no
    deeper than what they are under. -/
def Told (ts : List Outline) : Prop :=
  ∀ (us : List Outline) (d : Nat) (rest rest' : List (Nat × String)),
    StartsBy d rest → StartsBy d rest' → levels d ts ++ rest = levels d us ++ rest' →
      List.Forall₂ Alike ts us ∧ rest = rest'

/-- Outlines are told by their levels if those under each of them are. -/
theorem told_of_under {ts : List Outline} (h : ∀ t ∈ ts, Told t.under) : Told ts := by
  induction ts with
  | nil =>
    intro us d rest rest' hrest _ heq
    cases us with
    | nil => exact ⟨.nil, heq⟩
    | cons u us => exact absurd heq (hrest.ne_levels_append u us rest')
  | cons t ts ih =>
    obtain ⟨ht, hts⟩ := List.forall_mem_cons.mp h
    intro us d rest rest' hrest hrest' heq
    cases us with
    | nil => exact absurd heq.symm (hrest'.ne_levels_append t ts rest)
    | cons u us =>
      -- cut off the first heading, then what is under it, then the outlines after it
      rw [levels_cons, levels_cons, List.cons_append, List.cons_append, List.append_assoc,
        List.append_assoc, List.cons.injEq, Prod.mk.injEq] at heq
      obtain ⟨⟨-, hheading⟩, hbelow⟩ := heq
      obtain ⟨hunder, hlater⟩ := ht u.under (d + 1) _ _ (hrest.levels_append ts)
        (hrest'.levels_append us) hbelow
      obtain ⟨hall, hend⟩ := ih hts us d rest rest' hrest hrest' hlater
      exact ⟨.cons (alike_iff.mpr ⟨hheading, hunder⟩) hall, hend⟩

/-- **Outlines are told by their levels.** -/
theorem told (ts : List Outline) : Told ts := by
  -- first what is under a single heading, by induction over that
  have hunder (t : Outline) : Told t.under := by
    induction t with
    | node name remark ts ih => exact told_of_under ih
  exact told_of_under fun t _ => hunder t

/-! ### Drawings -/

variable {t u : Outline}

/-- Outlines that are alike have the same lines below their tops. -/
theorem rows_congr (h : List.Forall₂ Alike t.under u.under) (columns : String) :
    rows columns t.under = rows columns u.under := by
  induction t generalizing u columns with
  | node name remark ts ih =>
    -- only what is under the tops matters, and a heading ends its list in both outlines or in none
    generalize u.under = us at h
    change List.Forall₂ Alike ts us at h
    show rows columns ts = rows columns us
    induction h with
    | nil => rfl
    | @cons v w vs ws hv hvs ihvs =>
      obtain ⟨ihv, ihrest⟩ := List.forall_mem_cons.mp ih
      obtain ⟨hheading, hunder⟩ := alike_iff.mp hv
      have hlast : vs.isEmpty = ws.isEmpty := by cases hvs <;> rfl
      rw [rows, rows, branch_eq, branch_eq, hheading, hlast, ihv hunder, ihvs ihrest]

/-- The lines of a drawing give away the depths and the headings of all places. -/
theorem map_readLine_draw (h : t.Unbroken) (hlettered : t.Lettered) :
    (t.draw.toList.splitOn '\n').dropLast.map readLine = (0, t.heading) :: levels 0 t.under := by
  have hread : t.places.map (fun x => readLine (t.line x.1 x.2).toList)
      = t.places.map fun x => (x.1.length, x.2.heading) :=
    List.map_congr_left fun x hx => readLine_line t x.1 (hlettered x hx)
  rw [splitOn_draw h, List.dropLast_concat, List.map_map]
  refine hread.trans ?_
  rw [places_eq_cons, List.map_cons]
  simp [levels, level]

/-- **Two outlines have one drawing exactly if they are alike**, unless a line feed or a margin in a
    heading confuses the reader. -/
theorem draw_eq_iff (ht : t.Unbroken) (hu : u.Unbroken) (ht' : t.Lettered) (hu' : u.Lettered) :
    t.draw = u.draw ↔ t.Alike u := by
  constructor
  · intro hdraw
    have hlevels := map_readLine_draw ht ht'
    rw [hdraw, map_readLine_draw hu hu', List.cons.injEq, Prod.mk.injEq] at hlevels
    obtain ⟨⟨-, hheading⟩, hunder⟩ := hlevels
    obtain ⟨hall, -⟩ := told t.under u.under 0 [] [] (by simp [StartsBy]) (by simp [StartsBy])
      (by rw [hunder])
    exact alike_iff.mpr ⟨hheading.symm, hall⟩
  · intro h
    obtain ⟨hheading, hunder⟩ := alike_iff.mp h
    rw [draw, draw, lines_eq_cons, lines_eq_cons, hheading, rows_congr hunder]

end GuardErasure.Outline
