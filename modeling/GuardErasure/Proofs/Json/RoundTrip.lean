import GuardErasure.Proofs.Decimal.Text
import GuardErasure.Proofs.Json.Layer
import GuardErasure.Proofs.Json.Quoted

namespace GuardErasure.Json

/-!
# Documents and their text

Reading the text of a document gives the document back, in every style:

* `ReadFrom` — what is true of each writable document at every level (`readFrom_writable`): its text is
  read as the document in front of any text that would not make a number go on;
* `parse?_write` — so a text that holds nothing else is read as the document, and
  `Layer.readsBack_ofStyle`: the layer of each style reads back what it writes.
-/

open Decimal

/-! ### Blanks -/

/-- Nothing but blanks. -/
def Blank (cs : List Char) : Prop := ∀ c ∈ cs, isBlank c = true

theorem skipBlank_blanks {bs : List Char} (hbs : Blank bs) {c : Char} (hc : isBlank c = false)
    (cs : List Char) : skipBlank (bs ++ c :: cs) = c :: cs := by
  induction bs with
  | nil => exact List.dropWhile_cons_of_neg (by simp [hc])
  | cons b bs ih =>
    have hb : isBlank b = true := hbs b (by simp)
    rw [List.cons_append, skipBlank, List.dropWhile_cons_of_pos hb]
    exact ih (fun d hd => hbs d (by simp [hd]))

theorem skipBlank_cons {c : Char} (hc : isBlank c = false) (cs : List Char) :
    skipBlank (c :: cs) = c :: cs := skipBlank_blanks (List.forall_mem_nil _) hc cs

theorem toList_pushn_blank (n : Nat) : ("".pushn ' ' n).toList = List.replicate n ' ' := by
  induction n with
  | zero => rfl
  | succ n ih =>
    have hpush : "".pushn ' ' (n + 1) = ("".pushn ' ' n).push ' ' := rfl
    rw [hpush, String.toList_push, ih, List.replicate_succ']

theorem blank_newline (style : Style) (level : Nat) : Blank (style.newline level).toList := by
  intro c hc
  rw [Style.newline] at hc
  split at hc
  · rw [String.toList_append, toList_pushn_blank] at hc
    rcases List.mem_append.mp hc with hc | hc
    · obtain rfl : c = '\n' := List.mem_singleton.mp hc
      rfl
    · obtain rfl : c = ' ' := List.eq_of_mem_replicate hc
      rfl
  · cases hc

/-- Blanks end a number, and so does what ends it behind them. -/
theorem endsNumber_blanks {bs : List Char} (hbs : Blank bs) {c : Char} (hc : goesOn c = false)
    (cs : List Char) : EndsNumber (bs ++ c :: cs) := by
  intro d hd
  cases bs with
  | nil =>
    cases hd
    exact hc
  | cons b bs =>
    obtain rfl : b = d := Option.some.inj hd
    have hb : isBlank b = true := hbs b (by simp)
    simp only [isBlank, Bool.or_eq_true, decide_eq_true_eq] at hb
    rcases hb with ((rfl | rfl) | rfl) | rfl <;> rfl

theorem endsNumber_cons {c : Char} (hc : goesOn c = false) (cs : List Char) :
    EndsNumber (c :: cs) := endsNumber_blanks (List.forall_mem_nil _) hc cs

/-! ### The written text as characters -/

section Text

variable (style : Style) (level : Nat)

theorem toList_array (v : Json) (vs : List Json) :
    (writeAt style level (array (v :: vs))).toList
      = '[' :: ((style.newline (level + 1)).toList ++ ((writeAt style (level + 1) v).toList
        ++ ((writeItems style (level + 1) vs).toList
          ++ ((style.newline level).toList ++ [']'])))) := by
  simp only [writeAt, String.toList_append, List.append_assoc]
  rfl

theorem toList_items (v : Json) (vs : List Json) :
    (writeItems style level (v :: vs)).toList
      = ',' :: ((style.newline level).toList ++ ((writeAt style level v).toList
        ++ (writeItems style level vs).toList)) := by
  simp only [writeItems, String.toList_append, List.append_assoc]
  rfl

theorem toList_object (m : Option String × Json) (ms : List (Option String × Json)) :
    (writeAt style level (object (m :: ms))).toList
      = '\x7b' :: ((writeMembers style (level + 1) true (m :: ms)).toList
        ++ ((style.newline level).toList ++ ['\x7d'])) := by
  simp only [writeAt, String.toList_append, List.append_assoc]
  rfl

/-- What stands between the name of a member and its contents, after the colon. -/
def Style.gap (style : Style) : List Char := if style.broken then [' '] else []

theorem blank_gap : Blank style.gap := by
  rw [Style.gap]
  split
  · exact List.forall_mem_singleton.mpr rfl
  · exact List.forall_mem_nil _

theorem toList_members (name : String) (v : Json) (ms : List (Option String × Json)) :
    (writeMembers style level true ((some name, v) :: ms)).toList
      = (style.newline level).toList ++ ((stringText style.asciiOnly name).toList
        ++ (':' :: (style.gap ++ ((writeAt style level v).toList
          ++ (writeMembers style level false ms).toList)))) := by
  have hcolon : (if style.broken then ": " else ":").toList = ':' :: style.gap := by
    rw [Style.gap]
    split <;> rfl
  simp only [writeMembers, String.toList_append, List.append_assoc, if_true, hcolon]
  rfl

theorem toList_laterMembers (m : Option String × Json) (ms : List (Option String × Json)) :
    (writeMembers style level false (m :: ms)).toList
      = ',' :: (writeMembers style level true (m :: ms)).toList := by
  obtain ⟨name, v⟩ := m
  simp only [writeMembers, String.toList_append, List.append_assoc, if_true]
  rfl

end Text

/-! ### Scalars -/

/-- The first characters of documents: those of numbers, and six more. -/
def opens (c : Char) : Bool :=
  opensNumber c || c == '"' || c == '[' || c == '\x7b' || c == 'n' || c == 't' || c == 'f'

theorem isBlank_of_opens {c : Char} (h : opens c = true) : isBlank c = false := by
  cases hc : isBlank c with
  | false => rfl
  | true =>
    simp only [isBlank, Bool.or_eq_true, decide_eq_true_eq] at hc
    rcases hc with ((rfl | rfl) | rfl) | rfl <;> exact absurd h (by decide)

/-- A text that begins like a number is read as one. -/
theorem scan?_number {c : Char} (hc : opensNumber c = true) (fuel : Nat) (cs : List Char) :
    scan? (fuel + 1) (c :: cs) = scanNumber? (c :: cs) := by
  have hblank : isBlank c = false := isBlank_of_opens (by simp [opens, hc])
  rw [scan?, skipBlank_cons hblank]
  split
  case h_7 => rfl
  -- none of the other six characters belongs to a number
  all_goals
    rename_i heq
    cases heq
    exact absurd hc (by decide)

/-! ### One step in an array or an object -/

section Containers

variable {fuel : Nat} {bs cs rest r r' : List Char} {c : Char} {v : Json}

/-- The last item of an array. -/
theorem scanItems?_last (hbs : Blank bs) (hc : opens c = true)
    (hv : scan? fuel (c :: cs) = some (v, rest)) (hrest : skipBlank rest = ']' :: r)
    (first : Bool) : scanItems? (fuel + 1) first (bs ++ c :: cs) = some ([v], r) := by
  rw [scanItems?, skipBlank_blanks hbs (isBlank_of_opens hc)]
  split
  · rename_i heq
    cases heq
    exact absurd hc (by decide)
  · simp only [hv, Option.bind_eq_bind, Option.bind_some, hrest]
    rfl

/-- An item with more behind it. -/
theorem scanItems?_more {vs : List Json} (hbs : Blank bs) (hc : opens c = true)
    (hv : scan? fuel (c :: cs) = some (v, rest)) (hrest : skipBlank rest = ',' :: r)
    (hvs : scanItems? fuel false r = some (vs, r')) (first : Bool) :
    scanItems? (fuel + 1) first (bs ++ c :: cs) = some (v :: vs, r') := by
  rw [scanItems?, skipBlank_blanks hbs (isBlank_of_opens hc)]
  split
  · rename_i heq
    cases heq
    exact absurd hc (by decide)
  · simp only [hv, Option.bind_eq_bind, Option.bind_some, hrest, hvs]
    rfl

section Members

variable {ns : List Nat} {tail : List Char}

/-- The last member of an object. -/
theorem scanMembers?_last (hbs : Blank bs) (hname : scanString? cs = some (ns, ':' :: tail))
    (hv : scan? fuel tail = some (v, rest)) (hrest : skipBlank rest = '\x7d' :: r)
    (first : Bool) :
    scanMembers? (fuel + 1) first (bs ++ '"' :: cs)
      = some ([((joinUnits? ns).map String.ofList, v)], r) := by
  have hcolon : skipBlank (':' :: tail) = ':' :: tail := skipBlank_cons rfl tail
  rw [scanMembers?, skipBlank_blanks hbs rfl]
  simp only [hname, Option.bind_eq_bind, Option.bind_some, hcolon, hv, hrest]
  rfl

/-- A member with more behind it. -/
theorem scanMembers?_more {ms : List (Option String × Json)} (hbs : Blank bs)
    (hname : scanString? cs = some (ns, ':' :: tail)) (hv : scan? fuel tail = some (v, rest))
    (hrest : skipBlank rest = ',' :: r) (hms : scanMembers? fuel false r = some (ms, r'))
    (first : Bool) :
    scanMembers? (fuel + 1) first (bs ++ '"' :: cs)
      = some (((joinUnits? ns).map String.ofList, v) :: ms, r') := by
  have hcolon : skipBlank (':' :: tail) = ':' :: tail := skipBlank_cons rfl tail
  rw [scanMembers?, skipBlank_blanks hbs rfl]
  simp only [hname, Option.bind_eq_bind, Option.bind_some, hcolon, hv, hrest, hms]
  rfl

end Members

end Containers

/-- A document is read after any blanks. -/
theorem scan?_blanks {bs : List Char} (hbs : Blank bs) {c : Char} (hc : isBlank c = false)
    (fuel : Nat) (cs : List Char) : scan? fuel (bs ++ c :: cs) = scan? fuel (c :: cs) := by
  cases fuel with
  | zero => rfl
  | succ fuel => rw [scan?, scan?, skipBlank_blanks hbs hc, skipBlank_cons hc]

/-! ### Documents in front of other text -/

/-- The text of a document at a level begins as documents do, and it is read as the document in
    front of any text that would not make a number go on. -/
structure ReadFrom (style : Style) (level : Nat) (j : Json) : Prop where
  opens : ∃ c cs, (writeAt style level j).toList = c :: cs ∧ opens c = true
  scan : ∀ fuel rest, EndsNumber rest → 2 * (writeAt style level j).toList.length ≤ fuel →
    scan? fuel ((writeAt style level j).toList ++ rest) = some (j, rest)

theorem ReadFrom.scan_gap {style : Style} {level : Nat} {j : Json} (h : ReadFrom style level j)
    {bs : List Char} (hbs : Blank bs) (fuel : Nat) {rest : List Char} (hrest : EndsNumber rest)
    (hfuel : 2 * (writeAt style level j).toList.length ≤ fuel) :
    scan? fuel (bs ++ ((writeAt style level j).toList ++ rest)) = some (j, rest) := by
  have hscan := h.scan fuel rest hrest hfuel
  obtain ⟨c, cs, htext, hc⟩ := h.opens
  rw [htext] at hscan ⊢
  rw [List.cons_append] at hscan ⊢
  rw [scan?_blanks hbs (isBlank_of_opens hc), hscan]

section Containers

variable {style : Style} {level : Nat} {close : List Char}

/-- **The items of an array**, from any of them on, are read up to the closing bracket. -/
theorem scanItems?_items (hclose : Blank close) {v : Json} {vs : List Json}
    (h : ∀ w ∈ v :: vs, ReadFrom style level w) (first : Bool) (fuel : Nat) (rest : List Char)
    (hfuel : 2 * ((writeAt style level v).toList.length
      + (writeItems style level vs).toList.length + 1) ≤ fuel) :
    scanItems? fuel first ((style.newline level).toList ++ ((writeAt style level v).toList
        ++ ((writeItems style level vs).toList ++ (close ++ ']' :: rest))))
      = some (v :: vs, rest) := by
  -- by induction on the items that follow
  induction vs generalizing v first fuel with
  | nil =>
    obtain ⟨fuel, rfl⟩ : ∃ n, fuel = n + 1 := ⟨fuel - 1, by omega⟩
    have hv := h v (by simp)
    obtain ⟨c, cs, htext, hc⟩ := hv.opens
    have hscan := hv.scan fuel (close ++ ']' :: rest) (endsNumber_blanks hclose rfl rest) (by omega)
    show scanItems? (fuel + 1) first (_ ++ (_ ++ (close ++ ']' :: rest))) = _
    rw [htext] at hscan ⊢
    exact scanItems?_last (blank_newline style level) hc hscan (skipBlank_blanks hclose rfl rest)
      first
  | cons w ws ih =>
    obtain ⟨fuel, rfl⟩ : ∃ n, fuel = n + 1 := ⟨fuel - 1, by omega⟩
    have hv := h v (by simp)
    obtain ⟨c, cs, htext, hc⟩ := hv.opens
    rw [toList_items, List.length_cons, List.length_append, List.length_append] at hfuel
    have hmore := ih (v := w) (fun u hu => h u (List.mem_cons_of_mem _ hu)) false fuel (by omega)
    rw [toList_items]
    simp only [List.cons_append, List.append_assoc]
    have hscan := hv.scan fuel (',' :: ((style.newline level).toList
      ++ ((writeAt style level w).toList ++ ((writeItems style level ws).toList
        ++ (close ++ ']' :: rest))))) (endsNumber_cons rfl _) (by omega)
    rw [htext, List.cons_append] at hscan ⊢
    exact scanItems?_more (blank_newline style level) hc hscan (skipBlank_cons rfl _) hmore first

/-- **The members of an object**, from any of them on, are read up to the closing brace. -/
theorem scanMembers?_members (hclose : Blank close) {m : Option String × Json}
    {ms : List (Option String × Json)}
    (h : ∀ n ∈ m :: ms, n.1.isSome = true ∧ ReadFrom style level n.2) (first : Bool) (fuel : Nat)
    (rest : List Char)
    (hfuel : 2 * (writeMembers style level true (m :: ms)).toList.length ≤ fuel) :
    scanMembers? fuel first
        ((writeMembers style level true (m :: ms)).toList ++ (close ++ '\x7d' :: rest))
      = some (m :: ms, rest) := by
  -- by induction on the members that follow
  induction ms generalizing m first fuel with
  | nil =>
    obtain ⟨name, v⟩ := m
    have hv : ReadFrom style level v := (h (name, v) (by simp)).2
    obtain ⟨name, rfl⟩ := Option.isSome_iff_exists.mp (h (name, v) (by simp)).1
    have hlast : (writeMembers style level false []).toList = [] := rfl
    simp only [toList_members, hlast, List.append_nil, List.append_assoc, List.cons_append,
      List.length_append, List.length_cons] at hfuel ⊢
    obtain ⟨fuel, rfl⟩ : ∃ n, fuel = n + 1 := ⟨fuel - 1, by omega⟩
    have hscan := hv.scan_gap (blank_gap style) fuel
      (endsNumber_blanks hclose (c := '\x7d') rfl rest) (by omega)
    obtain ⟨cs, ns, htext, hread, hjoin⟩ := scanString?_stringText style.asciiOnly name
      (':' :: (style.gap ++ ((writeAt style level v).toList ++ (close ++ '\x7d' :: rest))))
    rw [htext, List.cons_append, scanMembers?_last (blank_newline style level) hread hscan
      (skipBlank_blanks hclose rfl rest) first, hjoin]
  | cons n ns ih =>
    obtain ⟨name, v⟩ := m
    have hv : ReadFrom style level v := (h (name, v) (by simp)).2
    obtain ⟨name, rfl⟩ := Option.isSome_iff_exists.mp (h (name, v) (by simp)).1
    simp only [toList_members, toList_laterMembers, List.append_assoc, List.cons_append,
      List.length_append, List.length_cons] at hfuel ⊢
    obtain ⟨fuel, rfl⟩ : ∃ n, fuel = n + 1 := ⟨fuel - 1, by omega⟩
    have hmore := ih (m := n) (fun u hu => h u (List.mem_cons_of_mem _ hu)) false fuel (by omega)
    have hscan := hv.scan_gap (blank_gap style) fuel
      (endsNumber_cons (c := ',') rfl ((writeMembers style level true (n :: ns)).toList
        ++ (close ++ '\x7d' :: rest))) (by omega)
    obtain ⟨cs, us, htext, hread, hjoin⟩ := scanString?_stringText style.asciiOnly name
      (':' :: (style.gap ++ ((writeAt style level v).toList
        ++ (',' :: ((writeMembers style level true (n :: ns)).toList
          ++ (close ++ '\x7d' :: rest))))))
    rw [htext, List.cons_append, scanMembers?_more (blank_newline style level) hread hscan
      (skipBlank_cons rfl _) hmore first, hjoin]

end Containers

/-! ### Scalars in front of other text -/

theorem scanWord?_append (word : String) (v : Json) (rest : List Char) :
    scanWord? word v (word.toList ++ rest) = some (v, rest) := by
  have hlength : word.length = word.toList.length := String.length_toList.symm
  rw [scanWord?, if_pos (List.isPrefixOf_iff_prefix.mpr (List.prefix_append _ _)), hlength,
    List.drop_left]

/-- A text that is read as a number. -/
theorem readFrom_number {style : Style} {level : Nat} {j : Json}
    (h : scanNumber? (writeAt style level j).toList = some (j, [])) : ReadFrom style level j := by
  cases htext : (writeAt style level j).toList with
  | nil =>
    rw [htext] at h
    cases h
  | cons c cs =>
    rw [htext] at h
    have hc : opensNumber c = true := opensNumber_of_scanNumber? h
    refine ⟨⟨c, cs, htext, by simp [opens, hc]⟩, fun fuel rest hrest hfuel => ?_⟩
    rw [htext] at hfuel ⊢
    obtain ⟨fuel, rfl⟩ : ∃ n, fuel = n + 1 := ⟨fuel - 1, by simp at hfuel; omega⟩
    rw [List.cons_append, scan?_number hc]
    exact scanNumber?_append hrest h

/-- A text that is one of the three words. -/
theorem readFrom_word {style : Style} {level : Nat} {j : Json} (word : String) {c : Char}
    {cs : List Char} (htext : writeAt style level j = word) (hword : word.toList = c :: cs)
    (hc : opens c = true)
    (hscan : ∀ fuel tail, scan? (fuel + 1) (c :: tail) = scanWord? word j (c :: tail)) :
    ReadFrom style level j := by
  refine ⟨⟨c, cs, by rw [htext, hword], hc⟩, fun fuel rest _ hfuel => ?_⟩
  rw [htext, hword] at hfuel
  obtain ⟨fuel, rfl⟩ : ∃ n, fuel = n + 1 := ⟨fuel - 1, by simp at hfuel; omega⟩
  have hread := scanWord?_append word j rest
  rw [hword, List.cons_append, ← hscan fuel] at hread
  rw [htext, hword, List.cons_append]
  exact hread

theorem readFrom_string (style : Style) (level : Nat) (s : String) :
    ReadFrom style level (str s) := by
  obtain ⟨cs, _, htext, _⟩ := scanString?_stringText style.asciiOnly s []
  have htext : (writeAt style level (str s)).toList = '"' :: cs := htext
  refine ⟨⟨'"', cs, htext, rfl⟩, fun fuel rest _ hfuel => ?_⟩
  rw [htext] at hfuel
  obtain ⟨fuel, rfl⟩ : ∃ n, fuel = n + 1 := ⟨fuel - 1, by simp at hfuel; omega⟩
  obtain ⟨ds, ns, hds, hread, hjoin⟩ := scanString?_stringText style.asciiOnly s rest
  have hds : (writeAt style level (str s)).toList = '"' :: ds := hds
  rw [hds, List.cons_append, scan?, skipBlank_cons rfl]
  simp only [hread, Option.map_some, hjoin]
  rfl

/-- A finite float is no word but a number. -/
theorem readFrom_real (style : Style) (level : Nat) {f : Float} (hf : f.isFinite = true) :
    ReadFrom style level (real f) := by
  refine readFrom_number ?_
  rw [writeAt, if_pos hf]
  exact scanNumber?_writeFinite hf

/-! ### Arrays and objects in front of other text -/

theorem readFrom_array {style : Style} {level : Nat} {items : List Json}
    (h : ∀ v ∈ items, ReadFrom style (level + 1) v) : ReadFrom style level (array items) := by
  cases items with
  | nil =>
    have htext : (writeAt style level (array [])).toList = ['[', ']'] := by
      rw [writeAt]
      rfl
    refine ⟨⟨'[', [']'], htext, rfl⟩, fun fuel rest _ hfuel => ?_⟩
    rw [htext] at hfuel ⊢
    obtain ⟨fuel, rfl⟩ : ∃ n, fuel = n + 2 := ⟨fuel - 2, by simp at hfuel; omega⟩
    rfl
  | cons v vs =>
    refine ⟨⟨'[', _, toList_array style level v vs, rfl⟩, fun fuel rest _ hfuel => ?_⟩
    rw [toList_array] at hfuel ⊢
    simp only [List.length_cons, List.length_append] at hfuel
    obtain ⟨fuel, rfl⟩ : ∃ n, fuel = n + 1 := ⟨fuel - 1, by omega⟩
    have hread := scanItems?_items (blank_newline style level) h true fuel rest (by omega)
    simp only [List.cons_append, List.append_assoc, List.nil_append]
    rw [scan?, skipBlank_cons rfl]
    simp only [hread, Option.map_some]

theorem readFrom_object {style : Style} {level : Nat} {members : List (Option String × Json)}
    (h : ∀ m ∈ members, m.1.isSome = true ∧ ReadFrom style (level + 1) m.2) :
    ReadFrom style level (object members) := by
  cases members with
  | nil =>
    have htext : (writeAt style level (object [])).toList = ['\x7b', '\x7d'] := by
      rw [writeAt]
      rfl
    refine ⟨⟨'\x7b', ['\x7d'], htext, rfl⟩, fun fuel rest _ hfuel => ?_⟩
    rw [htext] at hfuel ⊢
    obtain ⟨fuel, rfl⟩ : ∃ n, fuel = n + 2 := ⟨fuel - 2, by simp at hfuel; omega⟩
    rfl
  | cons m ms =>
    refine ⟨⟨'\x7b', _, toList_object style level m ms, rfl⟩, fun fuel rest _ hfuel => ?_⟩
    rw [toList_object] at hfuel ⊢
    simp only [List.length_cons, List.length_append] at hfuel
    obtain ⟨fuel, rfl⟩ : ∃ n, fuel = n + 1 := ⟨fuel - 1, by omega⟩
    have hread := scanMembers?_members (blank_newline style level) h true fuel rest (by omega)
    simp only [List.cons_append, List.append_assoc, List.nil_append]
    rw [scan?, skipBlank_cons rfl]
    simp only [hread, Option.map_some]

/-! ### Whole documents -/

/-- **Every writable document** is read at every level and in every style. -/
theorem readFrom_writable (style : Style) {j : Json} (h : Writable j) :
    ∀ level, ReadFrom style level j := by
  induction h with
  | null => exact fun level => readFrom_word "null" rfl rfl rfl (fun _ _ => rfl)
  | bool b =>
    intro level
    cases b with
    | true => exact readFrom_word "true" rfl rfl rfl (fun _ _ => rfl)
    | false => exact readFrom_word "false" rfl rfl rfl (fun _ _ => rfl)
  | int hlow hhigh => exact fun level => readFrom_number (scanNumber?_int hlow hhigh)
  | real hf => exact fun level => readFrom_real style level hf
  | str s => exact fun level => readFrom_string style level s
  | array _ ih => exact fun level => readFrom_array fun v hv => ih v hv (level + 1)
  | object hnames _ ih =>
    exact fun level => readFrom_object fun m hm => ⟨hnames m hm, ih m hm (level + 1)⟩

/-- **Reading the text of a document** gives it back, in every style. -/
theorem parse?_write (style : Style) {j : Json} (h : Writable j) :
    parse? (j.write style) = some j := by
  have hscan := (readFrom_writable style h 0).scan (2 * (j.write style).toList.length + 2) []
    (fun c hc => by cases hc) (by rw [write]; omega)
  rw [List.append_nil] at hscan
  simp only [parse?, write] at hscan ⊢
  rw [hscan]
  rfl

/-- **The layer of a style** reads back what it writes, whatever the nesting. -/
theorem Layer.readsBack_ofStyle (style : Style) : (ofStyle style).ReadsBack :=
  fun _ hj _ => parse?_write style hj

end GuardErasure.Json
