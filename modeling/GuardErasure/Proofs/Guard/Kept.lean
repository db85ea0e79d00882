import GuardErasure.Proofs.Guard.Removed

namespace GuardErasure

/-!
# The choices that the pass keeps

Whatever choice is in the tree that the pass leaves was a choice before, kept by the pass around
parts that were swept:

* `Kept`, `kept` — the choices that the pass keeps, each as it was and with the mode in which it
  was met;
* `node_of_mem_kept` — what is kept is no guard, and inside of guards no choice on null;
* `choices_swept` — the choices that are left are the kept ones, with their parts swept;
* `swept_eq_self_iff` — outside of guards the pass leaves a tree as it is exactly if there is no
  guard in it;
* `Expr.mayGiveWay`, `swept_inside_eq_self` — inside of guards it leaves a tree as it is if none of
  the nodes may give way there.
-/

/-- May a node give way inside a guard?  A choice, a conversion to a nullable truth value and a test
    for not-null may. -/
def Expr.mayGiveWay : Expr → Bool
  | .cond .. => true
  | .unary .convert _ t => t.isOptionBool
  | .binary .notEqual left right _ => left.isNullLiteral || right.isNullLiteral
  | _ => false

namespace Shape

variable {s : Shape} {inside : Bool}

/-- A choice that the pass keeps. -/
structure Kept where
  /-- Was it met inside a guard? -/
  inside : Bool
  test : Expr
  ifTrue : Expr
  ifFalse : Expr
  ty : Ty

/-- A kept choice as it was. -/
def Kept.node (k : Kept) : Expr := .cond k.test k.ifTrue k.ifFalse k.ty

/-- What is left of a kept choice. -/
def Kept.swept (s : Shape) (k : Kept) : Expr :=
  .cond (s.swept k.inside k.test) (s.swept k.inside k.ifTrue) (s.swept k.inside k.ifFalse) k.ty

mutual

/-- The choices of a tree that the pass keeps. -/
def kept (s : Shape) (inside : Bool) : Expr → List Kept
  | .member owner _ _ => kept s inside owner
  | .callOn receiver _ args _ => kept s inside receiver ++ keptArgs s inside args
  | .call _ args _ => keptArgs s inside args
  | .unary _ operand _ => kept s inside operand
  | .binary op left right _ =>
    if inside then
      if s.drops true left then kept s true right
      else if s.drops true right then kept s true left
      else if s.isCompanion op left right then []
      else kept s true left ++ kept s true right
    else kept s false left ++ kept s false right
  | .cond test ifTrue ifFalse t =>
    match s.guard? test ifTrue ifFalse with
    | some _ => kept s true ifFalse
    | none =>
      if inside ∧ test.isNullCheck then kept s true ifFalse
      else
        ⟨inside, test, ifTrue, ifFalse, t⟩
          :: (kept s inside test ++ kept s inside ifTrue ++ kept s inside ifFalse)
  | .lambda _ body => kept s inside body
  | .const .. | .param .. | .root .. | .source .. | .foreign .. => []

/-- The choices of several trees that the pass keeps. -/
def keptArgs (s : Shape) (inside : Bool) : List Expr → List Kept
  | [] => []
  | e :: es => kept s inside e ++ keptArgs s inside es

end

/-! ### Kept choices, node by node -/

theorem kept_leaf {e : Expr} (h : e.isLeaf = true) : s.kept inside e = [] := by
  cases e <;> first | rfl | exact absurd h (by simp [Expr.isLeaf])

theorem kept_member (owner : Expr) (n : MemberName) (t : Ty) :
    s.kept inside (.member owner n t) = s.kept inside owner := rfl

theorem kept_unary (op : UnOp) (operand : Expr) (t : Ty) :
    s.kept inside (.unary op operand t) = s.kept inside operand := rfl

theorem kept_lambda (params : List String) (body : Expr) :
    s.kept inside (.lambda params body) = s.kept inside body := rfl

theorem keptArgs_eq_flatMap (args : List Expr) :
    s.keptArgs inside args = args.flatMap (s.kept inside) := by
  induction args with
  | nil => rfl
  | cons a as ih =>
    rw [List.flatMap_cons, ← ih]
    rfl

theorem kept_call (m : Method) (args : List Expr) (t : Ty) :
    s.kept inside (.call m args t) = args.flatMap (s.kept inside) :=
  keptArgs_eq_flatMap args

theorem kept_callOn (receiver : Expr) (m : Method) (args : List Expr) (t : Ty) :
    s.kept inside (.callOn receiver m args t)
      = s.kept inside receiver ++ args.flatMap (s.kept inside) :=
  congrArg (s.kept inside receiver ++ ·) (keptArgs_eq_flatMap args)

theorem kept_outside (op : BinOp) (left right : Expr) (t : Ty) :
    s.kept false (.binary op left right t) = s.kept false left ++ s.kept false right := rfl

section Inside

variable {op : BinOp} {left right : Expr} {t : Ty}

theorem kept_inside :
    s.kept true (.binary op left right t) =
      if s.drops true left then s.kept true right
      else if s.drops true right then s.kept true left
      else if s.isCompanion op left right then []
      else s.kept true left ++ s.kept true right := rfl

theorem kept_leftDropped (hl : s.drops true left = true) :
    s.kept true (.binary op left right t) = s.kept true right := by
  rw [kept_inside, if_pos hl]

theorem kept_rightDropped (hl : s.drops true left = false) (hr : s.drops true right = true) :
    s.kept true (.binary op left right t) = s.kept true left := by
  rw [kept_inside, if_neg (by simp [hl]), if_pos hr]

theorem kept_companion (hl : s.drops true left = false) (hr : s.drops true right = false)
    (hc : s.isCompanion op left right = true) : s.kept true (.binary op left right t) = [] := by
  rw [kept_inside, if_neg (by simp [hl]), if_neg (by simp [hr]), if_pos hc]

theorem kept_bothLeft (hl : s.drops true left = false) (hr : s.drops true right = false)
    (hc : s.isCompanion op left right = false) :
    s.kept true (.binary op left right t) = s.kept true left ++ s.kept true right := by
  rw [kept_inside, if_neg (by simp [hl]), if_neg (by simp [hr]), if_neg (by simp [hc])]

end Inside

section Choice

variable {test ifTrue ifFalse path : Expr} {t : Ty}

theorem kept_at_cond :
    s.kept inside (.cond test ifTrue ifFalse t) =
      match s.guard? test ifTrue ifFalse with
      | some _ => s.kept true ifFalse
      | none =>
        if inside ∧ test.isNullCheck then s.kept true ifFalse
        else
          ⟨inside, test, ifTrue, ifFalse, t⟩
            :: (s.kept inside test ++ s.kept inside ifTrue ++ s.kept inside ifFalse) := rfl

theorem kept_guard {part : Part} (h : s.guard? test ifTrue ifFalse = some (path, part)) :
    s.kept inside (.cond test ifTrue ifFalse t) = s.kept true ifFalse := by
  rw [kept_at_cond, h]

theorem kept_collapsed (h : s.guard? test ifTrue ifFalse = none)
    (hnull : test.isNullCheck = true) :
    s.kept true (.cond test ifTrue ifFalse t) = s.kept true ifFalse := by
  rw [kept_at_cond, h]
  exact if_pos ⟨rfl, hnull⟩

theorem kept_cond (h : s.guard? test ifTrue ifFalse = none)
    (hkeep : ¬(inside = true ∧ test.isNullCheck = true)) :
    s.kept inside (.cond test ifTrue ifFalse t) =
      ⟨inside, test, ifTrue, ifFalse, t⟩
        :: (s.kept inside test ++ s.kept inside ifTrue ++ s.kept inside ifFalse) := by
  rw [kept_at_cond, h]
  exact if_neg hkeep

end Choice

/-! ### What is kept -/

/-- **What is kept** is a choice of the tree, and nothing that the pass lets give way: no guard,
    and inside of guards no choice on null. -/
theorem node_of_mem_kept {e : Expr} {k : Kept} (h : k ∈ s.kept inside e) :
    k.node ∈ e.choices ∧ s.isGuard k.node = false
      ∧ ¬(k.inside = true ∧ k.test.isNullCheck = true) := by
  induction inside, e using s.inductSwept with
  | leaf _ e he =>
    rw [kept_leaf he] at h
    cases h
  | member _ owner n t ih =>
    rw [Expr.choices_member]
    exact ih h
  | lambda _ params body ih =>
    rw [Expr.choices_lambda]
    exact ih h
  | unary _ op operand t hu ih =>
    rw [Expr.choices_unary]
    exact ih h
  | stripped operand t ht ih =>
    rw [Expr.choices_unary]
    exact ih h
  | call _ m args t ih =>
    rw [kept_call, List.mem_flatMap] at h
    obtain ⟨a, ha, hk⟩ := h
    rw [Expr.choices_call, List.mem_flatMap]
    exact (ih a ha hk).imp_left (fun hn => ⟨a, ha, hn⟩)
  | callOn _ receiver m args t ihr ih =>
    rw [kept_callOn, List.mem_append, List.mem_flatMap] at h
    rw [Expr.choices_callOn, List.mem_append, List.mem_flatMap]
    rcases h with hk | ⟨a, ha, hk⟩
    · exact (ihr hk).imp_left Or.inl
    · exact (ih a ha hk).imp_left (fun hn => .inr ⟨a, ha, hn⟩)
  | outside op left right t ihl ihr =>
    rw [kept_outside, List.mem_append] at h
    rw [Expr.choices_binary, List.mem_append]
    rcases h with hk | hk
    · exact (ihl hk).imp_left Or.inl
    · exact (ihr hk).imp_left Or.inr
  | leftDropped op left right t hl _ ihr =>
    rw [kept_leftDropped hl] at h
    rw [Expr.choices_binary, List.mem_append]
    exact (ihr h).imp_left Or.inr
  | rightDropped op left right t hl hr ihl _ =>
    rw [kept_rightDropped hl hr] at h
    rw [Expr.choices_binary, List.mem_append]
    exact (ihl h).imp_left Or.inl
  | companion op left right t hl hr hc =>
    rw [kept_companion hl hr hc] at h
    cases h
  | bothLeft op left right t hl hr hc ihl ihr =>
    rw [kept_bothLeft hl hr hc, List.mem_append] at h
    rw [Expr.choices_binary, List.mem_append]
    rcases h with hk | hk
    · exact (ihl hk).imp_left Or.inl
    · exact (ihr hk).imp_left Or.inr
  | ownerGuard _ test ifTrue owner u t path hg ih =>
    rw [kept_guard hg, kept_member] at h
    rw [Expr.choices_cond, Expr.choices_member, List.mem_cons, List.mem_append]
    exact (ih h).imp_left (fun hn => .inr (.inr hn))
  | wholeGuard _ test ifTrue ifFalse t path hg ih =>
    rw [kept_guard hg] at h
    rw [Expr.choices_cond, List.mem_cons, List.mem_append]
    exact (ih h).imp_left (fun hn => .inr (.inr hn))
  | collapsed test ifTrue ifFalse t hg hnull ih =>
    rw [kept_collapsed hg hnull] at h
    rw [Expr.choices_cond, List.mem_cons, List.mem_append]
    exact (ih h).imp_left (fun hn => .inr (.inr hn))
  | cond inside test ifTrue ifFalse t hg hkeep iha ihb ihc =>
    rw [kept_cond hg hkeep, List.mem_cons, List.mem_append, List.mem_append] at h
    rw [Expr.choices_cond, List.mem_cons, List.mem_append, List.mem_append]
    rcases h with rfl | (hk | hk) | hk
    · -- the choice itself: its guard has been looked for, and its test
      refine ⟨.inl rfl, ?_, hkeep⟩
      show (s.guard? test ifTrue ifFalse).isSome = false
      rw [hg]
      rfl
    · exact (iha hk).imp_left (fun hn => .inr (.inl (.inl hn)))
    · exact (ihb hk).imp_left (fun hn => .inr (.inl (.inr hn)))
    · exact (ihc hk).imp_left (fun hn => .inr (.inr hn))

/-! ### The choices that are left -/

/-- What is kept of arguments, given what is kept of each. -/
theorem flatMap_choices_swept {args : List Expr}
    (h : ∀ a ∈ args, (s.swept inside a).choices = (s.kept inside a).map (Kept.swept s)) :
    (args.map (s.swept inside)).flatMap Expr.choices
      = (args.flatMap (s.kept inside)).map (Kept.swept s) := by
  rw [List.flatMap_map, List.map_flatMap, List.flatMap_def, List.flatMap_def]
  exact congrArg List.flatten (List.map_congr_left h)

/-- **The choices that are left** of a tree are the kept ones, with their parts swept. -/
theorem choices_swept (s : Shape) (inside : Bool) (e : Expr) :
    (s.swept inside e).choices = (s.kept inside e).map (Kept.swept s) := by
  -- the cases in which a node gives way are those of its part, in the mode of the part
  induction inside, e using s.inductSwept with
  | leaf _ e he => rw [swept_leaf he, kept_leaf he, Expr.choices_leaf he, List.map_nil]
  | member _ owner n t ih => rw [swept_member, Expr.choices_member, kept_member, ih]
  | lambda _ params body ih => rw [swept_lambda, Expr.choices_lambda, kept_lambda, ih]
  | call _ m args t ih =>
    rw [swept_call, Expr.choices_call, kept_call, flatMap_choices_swept ih]
  | callOn _ receiver m args t ihr ih =>
    rw [swept_callOn, Expr.choices_callOn, kept_callOn, ihr, flatMap_choices_swept ih,
      List.map_append]
  | unary _ op operand t hu ih => rw [swept_unary hu, Expr.choices_unary, kept_unary, ih]
  | stripped operand t ht ih => rw [(givesWay_stripped ht).1, kept_unary, ih]
  | outside op left right t ihl ihr =>
    obtain ⟨t', ht'⟩ := swept_outside (s := s) op left right t
    -- the stored type may be another one, but it is no choice
    rw [ht', Expr.choices_binary, kept_outside, ihl, ihr, List.map_append]
  | leftDropped op left right t hl _ ihr =>
    rw [(givesWay_leftDropped hl).1, kept_leftDropped hl, ihr]
  | rightDropped op left right t hl hr ihl _ =>
    rw [(givesWay_rightDropped hl hr).1, kept_rightDropped hl hr, ihl]
  | companion op left right t hl hr hc =>
    rw [swept_of_drops (drops_companion hl hr hc), kept_companion hl hr hc]
    rfl
  | bothLeft op left right t hl hr hc ihl ihr =>
    obtain ⟨t', ht'⟩ := swept_inside (t := t) hl hr hc
    rw [ht', Expr.choices_binary, kept_bothLeft hl hr hc, ihl, ihr, List.map_append]
  | ownerGuard _ test ifTrue owner u t path hg ih =>
    rw [(givesWay_ownerGuard hg).1, kept_guard hg, kept_member, ih]
  | wholeGuard _ test ifTrue ifFalse t path hg ih =>
    rw [(givesWay_wholeGuard hg).1, kept_guard hg, ih]
  | collapsed test ifTrue ifFalse t hg hnull ih =>
    rw [(givesWay_collapsed hg hnull).1, kept_collapsed hg hnull, ih]
  | cond _ test ifTrue ifFalse t hg hkeep iha ihb ihc =>
    rw [swept_cond hg hkeep, Expr.choices_cond, kept_cond hg hkeep, iha, ihb, ihc,
      List.map_cons, List.map_append, List.map_append]
    rfl

/-! ### Trees that the pass leaves alone -/

theorem sweepArgs_eq_none {args : List Expr}
    (h : ∀ a ∈ args, (s.sweep inside a).change = .keep) : (s.sweepArgs inside args).1 = none := by
  induction args with
  | nil => rfl
  | cons a as ih =>
    have ha : (s.sweep inside a).change = .keep := h a (by simp)
    have has := ih (fun b hb => h b (by simp [hb]))
    show Change.consArg a (s.sweep inside a).change as (s.sweepArgs inside as).1 = none
    rw [ha, has]
    rfl

/-- Outside of guards a tree without a guard stays, node by node. -/
theorem sweep_eq_keep {e : Expr} (h : ∀ n ∈ e.choices, s.isGuard n = false) :
    (s.sweep false e).change = .keep := by
  induction e with
  | const | param | root | source | foreign => rfl
  | member owner n t ih =>
    rw [Expr.choices_member] at h
    show Change.inParent (s.sweep false owner).change _ = _
    rw [ih h]
    rfl
  | lambda params body ih =>
    rw [Expr.choices_lambda] at h
    show Change.inParent (s.sweep false body).change _ = _
    rw [ih h]
    rfl
  | unary op operand t ih =>
    rw [Expr.choices_unary] at h
    rw [sweep_unary, if_neg (by simp)]
    show Change.inParent (s.sweep false operand).change _ = _
    rw [ih h]
    rfl
  | binary op left right t ihl ihr =>
    rw [Expr.choices_binary, List.forall_mem_append] at h
    show Change.inBinary op left right (s.sweep false left).change (s.sweep false right).change = _
    rw [ihl h.1, ihr h.2]
    rfl
  | call m args t ih =>
    rw [Expr.choices_call, List.forall_mem_flatMap] at h
    show Change.inCall m t (s.sweepArgs false args).1 = _
    rw [sweepArgs_eq_none (fun a ha => ih a ha (h a ha))]
    rfl
  | callOn receiver m args t ihr ih =>
    rw [Expr.choices_callOn, List.forall_mem_append, List.forall_mem_flatMap] at h
    show Change.inCallOn receiver m args t (s.sweep false receiver).change
      (s.sweepArgs false args).1 = _
    rw [ihr h.1, sweepArgs_eq_none (fun a ha => ih a ha (h.2 a ha))]
    rfl
  | cond test ifTrue ifFalse t iha ihb ihc =>
    rw [Expr.choices_cond, List.forall_mem_cons, List.forall_mem_append,
      List.forall_mem_append] at h
    obtain ⟨hg, ⟨ha, hb⟩, hc⟩ := h
    rw [sweep_cond, guard?_eq_none hg]
    show Change.inCond test ifTrue ifFalse t (s.sweep false test).change
      (s.sweep false ifTrue).change (s.sweep false ifFalse).change = _
    rw [iha ha, ihb hb, ihc hc]
    rfl

/-- **Fixed points.**  Outside of guards the pass leaves a tree as it is exactly if there is no
    guard in it. -/
theorem swept_eq_self_iff (s : Shape) (e : Expr) :
    s.swept false e = e ↔ ∀ n ∈ e.choices, s.isGuard n = false := by
  refine ⟨fun h => ?_, fun h => congrArg (Change.result e) (sweep_eq_keep h)⟩
  -- a guard that is removed would have made the tree smaller
  have hle := size_swept_add_removed_le s false e
  rw [h] at hle
  exact (removed_eq_zero_iff s e).mp (by omega)

/-- Inside of guards a tree of which no node may give way stays, node by node. -/
theorem sweep_inside_eq_keep {e : Expr} (h : ∀ n ∈ e.nodes, n.mayGiveWay = false) :
    (s.sweep true e).change = .keep := by
  induction e with
  | const | param | root | source | foreign => rfl
  | member owner n t ih =>
    obtain ⟨-, howner⟩ := List.forall_mem_cons.mp h
    show Change.inParent (s.sweep true owner).change _ = _
    rw [ih howner]
    rfl
  | lambda params body ih =>
    obtain ⟨-, hbody⟩ := List.forall_mem_cons.mp h
    show Change.inParent (s.sweep true body).change _ = _
    rw [ih hbody]
    rfl
  | unary op operand t ih =>
    obtain ⟨hself, hoperand⟩ := List.forall_mem_cons.mp h
    have hop : ¬(true = true ∧ op = .convert ∧ t.isOptionBool = true) := by
      rintro ⟨-, rfl, ht⟩
      exact Bool.false_ne_true (hself.symm.trans ht)
    rw [sweep_unary, if_neg hop]
    show Change.inParent (s.sweep true operand).change _ = _
    rw [ih hoperand]
    rfl
  | binary op left right t ihl ihr =>
    obtain ⟨hself, hparts⟩ := List.forall_mem_cons.mp h
    obtain ⟨hleft, hright⟩ := List.forall_mem_append.mp hparts
    have hop : ¬(op = .notEqual ∧
        (left.isNullLiteral = true ∨ right.isNullLiteral = true)) := by
      rintro ⟨rfl, hnull⟩
      exact Bool.eq_false_iff.mp hself (Bool.or_eq_true_iff.mpr hnull)
    rw [sweep_inside, Sweep.inBinary, ihl hleft, ihr hright]
    exact congrArg Sweep.change (if_neg hop)
  | call m args t ih =>
    obtain ⟨-, hargs⟩ := List.forall_mem_cons.mp h
    rw [Expr.nodesOf_eq_flatMap, List.forall_mem_flatMap] at hargs
    show Change.inCall m t (s.sweepArgs true args).1 = _
    rw [sweepArgs_eq_none (fun a ha => ih a ha (hargs a ha))]
    rfl
  | callOn receiver m args t ihr ih =>
    obtain ⟨-, hparts⟩ := List.forall_mem_cons.mp h
    obtain ⟨hreceiver, hargs⟩ := List.forall_mem_append.mp hparts
    rw [Expr.nodesOf_eq_flatMap, List.forall_mem_flatMap] at hargs
    show Change.inCallOn receiver m args t (s.sweep true receiver).change
      (s.sweepArgs true args).1 = _
    rw [ihr hreceiver, sweepArgs_eq_none (fun a ha => ih a ha (hargs a ha))]
    rfl
  | cond test ifTrue ifFalse t =>
    obtain ⟨hself, -⟩ := List.forall_mem_cons.mp h
    cases hself

/-- Inside of guards the pass leaves a tree of which no node may give way as it is. -/
theorem swept_inside_eq_self {e : Expr} (h : ∀ n ∈ e.nodes, n.mayGiveWay = false) :
    s.swept true e = e := congrArg (Change.result e) (sweep_inside_eq_keep h)

end Shape

end GuardErasure
