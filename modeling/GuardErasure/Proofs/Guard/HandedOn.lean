import GuardErasure.Proofs.Guard.Alike
import GuardErasure.Proofs.Rules.Removal

namespace GuardErasure

/-!
# The run that is handed on

A run of the pass is one thing that goes through all the nodes of a tree, and from there on to the
next tree.  On its way into a guard it counts and is inside from then on, and on its way out it has to
be again where it was.

* `walk` — the pass as it is told of the run: each part takes it over from the part before;
* `walk_eq` — the run comes back as it went, but for its count, whatever guards it was in;
* `eraseAll_eq` — so of several trees each is erased as if it were the only one;
* `eraseAll_as_alone` — all of this together, and in whatever order the trees come.
-/

namespace Eraser

/-! ### On the way -/

/-- The run with more guards on its count. -/
def counting (r : Eraser) (k : Nat) : Eraser := { r with removed := r.removed + k }

/-- The run on its way into a guard, which it counts. -/
def enter (r : Eraser) : Eraser := { r with inside := true, removed := r.removed + 1 }

/-- The run on its way out of a guard: it is inside of one still if it was before. -/
def leave (r before : Eraser) : Eraser := { r with inside := before.inside }

/-- The same run with nothing on its count. -/
def anew (r : Eraser) : Eraser := { r with removed := 0 }

theorem shape_counting (r : Eraser) (k : Nat) : (r.counting k).shape = r.shape := rfl

theorem inside_counting (r : Eraser) (k : Nat) : (r.counting k).inside = r.inside := rfl

theorem counting_counting (r : Eraser) (j k : Nat) :
    (r.counting j).counting k = r.counting (j + k) := by
  simp only [counting, Nat.add_assoc]

/-- What was counted inside a guard stays on the count, after the guard itself. -/
theorem leave_counting_enter (r : Eraser) (k : Nat) :
    (r.enter.counting k).leave r = r.counting (k + 1) := by
  simp only [leave, counting, enter, Nat.add_assoc, Nat.add_comm 1]

/-! ### From node to node -/

mutual

/-- What becomes of a tree, and the run when it is through with it.  Each part of a node takes the run
    over from the part before. -/
def walk (r : Eraser) : Expr → Change × Eraser
  | .member owner name t =>
    let (c, r) := walk r owner
    (c.inParent (.member · name t), r)
  | .callOn receiver m args t =>
    let (c, r) := walk r receiver
    let (newArgs, r) := walkArgs r args
    (.inCallOn receiver m args t c newArgs, r)
  | .call m args t =>
    let (newArgs, r) := walkArgs r args
    (.inCall m t newArgs, r)
  | .unary op operand t =>
    let (c, r') := walk r operand
    if r.inside ∧ op = .convert ∧ t.isOptionBool then (c.inPlaceOf operand, r')
    else (c.inParent (.unary op · t), r')
  | .binary op left right _ =>
    let (c, r₁) := walk r left
    let (d, r₂) := walk r₁ right
    if r.inside then ((Sweep.inBinary op left right ⟨c, []⟩ ⟨d, []⟩).change, r₂)
    else (.inBinary op left right c d, r₂)
  | .cond test ifTrue ifFalse t =>
    match r.shape.guard? test ifTrue ifFalse with
    | some (_, .owner) => walkOwner r ifFalse
    | some (_, .whole) =>
      let (c, r') := walk r.enter ifFalse
      (c.inPlaceOf ifFalse, r'.leave r)
    | none =>
      if r.inside ∧ test.isNullCheck then
        let (c, r') := walk r ifFalse
        (c.inPlaceOf ifFalse, r')
      else
        let (a, r₁) := walk r test
        let (b, r₂) := walk r₁ ifTrue
        let (c, r₃) := walk r₂ ifFalse
        (.inCond test ifTrue ifFalse t a b c, r₃)
  | .lambda params body =>
    let (c, r) := walk r body
    (c.inParent (.lambda params ·), r)
  | .const .. | .param .. | .root .. | .source .. | .foreign .. => (.keep, r)

/-- The same for the owner that a member read gives way to, inside a guard. -/
def walkOwner (r : Eraser) : Expr → Change × Eraser
  | .member owner _ _ =>
    let (c, r') := walk r.enter owner
    (c.inPlaceOf owner, r'.leave r)
  | e => (.replace e, r.enter.leave r)

/-- The same for the arguments of a call, one after another. -/
def walkArgs (r : Eraser) : List Expr → Option (List Expr) × Eraser
  | [] => (none, r)
  | e :: es =>
    let (c, r₁) := walk r e
    let (rest, r₂) := walkArgs r₁ es
    (Change.consArg e c es rest, r₂)

end

/-! ### The run comes back -/

mutual

/-- **The run comes back as it went**, but for its count: it is inside a guard exactly if it was, it
    has counted what the pass removes, and what becomes of the tree is what the pass makes of it. -/
theorem walk_eq (r : Eraser) (e : Expr) :
    r.walk e = ((r.shape.sweep r.inside e).change, r.counting (r.shape.removed r.inside e)) := by
  cases e with
  | const | param | root | source | foreign => rfl
  | member owner n t =>
    rw [walk, walk_eq r owner]
    rfl
  | lambda params body =>
    rw [walk, walk_eq r body]
    rfl
  | call m args t =>
    rw [walk, walkArgs_eq r args, Shape.removed_call]
    rfl
  | callOn receiver m args t =>
    rw [walk, walk_eq r receiver]
    dsimp only
    rw [walkArgs_eq, counting_counting, Shape.removed_callOn]
    rfl
  | unary op operand t =>
    rw [walk, walk_eq r operand, Shape.sweep_unary, Shape.removed_unary]
    dsimp only
    by_cases h : r.inside ∧ op = .convert ∧ t.isOptionBool
    · rw [if_pos h, if_pos h]
      rfl
    · rw [if_neg h, if_neg h]
      rfl
  | binary op left right t =>
    rw [walk, walk_eq r left]
    dsimp only
    -- the right operand is met in the same mode, since the left one has given the run back
    rw [walk_eq _ right, shape_counting, inside_counting, counting_counting, Shape.removed_binary]
    cases hin : r.inside with
    | false =>
      rw [if_neg (by simp)]
      rfl
    | true =>
      rw [if_pos rfl, Shape.sweep_inside]
      exact Prod.ext (Sweep.change_inBinary_congr rfl rfl) rfl
  | cond test ifTrue ifFalse t =>
    rw [walk, Shape.sweep_cond]
    cases hg : r.shape.guard? test ifTrue ifFalse with
    | none =>
      dsimp only
      by_cases h : r.inside ∧ test.isNullCheck
      · obtain ⟨hin, hnull⟩ := h
        rw [hin, if_pos ⟨rfl, hnull⟩, if_pos ⟨rfl, hnull⟩, walk_eq r ifFalse, hin,
          Shape.removed_collapsed hg hnull]
        rfl
      · rw [if_neg h, if_neg h, walk_eq r test]
        dsimp only
        rw [walk_eq _ ifTrue]
        dsimp only
        rw [walk_eq _ ifFalse, counting_counting, counting_counting, Shape.removed_cond hg h]
        rfl
    | some g =>
      obtain ⟨path, part⟩ := g
      cases part with
      | owner =>
        obtain ⟨owner, u, rfl⟩ := Shape.guard?_owner hg
        dsimp only
        rw [walkOwner, walk_eq r.enter owner, Shape.removed_ownerGuard hg]
        dsimp only
        rw [leave_counting_enter]
        rfl
      | whole =>
        dsimp only
        rw [walk_eq r.enter ifFalse, Shape.removed_wholeGuard hg]
        dsimp only
        rw [leave_counting_enter]
        rfl

/-- The same of the arguments of a call. -/
theorem walkArgs_eq (r : Eraser) (es : List Expr) :
    r.walkArgs es = ((r.shape.sweepArgs r.inside es).1,
      r.counting (es.map (r.shape.removed r.inside)).sum) := by
  cases es with
  | nil => rfl
  | cons e es =>
    rw [walkArgs, walk_eq r e]
    dsimp only
    rw [walkArgs_eq _ es, counting_counting, List.map_cons, List.sum_cons]
    rfl

end

/-! ### From tree to tree -/

theorem anew_counting (r : Eraser) (k : Nat) : (r.counting k).anew = r.anew := rfl

/-- What the run adds to its count is what it would count from nothing. -/
theorem removed_anew (r : Eraser) (e : Expr) :
    (r.anew.sweep e).2.1.removed = r.shape.removed r.inside e := Nat.zero_add _

/-- **Several trees**: each of them is erased as if it were the only one, and the run has counted what
    it would have counted in each. -/
theorem eraseAll_eq (r : Eraser) (es : List Expr) :
    r.eraseAll es = (es.map fun e => (r.anew.erase e).1,
      r.counting (es.map fun e => (r.anew.erase e).2.removed).sum) := by
  induction es generalizing r with
  | nil => rfl
  | cons e es ih =>
    have hcount : (r.anew.erase e).2.removed = r.shape.removed r.inside e := removed_anew r e
    have hone : r.erase e = ((r.anew.erase e).1, r.counting (r.anew.erase e).2.removed) := by
      rw [hcount]
      rfl
    rw [eraseAll, hone]
    dsimp only
    rw [ih, anew_counting, counting_counting]
    rfl

/-- Each tree together with what is left of it. -/
theorem zip_eraseAll (r : Eraser) (es : List Expr) :
    es.zip (r.eraseAll es).1 = es.map fun e => (e, (r.anew.erase e).1) := by
  rw [eraseAll_eq]
  exact List.map_prod_left_eq_zip.symm

/-- **A run carries nothing but its count** from one tree to the next, whatever its shape, its count
    and whether it is inside a guard.

    * Handed from node to node, in and out of guards, it comes back as it went but for its count, and
      gives the answer of the pass.
    * The answer and what is added to the count are those of the same run with nothing on its count.
    * So it erases each of several trees as if that were the only one, and has then counted all that it
      would have counted in them.
    * In another order the trees have the same trees left of them, and the count is the same. -/
theorem eraseAll_as_alone (r : Eraser) :
    (∀ e, r.walk e = ((r.sweep e).1, (r.sweep e).2.1))
      ∧ (∀ e, (r.sweep e).1 = (r.anew.sweep e).1
        ∧ (r.sweep e).2.1
          = ⟨r.shape, r.inside, r.removed + (r.anew.sweep e).2.1.removed⟩)
      ∧ (∀ es, (r.eraseAll es).1 = es.map (fun e => (r.anew.erase e).1)
        ∧ (r.eraseAll es).2
          = ⟨r.shape, r.inside, r.removed + (es.map fun e => (r.anew.erase e).2.removed).sum⟩)
      ∧ ∀ es es' : List Expr, es.Perm es' →
        (es.zip (r.eraseAll es).1).Perm (es'.zip (r.eraseAll es').1)
          ∧ (r.eraseAll es).2 = (r.eraseAll es').2 := by
  refine ⟨walk_eq r, fun e => ⟨rfl, ?_⟩, fun es => ?_, fun es es' hperm => ⟨?_, ?_⟩⟩
  · rw [removed_anew]
    rfl
  · rw [eraseAll_eq]
    exact ⟨rfl, rfl⟩
  · rw [zip_eraseAll, zip_eraseAll]
    exact hperm.map _
  · have hsum : (es.map fun e => (r.anew.erase e).2.removed).sum
        = (es'.map fun e => (r.anew.erase e).2.removed).sum := (hperm.map _).sum_nat
    rw [eraseAll_eq, eraseAll_eq, hsum]

end Eraser

namespace Samples

/-- A test for not-null that stands alone, between a guard that has one in it and a guard in which
    there is another. -/
def checkBetweenGuards : List Expr := [guardWithCheck, name.neNull, nestedGuard]

end Samples

/-- The test that stands alone stays, whether the run comes to it from the one guard or from the
    other. -/
theorem Eraser.eraseAll_as_alone_checkBetweenGuards :
    Samples.checkBetweenGuards.Perm Samples.checkBetweenGuards.reverse
      ∧ Eraser.eraseAll { shape := .both, removed := 3 } Samples.checkBetweenGuards
        = ([Samples.flag, Samples.name.neNull, Samples.verified], ⟨.both, false, 5⟩)
      ∧ (Eraser.eraseAll { shape := .both, removed := 3 } Samples.checkBetweenGuards.reverse).1
        = [Samples.verified, Samples.name.neNull, Samples.flag]
      ∧ (Eraser.eraseAll { shape := .both, removed := 3 } Samples.checkBetweenGuards.reverse).2
        = ⟨.both, false, 5⟩ := by
  have hperm : Samples.checkBetweenGuards.Perm Samples.checkBetweenGuards.reverse :=
    (List.reverse_perm _).symm
  obtain ⟨_, _, halone, horder⟩ :=
    Eraser.eraseAll_as_alone { shape := .both, removed := 3 }
  obtain ⟨htrees, hrun⟩ := halone Samples.checkBetweenGuards
  have hback := (horder _ _ hperm).2
  exact ⟨hperm, Prod.ext htrees hrun, (halone _).1, hback.symm.trans hrun⟩

end GuardErasure
