import GuardErasure.Proofs.Guard.Meaning

namespace GuardErasure

/-!
# Tests for not-null that are dropped

A guard says something about the path that it tests.  The pass also drops every test for
not-null inside the guard, whatever that is about:

* `eval_eraseGuards_of_paths` — where the guarded paths are never null, what is left has the
  value of the tree if all dropped tests are true, and only `and` loses operands to them;
* `guardedCount`, `eval_guardedCount_iff` — a guarded count with a condition that is dropped
  keeps its value exactly if the condition is true of every element;
* `guardedOr`, `eval_guardedOr_iff` — a guarded alternative that loses a true operand keeps its
  value exactly if what is left of the other one is true;
* `eval_eraseGuards_nonNullPaths` — all three at once.
-/

variable {t : Table} {env : Scope}

/-! ### Guarded paths that are not null -/

/-- A test `!=` that is true does not meet two nulls. -/
theorem Step.not_meetsTwoNulls_of_isTrueAt {st : Step} (hop : st.op = .notEqual)
    (h : t.isTrueAt st.node st.env = true) : st.meetsTwoNulls t = false := by
  refine Bool.eq_false_iff.mpr (fun hm => ?_)
  obtain ⟨hl, hr⟩ := Bool.and_eq_true_iff.mp (Bool.and_eq_true_iff.mp hm).2
  obtain ⟨region, op, left, right, ty, env⟩ := st
  cases hop
  have htrue := Table.isTrueAt_eq_true.mp h
  have hop : BinOp.notEqual.family ≠ .logical := by decide
  rw [Step.node, t.eval_plain env hop, Table.isNullAt_eq_true.mp hl,
    Table.isNullAt_eq_true.mp hr] at htrue
  cases htrue

/-- What is left of a tree has its value, if no guarded path is ever null, all dropped tests for
    not-null are true, and inside of guards only `and` loses operands. -/
theorem eval_eraseGuards_of_paths {e : Expr} {v : Value} (hv : t.eval e env = .ok v)
    (hpaths : ∀ st ∈ t.steps .both (.visited false) e env,
      st.region = .guardTest → t.isNullAt st.left st.env = false)
    (hchecks : ∀ st ∈ t.steps .both (.visited false) e env, st.region = .visited true →
      Shape.both.isCompanion st.op st.left st.right = true → t.isTrueAt st.node st.env = true)
    (hops : ∀ o ∈ Shape.both.insideOps false e, Shape.both.sparesOperands o = true) :
    t.eval (eraseGuards e) env = .ok v := by
  refine (Shape.both.carries_swept t false e hops).eval env (fun st hst hreg => ?_) v hv
  -- the test of a guard meets no null on its left, and a test for not-null that is true none
  -- on one of its sides
  rcases hreg with hguard | ⟨hinside, hcompanion⟩
  · rw [Step.meetsTwoNulls, hpaths st hst hguard, Bool.false_and, Bool.and_false]
  · exact Step.not_meetsTwoNulls_of_isTrueAt (Shape.isCompanion_op hcompanion)
      (hchecks st hst hinside hcompanion)

/-! ### A guarded count -/

/-- `count(path, item => check)` -/
def countOf (path : Expr) (item : String) (check : Expr) : Expr :=
  .callNamed "count" [path, .lambda [item] check] .int64

/-- `path == null ? 0 : count(path, item => check)` -/
def guardedCount (path : Expr) (item : String) (check : Expr) : Expr :=
  .choose path.eqNull (.ofValue (.int64 0)) (countOf path item check)

/-- A list of which a test keeps as many elements as there are passes the test throughout. -/
theorem forall_of_length_keepWhere {p : Value → Except Fault Bool} {items kept : List Value}
    (h : Value.keepWhere p items = .ok kept) :
    kept.length ≤ items.length
      ∧ (kept.length = items.length → ∀ v ∈ items, p v = .ok true) := by
  induction items generalizing kept with
  | nil =>
    cases h
    exact ⟨Nat.le_refl _, fun _ => List.forall_mem_nil _⟩
  | cons v vs ih =>
    obtain ⟨b, hb, h⟩ := bind_eq_ok.mp h
    cases b with
    | true =>
      obtain ⟨rest, hrest, h⟩ := bind_eq_ok.mp h
      cases h
      obtain ⟨hle, hall⟩ := ih hrest
      refine ⟨Nat.succ_le_succ hle, fun hlen => ?_⟩
      exact List.forall_mem_cons.mpr ⟨hb, hall (Nat.succ.inj hlen)⟩
    | false =>
      -- one element is lost, so that the lengths cannot agree
      have hle := (ih h).1
      refine ⟨Nat.le_succ_of_le hle, fun hlen => ?_⟩
      rw [List.length_cons] at hlen
      omega

/-- A condition that is true of all elements keeps them all. -/
theorem keepWhere_of_forall {f : Value → Except Fault Value} {items : List Value}
    (h : ∀ v ∈ items, f v = .ok (.bool true)) :
    Value.keepWhere (fun v => f v >>= Value.verdict) items = .ok items := by
  induction items with
  | nil => rfl
  | cons v vs ih =>
    have hv : f v = .ok (.bool true) := h v (by simp)
    have hvs := ih (fun w hw => h w (by simp [hw]))
    rw [Value.keepWhere, hv, hvs]
    rfl

/-- Two lengths that are the same value are the same. -/
theorem ofLength_inj {m n : Nat} {v : Value} (hm : Value.ofLength m = .ok v)
    (hn : Value.ofLength n = .ok v) : m = n := by
  have hint : ∀ {k : Nat}, Value.ofLength k = .ok v →
      ∃ i : Int64, v = .int64 i ∧ i.toInt = (k : Int) := by
    intro k hk
    unfold Value.ofLength Value.ofInt? at hk
    split at hk
    · next w hw =>
      split at hw
      · next hrange =>
        cases hw
        cases hk
        exact ⟨_, rfl, Int64.toInt_ofInt_of_le hrange.1 (Int.lt_of_le_of_lt hrange.2 (by decide))⟩
      · cases hw
    · cases hk
  obtain ⟨i, rfl, hi⟩ := hint hm
  obtain ⟨j, hj, hjn⟩ := hint hn
  cases hj
  omega

section GuardedCount

variable {path check : Expr} {item : String} {items : List Value}

/-- A count is the number of elements that the condition keeps. -/
theorem eval_countOf (hpath : t.eval path env = .ok (.list items)) :
    t.eval (countOf path item check) env
      = Value.keepWhere (fun w => t.eval check (env.bind item w) >>= Value.verdict) items
        >>= fun kept => Value.ofLength kept.length := by
  rw [countOf, Expr.callNamed, Table.eval_call_two, hpath]
  rfl

/-- Without its guard, a count with a condition that is dropped counts all elements. -/
theorem eval_eraseGuards_guardedCount
    (hguard : Shape.both.isGuard (guardedCount path item check) = true)
    (hdrop : Shape.both.drops true check = true)
    (hpath : t.eval (Shape.both.swept true path) env = .ok (.list items)) :
    t.eval (eraseGuards (guardedCount path item check)) env = Value.ofLength items.length := by
  obtain ⟨⟨tested, part⟩, hg⟩ := Option.isSome_iff_exists.mp hguard
  cases part with
  | owner =>
    obtain ⟨owner, ty, hmember⟩ := Shape.guard?_owner hg
    cases hmember
  | whole =>
    have hleft : eraseGuards (guardedCount path item check)
        = countOf (Shape.both.swept true path) item .trueLiteral := by
      refine (Shape.givesWay_wholeGuard hg).1.trans ?_
      rw [countOf, Expr.callNamed, Shape.swept_call, List.map_cons, List.map_cons, List.map_nil,
        Shape.swept_lambda, Shape.swept_of_drops hdrop]
      rfl
    have hkeep : Value.keepWhere
        (fun w => t.eval .trueLiteral (env.bind item w) >>= Value.verdict) items = .ok items :=
      keepWhere_of_forall (fun _ _ => rfl)
    rw [hleft, eval_countOf hpath, hkeep]
    rfl

/-- **A guarded count** over a path that is not null, with a condition that is dropped, keeps its
    value exactly if the condition is true of every element. -/
theorem eval_guardedCount_iff {v : Value}
    (hguard : Shape.both.isGuard (guardedCount path item check) = true)
    (hdrop : Shape.both.drops true check = true) (hpath : t.eval path env = .ok (.list items))
    (hswept : t.eval (Shape.both.swept true path) env = .ok (.list items))
    (hv : t.eval (guardedCount path item check) env = .ok v) :
    t.eval (eraseGuards (guardedCount path item check)) env = .ok v
      ↔ ∀ w ∈ items, t.isTrueAt check (env.bind item w) = true := by
  have hcount : t.eval (countOf path item check) env = .ok v := by
    rw [guardedCount, Expr.choose, t.eval_cond, Expr.eqNull, Expr.combine,
      t.eval_plain env (by decide), hpath] at hv
    exact hv
  -- the value is the length of the elements that the condition keeps
  rw [eval_countOf hpath] at hcount
  obtain ⟨kept, hkept, hlength⟩ := bind_eq_ok.mp hcount
  rw [eval_eraseGuards_guardedCount hguard hdrop hswept]
  constructor
  · intro hall w hw
    have hlen : kept.length = items.length := ofLength_inj hlength hall
    obtain ⟨a, ha, hverdict⟩ := bind_eq_ok.mp ((forall_of_length_keepWhere hkept).2 hlen w hw)
    rw [Table.isTrueAt_eq_true, ha]
    cases a <;> cases hverdict
    rfl
  · intro hall
    have hkeep := keepWhere_of_forall (fun w hw => Table.isTrueAt_eq_true.mp (hall w hw))
    rw [hkept] at hkeep
    cases hkeep
    exact hlength

end GuardedCount

/-! ### A guarded alternative -/

/-- A guard over `check || other`. -/
def guardedOr (check other : Expr) : Expr := (check.combine .or other).guarded

/-- Without its guard, an alternative that loses its first operand is its second one. -/
theorem eraseGuards_guardedOr {check other : Expr}
    (hguard : Shape.both.isGuard (guardedOr check other) = true)
    (hdrop : Shape.both.drops true check = true) :
    eraseGuards (guardedOr check other) = Shape.both.swept true other := by
  obtain ⟨⟨path, part⟩, hg⟩ := Option.isSome_iff_exists.mp hguard
  cases part with
  | owner => exact (Shape.givesWay_ownerGuard hg).1.trans (Shape.givesWay_leftDropped hdrop).1
  | whole =>
    rcases Shape.guard?_whole hg with ⟨_, _, _, _, hcall⟩ | ⟨_, _, _, hcall⟩
    · cases hcall
    · cases hcall

/-- **A guarded alternative** that loses a true operand keeps its value exactly if what is left
    of the other one is true. -/
theorem eval_guardedOr_iff {check other : Expr} {v : Value}
    (hguard : Shape.both.isGuard (guardedOr check other) = true)
    (hdrop : Shape.both.drops true check = true) (hcheck : t.eval check env = .ok (.bool true))
    (hv : t.eval (guardedOr check other) env = .ok v) :
    t.eval (eraseGuards (guardedOr check other)) env = .ok v
      ↔ t.eval (Shape.both.swept true other) env = .ok (.bool true) := by
  have hpath : t.eval (check.combine .or other) env = .ok (.bool true) := by
    rw [Expr.combine, t.eval_logical env rfl, hcheck]
    rfl
  have htrue : v = .bool true := by
    rw [guardedOr, Expr.guarded, Expr.choose, t.eval_cond, Expr.eqNull, Expr.combine,
      t.eval_plain env (by decide), Expr.readValue, t.eval_member, hpath] at hv
    cases hv
    rfl
  rw [eraseGuards_guardedOr hguard hdrop, htrue]

/-! ### The value where guarded paths are not null -/

/-- **Guarded paths that are not null** keep the value, as far as all dropped tests for not-null
    are true and inside of guards only `and` loses operands.  Neither can be left out:

    * a guarded count loses its value as soon as its dropped condition fails for one element;
    * a guarded alternative that loses a true operand loses its value unless what is left of the
      other one is true. -/
theorem eval_eraseGuards_nonNullPaths (t : Table) (env : Scope) :
    (∀ e v, t.eval e env = .ok v →
        (∀ st ∈ t.steps .both (.visited false) e env,
          st.region = .guardTest → t.isNullAt st.left st.env = false) →
        (∀ st ∈ t.steps .both (.visited false) e env, st.region = .visited true →
          Shape.both.isCompanion st.op st.left st.right = true →
            t.isTrueAt st.node st.env = true) →
        (∀ o ∈ Shape.both.insideOps false e, Shape.both.sparesOperands o = true) →
          t.eval (eraseGuards e) env = .ok v)
      ∧ (∀ path item check items v, Shape.both.isGuard (guardedCount path item check) = true →
        Shape.both.drops true check = true → t.eval path env = .ok (.list items) →
        t.eval (Shape.both.swept true path) env = .ok (.list items) →
        t.eval (guardedCount path item check) env = .ok v →
          (t.eval (eraseGuards (guardedCount path item check)) env = .ok v
            ↔ ∀ w ∈ items, t.isTrueAt check (env.bind item w) = true))
      ∧ ∀ check other v, Shape.both.isGuard (guardedOr check other) = true →
        Shape.both.drops true check = true → t.eval check env = .ok (.bool true) →
        t.eval (guardedOr check other) env = .ok v →
          (t.eval (eraseGuards (guardedOr check other)) env = .ok v
            ↔ t.eval (Shape.both.swept true other) env = .ok (.bool true)) :=
  ⟨fun _ _ hv hpaths hchecks hops => eval_eraseGuards_of_paths hv hpaths hchecks hops,
    fun _ _ _ _ _ hguard hdrop hpath hswept hv =>
      eval_guardedCount_iff hguard hdrop hpath hswept hv,
    fun _ _ _ hguard hdrop hcheck hv => eval_guardedOr_iff hguard hdrop hcheck hv⟩

namespace Samples

/-- `p.Tags == null ? 0 : count(p.Tags, t => t.Kind != null)` -/
def tagCount : Expr :=
  guardedCount (person.read "Tags" (.seq (.record "Tag"))) "t"
    ((Expr.param "t" (.record "Tag")).read "Kind" .string).neNull

/-- A person with tags of these kinds. -/
def tagged (kinds : List Value) : Scope :=
  ({} : Scope).bind "p" (.ofFields [("Tags", .list (kinds.map fun k => .ofFields [("Kind", k)]))])

/-- A guard over `p.Name != null || p.Flag`. -/
def nameOrFlag : Expr := guardedOr name.neNull flag

/-- A person with a name and a flag. -/
def flagged (b : Bool) : Scope :=
  ({} : Scope).bind "p" (.ofFields [("Flag", .bool b), ("Name", .string "Ann")])

end Samples

/-- The guarded count of the tags that have a kind, where all of them do, and the guarded
    alternative where both sides of it are true. -/
theorem eval_eraseGuards_tagCount :
    Samples.people.eval (eraseGuards Samples.tagCount) (Samples.tagged [.string "k"])
        = .ok (.int64 1)
      ∧ (Samples.people.eval (eraseGuards Samples.tagCount) (Samples.tagged [.string "k"])
          = .ok (.int64 1)
        ↔ ∀ w ∈ [Value.ofFields [("Kind", .string "k")]], Samples.people.isTrueAt
          ((Expr.param "t" (.record "Tag")).read "Kind" .string).neNull
          ((Samples.tagged [.string "k"]).bind "t" w) = true)
      ∧ (Samples.people.eval (eraseGuards Samples.nameOrFlag) (Samples.flagged true)
          = .ok (.bool true)
        ↔ Samples.people.eval (Shape.both.swept true Samples.flag) (Samples.flagged true)
          = .ok (.bool true)) := by
  obtain ⟨hkeeps, hcount, _⟩ :=
    eval_eraseGuards_nonNullPaths Samples.people (Samples.tagged [.string "k"])
  obtain ⟨_, _, hor⟩ := eval_eraseGuards_nonNullPaths Samples.people (Samples.flagged true)
  exact ⟨hkeeps Samples.tagCount (.int64 1) rfl (by decide) (by decide) (by decide),
    hcount _ _ _ _ _ (by decide) (by decide) rfl rfl rfl,
    hor _ _ _ (by decide) (by decide) rfl rfl⟩

/-- Guarded paths that are not null do not keep the value by themselves: where a tag has no
    kind, the count changes, and where an `or` loses an operand, so does the condition. -/
theorem eval_eraseGuards_changed :
    (Samples.people.eval Samples.tagCount (Samples.tagged [.null]) = .ok (.int64 0)
        ∧ (∀ st ∈ Samples.people.steps .both (.visited false) Samples.tagCount
            (Samples.tagged [.null]),
          st.region = .guardTest → Samples.people.isNullAt st.left st.env = false)
        ∧ Samples.people.eval (eraseGuards Samples.tagCount) (Samples.tagged [.null])
          ≠ .ok (.int64 0))
      ∧ Samples.people.eval Samples.nameOrFlag (Samples.flagged false) = .ok (.bool true)
        ∧ (∀ st ∈ Samples.people.steps .both (.visited false) Samples.nameOrFlag
            (Samples.flagged false),
          st.region = .guardTest → Samples.people.isNullAt st.left st.env = false)
        ∧ Samples.people.eval (eraseGuards Samples.nameOrFlag) (Samples.flagged false)
          ≠ .ok (.bool true) := by
  have hcount : Samples.people.eval (eraseGuards Samples.tagCount) (Samples.tagged [.null])
      = .ok (.int64 1) := by rfl
  have hflag : Samples.people.eval (eraseGuards Samples.nameOrFlag) (Samples.flagged false)
      = .ok (.bool false) := by rfl
  refine ⟨⟨rfl, by decide, fun h => ?_⟩, rfl, by decide, fun h => ?_⟩
  · rw [hcount] at h
    exact absurd (congrArg Value.toInt64? (Except.ok.inj h)) (by decide)
  · rw [hflag] at h
    cases h

end GuardErasure
