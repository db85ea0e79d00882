import GuardErasure.Fault
import GuardErasure.Note

namespace GuardErasure

/-!
# Runs

A run gives a result or a fault, and in either case the notes that were taken until then:

* `Run` — runs, with their monad structure;
* `Run.fail`, `Run.tell` — a run that fails, and one that takes a note.
-/

/-- A computation that may fail and takes notes as it goes. -/
structure Run (α : Type) where
  result : Except Fault α
  notes : List Note

namespace Run

/-- A run that does nothing but give a result. -/
protected def pure {α : Type} (a : α) : Run α := ⟨.ok a, []⟩

/-- One run after another; after a fault nothing more is run. -/
protected def bind {α β : Type} (x : Run α) (f : α → Run β) : Run β :=
  match x.result with
  | .ok a => ⟨(f a).result, x.notes ++ (f a).notes⟩
  | .error e => ⟨.error e, x.notes⟩

instance : Monad Run where
  pure := Run.pure
  bind := Run.bind

/-- A run that fails. -/
def fail {α : Type} (f : Fault) : Run α := ⟨.error f, []⟩

/-- A run that takes a note. -/
def tell (n : Note) : Run Unit := ⟨.ok (), [n]⟩

/-- A run without notes. -/
def ofExcept {α : Type} (x : Except Fault α) : Run α := ⟨x, []⟩

/-! ### Small facts -/

@[simp] theorem result_pure {α : Type} (a : α) : (pure a : Run α).result = .ok a := rfl

@[simp] theorem notes_pure {α : Type} (a : α) : (pure a : Run α).notes = [] := rfl

@[simp] theorem result_tell (n : Note) : (tell n).result = .ok () := rfl

@[simp] theorem result_fail {α : Type} (f : Fault) : (fail f : Run α).result = .error f := rfl

@[simp] theorem result_ofExcept {α : Type} (x : Except Fault α) : (ofExcept x).result = x := rfl

/-- The result of two runs in a row depends on their results only. -/
@[simp] theorem result_bind {α β : Type} (x : Run α) (f : α → Run β) :
    (x >>= f).result = x.result >>= fun a => (f a).result := by
  cases h : x.result <;> simp [bind, Run.bind, Except.bind, h]

end Run

end GuardErasure
