/-
# WorkflowLint.Proofs.Fetch.Op -- what one operation on the downloads does

Whatever happens to the downloads is a list of operations (`Op`), none of which
another one interrupts.  This module says once what each of them does, as an
equation between states, and counts what the log holds; nothing that follows
opens `start`, `dispatch` or `finish` again.

* A download whose outcome does not count only leaves `pending`; one whose outcome
  counts settles its record and wakes the subscribers (`close_cases`).
* A look starts an attempt when one is due (`ensureStarted_of_due`) and else does
  nothing (`ensureStarted_of_not_due`).
* A new attempt is under way (`start_of_silent`) or has ended in the same step,
  because the address answers at once (`start_of_answer`).
-/
import WorkflowLint.Fetch.State

namespace WorkflowLint.Fetch

set_option autoImplicit false

/-- Something that happens to the downloads and that nothing interrupts. -/
inductive Op where
  | answer (url : String) (outcome : Option Outcome)
  /-- A download ends; one that is dropped fails as abandoned. -/
  | close (d : Download) (outcome : Outcome)
  | ensure (url : String)
  | restart (url : String)
  | await (url : String) (subscriber : Option Nat)
  | bump
  | unsubscribe (id : Nat)
  deriving DecidableEq, Repr

def Op.apply (s : State) : Op → State
  | .answer url outcome => s.setAnswer url outcome
  | .close d outcome => s.close d outcome
  | .ensure url => s.ensureStarted url
  | .restart url => s.restart url
  | .await url subscriber => s.await url subscriber
  | .bump => s.bump
  | .unsubscribe id => s.unsubscribe id

namespace State

def run (s : State) (ops : List Op) : State := ops.foldl Op.apply s

@[simp] theorem run_nil (s : State) : s.run [] = s := rfl

@[simp] theorem run_cons (s : State) (op : Op) (ops : List Op) :
    s.run (op :: ops) = (op.apply s).run ops := rfl

theorem run_append (s : State) (ops ops' : List Op) :
    s.run (ops ++ ops') = (s.run ops).run ops' := List.foldl_append

def starts (s : State) (url : String) : Nat := s.log.count (.started url)

def wakeUps (s : State) (id : Nat) (url : String) : Nat := s.log.count (.notified id url)

/-! ## One record is changed -/

@[simp] theorem setRecord_record_self (s : State) (url : String) (r : Record) :
    (s.setRecord url r).record url = r := if_pos rfl

theorem setRecord_record_ne (s : State) {url v : String} (r : Record) (ne : v ≠ url) :
    (s.setRecord url r).record v = s.record v := if_neg ne

@[simp] theorem setRecord_log (s : State) (url : String) (r : Record) :
    (s.setRecord url r).log = s.log := rfl

theorem setRecord_setRecord (s : State) (url : String) (r r' : Record) :
    (s.setRecord url r).setRecord url r' = s.setRecord url r' := by
  simp only [setRecord, State.mk.injEq, and_true]
  funext v
  split <;> rfl

/-- What holds of the new record and of all old ones holds of all records. -/
theorem forall_setRecord {s : State} {url : String} {r : Record} {p : String → Record → Prop}
    (new : p url r) (old : ∀ v, v ≠ url → p v (s.record v)) (v : String) :
    p v ((s.setRecord url r).record v) := by
  by_cases same : v = url
  · subst same
    rwa [setRecord_record_self]
  · rw [setRecord_record_ne s r same]
    exact old v same

@[simp] theorem note_record (s : State) (events : List Event) :
    (s.note events).record = s.record := rfl

@[simp] theorem note_log (s : State) (events : List Event) :
    (s.note events).log = s.log ++ events := rfl

/-! ## The end of a download -/

/-- The wake-ups of everyone who waits for an address. -/
def wakeUpsOf (s : State) (url : String) : List Event :=
  (s.record url).subscribers.map fun id => .notified id url

theorem close_of_accepts {s : State} {d : Download} (underWay : d ∈ s.pending)
    (counts : (s.record d.url).accepts d.attempt = true) (outcome : Outcome) :
    s.close d outcome =
      { (s.setRecord d.url ((s.record d.url).settle outcome)).note (s.wakeUpsOf d.url) with
        pending := s.pending.erase d } := by
  simp only [close, if_pos underWay, finish, counts]
  rfl

/-- An outcome that does not count changes no record and wakes no one. -/
theorem close_of_not_accepts {s : State} {d : Download} (underWay : d ∈ s.pending)
    (stale : (s.record d.url).accepts d.attempt = false) (outcome : Outcome) :
    s.close d outcome = { s with pending := s.pending.erase d } := by
  simp only [close, if_pos underWay, finish, stale, Bool.false_eq_true, if_false]

/-- A download is not under way, or its outcome does not count, or it does. -/
theorem close_cases (s : State) (d : Download) (outcome : Outcome) :
    s.close d outcome = s ∨
      (d ∈ s.pending ∧ (s.record d.url).accepts d.attempt = false ∧
        s.close d outcome = { s with pending := s.pending.erase d }) ∨
      (d ∈ s.pending ∧ (s.record d.url).accepts d.attempt = true ∧
        s.close d outcome =
          { (s.setRecord d.url ((s.record d.url).settle outcome)).note (s.wakeUpsOf d.url) with
            pending := s.pending.erase d }) := by
  by_cases underWay : d ∈ s.pending
  · cases counts : (s.record d.url).accepts d.attempt with
    | false => exact Or.inr (Or.inl ⟨underWay, rfl, close_of_not_accepts underWay counts _⟩)
    | true => exact Or.inr (Or.inr ⟨underWay, rfl, close_of_accepts underWay counts _⟩)
  · exact Or.inl (if_neg underWay)

/-- A download only changes the record of its address. -/
theorem close_record_ne (s : State) (d : Download) (outcome : Outcome) {v : String}
    (other : v ≠ d.url) : (s.close d outcome).record v = s.record v := by
  rcases s.close_cases d outcome with same | ⟨-, -, same⟩ | ⟨-, -, same⟩
  · rw [same]
  · rw [same]
  · rw [same]
    exact setRecord_record_ne s _ other

@[simp] theorem close_generation (s : State) (d : Download) (outcome : Outcome) :
    (s.close d outcome).generation = s.generation := by
  rcases s.close_cases d outcome with same | ⟨-, -, same⟩ | ⟨-, -, same⟩ <;> rw [same]
  rfl

/-! ## A new attempt -/

/-- A new attempt at an address that does not answer at once is under way. -/
theorem start_of_silent {s : State} {url : String} (silent : s.answers url = none)
    (generation : Nat) :
    s.start url generation =
      { (s.setRecord url ((s.record url).begin generation)).note [.started url] with
        pending := s.pending ++ [⟨url, (s.record url).attempt + 1⟩] } := by
  have asked : ((s.setRecord url ((s.record url).begin generation)).note
      [.started url]).answers url = none := silent
  simp only [start, dispatch, asked, setRecord_record_self]
  rfl

/-- A new attempt at an address that answers at once ends in the step that starts it. -/
theorem start_of_answer {s : State} {url : String} {outcome : Outcome}
    (answers : s.answers url = some outcome) (generation : Nat) :
    s.start url generation =
      (s.setRecord url (((s.record url).begin generation).settle outcome)).note
        (.started url :: s.wakeUpsOf url) := by
  have asked : ((s.setRecord url ((s.record url).begin generation)).note
      [.started url]).answers url = some outcome := answers
  have counts : ((s.record url).begin generation).accepts ((s.record url).attempt + 1) = true := by
    simp [Record.accepts, Record.begin, Phase.isInProgress]
  have newest : ((s.record url).begin generation).attempt = (s.record url).attempt + 1 := rfl
  simp only [start, dispatch, asked, finish, note_record, setRecord_record_self, newest, counts,
    if_true]
  have twice := setRecord_setRecord s url ((s.record url).begin generation)
    (((s.record url).begin generation).settle outcome)
  simp only [setRecord, note, State.mk.injEq] at twice ⊢
  exact ⟨twice.1, trivial, trivial, trivial, by simp [wakeUpsOf, Record.begin]⟩

@[simp] theorem start_generation (s : State) (url : String) (generation : Nat) :
    (s.start url generation).generation = s.generation := by
  cases answers : s.answers url with
  | none => rw [start_of_silent answers]; rfl
  | some outcome => rw [start_of_answer answers]; rfl

/-- An attempt only changes the record of its address. -/
theorem start_record_ne (s : State) {url v : String} (generation : Nat) (other : v ≠ url) :
    (s.start url generation).record v = s.record v := by
  cases answers : s.answers url with
  | none =>
      rw [start_of_silent answers]
      exact setRecord_record_ne s _ other
  | some outcome =>
      rw [start_of_answer answers]
      exact setRecord_record_ne s _ other

theorem ensureStarted_of_due {s : State} {url : String}
    (due : (s.record url).isDue s.generation = true) :
    s.ensureStarted url = s.start url s.generation := if_pos due

theorem ensureStarted_of_not_due {s : State} {url : String}
    (idle : ¬ (s.record url).isDue s.generation = true) : s.ensureStarted url = s := if_neg idle

end State

end WorkflowLint.Fetch
