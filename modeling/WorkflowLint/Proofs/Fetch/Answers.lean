/-
# WorkflowLint.Proofs.Fetch.Answers -- what is seen of an address that answers at once

A lookup sees everything of a record but who waits for it (`Phase.seen`).  Right after
an attempt was started, what is seen depends on nothing but the answer of the address:
it is what the answer leaves, or a download in progress when there is none
(`State.start_seen`).  An address of which this is all that can be seen, unless nothing
was ever started, is `Answered`; as long as the answers stay and no download under way
ends, every address is and stays so (`State.run_answered`), and a look at it sees its
answer whatever happened before (`State.Answered.ensureStarted_seen`).
-/
import WorkflowLint.Proofs.Fetch.Starts
import WorkflowLint.Proofs.Fetch.Supersession

namespace WorkflowLint.Fetch

set_option autoImplicit false

/-! ## What is seen of a record -/

namespace Phase

/-- What a lookup sees of an address: everything but who waits for it. -/
def seen (p : Phase) : Phase := { p with subscribers := [] }

@[simp] theorem seen_stage (p : Phase) : p.seen.stage = p.stage := rfl

/-- What is seen of an address right after an attempt at it was started: what its answer
leaves, or a download in progress when it has none. -/
def ofAnswer : Option Outcome → Phase
  | some outcome => ⟨outcome.stage, outcome.failure?, outcome.manifest?, []⟩
  | none => ⟨.inProgress, none, none, []⟩

@[simp] theorem ofAnswer_seen (answer : Option Outcome) :
    (ofAnswer answer).seen = ofAnswer answer := by
  cases answer <;> rfl

theorem ofAnswer_stage_ne (answer : Option Outcome) : (ofAnswer answer).stage ≠ .notStarted := by
  cases answer with
  | none => exact Stage.noConfusion
  | some outcome => cases outcome <;> exact Stage.noConfusion

end Phase

namespace Record

theorem begin_seen (r : Record) (generation : Nat) :
    (r.begin generation).phase.seen = .ofAnswer none := rfl

theorem settle_begin_seen (r : Record) (generation : Nat) (outcome : Outcome) :
    ((r.begin generation).settle outcome).phase.seen = .ofAnswer (some outcome) := by
  cases outcome <;> rfl

@[simp] theorem subscribe_seen (r : Record) (id : Nat) :
    (r.subscribe id).phase.seen = r.phase.seen := by
  unfold subscribe
  split <;> rfl

@[simp] theorem unsubscribe_seen (r : Record) (id : Nat) :
    (r.unsubscribe id).phase.seen = r.phase.seen := rfl

end Record

namespace State

/-! ## One operation -/

/-- What is seen of an address right after a start is its answer, whatever was seen before. -/
theorem start_seen (s : State) (url : String) (generation : Nat) :
    ((s.start url generation).record url).phase.seen = .ofAnswer (s.answers url) := by
  cases answers : s.answers url with
  | none =>
      rw [start_of_silent answers]
      simp [Record.begin_seen]
  | some outcome =>
      rw [start_of_answer answers]
      simp [Record.settle_begin_seen]

theorem start_stage_ne (s : State) (url : String) (generation : Nat) :
    ((s.start url generation).record url).stage ≠ .notStarted := by
  rw [← Phase.seen_stage, start_seen]
  exact Phase.ofAnswer_stage_ne _

@[simp] theorem start_answers (s : State) (url : String) (generation : Nat) :
    (s.start url generation).answers = s.answers := by
  cases answers : s.answers url with
  | none => rw [start_of_silent answers]; rfl
  | some outcome => rw [start_of_answer answers]; rfl

@[simp] theorem ensureStarted_answers (s : State) (url : String) :
    (s.ensureStarted url).answers = s.answers := by
  by_cases due : (s.record url).isDue s.generation = true
  · rw [ensureStarted_of_due due, start_answers]
  · rw [ensureStarted_of_not_due due]

theorem ensureStarted_record_ne (s : State) {url v : String} (other : v ≠ url) :
    (s.ensureStarted url).record v = s.record v := by
  by_cases due : (s.record url).isDue s.generation = true
  · rw [ensureStarted_of_due due, start_record_ne s _ other]
  · rw [ensureStarted_of_not_due due]

@[simp] theorem await_answers (s : State) (url : String) (subscriber : Option Nat) :
    (s.await url subscriber).answers = s.answers := by
  cases subscriber <;> rfl

theorem await_record_ne (s : State) {url v : String} (subscriber : Option Nat) (other : v ≠ url) :
    (s.await url subscriber).record v = s.record v := by
  cases subscriber with
  | none => rfl
  | some id => exact setRecord_record_ne s _ other

/-- Who waits for an address is not seen. -/
@[simp] theorem await_seen (s : State) (url : String) (subscriber : Option Nat) (v : String) :
    ((s.await url subscriber).record v).phase.seen = (s.record v).phase.seen := by
  cases subscriber with
  | none => rfl
  | some id =>
      exact forall_setRecord (p := fun v r => r.phase.seen = (s.record v).phase.seen)
        (Record.subscribe_seen _ id) (fun _ _ => rfl) v

/-! ## Answered addresses -/

/-- Of an address nothing is known yet, or its answer is all that is seen. -/
def Answered (s : State) (url : String) : Prop :=
  (s.record url).stage = .notStarted ∨ (s.record url).phase.seen = .ofAnswer (s.answers url)

theorem initial_answered (answers : String → Option Outcome) (url : String) :
    (initial answers).Answered url := Or.inl rfl

/-- What is seen stays, and so does the answer. -/
theorem Answered.congr {s t : State} {url : String} (answered : s.Answered url)
    (seen : (t.record url).phase.seen = (s.record url).phase.seen)
    (answers : t.answers = s.answers) : t.Answered url := by
  have stage : (t.record url).stage = (s.record url).stage := by
    rw [← Phase.seen_stage, seen, Phase.seen_stage]
  rw [Answered, stage, seen, answers]
  exact answered

theorem start_answered (s : State) (url : String) (generation : Nat) :
    (s.start url generation).Answered url := by
  right
  rw [start_seen, start_answers]

/-- A look at an answered address sees its answer. -/
theorem Answered.ensureStarted_seen {s : State} {url : String} (answered : s.Answered url) :
    ((s.ensureStarted url).record url).phase.seen = .ofAnswer (s.answers url) := by
  by_cases due : (s.record url).isDue s.generation = true
  · rw [ensureStarted_of_due due, start_seen]
  · rw [ensureStarted_of_not_due due]
    refine answered.resolve_left fun unknown => due ?_
    exact Record.isDue_iff.2 (Or.inl unknown)

end State

/-! ## Runs -/

/-- Whether an operation leaves the answers as they are and the downloads under way alone. -/
def Op.isQuiet : Op → Bool
  | .answer _ _ | .close _ _ => false
  | _ => true

theorem Op.isQuiet_of_isLook {op : Op} (look : op.isLook = true) : op.isQuiet = true := by
  cases op with
  | ensure url | await url subscriber => rfl
  | _ => exact Bool.noConfusion look

theorem Op.apply_answers {s : State} {op : Op} (quiet : op.isQuiet = true) :
    (op.apply s).answers = s.answers := by
  cases op with
  | ensure url => exact s.ensureStarted_answers url
  | restart url => exact s.start_answers url s.generation
  | await url subscriber => exact s.await_answers url subscriber
  | bump => rfl
  | unsubscribe id => rfl
  | answer url outcome | close d outcome => exact Bool.noConfusion quiet

theorem Op.apply_answered {s : State} {op : Op} (quiet : op.isQuiet = true) {url : String}
    (answered : s.Answered url) : (op.apply s).Answered url := by
  have answers := Op.apply_answers (s := s) quiet
  cases op with
  | ensure v =>
      by_cases here : url = v
      · subst here
        right
        rw [answers]
        exact answered.ensureStarted_seen
      · exact answered.congr (by rw [apply, s.ensureStarted_record_ne here]) answers
  | restart v =>
      by_cases here : url = v
      · subst here
        exact s.start_answered url s.generation
      · exact answered.congr (by rw [apply, State.restart, s.start_record_ne _ here]) answers
  | await v subscriber => exact answered.congr (s.await_seen v subscriber url) answers
  | bump => exact answered
  | unsubscribe id => exact answered.congr (Record.unsubscribe_seen _ id) answers
  | answer v outcome | close d outcome => exact Bool.noConfusion quiet

namespace State

theorem run_answers {s : State} {ops : List Op} (quiet : ∀ op ∈ ops, op.isQuiet = true) :
    (s.run ops).answers = s.answers := by
  induction ops generalizing s with
  | nil => rfl
  | cons op ops ih =>
      rw [run_cons, ih fun op member => quiet op (List.mem_cons_of_mem _ member)]
      exact Op.apply_answers (quiet op List.mem_cons_self)

theorem run_answered {s : State} {ops : List Op} (quiet : ∀ op ∈ ops, op.isQuiet = true)
    {url : String} (answered : s.Answered url) : (s.run ops).Answered url := by
  induction ops generalizing s with
  | nil => exact answered
  | cons op ops ih =>
      refine ih (fun op member => quiet op (List.mem_cons_of_mem _ member)) ?_
      exact Op.apply_answered (quiet op List.mem_cons_self) answered

end State

end WorkflowLint.Fetch
