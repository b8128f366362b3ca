/-
# WorkflowLint.Proofs.Fetch.Isolation -- addresses do not interfere

What there is about one address is its record, the downloads of it that are under way, its
answer, the events about it, and the retry generation, which all addresses share
(`State.SameAt`).  An operation on another address leaves all of this as it was
(`Op.apply_elsewhere`), and any operation keeps two states that have it in common that way
(`Op.apply_sameAt`), however much they differ elsewhere.  So a run may be replayed without
the operations on other addresses (`State.run_filter_sameAt`).

Two operations are on no address: a bump and a caller that ceases to wait.  They concern
every address and stay in the replay.
-/
import WorkflowLint.Proofs.Fetch.Op

namespace WorkflowLint.Fetch

set_option autoImplicit false

def Event.url : Event → String
  | .started url => url
  | .notified _ url => url

namespace Op

/-- The address that an operation is on, if it is on a single one. -/
def address? : Op → Option String
  | .answer url _ => some url
  | .close d _ => some d.url
  | .ensure url => some url
  | .restart url => some url
  | .await url _ => some url
  | .bump | .unsubscribe _ => none

/-- Whether an operation is on the address, or on all of them. -/
def concerns (url : String) (op : Op) : Bool := op.address?.all (· == url)

end Op

namespace State

def downloadsOf (s : State) (url : String) : List Download := s.pending.filter (·.url == url)

/-- The starts of an address and the wake-ups for it, in their order. -/
def eventsOf (s : State) (url : String) : List Event := s.log.filter (·.url == url)

/-- Two states that do not differ in anything about an address. -/
structure SameAt (s t : State) (url : String) : Prop where
  record : s.record url = t.record url
  downloads : s.downloadsOf url = t.downloadsOf url
  answer : s.answers url = t.answers url
  events : s.eventsOf url = t.eventsOf url
  generation : s.generation = t.generation

variable {s t : State} {url v : String}

theorem SameAt.refl (s : State) (url : String) : s.SameAt s url := ⟨rfl, rfl, rfl, rfl, rfl⟩

theorem SameAt.symm (same : s.SameAt t url) : t.SameAt s url :=
  ⟨same.record.symm, same.downloads.symm, same.answer.symm, same.events.symm,
    same.generation.symm⟩

theorem SameAt.trans {u : State} (same : s.SameAt t url) (same' : t.SameAt u url) :
    s.SameAt u url :=
  ⟨same.record.trans same'.record, same.downloads.trans same'.downloads,
    same.answer.trans same'.answer, same.events.trans same'.events,
    same.generation.trans same'.generation⟩

/-! ## The parts of an operation -/

theorem SameAt.setRecord (same : s.SameAt t url) (r : Record) :
    (s.setRecord url r).SameAt (t.setRecord url r) url :=
  { same with record := by simp only [setRecord_record_self] }

theorem SameAt.note (same : s.SameAt t url) (events : List Event) :
    (s.note events).SameAt (t.note events) url :=
  { same with
    events := by
      simp only [eventsOf, note_log, List.filter_append]
      exact congrArg (· ++ _) same.events }

theorem SameAt.withPending (same : s.SameAt t url) {pending pending' : List Download}
    (downloads : pending.filter (·.url == url) = pending'.filter (·.url == url)) :
    { s with pending }.SameAt { t with pending := pending' } url :=
  { same with downloads := downloads }

theorem setRecord_elsewhere (s : State) (r : Record) (other : v ≠ url) :
    (s.setRecord v r).SameAt s url :=
  { SameAt.refl s url with record := setRecord_record_ne s r other.symm }

theorem note_elsewhere (s : State) {events : List Event} (other : ∀ e ∈ events, e.url ≠ url) :
    (s.note events).SameAt s url :=
  { SameAt.refl s url with
    events := by
      have none : events.filter (·.url == url) = [] :=
        List.filter_eq_nil_iff.2 fun e member => by simpa using other e member
      simp only [eventsOf, note_log, List.filter_append, none, List.append_nil] }

theorem wakeUpsOf_url (s : State) (v : String) : ∀ e ∈ s.wakeUpsOf v, e.url = v := by
  intro e member
  obtain ⟨id, -, rfl⟩ := List.mem_map.1 member
  rfl

theorem SameAt.wakeUpsOf (same : s.SameAt t url) : s.wakeUpsOf url = t.wakeUpsOf url := by
  simp only [State.wakeUpsOf, same.record]

theorem mem_downloadsOf {d : Download} : d ∈ s.downloadsOf d.url ↔ d ∈ s.pending := by
  simp [downloadsOf]

/-! ## A new attempt -/

theorem start_sameAt (same : s.SameAt t url) (generation : Nat) :
    (s.start url generation).SameAt (t.start url generation) url := by
  cases answers : t.answers url with
  | none =>
      rw [start_of_silent answers, start_of_silent (same.answer.trans answers), same.record]
      refine ((same.setRecord _).note _).withPending ?_
      simp only [List.filter_append]
      exact congrArg (· ++ _) same.downloads
  | some outcome =>
      rw [start_of_answer answers, start_of_answer (same.answer.trans answers), same.record,
        same.wakeUpsOf]
      exact (same.setRecord _).note _

theorem start_elsewhere (s : State) (other : v ≠ url) (generation : Nat) :
    (s.start v generation).SameAt s url := by
  cases answers : s.answers v with
  | none =>
      rw [start_of_silent answers]
      refine ((note_elsewhere _ ?_).trans (setRecord_elsewhere s _ other)).withPending ?_
      · rintro e (- | ⟨-, ⟨⟩⟩)
        exact other
      · simp [other]
  | some outcome =>
      rw [start_of_answer answers]
      refine (note_elsewhere _ fun e member => ?_).trans (setRecord_elsewhere s _ other)
      rcases List.mem_cons.1 member with rfl | woken
      · exact other
      · rw [s.wakeUpsOf_url v e woken]
        exact other

theorem ensureStarted_sameAt (same : s.SameAt t url) :
    (s.ensureStarted url).SameAt (t.ensureStarted url) url := by
  by_cases due : (t.record url).isDue t.generation = true
  · have dueToo : (s.record url).isDue s.generation = true := by
      rwa [same.record, same.generation]
    rw [ensureStarted_of_due due, ensureStarted_of_due dueToo, same.generation]
    exact start_sameAt same _
  · have idleToo : ¬ (s.record url).isDue s.generation = true := by
      rwa [same.record, same.generation]
    rwa [ensureStarted_of_not_due due, ensureStarted_of_not_due idleToo]

theorem ensureStarted_elsewhere (s : State) (other : v ≠ url) :
    (s.ensureStarted v).SameAt s url := by
  by_cases due : (s.record v).isDue s.generation = true
  · rw [ensureStarted_of_due due]
    exact start_elsewhere s other _
  · rw [ensureStarted_of_not_due due]
    exact .refl s url

/-! ## The end of a download -/

theorem close_of_gone {d : Download} (gone : d ∉ s.pending) (outcome : Outcome) :
    s.close d outcome = s := if_neg gone

theorem close_sameAt {d : Download} (same : s.SameAt t d.url) (outcome : Outcome) :
    (s.close d outcome).SameAt (t.close d outcome) d.url := by
  have underWay : d ∈ s.pending ↔ d ∈ t.pending := by
    rw [← mem_downloadsOf, same.downloads, mem_downloadsOf]
  have fewer : (s.pending.erase d).filter (·.url == d.url) =
      (t.pending.erase d).filter (·.url == d.url) := by
    rw [← List.erase_filter, ← List.erase_filter]
    exact congrArg (List.erase · d) same.downloads
  by_cases here : d ∈ t.pending
  · cases counts : (t.record d.url).accepts d.attempt with
    | false =>
        rw [close_of_not_accepts here counts,
          close_of_not_accepts (underWay.2 here) (same.record ▸ counts)]
        exact same.withPending fewer
    | true =>
        rw [close_of_accepts here counts,
          close_of_accepts (underWay.2 here) (same.record ▸ counts), same.record, same.wakeUpsOf]
        exact ((same.setRecord _).note _).withPending fewer
  · rwa [close_of_gone here, close_of_gone (mt underWay.1 here)]

theorem close_elsewhere (s : State) {d : Download} (other : d.url ≠ url) (outcome : Outcome) :
    (s.close d outcome).SameAt s url := by
  have fewer : (s.pending.erase d).filter (·.url == url) = s.pending.filter (·.url == url) := by
    rw [← List.erase_filter]
    exact List.erase_of_not_mem (by simp [other])
  rcases s.close_cases d outcome with same | ⟨-, -, same⟩ | ⟨-, -, same⟩
  · rw [same]
    exact .refl s url
  · rw [same]
    exact (SameAt.refl s url).withPending fewer
  · rw [same]
    refine ((note_elsewhere _ fun e woken => ?_).trans
      (setRecord_elsewhere s _ other)).withPending fewer
    rw [s.wakeUpsOf_url d.url e woken]
    exact other

/-! ## Those who wait -/

theorem await_sameAt (same : s.SameAt t url) (subscriber : Option Nat) :
    (s.await url subscriber).SameAt (t.await url subscriber) url := by
  cases subscriber with
  | none => exact same
  | some id =>
      simp only [await, same.record]
      exact same.setRecord _

theorem await_elsewhere (s : State) (other : v ≠ url) (subscriber : Option Nat) :
    (s.await v subscriber).SameAt s url := by
  cases subscriber with
  | none => exact .refl s url
  | some id => exact setRecord_elsewhere s _ other

end State

/-! ## One operation -/

variable {s t : State} {url : String}

theorem Op.concerns_iff {op : Op} :
    op.concerns url = true ↔ op.address? = some url ∨ op.address? = none := by
  cases address : op.address? <;> simp [concerns, address]

/-- An operation on another address leaves all there is about this one. -/
theorem Op.apply_elsewhere {op : Op} (other : op.concerns url = false) :
    (op.apply s).SameAt s url := by
  cases op with
  | answer v outcome =>
      have ne : v ≠ url := by simpa [concerns, address?] using other
      exact { State.SameAt.refl s url with answer := if_neg ne.symm }
  | close d outcome => exact s.close_elsewhere (by simpa [concerns, address?] using other) outcome
  | ensure v => exact s.ensureStarted_elsewhere (by simpa [concerns, address?] using other)
  | restart v => exact s.start_elsewhere (by simpa [concerns, address?] using other) _
  | await v subscriber =>
      exact s.await_elsewhere (by simpa [concerns, address?] using other) subscriber
  | bump | unsubscribe id => exact Bool.noConfusion other

/-- What states have in common about an address, no operation makes them lose. -/
theorem Op.apply_sameAt (same : s.SameAt t url) (op : Op) :
    (op.apply s).SameAt (op.apply t) url := by
  cases here : op.concerns url with
  | false => exact ((apply_elsewhere here).trans same).trans (apply_elsewhere here).symm
  | true =>
      rw [concerns_iff] at here
      cases op with
      | answer v outcome =>
          obtain rfl : v = url := by simpa [address?] using here
          exact { same with answer := by simp only [apply, State.setAnswer, if_true] }
      | close d outcome =>
          obtain rfl : d.url = url := by simpa [address?] using here
          exact State.close_sameAt same outcome
      | ensure v =>
          obtain rfl : v = url := by simpa [address?] using here
          exact State.ensureStarted_sameAt same
      | restart v =>
          obtain rfl : v = url := by simpa [address?] using here
          simp only [apply, State.restart, same.generation]
          exact State.start_sameAt same _
      | await v subscriber =>
          obtain rfl : v = url := by simpa [address?] using here
          exact State.await_sameAt same subscriber
      | bump => exact { same with generation := congrArg (· + 1) same.generation }
      | unsubscribe id =>
          exact { same with record := congrArg (Record.unsubscribe · id) same.record }

/-! ## Runs -/

/-- A run may be replayed without the operations on other addresses, from any state that has
all there is about this one. -/
theorem State.run_filter_sameAt (same : s.SameAt t url) (ops : List Op) :
    (s.run ops).SameAt (t.run (ops.filter (Op.concerns url))) url := by
  induction ops generalizing s t with
  | nil => exact same
  | cons op ops ih =>
      cases here : op.concerns url with
      | false =>
          rw [List.filter_cons_of_neg (by simp [here])]
          exact ih ((Op.apply_elsewhere here).trans same)
      | true =>
          rw [List.filter_cons_of_pos here]
          exact ih (Op.apply_sameAt same op)

end WorkflowLint.Fetch
