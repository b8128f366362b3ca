/-
# WorkflowLint.Proofs.Look -- what one look leaves, and what a status makes of two

A look at an address leaves every other record alone, leaves the address known, and
leaves nothing to be started by the next look (`look_not_due`), so looking twice shows
the same twice (`look_look_seen`).

The status of a hosted action looks at one address or two and never says more than what
can be seen of these two afterwards: it is `decided` by them (`hostedStatus_eq`).  When
the addresses are answered, that is decided by their answers alone
(`hostedStatus_of_answered`), whatever was known before; so two states with the same
answers agree on it (`status_congr`), and on what is delivered (`manifest_congr`).
-/
import WorkflowLint.Proofs.Addresses
import WorkflowLint.Proofs.Fetch.Answers

namespace WorkflowLint.Cache

set_option autoImplicit false

open Fetch (Op Outcome Phase Record State)

/-! ## One look -/

@[simp] theorem look_answers (asker : Asker) (url : String) (s : State) :
    (look asker url s).answers = s.answers := by
  rw [look, State.await_answers, State.ensureStarted_answers]

theorem look_record_ne (asker : Asker) {url v : String} (s : State) (other : v ≠ url) :
    (look asker url s).record v = s.record v := by
  rw [look, State.await_record_ne _ _ other, State.ensureStarted_record_ne s other]

theorem look_seen (asker : Asker) (url : String) (s : State) (v : String) :
    ((look asker url s).record v).phase.seen = ((s.ensureStarted url).record v).phase.seen := by
  rw [look, State.await_seen]

/-- The stage that a look has brought about is the one that its wait finds. -/
theorem look_stage (asker : Asker) (url : String) (s : State) (v : String) :
    ((look asker url s).record v).stage = ((s.ensureStarted url).record v).stage := by
  rw [← Phase.seen_stage, look_seen, Phase.seen_stage]

theorem look_stage_ne (asker : Asker) (url : String) (s : State) :
    ((look asker url s).record url).stage ≠ .notStarted := by
  rw [look_stage]
  by_cases due : (s.record url).isDue s.generation = true
  · rw [State.ensureStarted_of_due due]
    exact s.start_stage_ne url s.generation
  · rw [State.ensureStarted_of_not_due due]
    exact fun unknown => due (Record.isDue_iff.2 (Or.inl unknown))

/-- After a look the next one starts nothing. -/
theorem look_not_due (asker : Asker) (url : String) (s : State) :
    ¬ ((look asker url s).record url).isDue (look asker url s).generation = true := by
  have waited : ((look asker url s).record url).isDue (look asker url s).generation =
      ((s.ensureStarted url).record url).isDue (s.ensureStarted url).generation :=
    @Op.apply_isDue _ (.await url asker.subscriber) url rfl Op.noConfusion
  rw [waited]
  by_cases due : (s.record url).isDue s.generation = true
  · rw [State.ensureStarted_of_due due, State.start_generation, Record.isDue_iff]
    rintro (unknown | ⟨-, old⟩)
    · exact s.start_stage_ne url s.generation unknown
    · exact old (s.start_attempt url s.generation).2
  · rwa [State.ensureStarted_of_not_due due]

/-- What a look has seen, the next one leaves, wherever it goes. -/
theorem look_look_seen (asker : Asker) (own head : String) (s : State) :
    ((look asker head (look asker own s)).record own).phase.seen =
      ((look asker own s).record own).phase.seen := by
  by_cases one : own = head
  · subst one
    rw [look_seen, State.ensureStarted_of_not_due (look_not_due asker own s)]
  · rw [look_record_ne asker _ one]

/-- A look at an answered address sees its answer. -/
theorem look_seen_of_answered (asker : Asker) {url : String} {s : State}
    (answered : s.Answered url) :
    ((look asker url s).record url).phase.seen = .ofAnswer (s.answers url) := by
  rw [look_seen, answered.ensureStarted_seen]

theorem look_answered (asker : Asker) (url : String) {s : State} {v : String}
    (answered : s.Answered v) : (look asker url s).Answered v := by
  have ensured : (s.ensureStarted url).Answered v :=
    @Op.apply_answered _ (.ensure url) rfl v answered
  exact @Op.apply_answered _ (.await url asker.subscriber) rfl v ensured

/-! ## The status of a hosted action -/

theorem statusOfPhase_congr {p q : Phase} (same : p.seen = q.seen) :
    statusOfPhase p = statusOfPhase q :=
  show statusOfPhase p.seen = statusOfPhase q.seen from congrArg statusOfPhase same

theorem statusOfPhase_of_answer {p : Phase} {answer : Option Outcome}
    (seen : p.seen = .ofAnswer answer) : statusOfPhase p = statusOfPhase (.ofAnswer answer) :=
  statusOfPhase_congr (seen.trans (Phase.ofAnswer_seen answer).symm)

theorem statusOfPhase_eq_available_iff {p : Phase} :
    statusOfPhase p = .available ↔ p.delivered?.isSome = true := by
  cases stage : p.stage with
  | downloaded => simp [statusOfPhase, Phase.delivered?, stage, Option.isSome_iff_ne_none]
  | failed =>
      simp only [statusOfPhase, Phase.delivered?, stage]
      split <;> simp
  | notStarted | inProgress => simp [statusOfPhase, Phase.delivered?, stage]

theorem statusOfPhase_eq_inProgress_iff {p : Phase} :
    statusOfPhase p = .inProgress ↔ p.stage = .inProgress := by
  cases stage : p.stage with
  | notStarted | inProgress => simp [statusOfPhase, stage]
  | downloaded | failed =>
      simp only [statusOfPhase, stage]
      split <;> simp

/-- The default branch never makes an action available at another revision. -/
theorem statusBelowHead_ne_available (status : Status) :
    statusBelowHead status ≠ .available := by
  cases status <;> exact Status.noConfusion

theorem statusBelowHead_eq_inProgress_iff {status : Status} :
    statusBelowHead status = .inProgress ↔ status = .inProgress := by
  cases status <;> simp [statusBelowHead]

/-- What two addresses decide on a hosted action, its own and that of the default branch. -/
def decided (own head : Phase) (same : Prop) [Decidable same] : Status :=
  if statusOfPhase own = .actionNotFound ∧ ¬ same then statusBelowHead (statusOfPhase head)
  else statusOfPhase own

theorem decided_of_found {own head : Phase} {same : Prop} [Decidable same]
    (alone : statusOfPhase own = .actionNotFound → same) :
    decided own head same = statusOfPhase own := by
  rw [decided, if_neg]
  rintro ⟨missing, two⟩
  exact two (alone missing)

/-- When there is but one address, what is below it is missing as well. -/
theorem decided_of_missing {own head : Phase} {same : Prop} [Decidable same]
    (missing : statusOfPhase own = .actionNotFound)
    (agree : same → statusOfPhase head = .actionNotFound) :
    decided own head same = statusBelowHead (statusOfPhase head) := by
  by_cases one : same
  · rw [decided, if_neg fun both => both.2 one, missing, agree one]
    rfl
  · exact if_pos ⟨missing, one⟩

variable {sources : Sources} {asker : Asker} {a : HostedAction} {own head : String} {s : State}

/-- One look is enough, unless the manifest is missing at a revision other than the default
branch. -/
theorem hostedStatus_cases (asker : Asker) (s : State)
    (addresses : sources.host.Addresses a own head) :
    let first := look asker own s
    let second := look asker head first
    (hostedStatus sources asker a own s = (statusOfPhase (first.record own).phase, first) ∧
        (statusOfPhase (first.record own).phase = .actionNotFound → a.isHead = true)) ∨
      (hostedStatus sources asker a own s =
          (statusBelowHead (statusOfPhase (second.record head).phase), second) ∧
        statusOfPhase (first.record own).phase = .actionNotFound) := by
  intro first second
  by_cases below : (statusOfPhase (first.record own).phase = .actionNotFound && !a.isHead) = true
  · right
    refine ⟨?_, by simp_all⟩
    simp only [hostedStatus, addresses.head_eq]
    exact if_pos below
  · left
    refine ⟨?_, by simp_all⟩
    simp only [hostedStatus]
    exact if_neg below

theorem status_of_hosted (named : (Reference.hosted a).isNamed = true)
    (addresses : sources.host.Addresses a own head) :
    status sources asker (.hosted a) s = hostedStatus sources asker a own s := by
  simp only [status, named, if_true, addresses.own_eq]

theorem eq_head_of_isHead (addresses : sources.host.Addresses a own head)
    (isHead : a.isHead = true) : own = head :=
  addresses.eq_iff.2 (Or.inr (Or.inr (by simpa [HostedAction.isHead] using isHead)))

/-- The status of a hosted action is decided by what it leaves at its two addresses. -/
theorem hostedStatus_eq (addresses : sources.host.Addresses a own head) :
    let asked := hostedStatus sources asker a own s
    asked.1 = decided (asked.2.record own).phase (asked.2.record head).phase (own = head) := by
  intro asked
  rcases hostedStatus_cases asker s addresses with ⟨same, alone⟩ | ⟨same, missing⟩
  · simp only [asked, same]
    exact (decided_of_found fun missing => eq_head_of_isHead addresses (alone missing)).symm
  · have still := (statusOfPhase_congr (look_look_seen asker own head s)).trans missing
    simp only [asked, same]
    refine (decided_of_missing still ?_).symm
    rintro rfl
    exact still

/-- A status leaves the address of the action known, and that of the default branch when the
manifest of the action is missing. -/
theorem hostedStatus_known (asker : Asker) (s : State)
    (addresses : sources.host.Addresses a own head) :
    let t := (hostedStatus sources asker a own s).2
    (t.record own).stage ≠ .notStarted ∧
      (statusOfPhase (t.record own).phase = .actionNotFound →
        (t.record head).stage ≠ .notStarted) := by
  intro t
  rcases hostedStatus_cases asker s addresses with ⟨same, alone⟩ | ⟨same, -⟩
  · have left : t = look asker own s := congrArg Prod.snd same
    rw [left]
    refine ⟨look_stage_ne asker own s, fun missing => ?_⟩
    rw [← eq_head_of_isHead addresses (alone missing)]
    exact look_stage_ne asker own s
  · have left : t = look asker head (look asker own s) := congrArg Prod.snd same
    rw [left]
    refine ⟨?_, fun _ => look_stage_ne asker head _⟩
    rw [← Phase.seen_stage, look_look_seen, Phase.seen_stage]
    exact look_stage_ne asker own s

/-- Answered addresses decide by their answers, whatever was known before. -/
theorem hostedStatus_of_answered (addresses : sources.host.Addresses a own head)
    (ownAnswered : s.Answered own) (headAnswered : s.Answered head) :
    (hostedStatus sources asker a own s).1 =
      decided (.ofAnswer (s.answers own)) (.ofAnswer (s.answers head)) (own = head) := by
  have ownSeen := statusOfPhase_of_answer (look_seen_of_answered asker ownAnswered)
  rcases hostedStatus_cases asker s addresses with ⟨same, alone⟩ | ⟨same, missing⟩
  · rw [ownSeen] at alone
    rw [same, ownSeen]
    exact (decided_of_found fun missing => eq_head_of_isHead addresses (alone missing)).symm
  · have headSeen := statusOfPhase_of_answer
      (look_seen_of_answered asker (look_answered asker own headAnswered))
    rw [look_answers] at headSeen
    rw [ownSeen] at missing
    rw [same, headSeen]
    refine (decided_of_missing missing ?_).symm
    rintro rfl
    exact missing

/-! ## Lookups in two states -/

variable {t : State} {r : Reference}

/-- Two states with the same answers agree on the status of a reference when the addresses
that decide on it are answered in both, whatever else is known in them. -/
theorem status_congr (answers : s.answers = t.answers)
    (left : ∀ url ∈ addressesOf sources.host r, s.Answered url)
    (right : ∀ url ∈ addressesOf sources.host r, t.Answered url) :
    (status sources asker r s).1 = (status sources asker r t).1 := by
  cases named : r.isNamed with
  | false => simp [status, named]
  | true =>
      cases r with
      | image i => simp only [status, named, if_true]
      | localPath path => rfl
      | hosted a =>
          obtain ⟨own, head, addresses⟩ := ManifestHost.Addresses.of_isNamed sources.host named
          obtain ⟨ownMember, headMember⟩ := mem_addressesOf addresses
          rw [status_of_hosted named addresses, status_of_hosted named addresses,
            hostedStatus_of_answered addresses (left own ownMember) (left head headMember),
            hostedStatus_of_answered addresses (right own ownMember) (right head headMember),
            answers]

theorem delivered?_congr {p q : Phase} (same : p.seen = q.seen) : p.delivered? = q.delivered? :=
  show p.seen.delivered? = q.seen.delivered? from congrArg Phase.delivered? same

theorem manifest_of_url {own : String} (named : r.isNamed = true)
    (found : sources.host.url r = some own) :
    manifest sources asker r s =
      (((look asker own s).record own).phase.delivered?, look asker own s) := by
  simp only [manifest, named, if_true, found]

/-- They agree on its manifest as well. -/
theorem manifest_congr (answers : s.answers = t.answers)
    (left : ∀ url, sources.host.url r = some url → s.Answered url)
    (right : ∀ url, sources.host.url r = some url → t.Answered url) :
    (manifest sources asker r s).1 = (manifest sources asker r t).1 := by
  cases named : r.isNamed with
  | false => simp [manifest, named]
  | true =>
      cases found : sources.host.url r with
      | none => simp [manifest, named, found]
      | some url =>
          have same : ((look asker url s).record url).phase.seen =
              ((look asker url t).record url).phase.seen := by
            rw [look_seen_of_answered asker (left url found),
              look_seen_of_answered asker (right url found), answers]
          rw [manifest_of_url named found, manifest_of_url named found]
          exact delivered?_congr same

end WorkflowLint.Cache
