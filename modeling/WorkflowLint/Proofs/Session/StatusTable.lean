/-
# WorkflowLint.Proofs.Session.StatusTable -- the status of a reference as a table

`StatusRow` lists the statuses of references, one constructor for each row: what has to
hold of the reference, of the local files, or of what is known after the call of the two
addresses that decide on a hosted action.  The rows exclude one another and leave out
nothing: after every session, a status is in a row exactly when it is the one that is
answered (`status_table`).

The look at the default branch may go to the very address that was just found missing,
when the reference names no well-formed revision.  That look starts nothing, so it finds
the same once more and the answer stays.
-/
import WorkflowLint.Proofs.Look
import WorkflowLint.Proofs.Session.Trace

namespace WorkflowLint

set_option autoImplicit false

open Fetch (Outcome Phase Record State)

namespace Fetch.Phase

/-- The newest attempt failed because there is nothing at the address. -/
def IsMissing (p : Phase) : Prop :=
  p.stage = .failed ∧ ∃ f, p.failure? = some f ∧ f.status = some 404

/-- The newest attempt failed for any other reason. -/
def IsBroken (p : Phase) : Prop :=
  p.stage = .failed ∧ ∃ f, p.failure? = some f ∧ f.status ≠ some 404

end Fetch.Phase

namespace Cache

/-- The status of a hosted action by what is known of its own address and of that of the
default branch, which may be the `same`. -/
inductive HostedRow (own head : Phase) (same : Prop) : Status → Prop where
  | inProgress : own.stage = .inProgress → HostedRow own head same .inProgress
  | available : own.stage = .downloaded → own.manifest?.isSome = true →
      HostedRow own head same .available
  | unreadable : own.stage = .downloaded → own.manifest? = none → HostedRow own head same .unknown
  | failed : own.IsBroken → HostedRow own head same .failed
  | missing : own.IsMissing → same → HostedRow own head same .actionNotFound
  | headAvailable : own.IsMissing → ¬ same → head.stage = .downloaded →
      head.manifest?.isSome = true → HostedRow own head same .revisionNotFound
  | headUnreadable : own.IsMissing → ¬ same → head.stage = .downloaded → head.manifest? = none →
      HostedRow own head same .unknown
  | headInProgress : own.IsMissing → ¬ same → head.stage = .inProgress →
      HostedRow own head same .inProgress
  | headMissing : own.IsMissing → ¬ same → head.IsMissing → HostedRow own head same .actionNotFound
  | headFailed : own.IsMissing → ¬ same → head.IsBroken → HostedRow own head same .failed

/-- The status of a reference by the files and by what is known in `t` of its addresses. -/
inductive StatusRow (sources : Sources) (asker : Asker) (t : State) : Reference → Status → Prop where
  | unnamed {r : Reference} : r.isNamed = false → StatusRow sources asker t r .unknown
  | image (i : ContainerImage) : StatusRow sources asker t (.image i) .unknown
  | localFound {path : String} {document file : Path} {text : String} {m : Manifest} :
      asker.document = some document →
      LocalAction.findManifest sources.files document path = some file →
      sources.files.readText file = .ok text → Manifest.parse text = .ok m →
      StatusRow sources asker t (.localPath path) .available
  | localMissing {path : String} :
      (¬ ∃ document file text m, asker.document = some document ∧
        LocalAction.findManifest sources.files document path = some file ∧
        sources.files.readText file = .ok text ∧ Manifest.parse text = .ok m) →
      StatusRow sources asker t (.localPath path) .unknown
  | hosted {a : HostedAction} {own head : String} {status : Status} :
      (Reference.hosted a).isNamed = true → sources.host.actionUrl a = some own →
      sources.host.actionUrl (a.atRevision headRevision) = some head →
      HostedRow (t.record own).phase (t.record head).phase (own = head) status →
      StatusRow sources asker t (.hosted a) status

/-! ## Hosted actions -/

theorem statusOfPhase_of_isMissing {p : Phase} (missing : p.IsMissing) :
    statusOfPhase p = .actionNotFound := by
  obtain ⟨stage, f, failure, status⟩ := missing
  simp [statusOfPhase, stage, failure, Fetch.Failure.isNotFound, status]

theorem isMissing_of_statusOfPhase {p : Phase} (missing : statusOfPhase p = .actionNotFound) :
    p.IsMissing := by
  cases stage : p.stage with
  | notStarted | inProgress => simp [statusOfPhase, stage] at missing
  | downloaded =>
      simp only [statusOfPhase, stage] at missing
      split at missing <;> exact Status.noConfusion missing
  | failed =>
      simp only [statusOfPhase, stage] at missing
      split at missing
      · rename_i notFound
        obtain ⟨f, failure, code⟩ := (Option.any_eq_true _ _).1 notFound
        exact ⟨stage, f, failure, by simpa [Fetch.Failure.isNotFound] using code⟩
      · exact Status.noConfusion missing

theorem statusOfPhase_of_isBroken {p : Phase} (broken : p.IsBroken) :
    statusOfPhase p = .failed := by
  obtain ⟨stage, f, failure, status⟩ := broken
  simp [statusOfPhase, stage, failure, Fetch.Failure.isNotFound, status]

theorem decided_of_isMissing {own head : Phase} {same : Prop} [Decidable same]
    (missing : own.IsMissing) (two : ¬ same) :
    decided own head same = statusBelowHead (statusOfPhase head) :=
  if_pos ⟨statusOfPhase_of_isMissing missing, two⟩

/-- A phase that a row can speak of: an attempt was started, and a failed one left its
failure. -/
structure IsTelling (p : Phase) : Prop where
  known : p.stage ≠ .notStarted
  failure : p.stage = .failed → p.failure?.isSome = true

theorem IsTelling.missing_or_broken {p : Phase} (telling : IsTelling p) (failed : p.stage = .failed) :
    p.IsMissing ∨ p.IsBroken := by
  obtain ⟨f, failure⟩ := Option.isSome_iff_exists.1 (telling.failure failed)
  by_cases status : f.status = some 404
  · exact Or.inl ⟨failed, f, failure, status⟩
  · exact Or.inr ⟨failed, f, failure, status⟩

theorem HostedRow.eq_decided {own head : Phase} {same : Prop} [Decidable same] {status : Status}
    (row : HostedRow own head same status) : status = decided own head same := by
  cases row with
  | inProgress stage => simp [decided, statusOfPhase, stage]
  | available stage manifest => simp [decided, statusOfPhase, stage, manifest]
  | unreadable stage manifest => simp [decided, statusOfPhase, stage, manifest]
  | failed broken => simp [decided, statusOfPhase_of_isBroken broken]
  | missing missing one => simp [decided, statusOfPhase_of_isMissing missing, one]
  | headAvailable missing two stage manifest =>
      rw [decided_of_isMissing missing two]
      simp [statusOfPhase, stage, manifest, statusBelowHead]
  | headUnreadable missing two stage manifest =>
      rw [decided_of_isMissing missing two]
      simp [statusOfPhase, stage, manifest, statusBelowHead]
  | headInProgress missing two stage =>
      rw [decided_of_isMissing missing two]
      simp [statusOfPhase, stage, statusBelowHead]
  | headMissing missing two headMissing =>
      rw [decided_of_isMissing missing two, statusOfPhase_of_isMissing headMissing]
      rfl
  | headFailed missing two broken =>
      rw [decided_of_isMissing missing two, statusOfPhase_of_isBroken broken]
      rfl

/-- What the address of the default branch adds to a missing manifest. -/
theorem HostedRow.of_head {own head : Phase} {same : Prop} (missing : own.IsMissing)
    (two : ¬ same) (telling : IsTelling head) :
    HostedRow own head same (statusBelowHead (statusOfPhase head)) := by
  cases stage : head.stage with
  | notStarted => exact absurd stage telling.known
  | inProgress =>
      have row := HostedRow.headInProgress missing two stage
      simpa [statusOfPhase, stage, statusBelowHead] using row
  | downloaded =>
      cases manifest : head.manifest? with
      | none =>
          have row := HostedRow.headUnreadable missing two stage manifest
          simpa [statusOfPhase, stage, manifest, statusBelowHead] using row
      | some m =>
          have row := HostedRow.headAvailable missing two stage (by rw [manifest]; rfl)
          simpa [statusOfPhase, stage, manifest, statusBelowHead] using row
  | failed =>
      rcases telling.missing_or_broken stage with headMissing | broken
      · rw [statusOfPhase_of_isMissing headMissing]
        exact .headMissing missing two headMissing
      · rw [statusOfPhase_of_isBroken broken]
        exact .headFailed missing two broken

/-- Every status that two addresses decide is in a row. -/
theorem HostedRow.of_decided {own head : Phase} {same : Prop} [Decidable same]
    (telling : IsTelling own) (headTelling : own.IsMissing → IsTelling head) :
    HostedRow own head same (decided own head same) := by
  cases stage : own.stage with
  | notStarted => exact absurd stage telling.known
  | inProgress =>
      have row : HostedRow own head same .inProgress := .inProgress stage
      simpa [decided, statusOfPhase, stage] using row
  | downloaded =>
      cases manifest : own.manifest? with
      | none =>
          have row : HostedRow own head same .unknown := .unreadable stage manifest
          simpa [decided, statusOfPhase, stage, manifest] using row
      | some m =>
          have row : HostedRow own head same .available :=
            .available stage (by rw [manifest]; rfl)
          simpa [decided, statusOfPhase, stage, manifest] using row
  | failed =>
      rcases telling.missing_or_broken stage with missing | broken
      · by_cases one : same
        · have row : HostedRow own head same .actionNotFound := .missing missing one
          simpa [decided, statusOfPhase_of_isMissing missing, one] using row
        · rw [decided_of_isMissing missing one]
          exact .of_head missing one (headTelling missing)
      · have row : HostedRow own head same .failed := .failed broken
        simpa [decided, statusOfPhase_of_isBroken broken] using row

theorem isTelling_of_coherent {s : State} (coherent : s.Coherent) {url : String}
    (known : (s.record url).stage ≠ .notStarted) : IsTelling (s.record url).phase :=
  ⟨known, (coherent.record url).failure_isSome_iff.2⟩

/-! ## References -/

/-- The manifest of a local reference is there exactly when it is found, read and parsed. -/
theorem localManifest_isSome_iff (sources : Sources) (asker : Asker) (path : String) :
    (localManifest sources asker (.localPath path)).isSome = true ↔
      ∃ document file text m, asker.document = some document ∧
        LocalAction.findManifest sources.files document path = some file ∧
        sources.files.readText file = .ok text ∧ Manifest.parse text = .ok m := by
  simp only [localManifest, LocalAction.manifest?, Option.isSome_iff_exists]
  constructor
  · rintro ⟨m, found⟩
    obtain ⟨document, asked, found⟩ := Option.bind_eq_some_iff.1 found
    obtain ⟨file, located, found⟩ := Option.bind_eq_some_iff.1 found
    obtain ⟨text, read, parsed⟩ := Option.bind_eq_some_iff.1 found
    refine ⟨document, file, text, m, asked, located, ?_, ?_⟩
    · cases content : sources.files.readText file with
      | error e => simp [content, Except.toOption] at read
      | ok t => simpa [content, Except.toOption] using read
    · cases result : Manifest.parse text with
      | error e => simp [result, Except.toOption] at parsed
      | ok t => simpa [result, Except.toOption] using parsed
  · rintro ⟨document, file, text, m, asked, located, read, parsed⟩
    exact ⟨m, by simp [asked, located, read, parsed, Except.toOption]⟩

theorem status_of_local (sources : Sources) (asker : Asker) (path : String) (s : State) :
    status sources asker (.localPath path) s =
      (if (localManifest sources asker (.localPath path)).isSome then .available else .unknown, s) :=
  rfl

variable {sources : Sources} {asker : Asker} {r : Reference} {s : State}

theorem StatusRow.eq_status {answer : Status}
    (row : StatusRow sources asker (status sources asker r s).2 r answer) :
    answer = (status sources asker r s).1 := by
  cases row with
  | unnamed unnamed => simp [status, unnamed]
  | image i => simp [status, localManifest]
  | @localFound path document file text m asked located read parsed =>
      have found := (localManifest_isSome_iff sources asker path).2
        ⟨document, file, text, m, asked, located, read, parsed⟩
      rw [status_of_local, if_pos found]
  | @localMissing path missing =>
      have none := mt (localManifest_isSome_iff sources asker path).1 missing
      rw [status_of_local, if_neg none]
  | @hosted a own head answer named ownEq headEq row =>
      have addresses : sources.host.Addresses a own head := ⟨ownEq, headEq⟩
      rw [status_of_hosted named addresses] at row ⊢
      rw [hostedStatus_eq addresses]
      exact row.eq_decided

/-- The status that is answered is in a row. -/
theorem statusRow_of_status (coherent : s.Coherent) :
    StatusRow sources asker (status sources asker r s).2 r (status sources asker r s).1 := by
  cases named : r.isNamed with
  | false =>
      have answer : (status sources asker r s).1 = .unknown := by simp [status, named]
      rw [answer]
      exact .unnamed named
  | true =>
      cases r with
      | image i =>
          have answer : (status sources asker (.image i) s).1 = .unknown := by
            simp [status, localManifest]
          rw [answer]
          exact .image i
      | localPath path =>
          rw [status_of_local]
          by_cases found : (localManifest sources asker (.localPath path)).isSome = true
          · obtain ⟨document, file, text, m, asked, located, read, parsed⟩ :=
              (localManifest_isSome_iff sources asker path).1 found
            rw [if_pos found]
            exact .localFound asked located read parsed
          · rw [if_neg found]
            exact .localMissing (mt (localManifest_isSome_iff sources asker path).2 found)
      | hosted a =>
          obtain ⟨own, head, addresses⟩ := ManifestHost.Addresses.of_isNamed sources.host named
          have left : (status sources asker (.hosted a) s).2.Coherent := by
            rw [status_snd, lookAll_eq_run]
            exact State.run_coherent coherent _
          refine .hosted named addresses.own_eq addresses.head_eq ?_
          rw [status_of_hosted named addresses] at left ⊢
          obtain ⟨known, headKnown⟩ := hostedStatus_known asker s addresses
          rw [hostedStatus_eq addresses]
          refine .of_decided (isTelling_of_coherent left known) fun missing => ?_
          exact isTelling_of_coherent left (headKnown (statusOfPhase_of_isMissing missing))

end Cache

namespace Session

open Cache (StatusRow)

/-- **The status of a reference is decided by the table.**  After every session, for every
reference and whoever asks, a status is in a row of the table exactly when it is the
answer.  A hosted action that is named well has both addresses; after the call its own is
known, and the two are one exactly when the revision is missing, malformed or the default
branch. -/
theorem status_table (sources : Sources) (answers : String → Option Outcome)
    (requests : List Step) (asker : Asker) (r : Reference) :
    let asked := Cache.status sources asker r (run sources (.initial answers) requests)
    (∀ status, StatusRow sources asker asked.2 r status ↔ status = asked.1) ∧
      ∀ a, r = .hosted a → r.isNamed = true →
        ∃ own head, sources.host.actionUrl a = some own ∧
          sources.host.actionUrl (a.atRevision headRevision) = some head ∧
          (asked.2.record own).stage ≠ .notStarted ∧
          (own = head ↔
            a.revision = none ∨ a.isRevisionValid = false ∨ a.revision = some headRevision) := by
  intro asked
  have coherent := run_coherent sources (State.initial_coherent answers) requests
  refine ⟨fun status => ⟨fun row => row.eq_status, ?_⟩, ?_⟩
  · rintro rfl
    exact Cache.statusRow_of_status coherent
  · rintro a rfl named
    obtain ⟨own, head, addresses⟩ := ManifestHost.Addresses.of_isNamed sources.host named
    refine ⟨own, head, addresses.own_eq, addresses.head_eq, ?_, addresses.eq_iff⟩
    simp only [asked, Cache.status_of_hosted named addresses]
    exact (Cache.hostedStatus_known asker _ addresses).1

private def malformed : HostedAction := ⟨"o", some "r", none, some "bad ref"⟩

/-- Nothing is found on the default branch, and no other address answers. -/
private def missingHead : String → Option Outcome := answersOf none (some notFound)

theorem status_table_malformed_revision :
    let asked := Cache.status silentSources ⟨none, none⟩ (.hosted malformed) (.initial missingHead)
    (Reference.hosted malformed).isNamed = true ∧ asked.1 = .actionNotFound ∧
      StatusRow silentSources ⟨none, none⟩ asked.2 (.hosted malformed) .actionNotFound ∧
      ∃ own head, silentSources.host.actionUrl malformed = some own ∧
        silentSources.host.actionUrl (malformed.atRevision headRevision) = some head ∧
        own = head := by
  intro asked
  have table := status_table silentSources missingHead [] ⟨none, none⟩ (.hosted malformed)
  have named : (Reference.hosted malformed).isNamed = true := by decide
  have answer : asked.1 = .actionNotFound := by decide
  obtain ⟨own, head, ownEq, headEq, -, one⟩ := table.2 malformed rfl named
  have same : own = head := one.2 (Or.inr (Or.inl (by decide)))
  exact ⟨named, answer, (table.1 .actionNotFound).2 answer.symm, own, head, ownEq, headEq, same⟩

end Session

end WorkflowLint
