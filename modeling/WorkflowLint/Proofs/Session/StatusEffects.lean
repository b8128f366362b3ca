/-
# WorkflowLint.Proofs.Session.StatusEffects -- what one status starts

A status looks at the address of its action and, only when the manifest is missing there, at
that of the default branch.  When these are one address, the second look finds nothing to be
started (`look_not_due`); when they are two, the first look leaves the second address as it
was.  So what a status starts can be told from the state before it, but for the one question
that the first look decides (`hostedStatus_started`).

A status leaves nothing to be started by the next one of the same reference
(`hostedStatus_idle`).
-/
import WorkflowLint.Proofs.Effects
import WorkflowLint.Proofs.Session.Agreement
import WorkflowLint.Proofs.Session.RetryBudget

namespace WorkflowLint

set_option autoImplicit false

open Fetch (Outcome State)

namespace Cache

variable {sources : Sources} {a : HostedAction} {own head : String}

/-- The first look, or the first and one at the default branch. -/
theorem hostedStatus_looks (asker : Asker) (s : State)
    (addresses : sources.host.Addresses a own head) :
    let u := look asker own s
    let t := (hostedStatus sources asker a own s).2
    (t = u ∧ ((u.record own).phase.IsMissing → own = head)) ∨
      (t = look asker head u ∧ (u.record own).phase.IsMissing) := by
  intro u t
  rcases hostedStatus_cases asker s addresses with ⟨same, alone⟩ | ⟨same, missing⟩
  · refine Or.inl ⟨congrArg Prod.snd same, fun missing => ?_⟩
    exact eq_head_of_isHead addresses (alone (statusOfPhase_of_isMissing missing))
  · exact Or.inr ⟨congrArg Prod.snd same, isMissing_of_statusOfPhase missing⟩

/-- What the status of a hosted action starts, in order. -/
theorem hostedStatus_started (asker : Asker) (s : State)
    (addresses : sources.host.Addresses a own head) :
    (hostedStatus sources asker a own s).2.started = s.started ++
      (if (s.record own).isDue s.generation = true then [own] else []) ++
      (if head ≠ own ∧ ((look asker own s).record own).phase.IsMissing ∧
          (s.record head).isDue s.generation = true then [head] else []) := by
  rcases hostedStatus_looks asker s addresses with ⟨left, alone⟩ | ⟨left, missing⟩
  · have none : ¬ (head ≠ own ∧ ((look asker own s).record own).phase.IsMissing ∧
        (s.record head).isDue s.generation = true) := fun both => both.1 (alone both.2.1).symm
    rw [left, look_started, if_neg none, List.append_nil]
  · rw [left, look_started, look_started]
    by_cases one : head = own
    · subst one
      have none : ¬ (head ≠ head ∧ ((look asker head s).record head).phase.IsMissing ∧
          (s.record head).isDue s.generation = true) := fun both => both.1 rfl
      rw [if_neg (look_not_due asker head s), if_neg none]
    · rw [look_record_ne asker s one, look_generation]
      simp only [ne_eq, one, not_false_eq_true, missing, true_and]

/-- Nothing happens to an address that a status does not look at. -/
theorem hostedStatus_elsewhere (asker : Asker) (s : State)
    (addresses : sources.host.Addresses a own head) {url : String} (other : own ≠ url)
    (unseen : head = url → ¬ ((look asker own s).record own).phase.IsMissing) :
    (hostedStatus sources asker a own s).2.SameAt s url := by
  rcases hostedStatus_looks asker s addresses with ⟨left, -⟩ | ⟨left, missing⟩
  · rw [left]
    exact look_elsewhere asker s other
  · rw [left]
    exact (look_elsewhere asker _ fun here => unseen here missing).trans
      (look_elsewhere asker s other)

/-- A status leaves the address of its action not due, and that of the default branch neither
when the manifest is missing. -/
theorem hostedStatus_idle (asker : Asker) (s : State)
    (addresses : sources.host.Addresses a own head) :
    let t := (hostedStatus sources asker a own s).2
    ¬ (t.record own).isDue t.generation = true ∧
      ((t.record own).phase.IsMissing → ¬ (t.record head).isDue t.generation = true) := by
  intro t
  have idle := look_not_due asker own s
  rcases hostedStatus_looks asker s addresses with ⟨left, alone⟩ | ⟨left, -⟩
  · have same : t = look asker own s := left
    rw [same]
    exact ⟨idle, fun missing => alone missing ▸ idle⟩
  · have same : t = look asker head (look asker own s) := left
    rw [same]
    exact ⟨(look_rested asker head idle).idle, fun _ => look_not_due asker head _⟩

/-- A status that follows another one of the same action starts nothing. -/
theorem hostedStatus_again (asker : Asker) (s : State)
    (addresses : sources.host.Addresses a own head) :
    let t := (hostedStatus sources asker a own s).2
    (hostedStatus sources asker a own t).2.started = t.started := by
  intro t
  obtain ⟨ownIdle, headIdle⟩ := hostedStatus_idle asker s addresses
  have seen : ((look asker own t).record own).phase.seen = (t.record own).phase.seen :=
    (look_rested asker own ownIdle).seen
  have none : ¬ (head ≠ own ∧ ((look asker own t).record own).phase.IsMissing ∧
      (t.record head).isDue t.generation = true) := by
    rintro ⟨-, missing, due⟩
    have still := statusOfPhase_of_isMissing missing
    rw [statusOfPhase_congr seen] at still
    exact headIdle (isMissing_of_statusOfPhase still) due
  rw [hostedStatus_started asker t addresses, if_neg ownIdle, if_neg none, List.append_nil,
    List.append_nil]

/-- A reference that names nothing, an image and a local path are not looked at. -/
theorem status_of_unhosted {r : Reference} (unhosted : r.isNamed = false ∨ r.hosted? = none)
    (asker : Asker) (s : State) : (status sources asker r s).2 = s := by
  cases r with
  | hosted a =>
      have unnamed : (Reference.hosted a).isNamed = false :=
        unhosted.resolve_right (Option.some_ne_none a)
      simp [status, unnamed]
  | image i | localPath path =>
      unfold status
      split <;> rfl

/-- A status that follows another one of the same reference starts nothing. -/
theorem status_again (asker : Asker) (r : Reference) (s : State) :
    let t := (status sources asker r s).2
    (status sources asker r t).2.started = t.started := by
  intro t
  cases named : r.isNamed with
  | false => rw [status_of_unhosted (Or.inl named)]
  | true =>
      cases r with
      | image i | localPath path => rw [status_of_unhosted (Or.inr rfl)]
      | hosted a =>
          obtain ⟨own, head, addresses⟩ := ManifestHost.Addresses.of_isNamed sources.host named
          have asked : ∀ s, (status sources asker (.hosted a) s).2 =
              (hostedStatus sources asker a own s).2 := fun s =>
            congrArg Prod.snd (status_of_hosted named addresses)
          simp only [t, asked]
          exact hostedStatus_again asker s addresses

theorem status_generation (sources : Sources) (asker : Asker) (r : Reference) (s : State) :
    (status sources asker r s).2.generation = s.generation := by
  rw [status_snd, lookAll_generation]

end Cache

namespace Session

/-- **The effects of one status.**  After every session, the status of a reference that names
nothing, of an image or of a local path leaves everything as it was.  That of a hosted action
first looks at the address of its manifest, and then at that of the default branch when the
manifest turns out to be missing.  It starts the first if it is due, and then the second if it
is another one, the manifest is missing at that moment, and it is due; nothing happens to any
address that it does not look at, nor to the generation.  The same status once more starts
nothing. -/
theorem status_effects (sources : Sources) (answers : String → Option Outcome)
    (requests : List Step) (asker : Asker) (r : Reference) :
    let s := run sources (.initial answers) requests
    let t := (Cache.status sources asker r s).2
    (r.isNamed = false ∨ r.hosted? = none → t = s) ∧
      (∀ a, r = .hosted a → r.isNamed = true →
        ∃ own head, sources.host.actionUrl a = some own ∧
          sources.host.actionUrl (a.atRevision headRevision) = some head ∧
          let u := Cache.look asker own s
          (t = u ∨ (t = Cache.look asker head u ∧ (u.record own).phase.IsMissing)) ∧
            t.started = s.started ++ (if s.Due own then [own] else []) ++
              (if head ≠ own ∧ (u.record own).phase.IsMissing ∧ s.Due head then [head] else []) ∧
            ∀ url, own ≠ url → (head = url → ¬ (u.record own).phase.IsMissing) →
              t.SameAt s url) ∧
      t.generation = s.generation ∧
      (Cache.status sources asker r t).2.started = t.started := by
  intro s t
  have coherent : s.Coherent := run_coherent sources (State.initial_coherent answers) requests
  have due : ∀ url, s.Due url ↔ (s.record url).isDue s.generation = true := fun url =>
    coherent.due_iff (run_budget sources answers requests url)
  refine ⟨fun unhosted => Cache.status_of_unhosted unhosted asker s, ?_,
    Cache.status_generation sources asker r s, Cache.status_again asker r s⟩
  rintro a rfl named
  obtain ⟨own, head, addresses⟩ := ManifestHost.Addresses.of_isNamed sources.host named
  have left : t = (Cache.hostedStatus sources asker a own s).2 :=
    congrArg Prod.snd (Cache.status_of_hosted named addresses)
  refine ⟨own, head, addresses.own_eq, addresses.head_eq, ?_, ?_, fun url other unseen => ?_⟩
  · rw [left]
    exact (Cache.hostedStatus_looks asker s addresses).imp_left And.left
  · simp only [due]
    rw [left]
    exact Cache.hostedStatus_started asker s addresses
  · rw [left]
    exact Cache.hostedStatus_elsewhere asker s addresses other unseen

/-- `v1` has failed before the last bump. -/
private def failedBefore : List Step := [.ensure actionUrl, .bump]

theorem status_effects_missing_again :
    let s := run silentSources (.initial missingVersion) failedBefore
    let asked := Cache.status silentSources ⟨none, some 7⟩ (.hosted sampleAction) s
    (Reference.hosted sampleAction).isNamed = true ∧ asked.1 = .inProgress ∧
      asked.2.started = s.started ++ [actionUrl] ++ [headUrl] ∧
      (Cache.status silentSources ⟨none, some 7⟩ (.hosted sampleAction) asked.2).2.started =
        asked.2.started ∧
      (Cache.status silentSources ⟨none, some 7⟩ (.localPath "./o") s).2 = s := by
  intro s asked
  have named : (Reference.hosted sampleAction).isNamed = true := by decide
  have effects := status_effects silentSources missingVersion failedBefore ⟨none, some 7⟩
  obtain ⟨-, looks, -, again⟩ := effects (.hosted sampleAction)
  obtain ⟨own, head, ownEq, headEq, -, started, -⟩ := looks sampleAction rfl named
  obtain rfl : actionUrl = own := Option.some.inj (sampleAction_addresses.own_eq.symm.trans ownEq)
  obtain rfl : headUrl = head :=
    Option.some.inj (sampleAction_addresses.head_eq.symm.trans headEq)
  refine ⟨named, by decide, ?_, again, (effects (.localPath "./o")).1 (Or.inr rfl)⟩
  rw [started]
  decide

end Session

end WorkflowLint
