/-
# WorkflowLint.Proofs.Session.Agreement -- the status and the manifest of a reference agree

A status and a manifest are looked up separately, and only the status goes on to the
default branch when there is nothing at the revision.  Still the action is available
exactly when there is a manifest: what the default branch adds to a status never says
that the action is available (`statusBelowHead_ne_available`).

Nor does it matter which of the two is asked first.  A look leaves its address with
nothing to be started, and every further look, wherever it goes, leaves it so and shows
the same there (`lookAll_rested`).
-/
import WorkflowLint.Proofs.Look
import WorkflowLint.Proofs.Session.Trace

namespace WorkflowLint

set_option autoImplicit false

open Fetch (Outcome Phase State)

/-! ## An address that rests -/

namespace Fetch.State

/-- From `s` to `t` an address rests: no download of it is started, what is seen of it stays,
and a look still starts nothing. -/
structure Rested (s t : State) (url : String) : Prop where
  starts : t.starts url = s.starts url
  seen : (t.record url).phase.seen = (s.record url).phase.seen
  idle : ¬ (t.record url).isDue t.generation = true

theorem Rested.trans {s t u : State} {url : String} (first : s.Rested t url)
    (second : t.Rested u url) : s.Rested u url where
  starts := second.starts.trans first.starts
  seen := second.seen.trans first.seen
  idle := second.idle

end Fetch.State

namespace Cache

variable {sources : Sources} {r : Reference} {s : State}

/-- An address at which nothing is due rests while any address is looked at. -/
theorem look_rested (asker : Asker) (v : String) {url : String}
    (idle : ¬ (s.record url).isDue s.generation = true) :
    s.Rested (look asker v s) url := by
  have waited : (look asker v s).starts url = (s.ensureStarted v).starts url :=
    (State.await_counts (s.ensureStarted v) v asker.subscriber url).starts
  by_cases here : v = url
  · subst here
    have same : s.ensureStarted v = s := State.ensureStarted_of_not_due idle
    refine ⟨?_, ?_, look_not_due asker v s⟩
    · rw [waited, same]
    · rw [look_seen, same]
  · have other : url ≠ v := Ne.symm here
    have kept : (look asker v s).record url = s.record url := look_record_ne asker s other
    have generation : (look asker v s).generation = s.generation :=
      State.run_generation s [.ensure v, .await v asker.subscriber]
    refine ⟨?_, by rw [kept], by rwa [kept, generation]⟩
    by_cases due : (s.record v).isDue s.generation = true
    · rw [waited, State.ensureStarted_of_due due, State.start_starts, if_neg here, Nat.add_zero]
    · rw [waited, State.ensureStarted_of_not_due due]

theorem lookAll_rested (asker : Asker) (urls : List String) {url : String}
    (idle : ¬ (s.record url).isDue s.generation = true) :
    s.Rested (lookAll asker urls s) url := by
  induction urls generalizing s with
  | nil => exact ⟨rfl, rfl, idle⟩
  | cons v urls ih =>
      have first : s.Rested (look asker v s) url := look_rested asker v idle
      exact first.trans (ih first.idle)

/-! ## What makes an action available -/

theorem hostedStatus_eq_available_iff {asker : Asker} {a : HostedAction} {own head : String}
    (addresses : sources.host.Addresses a own head) :
    (hostedStatus sources asker a own s).1 = .available ↔
      ((look asker own s).record own).phase.delivered?.isSome = true := by
  rw [← statusOfPhase_eq_available_iff]
  rcases hostedStatus_cases asker s addresses with ⟨same, -⟩ | ⟨same, missing⟩
  · rw [same]
  · rw [same, missing]
    exact iff_of_false (statusBelowHead_ne_available _) Status.noConfusion

/-- Asked in one state, the status says that the action is available exactly when there is a
manifest. -/
theorem status_eq_available_iff (sources : Sources) (asker : Asker) (r : Reference) (s : State) :
    (status sources asker r s).1 = .available ↔
      (manifest sources asker r s).1.isSome = true := by
  cases named : r.isNamed with
  | false => simp [status, manifest, named]
  | true =>
      cases r with
      | image i | localPath path =>
          simp [status, manifest, named, ManifestHost.url, Reference.hosted?,
            Option.isSome_iff_ne_none]
      | hosted a =>
          obtain ⟨own, head, addresses⟩ := ManifestHost.Addresses.of_isNamed sources.host named
          rw [status_of_hosted named addresses, manifest_of_url named addresses.own_eq]
          exact hostedStatus_eq_available_iff addresses

/-! ## One after the other -/

/-- Whoever looks up a named reference looks at its own address first. -/
theorem statusLooks_head? {asker : Asker} {own : String} (named : r.isNamed = true)
    (found : sources.host.url r = some own) :
    (statusLooks sources asker r s).head? = some own := by
  obtain ⟨a, head, rfl, addresses⟩ := addresses_of_url found
  simp only [statusLooks, named, if_true, addresses.own_eq, hostedLooks]
  split <;> rfl

theorem manifestLooks_head? {host : ManifestHost} {own : String} (named : r.isNamed = true)
    (found : host.url r = some own) : (manifestLooks host r).head? = some own := by
  simp only [manifestLooks, named, if_true, found]
  rfl

/-- Once an address was looked at it rests, whatever is looked at next. -/
theorem looked_rested (asker : Asker) {urls : List String} {url : String}
    (first : urls.head? = some url) (s : State) :
    (look asker url s).Rested (lookAll asker urls s) url := by
  cases urls with
  | nil => exact absurd first (Option.some_ne_none url).symm
  | cons v rest =>
      obtain rfl : v = url := by simpa using first
      exact lookAll_rested asker rest (look_not_due asker v s)

/-- A lookup that has looked at the address of a reference leaves its manifest as it is. -/
theorem manifest_after_looks (asker : Asker) (subscriber : Option Nat) {urls : List String}
    (first : ∀ own, r.isNamed = true → sources.host.url r = some own → urls.head? = some own) :
    (manifest sources { asker with subscriber } r (lookAll asker urls s)).1 =
      (manifest sources asker r s).1 := by
  cases named : r.isNamed with
  | false => simp [manifest, named]
  | true =>
      cases found : sources.host.url r with
      | none =>
          simp only [manifest, named, found, if_true]
          cases r <;> rfl
      | some own =>
          have rested := looked_rested asker (first own named found) s
          rw [manifest_of_url named found, manifest_of_url named found]
          exact delivered?_congr (rested.trans (look_rested _ own rested.idle)).seen

/-- Whoever looks next starts nothing there, wherever else it looks. -/
theorem starts_after_looks (asker other : Asker) {urls : List String} {url : String}
    (first : urls.head? = some url) (next : List String) :
    (lookAll other next (lookAll asker urls s)).starts url = (lookAll asker urls s).starts url :=
  (lookAll_rested other next (looked_rested asker first s).idle).starts

/-- **The status and the manifest of a reference agree.**  In every state, for every reference
and whoever asks, the status says that the action is available exactly when there is a
manifest, also when one is asked right after the other, in either order and for whichever
subscriber.  The second of the two never starts a download of the reference's own manifest. -/
theorem status_manifest_agree (sources : Sources) (asker : Asker) (r : Reference) (s : State) :
    let asked := status sources asker r s
    let found := manifest sources asker r s
    (asked.1 = .available ↔ found.1.isSome = true) ∧
      ∀ subscriber, let other : Asker := { asker with subscriber }
        (asked.1 = .available ↔ (manifest sources other r asked.2).1.isSome = true) ∧
          (found.1.isSome = true ↔ (status sources other r found.2).1 = .available) ∧
          ∀ own, sources.host.url r = some own →
            (manifest sources other r asked.2).2.starts own = asked.2.starts own ∧
              (status sources other r found.2).2.starts own = found.2.starts own := by
  intro asked found
  have agree : asked.1 = .available ↔ found.1.isSome = true :=
    status_eq_available_iff sources asker r s
  have left : asked.2 = lookAll asker (statusLooks sources asker r s) s := status_snd ..
  have left' : found.2 = lookAll asker (manifestLooks sources.host r) s := manifest_snd ..
  refine ⟨agree, fun subscriber => ?_⟩
  intro other
  have after : (manifest sources other r asked.2).1 = found.1 := by
    rw [left]
    exact manifest_after_looks asker subscriber fun own => statusLooks_head?
  have after' : (manifest sources other r found.2).1 = found.1 := by
    rw [left']
    exact manifest_after_looks asker subscriber fun own => manifestLooks_head?
  refine ⟨?_, ?_, fun own url => ?_⟩
  · rw [after]
    exact agree
  · rw [status_eq_available_iff sources other r found.2, after']
  · cases named : r.isNamed with
    | false => simp [asked, found, status, manifest, named]
    | true =>
        rw [manifest_snd sources other r asked.2, status_snd sources other r found.2, left, left']
        exact ⟨starts_after_looks asker other (statusLooks_head? named url) _,
          starts_after_looks asker other (manifestLooks_head? named url) _⟩

/-- There is a manifest on the default branch, and none at `v1`. -/
private def onlyHead : String → Option Outcome := answersOf (some notFound) (some (.body "{}"))

theorem status_manifest_agree_only_head :
    let r := Reference.hosted sampleAction
    let asked := status silentSources ⟨none, some 7⟩ r (.initial onlyHead)
    silentSources.host.url r = some actionUrl ∧ asked.1 = .revisionNotFound ∧
      ¬ (manifest silentSources ⟨none, none⟩ r asked.2).1.isSome = true ∧
      (manifest silentSources ⟨none, none⟩ r asked.2).2.starts actionUrl =
        asked.2.starts actionUrl := by
  intro r asked
  have agree := status_manifest_agree silentSources ⟨none, some 7⟩ r (.initial onlyHead)
  have addresses := sampleAction_addresses
  have answer : asked.1 = .revisionNotFound := by
    have readable : (Manifest.parse "{}").toOption.isSome = true := by decide +kernel
    have decided : (hostedStatus silentSources ⟨none, some 7⟩ sampleAction actionUrl
        (.initial onlyHead)).1 = _ :=
      hostedStatus_of_answered addresses (State.initial_answered onlyHead actionUrl)
        (State.initial_answered onlyHead headUrl)
    have head : statusOfPhase (.ofAnswer (some (.body "{}"))) = .available := by
      simp [statusOfPhase, Phase.ofAnswer, Outcome.stage, Outcome.manifest?, readable]
    simp only [asked]
    rw [status_of_hosted (by decide) addresses, decided]
    exact congrArg statusBelowHead head
  refine ⟨addresses.own_eq, answer, ?_, ((agree.2 none).2.2 actionUrl addresses.own_eq).1⟩
  rw [← (agree.2 none).1]
  exact fun available => Status.noConfusion (answer.symm.trans available)

end Cache

end WorkflowLint
