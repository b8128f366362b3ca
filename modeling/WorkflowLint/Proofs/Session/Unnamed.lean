/-
# WorkflowLint.Proofs.Session.Unnamed -- references that name nothing

A reference whose parts hold other characters than those of names has an address all the same,
as soon as it has a repository.  A status and a manifest never look there: they say that nothing
is known and leave everything as it was.  A refresh does not ask whether its reference is named
well; it starts whatever addresses there are (`unnamed_references`), though no lookup of this
reference will read what they bring.
-/
import WorkflowLint.Proofs.Effects
import WorkflowLint.Proofs.Session.Refresh

namespace WorkflowLint

set_option autoImplicit false

open Fetch (Outcome State)

/-- There is an address for whatever has a repository. -/
theorem ManifestHost.url_eq_none_iff (host : ManifestHost) (r : Reference) :
    host.url r = none ↔ r.fullName = none := by
  cases r with
  | hosted a => simp [url, Reference.hosted?, actionUrl, Reference.fullName, HostedAction.fullName]
  | image i | localPath path => exact iff_of_true rfl rfl

/-- Restarts leave all there is about other addresses. -/
theorem Fetch.State.run_restarts_elsewhere {s : State} {urls : List String} {url : String}
    (other : url ∉ urls) : (s.run (urls.map .restart)).SameAt s url := by
  induction urls generalizing s with
  | nil => exact .refl s url
  | cons v urls ih =>
      rw [List.mem_cons, not_or] at other
      exact (ih other.2).trans (start_elsewhere s (Ne.symm other.1) s.generation)

namespace Session

/-- **What names nothing is never looked up, but it is refreshed.**  After every session, and
for every text whose reference is not named well: its status is unknown, it has no manifest, and
both questions leave everything as it was.  A refresh starts its address and, if it is another
one, that of its default branch, and nothing happens to any other address; so a refresh leaves
everything as it was exactly when the reference has no repository. -/
theorem unnamed_references (sources : Sources) (answers : String → Option Outcome)
    (requests : List Step) (uses : String) (unnamed : (Reference.parse uses).isNamed = false) :
    let s := run sources (.initial answers) requests
    let t := (step sources s (.refresh uses)).2
    let urls := Cache.addressesOf sources.host (.parse uses)
    (∀ asker mode, step sources s (.status uses asker mode) = (.status .unknown, s) ∧
        step sources s (.manifest uses asker mode) = (.manifest none, s)) ∧
      t.started = s.started ++ urls ∧
      (∀ url, url ∉ urls → t.SameAt s url) ∧
      (t = s ↔ (Reference.parse uses).fullName = none) := by
  intro s t urls
  have refreshed : t = s.run (urls.map .restart) := step_eq_run sources s (.refresh uses)
  have started : t.started = s.started ++ urls := by
    rw [refreshed, State.run_restarts_started]
  refine ⟨fun asker mode => ?_, started, fun url other => ?_, ?_⟩
  · simp [step, Cache.status, Cache.manifest, unnamed]
  · rw [refreshed]
    exact State.run_restarts_elsewhere other
  · rw [← ManifestHost.url_eq_none_iff sources.host]
    constructor
    · intro same
      rw [same] at started
      have none : urls = [] := List.self_eq_append_right.1 started
      cases found : sources.host.url (.parse uses) with
      | none => rfl
      | some own =>
          obtain ⟨head, -, listed⟩ := Cache.addressesOf_of_url found
          have listed' : urls = _ := listed
          rw [none] at listed'
          split at listed' <;> cases listed'
    · intro noUrl
      have none : urls = [] := Cache.addressesOf_of_none noUrl
      rw [refreshed, none]
      rfl

/-- The two addresses of an owner that holds a blank. -/
private def blankOwner : List String :=
  ["https://raw.example/o wner/repo/v1/action.yml",
    "https://raw.example/o wner/repo/HEAD/action.yml"]

theorem unnamed_references_blank_owner :
    let uses := "o wner/repo@v1"
    let s := run silentSources (.initial fun _ => none) [.refresh "o/r@v1", .bump]
    (Reference.parse uses).isNamed = false ∧
      (step silentSources s (.status uses ⟨none, some 7⟩ .blocking)).2 = s ∧
      (step silentSources s (.refresh uses)).2.started = s.started ++ blankOwner := by
  intro uses s
  have unnamed : (Reference.parse uses).isNamed = false := by decide
  obtain ⟨idle, started, -⟩ := unnamed_references silentSources (fun _ => none)
    [.refresh "o/r@v1", .bump] uses unnamed
  have asked : step silentSources s (.status uses ⟨none, some 7⟩ .blocking) =
      (.status .unknown, s) := (idle ⟨none, some 7⟩ .blocking).1
  refine ⟨unnamed, by rw [asked], ?_⟩
  rw [started]
  decide

/-- Not every request about a reference that names nothing leaves the downloads as they were. -/
theorem refresh_starts_unnamed :
    ¬ ∀ (requests : List Step) (uses : String), (Reference.parse uses).isNamed = false →
      let s := run silentSources (.initial fun _ => none) requests
      (step silentSources s (.refresh uses)).2.started = s.started := by
  intro idle
  have none := idle [] "o wner/repo@v1" (by decide)
  exact absurd none (by decide)

end Session

end WorkflowLint
