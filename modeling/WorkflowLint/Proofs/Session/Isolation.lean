/-
# WorkflowLint.Proofs.Session.Isolation -- a session at one address

A request that is direct goes to the downloads themselves: it is on one address, or it is a
bump or a subscriber that ceases to wait, which concern every address.  (A lookup is not: the
answers so far decide which addresses it comes to.)  Its operations are on the address that
it is on (`address?_of_mem_ops`), and they depend on nothing elsewhere (`ops_congr`), nor
does its reply (`reply_congr`).

So whoever only sees one address cannot tell whether the requests on others were made at all
(`addresses_do_not_interfere`), and requests on two addresses may change places.
-/
import WorkflowLint.Proofs.Fetch.Isolation
import WorkflowLint.Proofs.Session.Trace

namespace WorkflowLint

set_option autoImplicit false

open Fetch (Download Event Op Outcome State)

namespace Session

namespace Step

/-- The address that a direct request is on, if it is on a single one. -/
def address? : Step → Option String
  | .answer url _ => some url
  | .unanswer url => some url
  | .complete url _ _ => some url
  | .drop url _ => some url
  | .ensure url => some url
  | .restart url => some url
  | .await url _ _ _ => some url
  | .snapshot url => some url
  | _ => none

/-- Whether a request goes to the downloads themselves, and not to what is known about a
reference or a file. -/
def isDirect : Step → Bool
  | .status _ _ _ | .manifest _ _ _ | .refresh _ | .check _ => false
  | _ => true

def concerns (url : String) (request : Step) : Bool := request.address?.all (· == url)

theorem concerns_of_address {request : Step} {v : String} (on : request.address? = some v)
    (url : String) : request.concerns url = (v == url) := by
  rw [concerns, on, Option.all_some]

end Step

/-- The replies to the requests that concern an address. -/
def repliesAt (sources : Sources) (url : String) (s : State) (requests : List Step) :
    List Reply :=
  (requests.zip (replies sources s requests)).filterMap fun (request, reply, _) =>
    if request.concerns url then some reply else none

variable {sources : Sources} {s t : State} {url : String} {request : Step}

/-! ## One request -/

theorem chosen_congr (same : s.SameAt t url) (nth : Option Nat) :
    s.chosen url nth = t.chosen url nth := by
  have downloads := same.downloads
  simp only [State.downloadsOf] at downloads
  simp only [State.chosen, downloads]

theorem url_of_mem_chosen {nth : Option Nat} {d : Download} (chosen : d ∈ s.chosen url nth) :
    d.url = url := by
  have ofUrl : d ∈ s.downloadsOf url := by
    cases nth with
    | none => exact chosen
    | some n => exact List.mem_of_getElem? (Option.mem_toList.1 chosen)
  simpa using (List.mem_filter.1 ofUrl).2

theorem address?_of_mem_closeOps {nth : Option Nat} {outcome : Outcome} {op : Op}
    (member : op ∈ closeOps s url nth outcome) : op.address? = some url := by
  obtain ⟨d, chosen, rfl⟩ := List.mem_map.1 member
  exact congrArg some (url_of_mem_chosen chosen)

/-- The operations of a direct request are on the address that it is on. -/
theorem address?_of_mem_ops (direct : request.isDirect = true) {op : Op}
    (member : op ∈ ops sources s request) : op.address? = request.address? := by
  cases request with
  | status _ _ _ | manifest _ _ _ | refresh _ | check _ => exact Bool.noConfusion direct
  | complete url nth outcome => exact address?_of_mem_closeOps member
  | drop url nth => exact address?_of_mem_closeOps member
  | snapshot url => exact absurd member List.not_mem_nil
  | await url subscriber mode arriving =>
      cases arriving with
      | none =>
          rw [List.mem_singleton.1 member]
          rfl
      | some outcome =>
          cases mode with
          | blocking =>
              rcases List.mem_append.1 member with close | await
              · exact address?_of_mem_closeOps close
              · rw [List.mem_singleton.1 await]
                rfl
          | nonBlocking | cancelled =>
              rcases List.mem_cons.1 member with rfl | close
              · rfl
              · exact address?_of_mem_closeOps close
  | answer _ _ | unanswer _ | bump | ensure _ | restart _ | unsubscribe _ =>
      rw [List.mem_singleton.1 member]
      rfl

/-- A direct request on another address leaves all there is about this one. -/
theorem step_elsewhere (sources : Sources) (direct : request.isDirect = true)
    (other : request.concerns url = false) : (step sources s request).2.SameAt s url := by
  have none : (ops sources s request).filter (Op.concerns url) = [] := by
    refine List.filter_eq_nil_iff.2 fun op member => ?_
    rw [Op.concerns, address?_of_mem_ops direct member]
    exact Bool.not_eq_true _ ▸ other
  have apart := State.run_filter_sameAt (State.SameAt.refl s url) (ops sources s request)
  rwa [none, State.run_nil, ← step_eq_run] at apart

/-- Which operations a direct request comes to is decided at its own address. -/
theorem ops_congr (direct : request.isDirect = true) (here : request.concerns url = true)
    (same : s.SameAt t url) : ops sources s request = ops sources t request := by
  cases request with
  | status _ _ _ | manifest _ _ _ | refresh _ | check _ => exact Bool.noConfusion direct
  | complete v nth outcome | drop v nth =>
      obtain rfl : v = url := by simpa [Step.concerns, Step.address?] using here
      simp only [ops, closeOps, chosen_congr same]
  | await v subscriber mode arriving =>
      obtain rfl : v = url := by simpa [Step.concerns, Step.address?] using here
      have waiting := State.await_sameAt same subscriber
      cases arriving with
      | none => rfl
      | some outcome =>
          cases mode <;>
            simp only [ops, awaitOps, closeOps, chosen_congr same, chosen_congr waiting]
  | _ => rfl

theorem step_sameAt (sources : Sources) (direct : request.isDirect = true) (here : request.concerns url = true)
    (same : s.SameAt t url) :
    (step sources s request).2.SameAt (step sources t request).2 url := by
  have kept : (ops sources t request).filter (Op.concerns url) = ops sources t request := by
    refine List.filter_eq_self.2 fun op member => ?_
    rw [Op.concerns, address?_of_mem_ops direct member]
    exact here
  have together := State.run_filter_sameAt same (ops sources t request)
  rw [kept] at together
  rwa [step_eq_run, step_eq_run, ops_congr direct here same]

/-- What a direct request is answered with is decided at its own address. -/
theorem reply_congr (direct : request.isDirect = true) (here : request.concerns url = true)
    (same : s.SameAt t url) : (step sources s request).1 = (step sources t request).1 := by
  have next := step_sameAt sources direct here same
  cases request with
  | status _ _ _ | manifest _ _ _ | refresh _ | check _ => exact Bool.noConfusion direct
  | complete v nth outcome | drop v nth =>
      obtain rfl : v = url := by simpa [Step.concerns, Step.address?] using here
      simp only [step, chosen_congr same]
  | ensure v | restart v | snapshot v =>
      obtain rfl : v = url := by simpa [Step.concerns, Step.address?] using here
      exact congrArg (Reply.record v) next.record
  | await v subscriber mode arriving =>
      obtain rfl : v = url := by simpa [Step.concerns, Step.address?] using here
      have waiting := State.await_sameAt same subscriber
      cases arriving with
      | none => exact congrArg (Reply.record v) next.record
      | some outcome =>
          cases mode with
          | blocking => exact congrArg (Reply.record v) next.record
          | nonBlocking | cancelled => exact congrArg (Reply.record v) waiting.record
  | bump => exact congrArg Reply.generation next.generation
  | answer _ _ | unanswer _ | unsubscribe _ => rfl

/-! ## Sessions -/

/-- A session of direct requests may be replayed without those on other addresses. -/
theorem run_filter_sameAt (sources : Sources) (same : s.SameAt t url) {requests : List Step}
    (direct : ∀ request ∈ requests, request.isDirect = true) :
    (run sources s requests).SameAt
      (run sources t (requests.filter (Step.concerns url))) url := by
  induction requests generalizing s t with
  | nil => exact same
  | cons request requests ih =>
      obtain ⟨now, later⟩ := List.forall_mem_cons.1 direct
      cases here : request.concerns url with
      | false =>
          rw [List.filter_cons_of_neg (by simp [here])]
          exact ih ((step_elsewhere sources now here).trans same) later
      | true =>
          rw [List.filter_cons_of_pos here]
          exact ih (step_sameAt sources now here same) later

theorem repliesAt_filter (same : s.SameAt t url) {requests : List Step}
    (direct : ∀ request ∈ requests, request.isDirect = true) :
    repliesAt sources url s requests =
      (replies sources t (requests.filter (Step.concerns url))).map Prod.fst := by
  induction requests generalizing s t with
  | nil => rfl
  | cons request requests ih =>
      obtain ⟨now, later⟩ := List.forall_mem_cons.1 direct
      cases here : request.concerns url with
      | false =>
          have rest := ih ((step_elsewhere sources now here).trans same) later
          rw [List.filter_cons_of_neg (by simp [here]), ← rest]
          simp [repliesAt, replies, here]
      | true =>
          have rest := ih (step_sameAt sources now here same) later
          rw [List.filter_cons_of_pos here, replies, List.map_cons, ← rest,
            ← reply_congr now here same]
          simp [repliesAt, replies, here]

/-- Of two requests that change places, an address is concerned by one at most. -/
theorem filter_swap {first second : Step} {u v : String} (firstOn : first.address? = some u)
    (secondOn : second.address? = some v) (apart : u ≠ v) (before after : List Step)
    (url : String) :
    (before ++ second :: first :: after).filter (Step.concerns url) =
      (before ++ first :: second :: after).filter (Step.concerns url) := by
  have notBoth : ¬ (u = url ∧ v = url) := fun both => apart (both.1.trans both.2.symm)
  simp only [List.filter_append, List.filter_cons, Step.concerns_of_address firstOn,
    Step.concerns_of_address secondOn, beq_iff_eq]
  by_cases onFirst : u = url
  · have notSecond : v ≠ url := fun onSecond => notBoth ⟨onFirst, onSecond⟩
    simp only [if_pos onFirst, if_neg notSecond]
  · simp only [if_neg onFirst]

/-- **Addresses do not interfere.**  After every session of requests to the downloads, each
address is as if only the requests that concern it had been made: they leave the same record,
start the same downloads, wake the same subscribers for it, in the same order, and are
answered the same.  So two requests on different addresses may change places: every record is
the same, and so is what happened at each address. -/
theorem addresses_do_not_interfere (sources : Sources) (answers : String → Option Outcome)
    (requests : List Step) (direct : ∀ request ∈ requests, request.isDirect = true) :
    let s := run sources (.initial answers) requests
    (∀ url,
      let concerning := requests.filter (Step.concerns url)
      let alone := run sources (.initial answers) concerning
      s.record url = alone.record url ∧ s.eventsOf url = alone.eventsOf url ∧
        s.downloadsOf url = alone.downloadsOf url ∧
        repliesAt sources url (.initial answers) requests =
          (replies sources (.initial answers) concerning).map Prod.fst) ∧
      ∀ before first second after u v, requests = before ++ first :: second :: after →
        first.address? = some u → second.address? = some v → u ≠ v →
        let swapped := run sources (.initial answers) (before ++ second :: first :: after)
        swapped.record = s.record ∧ ∀ url, swapped.eventsOf url = s.eventsOf url := by
  intro s
  have apart : ∀ url, s.SameAt
      (run sources (.initial answers) (requests.filter (Step.concerns url))) url := fun url =>
    run_filter_sameAt sources (.refl _ url) direct
  refine ⟨fun url => ⟨(apart url).record, (apart url).events, (apart url).downloads,
    repliesAt_filter (.refl _ url) direct⟩, ?_⟩
  rintro before first second after u v rfl firstOn secondOn ne swapped
  have directSwapped : ∀ request ∈ before ++ second :: first :: after,
      request.isDirect = true := by
    have reordered : (before ++ second :: first :: after).Perm
        (before ++ first :: second :: after) := (List.Perm.swap first second after).append_left before
    exact fun request member => direct request (reordered.mem_iff.1 member)
  have same : ∀ url, swapped.SameAt s url := fun url => by
    have replayed := run_filter_sameAt sources (State.SameAt.refl (.initial answers) url)
      directSwapped
    rw [filter_swap firstOn secondOn ne before after url] at replayed
    exact replayed.trans (apart url).symm
  exact ⟨funext fun url => (same url).record, fun url => (same url).events⟩

private def otherUrl : String := "https://raw.example/p/q/v1/action.yml"

private def crossedOpening : List Step := [.answer otherUrl notFound]

private def crossedEnding : List Step :=
  [.await actionUrl (some 7) .nonBlocking none, .restart actionUrl, .bump, .ensure otherUrl,
    .complete actionUrl (some 0) notFound, .snapshot otherUrl, .unsubscribe 8,
    .complete actionUrl none notFound]

/-- The attempt at one address is superseded and ends first, while another address fails at
once in two generations. -/
private def crossedSession : List Step :=
  crossedOpening ++ .ensure actionUrl :: .ensure otherUrl :: crossedEnding

theorem addresses_do_not_interfere_crossed :
    let s := run silentSources (.initial fun _ => none) crossedSession
    let alone := run silentSources (.initial fun _ => none)
      [.ensure actionUrl, .await actionUrl (some 7) .nonBlocking none, .restart actionUrl, .bump,
        .complete actionUrl (some 0) notFound, .unsubscribe 8, .complete actionUrl none notFound]
    let swapped := run silentSources (.initial fun _ => none)
      (crossedOpening ++ .ensure otherUrl :: .ensure actionUrl :: crossedEnding)
    s.log = [.started actionUrl, .started otherUrl, .started actionUrl, .started otherUrl,
        .notified 7 actionUrl] ∧
      alone.log = [.started actionUrl, .started actionUrl, .notified 7 actionUrl] ∧
      s.record actionUrl = alone.record actionUrl ∧
      s.eventsOf actionUrl = alone.eventsOf actionUrl ∧
      swapped.record = s.record := by
  have direct : ∀ request ∈ crossedSession, request.isDirect = true := by
    simp [crossedSession, crossedOpening, crossedEnding, Step.isDirect]
  obtain ⟨replayed, swap⟩ :=
    addresses_do_not_interfere silentSources (fun _ => none) crossedSession direct
  obtain ⟨record, events, -, -⟩ := replayed actionUrl
  have swapped := swap crossedOpening (.ensure actionUrl) (.ensure otherUrl) crossedEnding
    actionUrl otherUrl rfl rfl rfl (by decide)
  exact ⟨by decide, by decide, record, events, swapped.1⟩

end Session

end WorkflowLint
