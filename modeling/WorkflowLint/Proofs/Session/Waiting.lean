/-
# WorkflowLint.Proofs.Session.Waiting -- no lookup leaves its caller without a wake-up

The answer that a download is in progress is given right after a wait that has found the
address in progress, be it that of the action or that of the default branch; so whoever gets
this answer is registered there, and whoever gets another one was registered nowhere
(`Cache.awaits_of_status`, `Cache.status_registers_no_one`).  How the caller waits makes no
difference to this (`step_inMode`).

A caller that asks again whenever it is woken (`Asks`) hears from each of the two addresses
twice at most: every wake-up is the end of an attempt, and without bumps and restarts at most
two attempts at an address can end, two only when the first was from an older generation
(`lookup_wakes_caller`).
-/
import WorkflowLint.Proofs.Fetch.Endings
import WorkflowLint.Proofs.Session.Refresh
import WorkflowLint.Proofs.Session.StatusTable

namespace WorkflowLint

set_option autoImplicit false

open Fetch (Op Outcome Phase Record State)

namespace Cache

variable {sources : Sources} {asker : Asker} {r : Reference} {s : State}

/-! ## Who is registered -/

theorem mem_subscribers_look {id : Nat} {url : String} (asks : asker.subscriber = some id)
    (awaited : ((look asker url s).record url).stage = .inProgress) :
    id ∈ ((look asker url s).record url).subscribers := by
  rw [look_stage] at awaited
  rw [look, asks]
  exact State.mem_subscribers_await awaited id

/-- A look that finds nothing in progress registers no one anywhere. -/
theorem look_registers_no_one {url : String}
    (idle : ((look asker url s).record url).stage ≠ .inProgress) {v : String} {x : Nat}
    (member : x ∈ ((look asker url s).record v).subscribers) :
    x ∈ (s.record v).subscribers := by
  have waited : x ∈ ((Op.apply (s.ensureStarted url) (.await url asker.subscriber)).record
      v).subscribers := member
  rcases Op.mem_subscribers_or_waits waited with before | ⟨same, awaited⟩
  · have ensured : x ∈ ((Op.apply s (.ensure url)).record v).subscribers := before
    rcases Op.mem_subscribers_or_waits ensured with before | ⟨same, -⟩
    · exact before
    · exact Op.noConfusion same
  · injection same with sameUrl
    subst sameUrl
    rw [look_stage] at idle
    exact absurd awaited idle

/-! ## What an answer in progress waits for -/

/-- An address that an answer in progress about `r` waits for, in the state that the lookup
leaves: it is in progress, and it is the address of `r` itself or, when nothing is found
there, that of the default branch. -/
structure Awaits (host : ManifestHost) (r : Reference) (t : State) (url : String) : Prop where
  awaited : (t.record url).stage = .inProgress
  deciding : ∃ own, host.url r = some own ∧ (url = own ∨ ((t.record own).phase.IsMissing ∧
    (r.atRevision headRevision).bind host.url = some url))

theorem Awaits.mem_addressesOf {host : ManifestHost} {t : State} {url : String}
    (awaits : Awaits host r t url) : url ∈ addressesOf host r := by
  obtain ⟨own, found, here⟩ := awaits.deciding
  obtain ⟨a, head, rfl, addresses⟩ := addresses_of_url found
  obtain ⟨ownMember, headMember⟩ := Cache.mem_addressesOf addresses
  rcases here with rfl | ⟨-, below⟩
  · exact ownMember
  · obtain rfl : head = url := by
      have both := addresses.head_eq.symm.trans below
      injection both
    exact headMember

/-- Whoever is told that a download is in progress is registered at an address that the
answer waits for. -/
theorem awaits_of_status {id : Nat} (asks : asker.subscriber = some id)
    (asked : (status sources asker r s).1 = .inProgress) :
    ∃ url, Awaits sources.host r (status sources asker r s).2 url ∧
      id ∈ ((status sources asker r s).2.record url).subscribers := by
  cases named : r.isNamed with
  | false => simp [status, named] at asked
  | true =>
      cases r with
      | image i | localPath path =>
          simp only [status, named, if_true] at asked
          split at asked <;> exact Status.noConfusion asked
      | hosted a =>
          obtain ⟨own, head, addresses⟩ := ManifestHost.Addresses.of_isNamed sources.host named
          rw [status_of_hosted named addresses] at asked ⊢
          rcases hostedStatus_cases asker s addresses with ⟨same, -⟩ | ⟨same, missing⟩
          · rw [same] at asked ⊢
            have awaited := statusOfPhase_eq_inProgress_iff.1 asked
            exact ⟨own, ⟨awaited, own, addresses.own_eq, Or.inl rfl⟩,
              mem_subscribers_look asks awaited⟩
          · rw [same] at asked ⊢
            have awaited := statusOfPhase_eq_inProgress_iff.1
              (statusBelowHead_eq_inProgress_iff.1 asked)
            have still := (statusOfPhase_congr (look_look_seen asker own head s)).trans missing
            exact ⟨head, ⟨awaited, own, addresses.own_eq,
              Or.inr ⟨isMissing_of_statusOfPhase still, addresses.head_eq⟩⟩,
              mem_subscribers_look asks awaited⟩

/-- Whoever is told anything else is registered nowhere by the lookup. -/
theorem status_registers_no_one (answered : (status sources asker r s).1 ≠ .inProgress)
    {v : String} {x : Nat} (member : x ∈ ((status sources asker r s).2.record v).subscribers) :
    x ∈ (s.record v).subscribers := by
  cases named : r.isNamed with
  | false => simpa [status, named] using member
  | true =>
      cases r with
      | image i | localPath path => simpa [status, named] using member
      | hosted a =>
          obtain ⟨own, head, addresses⟩ := ManifestHost.Addresses.of_isNamed sources.host named
          rw [status_of_hosted named addresses] at answered member
          rcases hostedStatus_cases asker s addresses with ⟨same, -⟩ | ⟨same, missing⟩
          · rw [same] at answered member
            exact look_registers_no_one (mt statusOfPhase_eq_inProgress_iff.2 answered) member
          · rw [same] at answered member
            have idle : ((look asker own s).record own).stage ≠ .inProgress := by
              rw [(isMissing_of_statusOfPhase missing).1]
              exact Fetch.Stage.noConfusion
            have headIdle := mt (statusBelowHead_eq_inProgress_iff.2 ∘
              statusOfPhase_eq_inProgress_iff.2) answered
            exact look_registers_no_one idle (look_registers_no_one headIdle member)

/-- A status neither bumps nor restarts. -/
theorem endings_of_asked {t : State} {answer : Status} (coherent : s.Coherent)
    (asked : status sources asker r s = (answer, t)) (url : String) :
    t.endings url ≤ s.endings url := by
  have left : (status sources asker r s).2 = t := by rw [asked]
  rw [← left, status_snd, lookAll_eq_run]
  refine State.run_endings_le coherent (fun member => ?_) (fun member => ?_)
  · exact Bool.noConfusion (isLook_of_mem_lookOps member)
  · exact Bool.noConfusion (isLook_of_mem_lookOps member)

theorem coherent_of_asked {t : State} {answer : Status} (coherent : s.Coherent)
    (asked : status sources asker r s = (answer, t)) : t.Coherent := by
  have left : (status sources asker r s).2 = t := by rw [asked]
  rw [← left, status_snd, lookAll_eq_run]
  exact State.run_coherent coherent _

end Cache

/-! ## A caller that asks again -/

namespace Session

open Cache (Awaits)

/-- The subscriber `id` asks for the status of `r`, and as long as a download is in progress
it asks again once it is woken for an address that the answer waits for.  Meanwhile anything
may happen but bumps and restarts of the addresses that decide on `r`.  The list holds, for
each answer in progress, the state that the question has left and the address. -/
inductive Asks (sources : Sources) (asker : Asker) (id : Nat) (r : Reference) :
    State → List (State × String) → Prop where
  | answered {s : State} : (Cache.status sources asker r s).1 ≠ .inProgress →
      Asks sources asker id r s []
  | asleep {s t : State} {url : String} : Cache.status sources asker r s = (.inProgress, t) →
      Awaits sources.host r t url → Asks sources asker id r s [(t, url)]
  | woken {s t : State} {url : String} {later : List Step} {waits : List (State × String)} :
      Cache.status sources asker r s = (.inProgress, t) → Awaits sources.host r t url →
      bumps later = 0 →
      (∀ v ∈ Cache.addressesOf sources.host r, restarts sources v later = 0) →
      t.wakeUps id url < (run sources t later).wakeUps id url →
      Asks sources asker id r (run sources t later) waits →
      Asks sources asker id r s ((t, url) :: waits)

variable {sources : Sources} {asker : Asker} {id : Nat} {r : Reference}
  {s : State} {waits : List (State × String)}

theorem Asks.mem_addressesOf (asks : Asks sources asker id r s waits) {url : String}
    (member : url ∈ waits.map Prod.snd) : url ∈ Cache.addressesOf sources.host r := by
  induction asks with
  | answered => exact absurd member List.not_mem_nil
  | asleep asked awaits =>
      rw [List.map_singleton, List.mem_singleton] at member
      rw [member]
      exact awaits.mem_addressesOf
  | woken asked awaits noBump noRestart woke asks ih =>
      rw [List.map_cons, List.mem_cons] at member
      rcases member with rfl | member
      · exact awaits.mem_addressesOf
      · exact ih member

/-- A wake-up leaves one attempt fewer to wait for. -/
theorem endings_of_later {t : State} (coherent : t.Coherent) {later : List Step} {url : String}
    (noBump : bumps later = 0) (noRestart : restarts sources url later = 0) (id : Nat) :
    (run sources t later).endings url ≤ t.endings url ∧
      (t.wakeUps id url < (run sources t later).wakeUps id url →
        (run sources t later).endings url < t.endings url) := by
  have noBumpOp : .bump ∉ trace sources t later := by
    rw [← List.count_eq_zero, count_bump_trace, noBump]
  have noRestartOp : .restart url ∉ trace sources t later := by
    rw [← List.count_eq_zero, count_restart_trace, noRestart]
  rw [run_eq_run_trace]
  refine ⟨State.run_endings_le coherent noBumpOp noRestartOp, fun woke => ?_⟩
  have paid := State.run_wakeUps_add_endings_le coherent noBumpOp noRestartOp id
  omega

/-- A caller waits for an address no more often than attempts at it can end. -/
theorem Asks.count_le (asks : Asks sources asker id r s waits) (coherent : s.Coherent)
    {url : String} (member : url ∈ Cache.addressesOf sources.host r) :
    (waits.map Prod.snd).count url ≤ s.endings url := by
  induction asks with
  | answered => exact Nat.zero_le _
  | @asleep s t v asked awaits =>
      have left : t.endings url ≤ s.endings url := Cache.endings_of_asked coherent asked url
      have pending : 0 < t.endings v := Fetch.Record.endings_pos awaits.awaited
      by_cases here : v = url
      · subst here
        simp only [List.map_singleton, List.count_singleton_self]
        omega
      · simp [here]
  | @woken s t v later waits asked awaits noBump noRestart woke asks ih =>
      have left : t.endings url ≤ s.endings url := Cache.endings_of_asked coherent asked url
      have coherentAsked : t.Coherent := Cache.coherent_of_asked coherent asked
      have counted := ih (run_coherent sources coherentAsked later)
      obtain ⟨le, lt⟩ := endings_of_later coherentAsked noBump (noRestart url member) id
      by_cases here : v = url
      · subst here
        have fewer := lt woke
        simp only [List.map_cons, List.count_cons_self]
        omega
      · rw [List.map_cons, List.count_cons_of_ne here]
        omega

/-- Whoever waits for an address again has first waited for an attempt from an older
generation. -/
theorem Asks.older_of_again (asks : Asks sources asker id r s waits) (coherent : s.Coherent)
    {earlier rest : List (State × String)} {first : State} {url : String}
    (split : waits = earlier ++ (first, url) :: rest) (again : url ∈ rest.map Prod.snd) :
    (first.record url).generation < first.generation := by
  induction asks generalizing earlier with
  | answered => simp at split
  | asleep asked awaits =>
      cases earlier with
      | nil =>
          obtain rfl : rest = [] := (List.cons.inj split).2.symm
          exact absurd again List.not_mem_nil
      | cons wait earlier => simp at split
  | @woken s t v later waits asked awaits noBump noRestart woke asks ih =>
      have coherentAsked : t.Coherent := Cache.coherent_of_asked coherent asked
      have coherentLater : (run sources t later).Coherent :=
        run_coherent sources coherentAsked later
      cases earlier with
      | cons wait earlier =>
          rw [List.cons_append] at split
          injection split with _ splitLater
          exact ih coherentLater splitLater
      | nil =>
          rw [List.nil_append] at split
          injection split with here rest
          injection here with sameState sameUrl
          subst sameState sameUrl rest
          have member := awaits.mem_addressesOf
          have twice : 0 < (waits.map Prod.snd).count v := List.count_pos_iff.2 again
          have counted := asks.count_le coherentLater member
          have fewer := (endings_of_later coherentAsked noBump (noRestart v member) id).2 woke
          have old : (t.record v).generation ≠ t.generation := fun current => by
            have once : t.endings v ≤ 1 := Fetch.Record.endings_le_of_current current
            omega
          exact Nat.lt_of_le_of_ne (coherentAsked.record v).generation_le old

theorem Asks.count_le_two (asks : Asks sources asker id r s waits) (coherent : s.Coherent)
    (url : String) : (waits.map Prod.snd).count url ≤ 2 := by
  by_cases member : url ∈ waits.map Prod.snd
  · exact Nat.le_trans (asks.count_le coherent (asks.mem_addressesOf member))
      (Fetch.Record.endings_le _ _)
  · rw [List.count_eq_zero_of_not_mem member]
    exact Nat.zero_le 2

/-- There are two addresses to wait for, and each is waited for twice at most. -/
theorem Asks.length_le_four (asks : Asks sources asker id r s waits) (coherent : s.Coherent) :
    waits.length ≤ 4 := by
  cases found : sources.host.url r with
  | none =>
      have nowhere : ∀ url, url ∉ waits.map Prod.snd := fun url member => by
        have listed := asks.mem_addressesOf member
        rw [Cache.addressesOf_of_none found] at listed
        exact List.not_mem_nil listed
      rw [List.map_eq_nil_iff.1 (List.eq_nil_iff_forall_not_mem.2 nowhere)]
      exact Nat.zero_le 4
  | some own =>
      obtain ⟨head, -, addresses⟩ := Cache.addressesOf_of_url found
      have elsewhere : (waits.map Prod.snd).countP (fun url => !(url == own)) ≤
          (waits.map Prod.snd).count head := by
        refine List.countP_mono_left fun url member other => ?_
        have listed := asks.mem_addressesOf member
        have notOwn : url ≠ own := by simpa using other
        rw [addresses] at listed
        split at listed
        · exact absurd (List.mem_singleton.1 listed) notOwn
        · simpa [notOwn] using listed
      have split := List.length_eq_countP_add_countP (· == own) (l := waits.map Prod.snd)
      have ownTwice : (waits.map Prod.snd).countP (· == own) ≤ 2 := asks.count_le_two coherent own
      have headTwice := asks.count_le_two coherent head
      rw [List.length_map] at split
      simp only [Bool.not_eq_true, Bool.decide_eq_false] at split
      omega

/-- **No lookup leaves its caller without a wake-up.**  After every session, and however the
caller waits: when it is told that a download is in progress, it is registered at the address
of the action, or at that of the default branch when nothing is found at the first, the
address is in progress, and whatever follows, the next time the address settles wakes the
caller, unless it ceases to wait.  When the caller is told anything else, the lookup has
registered no one anywhere.

A caller that asks again whenever it is woken, while nothing is bumped or started afresh, is
told so four times at most, for each address twice at most, and a second time only when the
attempt it first waited for was from an older generation. -/
theorem lookup_wakes_caller (sources : Sources) (answers : String → Option Outcome)
    (requests : List Step) (document : Option Path) (id : Nat) (r : Reference) :
    let s := run sources (.initial answers) requests
    let asker : Asker := ⟨document, some id⟩
    let asked := Cache.status sources asker r s
    (asked.1 = .inProgress →
        ∃ url, Awaits sources.host r asked.2 url ∧ id ∈ (asked.2.record url).subscribers ∧
          ∀ after, .unsubscribe id ∉ after → asked.2.WokenOnce id url after) ∧
      (asked.1 ≠ .inProgress →
        ∀ url x, x ∈ (asked.2.record url).subscribers → x ∈ (s.record url).subscribers) ∧
      (∀ waits, Asks sources asker id r s waits →
        waits.length ≤ 4 ∧ ∀ url, (waits.map Prod.snd).count url ≤ 2 ∧
          ∀ earlier first rest, waits = earlier ++ (first, url) :: rest →
            url ∈ rest.map Prod.snd → (first.record url).generation < first.generation) ∧
      ∀ uses mode, r = .parse uses →
        step sources s (.status uses asker mode) = (.status asked.1, asked.2) := by
  intro s asker asked
  have coherent : s.Coherent := run_coherent sources (State.initial_coherent answers) requests
  refine ⟨fun waiting => ?_, fun answered url x member => ?_, fun waits asks => ?_, ?_⟩
  · have asks : asker.subscriber = some id := rfl
    obtain ⟨url, awaits, registered⟩ := Cache.awaits_of_status asks waiting
    have coherentAsked : asked.2.Coherent := Cache.coherent_of_asked coherent rfl
    exact ⟨url, awaits, registered, fun after stays =>
      State.wokenOnce_of_waiting coherentAsked registered stays⟩
  · exact Cache.status_registers_no_one answered member
  · exact ⟨asks.length_le_four coherent, fun url => ⟨asks.count_le_two coherent url,
      fun earlier first rest split again => asks.older_of_again coherent split again⟩⟩
  · rintro uses mode rfl
    rfl

/-- Attempts at both addresses are under way when the generation moves on. -/
private def bothPending : List Step := [.ensure actionUrl, .ensure headUrl, .bump]

/-- The attempt that counts finds nothing. -/
private def missing (url : String) : List Step :=
  [.complete url none notFound]

private def seven : Asker := ⟨none, some 7⟩

private def question : Reference := .parse "o/r@v1"

private def afterQuestion (s : State) : State :=
  (Cache.status silentSources seven question s).2

private def afterFirst : State :=
  afterQuestion (run silentSources (.initial fun _ => none) bothPending)

private def afterSecond : State :=
  afterQuestion (run silentSources afterFirst (missing actionUrl))

private def afterThird : State :=
  afterQuestion (run silentSources afterSecond (missing actionUrl))

private def afterFourth : State :=
  afterQuestion (run silentSources afterThird (missing headUrl))

private theorem asks_again {s t : State} {url : String} {waits : List (State × String)}
    (asked : Cache.status silentSources seven question s = (.inProgress, t))
    (awaits : Awaits silentSources.host question t url)
    (woke : t.wakeUps 7 url < (run silentSources t (missing url)).wakeUps 7 url)
    (asks : Asks silentSources seven 7 question (run silentSources t (missing url)) waits) :
    Asks silentSources seven 7 question s ((t, url) :: waits) :=
  .woken asked awaits rfl (fun _ _ => rfl) woke asks

/-- Four answers in progress before the one that stays: each address is waited for twice. -/
theorem lookup_wakes_caller_four_times :
    let waits := [(afterFirst, actionUrl), (afterSecond, actionUrl), (afterThird, headUrl),
      (afterFourth, headUrl)]
    let s := run silentSources afterFourth (missing headUrl)
    Asks silentSources seven 7 question (run silentSources (.initial fun _ => none) bothPending)
        waits ∧
      waits.length ≤ 4 ∧ (afterFirst.record actionUrl).generation < afterFirst.generation ∧
      (∃ url, Awaits silentSources.host question afterFirst url ∧
        7 ∈ (afterFirst.record url).subscribers ∧
        afterFirst.WokenOnce 7 url [.restart url, .bump]) ∧
      (Cache.status silentSources seven question s).1 = .actionNotFound := by
  intro waits s
  have own : ∀ t : State, (t.record actionUrl).stage = .inProgress →
      Awaits silentSources.host question t actionUrl := fun t awaited =>
    ⟨awaited, actionUrl, by decide, Or.inl rfl⟩
  have head : ∀ t : State, (t.record headUrl).stage = .inProgress →
      (t.record actionUrl).stage = .failed →
      (t.record actionUrl).failure? = some ⟨some 404, "missing"⟩ →
      Awaits silentSources.host question t headUrl := fun t awaited failed failure =>
    ⟨awaited, actionUrl, by decide, Or.inr ⟨⟨failed, _, failure, rfl⟩, by decide⟩⟩
  have told : (Cache.status silentSources seven question s).1 = .actionNotFound := by
    decide +kernel
  have final : Asks silentSources seven 7 question s [] :=
    .answered (by rw [told]; exact Status.noConfusion)
  have fourth := asks_again (Prod.ext (by decide) rfl)
    (head afterFourth (by decide) (by decide) (by decide)) (by decide) final
  have third := asks_again (Prod.ext (by decide) rfl)
    (head afterThird (by decide) (by decide) (by decide)) (by decide) fourth
  have second := asks_again (Prod.ext (by decide) rfl) (own afterSecond (by decide))
    (by decide) third
  have first := asks_again (Prod.ext (by decide) rfl) (own afterFirst (by decide))
    (by decide) second
  obtain ⟨waiting, -, bound, -⟩ :=
    lookup_wakes_caller silentSources (fun _ => none) bothPending none 7 question
  obtain ⟨atMost, each⟩ := bound waits first
  obtain ⟨url, awaits, registered, woken⟩ := waiting (by decide)
  exact ⟨first, atMost, (each actionUrl).2 [] afterFirst _ rfl (by decide),
    ⟨url, awaits, registered, woken _ (by simp)⟩, told⟩

end Session

end WorkflowLint
