/-
# WorkflowLint.Proofs.Fetch.Supersession -- which of several downloads counts

Several attempts at one address may be under way, and they may end in any order.
`closeAll` ends some of them; its two closed forms say what comes out of it.  When
none of them is awaited, only `pending` changes (`closeAll_of_stale`); when one is,
the record settles with the outcome of that one, whatever stands before and after it
in the order (`closeAll_of_newest`).  Neither form depends on the order
(`closeAll_perm`).
-/
import Mathlib.Data.List.Perm.Basic
import WorkflowLint.Proofs.Fetch.Coherence

namespace WorkflowLint.Fetch

set_option autoImplicit false

/-- How a download under way ends: with an outcome, or dropped, which counts as the
failure of a download that is given up. -/
def outcomeOf (ending : Option Outcome) : Outcome := ending.getD (.failure .abandoned)

namespace Outcome

/-- How far an address is once an outcome counted. -/
def stage : Outcome → Stage
  | .body _ => .downloaded
  | .failure _ => .failed

def failure? : Outcome → Option Failure
  | .body _ => none
  | .failure f => some f

def manifest? : Outcome → Option Manifest
  | .body text => (Manifest.parse text).toOption
  | .failure _ => none

end Outcome

/-- Nothing of an earlier attempt shows in a record that settles. -/
theorem Record.Coherent.settle_eq {r : Record} {g : Nat} (coherent : r.Coherent g)
    (awaited : r.stage = .inProgress) (outcome : Outcome) :
    (r.settle outcome).stage = outcome.stage ∧
      (r.settle outcome).failure? = outcome.failure? ∧
      (r.settle outcome).manifest? = outcome.manifest? := by
  have noFailure : r.failure? = none := by
    refine Option.not_isSome_iff_eq_none.1 fun some => ?_
    simp [coherent.failure_isSome_iff.1 some] at awaited
  have noManifest : r.manifest? = none := by
    refine Option.not_isSome_iff_eq_none.1 fun some => ?_
    simp [coherent.downloaded_of_manifest some] at awaited
  cases outcome with
  | body text => exact ⟨rfl, noFailure, rfl⟩
  | failure f => exact ⟨rfl, rfl, noManifest⟩

namespace State

/-- Ends downloads one after the other, each in its own way. -/
def closeAll (s : State) (ends : List (Download × Option Outcome)) : State :=
  ends.foldl (fun s e => s.close e.1 (outcomeOf e.2)) s

@[simp] theorem closeAll_cons (s : State) (e : Download × Option Outcome)
    (ends : List (Download × Option Outcome)) :
    s.closeAll (e :: ends) = (s.close e.1 (outcomeOf e.2)).closeAll ends := rfl

theorem closeAll_append (s : State) (ends ends' : List (Download × Option Outcome)) :
    s.closeAll (ends ++ ends') = (s.closeAll ends).closeAll ends' := List.foldl_append

theorem complete_eq_closeAll (s : State) (url : String) (nth : Option Nat) (outcome : Outcome) :
    s.complete url nth outcome = s.closeAll ((s.chosen url nth).map (·, some outcome)) := by
  rw [complete, closeAll, List.foldl_map]
  rfl

/-- Downloads that are given up end with no outcome of their own. -/
theorem drop_eq_closeAll (s : State) (url : String) (nth : Option Nat) :
    s.drop url nth = s.closeAll ((s.chosen url nth).map (·, none)) := by
  rw [drop, complete, closeAll, List.foldl_map]
  rfl

theorem closeAll_record_ne {s : State} {url v : String} {ends : List (Download × Option Outcome)}
    (ofUrl : ∀ e ∈ ends, e.1.url = url) (other : v ≠ url) :
    (s.closeAll ends).record v = s.record v := by
  induction ends generalizing s with
  | nil => rfl
  | cons e ends ih =>
      rw [closeAll_cons, ih fun f member => ofUrl f (List.mem_cons_of_mem e member)]
      exact close_record_ne s _ _ (ofUrl e List.mem_cons_self ▸ other)

theorem closeAll_generation (s : State) (ends : List (Download × Option Outcome)) :
    (s.closeAll ends).generation = s.generation := by
  induction ends generalizing s with
  | nil => rfl
  | cons e ends ih => rw [closeAll_cons, ih, close_generation]

/-- Downloads whose outcomes do not count only leave `pending`. -/
theorem closeAll_of_stale {s : State} {ends : List (Download × Option Outcome)}
    (distinct : (ends.map Prod.fst).Nodup) (underWay : ∀ e ∈ ends, e.1 ∈ s.pending)
    (stale : ∀ e ∈ ends, (s.record e.1.url).accepts e.1.attempt = false) :
    s.closeAll ends = { s with pending := s.pending.diff (ends.map Prod.fst) } := by
  induction ends generalizing s with
  | nil => rfl
  | cons e ends ih =>
      obtain ⟨notLater, distinctLater⟩ := List.nodup_cons.1 distinct
      rw [closeAll_cons, close_of_not_accepts (underWay e List.mem_cons_self)
        (stale e List.mem_cons_self), ih distinctLater ?_ ?_]
      · simp only [List.map_cons, List.diff_cons]
      · intro f member
        have other : f.1 ≠ e.1 := fun same => notLater (same ▸ List.mem_map_of_mem member)
        exact (List.mem_erase_of_ne other).2 (underWay f (List.mem_cons_of_mem e member))
      · exact fun f member => stale f (List.mem_cons_of_mem e member)

/-- Downloads of one address are told apart by their attempts, so only one is awaited. -/
theorem eq_of_accepts {r : Record} {d e : Download} (url : e.url = d.url)
    (newest : r.accepts d.attempt = true) (counts : r.accepts e.attempt = true) : e = d := by
  have attempt : e.attempt = d.attempt :=
    (Record.accepts_iff.1 counts).1.symm.trans (Record.accepts_iff.1 newest).1
  cases d
  cases e
  simp_all

/-- Of several downloads of one address the awaited one decides, wherever it stands. -/
theorem closeAll_of_newest {s : State} {d : Download} {ending : Option Outcome}
    {ends : List (Download × Option Outcome)} (distinct : (ends.map Prod.fst).Nodup)
    (underWay : ∀ e ∈ ends, e.1 ∈ s.pending ∧ e.1.url = d.url) (member : (d, ending) ∈ ends)
    (newest : (s.record d.url).accepts d.attempt = true) :
    s.closeAll ends =
      { (s.setRecord d.url ((s.record d.url).settle (outcomeOf ending))).note
          (s.wakeUpsOf d.url) with
        pending := s.pending.diff (ends.map Prod.fst) } := by
  obtain ⟨earlier, later, rfl⟩ := List.append_of_mem member
  simp only [List.map_append, List.map_cons] at distinct
  obtain ⟨distinctEarlier, distinctRest, apart⟩ := List.nodup_append.1 distinct
  obtain ⟨notLater, distinctLater⟩ := List.nodup_cons.1 distinctRest
  have notEarlier : d ∉ earlier.map Prod.fst := fun inEarlier =>
    apart d inEarlier d List.mem_cons_self rfl
  have underWayEarlier : ∀ e ∈ earlier, e.1 ∈ s.pending ∧ e.1.url = d.url := fun e inEarlier =>
    underWay e (List.mem_append_left _ inEarlier)
  have underWayLater : ∀ e ∈ later, e.1 ∈ s.pending ∧ e.1.url = d.url := fun e inLater =>
    underWay e (List.mem_append_right _ (List.mem_cons_of_mem _ inLater))
  have earlierStale : ∀ e ∈ earlier, (s.record e.1.url).accepts e.1.attempt = false := by
    intro e inEarlier
    have url := (underWayEarlier e inEarlier).2
    refine Bool.eq_false_iff.2 fun counts => notEarlier ?_
    exact eq_of_accepts url newest (url ▸ counts) ▸ List.mem_map_of_mem (f := Prod.fst) inEarlier
  have afterEarlier : s.closeAll earlier =
      { s with pending := s.pending.diff (earlier.map Prod.fst) } :=
    closeAll_of_stale distinctEarlier (fun e inEarlier => (underWayEarlier e inEarlier).1)
      earlierStale
  have stillAwaited : d ∈ s.pending.diff (earlier.map Prod.fst) :=
    List.mem_diff_of_mem (underWay _ member).1 notEarlier
  rw [closeAll_append, closeAll_cons, afterEarlier, close_of_accepts
    (s := { s with pending := s.pending.diff (earlier.map Prod.fst) }) stillAwaited newest,
    closeAll_of_stale distinctLater ?underWay ?stale]
  case underWay =>
    intro e inLater
    have inMap := List.mem_map_of_mem (f := Prod.fst) inLater
    have notEarlier' : e.1 ∉ earlier.map Prod.fst := fun same =>
      apart e.1 same e.1 (List.mem_cons_of_mem _ inMap) rfl
    have other : e.1 ≠ d := fun same => notLater (same ▸ inMap)
    exact (List.mem_erase_of_ne other).2
      (List.mem_diff_of_mem (underWayLater e inLater).1 notEarlier')
  case stale =>
    intro e inLater
    refine Bool.eq_false_iff.2 fun counts => ?_
    have awaited := (Record.accepts_iff.1 counts).2
    rw [(underWayLater e inLater).2] at awaited
    refine Record.settle_stage_ne (s.record d.url) (outcomeOf ending) ?_
    simpa using awaited
  simp only [List.map_append, List.map_cons, List.diff_append, List.diff_cons]
  rfl

/-! ## Coherent states

There a download is awaited exactly when it is the newest attempt of its address. -/

theorem Coherent.accepts_of_newest {s : State} (coherent : s.Coherent) {d : Download}
    (underWay : d ∈ s.pending) (newest : d.attempt = (s.record d.url).attempt) :
    (s.record d.url).accepts d.attempt = true := by
  refine Record.accepts_iff.2 ⟨newest.symm, ?_⟩
  rw [(coherent.tracks d.url).inProgress_iff, ← newest]
  exact underWay

theorem not_accepts_of_superseded {r : Record} {attempt : Nat} (superseded : attempt ≠ r.attempt) :
    r.accepts attempt = false :=
  Bool.eq_false_iff.2 fun counts => superseded (Record.accepts_iff.1 counts).1.symm

theorem not_accepts_of_settled {r : Record} (settled : r.isSettled = true) (attempt : Nat) :
    r.accepts attempt = false :=
  Bool.eq_false_iff.2 fun counts =>
    (Record.stage_ne_of_isSettled settled).1 (Record.accepts_iff.1 counts).2

theorem Coherent.closeAll_of_newest {s : State} (coherent : s.Coherent) {url : String}
    {d : Download} {ending : Option Outcome} {ends : List (Download × Option Outcome)}
    (distinct : (ends.map Prod.fst).Nodup)
    (underWay : ∀ e ∈ ends, e.1 ∈ s.pending ∧ e.1.url = url) (member : (d, ending) ∈ ends)
    (newest : d.attempt = (s.record url).attempt) :
    s.closeAll ends =
      { (s.setRecord url ((s.record url).settle (outcomeOf ending))).note (s.wakeUpsOf url) with
        pending := s.pending.diff (ends.map Prod.fst) } := by
  obtain ⟨inPending, rfl⟩ := underWay _ member
  exact State.closeAll_of_newest distinct underWay member
    (coherent.accepts_of_newest inPending newest)

theorem closeAll_of_superseded {s : State} {url : String}
    {ends : List (Download × Option Outcome)} (distinct : (ends.map Prod.fst).Nodup)
    (underWay : ∀ e ∈ ends, e.1 ∈ s.pending ∧ e.1.url = url)
    (superseded : ∀ e ∈ ends, e.1.attempt ≠ (s.record url).attempt) :
    s.closeAll ends = { s with pending := s.pending.diff (ends.map Prod.fst) } := by
  refine closeAll_of_stale distinct (fun e member => (underWay e member).1) fun e member => ?_
  refine not_accepts_of_superseded ?_
  rw [(underWay e member).2]
  exact superseded e member

/-- The order in which the downloads of an address end does not matter. -/
theorem closeAll_perm {s : State} (coherent : s.Coherent) {url : String}
    {ends ends' : List (Download × Option Outcome)} (perm : ends'.Perm ends)
    (distinct : (ends.map Prod.fst).Nodup)
    (underWay : ∀ e ∈ ends, e.1 ∈ s.pending ∧ e.1.url = url) :
    s.closeAll ends' = s.closeAll ends := by
  have distinct' : (ends'.map Prod.fst).Nodup := (perm.map Prod.fst).nodup_iff.2 distinct
  have underWay' : ∀ e ∈ ends', e.1 ∈ s.pending ∧ e.1.url = url := fun e member =>
    underWay e (perm.mem_iff.1 member)
  have rest := (perm.map Prod.fst).diff_left s.pending
  by_cases awaited : ∃ e ∈ ends, e.1.attempt = (s.record url).attempt
  · obtain ⟨⟨d, ending⟩, member, newest⟩ := awaited
    rw [coherent.closeAll_of_newest distinct underWay member newest,
      coherent.closeAll_of_newest distinct' underWay' (perm.mem_iff.2 member) newest, rest]
  · have superseded : ∀ e ∈ ends, e.1.attempt ≠ (s.record url).attempt := fun e member newest =>
      awaited ⟨e, member, newest⟩
    rw [closeAll_of_superseded distinct underWay superseded,
      closeAll_of_superseded distinct' underWay' fun e member =>
        superseded e (perm.mem_iff.1 member), rest]

end State

end WorkflowLint.Fetch
