/-
# WorkflowLint.Proofs.Lookups -- the addresses that a request looks at

A status, a manifest and the check of a workflow touch the downloads only by looking
at addresses (`Cache.look`).  This module lists the addresses that each of them looks
at, in order, and shows that their whole effect is to look at these
(`Cache.status_snd`, `Cache.manifest_snd`, `Check.file_snd`).  Which addresses they
are depends on what is found on the way: the default branch is only looked at when
the revision has no manifest, and the inputs of a step only when its reference is
clean.
-/
import WorkflowLint.Check.Steps

namespace WorkflowLint

set_option autoImplicit false

open Fetch (State)

namespace Cache

def lookAll (asker : Asker) (urls : List String) (s : State) : State :=
  urls.foldl (fun s url => look asker url s) s

theorem lookAll_append (asker : Asker) (urls urls' : List String) (s : State) :
    lookAll asker (urls ++ urls') s = lookAll asker urls' (lookAll asker urls s) :=
  List.foldl_append

/-- The addresses that the status of an action at `url` looks at. -/
def hostedLooks (sources : Sources) (asker : Asker) (a : HostedAction) (url : String)
    (s : State) : List String :=
  if statusOfPhase ((look asker url s).record url).phase = .actionNotFound && !a.isHead then
    url :: (sources.host.actionUrl (a.atRevision headRevision)).toList
  else [url]

def statusLooks (sources : Sources) (asker : Asker) (r : Reference) (s : State) : List String :=
  if r.isNamed then
    match r with
    | .hosted a =>
      match sources.host.actionUrl a with
      | some url => hostedLooks sources asker a url s
      | none => []
    | _ => []
  else []

def manifestLooks (host : ManifestHost) (r : Reference) : List String :=
  if r.isNamed then (host.url r).toList else []

theorem hostedStatus_snd (sources : Sources) (asker : Asker) (a : HostedAction) (url : String)
    (s : State) :
    (hostedStatus sources asker a url s).2 =
      lookAll asker (hostedLooks sources asker a url s) s := by
  simp only [hostedStatus, hostedLooks]
  split
  · cases sources.host.actionUrl (a.atRevision headRevision) <;> rfl
  · rfl

theorem status_snd (sources : Sources) (asker : Asker) (r : Reference) (s : State) :
    (status sources asker r s).2 = lookAll asker (statusLooks sources asker r s) s := by
  unfold status statusLooks
  split
  · cases r with
    | hosted a =>
        cases found : sources.host.actionUrl a with
        | some url =>
            simp only [found]
            exact hostedStatus_snd sources asker a url s
        | none =>
            simp only [found]
            rfl
    | image i => rfl
    | localPath path => rfl
  · rfl

theorem manifest_snd (sources : Sources) (asker : Asker) (r : Reference) (s : State) :
    (manifest sources asker r s).2 = lookAll asker (manifestLooks sources.host r) s := by
  unfold manifest manifestLooks
  split
  · cases sources.host.url r <;> rfl
  · rfl

end Cache

namespace Check

open Cache (lookAll lookAll_append statusLooks manifestLooks)

def usesLooks (sources : Sources) (asker : Asker) (e : UsesEntry) (s : State) : List String :=
  match examine e.uses with
  | .ask a _ => statusLooks sources asker (.hosted a) s
  | _ => []

def inputLooks (host : ManifestHost) (e : UsesEntry) : List String :=
  if e.uses.isEmpty || (Reference.parse e.uses).isImage then []
  else manifestLooks host (.parse e.uses)

def entryLooks (sources : Sources) (asker : Asker) (e : UsesEntry) (s : State) : List String :=
  if e.step.isNone then []
  else
    match (entryUses sources asker e s).1 with
    | some _ => usesLooks sources asker e s
    | none => usesLooks sources asker e s ++ inputLooks sources.host e

def entriesLooks (sources : Sources) (asker : Asker) : List UsesEntry → State → List String
  | [], _ => []
  | e :: es, s =>
    entryLooks sources asker e s ++ entriesLooks sources asker es (entry sources asker e s).2

def fileLooks (sources : Sources) (path : Path) (s : State) : List String :=
  match scanFile sources.files path with
  | .error _ => []
  | .ok w => entriesLooks sources (.of path) w.uses s

theorem entryUses_snd (sources : Sources) (asker : Asker) (e : UsesEntry) (s : State) :
    (entryUses sources asker e s).2 = lookAll asker (usesLooks sources asker e s) s := by
  unfold entryUses usesLooks
  cases examine e.uses with
  | finding f => rfl
  | clean => rfl
  | ask a revision => exact Cache.status_snd sources asker (.hosted a) s

theorem entryInputs_snd (sources : Sources) (asker : Asker) (e : UsesEntry) (s : State) :
    (entryInputs sources asker e s).2 = lookAll asker (inputLooks sources.host e) s := by
  simp only [entryInputs, inputLooks]
  split
  · rfl
  · rw [← Cache.manifest_snd]
    cases Cache.manifest sources asker (.parse e.uses) s with
    | mk found next => cases found <;> rfl

theorem entry_snd (sources : Sources) (asker : Asker) (e : UsesEntry) (s : State) :
    (entry sources asker e s).2 = lookAll asker (entryLooks sources asker e s) s := by
  unfold entry entryLooks
  split
  · rfl
  · have looked := entryUses_snd sources asker e s
    cases asked : entryUses sources asker e s with
    | mk found next =>
        rw [asked] at looked
        cases found with
        | some f => exact looked
        | none =>
            simp only at looked ⊢
            rw [lookAll_append, ← looked]
            exact entryInputs_snd sources asker e next

theorem entries_snd (sources : Sources) (asker : Asker) (es : List UsesEntry) (s : State) :
    (entries sources asker es s).2 = lookAll asker (entriesLooks sources asker es s) s := by
  induction es generalizing s with
  | nil => rfl
  | cons e es ih =>
      simp only [entries, entriesLooks]
      rw [ih, lookAll_append, entry_snd]

theorem file_snd (sources : Sources) (path : Path) (s : State) :
    (file sources path s).2 = lookAll (.of path) (fileLooks sources path s) s := by
  unfold file fileLooks
  cases scanFile sources.files path with
  | error e => rfl
  | ok w => exact entries_snd sources (.of path) w.uses s

end Check

end WorkflowLint
