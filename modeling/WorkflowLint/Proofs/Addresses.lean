/-
# WorkflowLint.Proofs.Addresses -- the two addresses of a hosted action

Whatever is asked about a hosted action is decided at two addresses: that of its own
manifest and that of the default branch.  Both exist as soon as the action names a
repository (`Addresses.of_repo`), and they are one exactly when the revision is
missing, malformed or already the default branch (`Addresses.eq_iff`).  A refresh
downloads these and no others (`Cache.addressesOf_hosted`).
-/
import WorkflowLint.Cache

namespace WorkflowLint

set_option autoImplicit false

namespace ManifestHost

/-- Where the manifest of a hosted action is, and where that of its default branch is. -/
structure Addresses (host : ManifestHost) (a : HostedAction) (own head : String) : Prop where
  own_eq : host.actionUrl a = some own
  head_eq : host.actionUrl (a.atRevision headRevision) = some head

theorem revisionOf_head (a : HostedAction) :
    revisionOf (a.atRevision headRevision) = headRevision := by
  have named : (a.atRevision headRevision).revision = some headRevision := rfl
  simp only [revisionOf, named, ite_self]

/-- The revision that is downloaded is the default branch exactly when the reference names
none that is well formed, or the default branch itself. -/
theorem revisionOf_eq_head_iff (a : HostedAction) :
    revisionOf a = headRevision ↔
      a.revision = none ∨ a.isRevisionValid = false ∨ a.revision = some headRevision := by
  cases named : a.revision with
  | none => simp [revisionOf, named]
  | some revision =>
      cases valid : a.isRevisionValid with
      | false => simp [revisionOf, named, valid]
      | true => simp [revisionOf, named, valid]

/-- A hosted action that names a repository has both addresses. -/
theorem Addresses.of_repo (host : ManifestHost) {a : HostedAction} {repo : String}
    (named : a.repo = some repo) : ∃ own head, host.Addresses a own head := by
  have own : (host.actionUrl a).isSome = true := by simp [actionUrl, named]
  have head : (host.actionUrl (a.atRevision headRevision)).isSome = true := by
    simp [actionUrl, HostedAction.atRevision, named]
  obtain ⟨ownUrl, ownEq⟩ := Option.isSome_iff_exists.1 own
  obtain ⟨headUrl, headEq⟩ := Option.isSome_iff_exists.1 head
  exact ⟨ownUrl, headUrl, ownEq, headEq⟩

/-- The two addresses are one exactly when the default branch is downloaded anyway. -/
theorem Addresses.eq_iff {host : ManifestHost} {a : HostedAction} {own head : String}
    (addresses : host.Addresses a own head) :
    own = head ↔
      a.revision = none ∨ a.isRevisionValid = false ∨ a.revision = some headRevision := by
  obtain ⟨ownEq, headEq⟩ := addresses
  rw [actionUrl, Option.map_eq_some_iff] at ownEq headEq
  obtain ⟨repo, named, rfl⟩ := ownEq
  obtain ⟨repo', named', rfl⟩ := headEq
  have sameRepo : repo' = repo := by
    have both : some repo' = some repo := named'.symm.trans named
    injection both
  subst sameRepo
  rw [← revisionOf_eq_head_iff, revisionOf_head]
  simp [HostedAction.atRevision]

/-- An action that is named well names a repository. -/
theorem Addresses.of_isNamed (host : ManifestHost) {a : HostedAction}
    (named : (Reference.hosted a).isNamed = true) : ∃ own head, host.Addresses a own head := by
  cases given : a.repo with
  | none =>
      have valid : a.isValid true = true := named
      simp [HostedAction.isValid, given] at valid
  | some repo => exact of_repo host given

end ManifestHost

namespace Cache

/-- The addresses that decide on a hosted action are its own and that of the default branch,
each of them once. -/
theorem addressesOf_hosted {host : ManifestHost} {a : HostedAction} {own head : String}
    (addresses : host.Addresses a own head) :
    addressesOf host (.hosted a) = if own = head then [own] else [own, head] := by
  have ownUrl : host.url (.hosted a) = some own := addresses.own_eq
  have headUrl : ((Reference.hosted a).atRevision headRevision).bind host.url = some head :=
    addresses.head_eq
  simp only [addressesOf, ownUrl, headUrl]
  by_cases named : (Reference.hosted a).revision = some headRevision
  · rw [if_pos named, if_pos (addresses.eq_iff.2 (Or.inr (Or.inr named)))]
  · rw [if_neg named]
    simp only [eq_comm]

theorem mem_addressesOf {host : ManifestHost} {a : HostedAction} {own head : String}
    (addresses : host.Addresses a own head) :
    own ∈ addressesOf host (.hosted a) ∧ head ∈ addressesOf host (.hosted a) := by
  rw [addressesOf_hosted addresses]
  by_cases same : own = head <;> simp [same]

/-- What has an address is a hosted action that names a repository. -/
theorem addresses_of_url {host : ManifestHost} {r : Reference} {own : String}
    (found : host.url r = some own) : ∃ a head, r = .hosted a ∧ host.Addresses a own head := by
  cases r with
  | hosted a =>
      have ownEq : host.actionUrl a = some own := found
      obtain ⟨repo, named, -⟩ := Option.map_eq_some_iff.1 ownEq
      obtain ⟨own', head, addresses⟩ := ManifestHost.Addresses.of_repo host named
      obtain rfl : own' = own := by
        have both := addresses.own_eq.symm.trans ownEq
        injection both
      exact ⟨a, head, rfl, addresses⟩
  | image i => exact absurd found.symm (Option.some_ne_none own)
  | localPath path => exact absurd found.symm (Option.some_ne_none own)

end Cache

/-! ## A small host

The states and sessions that stand for a theorem elsewhere ask this one. -/

/-- A host whose addresses never answer at once, and no files. -/
def silentSources : Sources := ⟨⟨"https://raw.example"⟩, ⟨fun _ => .error .notFound⟩⟩

def sampleAction : HostedAction := ⟨"o", some "r", none, some "v1"⟩

def actionUrl : String := "https://raw.example/o/r/v1/action.yml"

def headUrl : String := "https://raw.example/o/r/HEAD/action.yml"

theorem sampleAction_addresses : silentSources.host.Addresses sampleAction actionUrl headUrl where
  own_eq := by decide
  head_eq := by decide

def notFound : Fetch.Outcome := .failure ⟨some 404, "missing"⟩

/-- The two addresses of `sampleAction` answer so, and no other does. -/
def answersOf (own head : Option Fetch.Outcome) (url : String) : Option Fetch.Outcome :=
  if url = actionUrl then own else if url = headUrl then head else none

/-- Nothing is found at `v1`, and no other address answers. -/
def missingVersion : String → Option Fetch.Outcome := answersOf (some notFound) none

end WorkflowLint
