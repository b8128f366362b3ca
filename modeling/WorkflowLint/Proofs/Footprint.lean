/-
# WorkflowLint.Proofs.Footprint -- the records that requests about a reference may change

A status and a manifest look only at addresses that decide on their reference
(`statusLooks_subset`, `manifestLooks_subset`), and a refresh restarts just these.  A look and
a restart change the record of their address only, so whatever is asked about a reference
leaves all other records alone (`spares_of_not_mem`).
-/
import WorkflowLint.Proofs.Look
import WorkflowLint.Proofs.Lookups
import WorkflowLint.Proofs.Fetch.Restarts

namespace WorkflowLint

set_option autoImplicit false

namespace Cache

open Fetch (Op State)

variable {sources : Sources} {asker : Asker} {r : Reference} {s : State} {url : String}

theorem lookAll_record_of_not_mem {urls : List String} (other : url ∉ urls) :
    (lookAll asker urls s).record url = s.record url := by
  induction urls generalizing s with
  | nil => rfl
  | cons v urls ih =>
      rw [List.mem_cons, not_or] at other
      exact (ih other.2).trans (look_record_ne asker s other.1)

theorem hostedLooks_subset {a : HostedAction} {own head : String}
    (addresses : sources.host.Addresses a own head) :
    hostedLooks sources asker a own s ⊆ addressesOf sources.host (.hosted a) := by
  intro url member
  obtain ⟨ownMember, headMember⟩ := mem_addressesOf addresses
  simp only [hostedLooks, addresses.head_eq, Option.toList_some] at member
  split at member
  · rcases List.mem_cons.1 member with rfl | below
    · exact ownMember
    · exact List.mem_singleton.1 below ▸ headMember
  · exact List.mem_singleton.1 member ▸ ownMember

/-- A status looks at no other addresses than those that decide on its reference. -/
theorem statusLooks_subset (sources : Sources) (asker : Asker) (r : Reference) (s : State) :
    statusLooks sources asker r s ⊆ addressesOf sources.host r := by
  unfold statusLooks
  split
  · cases r with
    | image i => exact List.nil_subset _
    | localPath path => exact List.nil_subset _
    | hosted a =>
        cases found : sources.host.actionUrl a with
        | none => simp only [found, List.nil_subset]
        | some own =>
            obtain ⟨a', head, same, addresses⟩ := addresses_of_url (r := .hosted a) found
            obtain rfl : a = a' := Reference.hosted.inj same
            simp only [found]
            exact hostedLooks_subset addresses
  · exact List.nil_subset _

theorem manifestLooks_subset (host : ManifestHost) (r : Reference) :
    manifestLooks host r ⊆ addressesOf host r := by
  intro url member
  unfold manifestLooks at member
  split at member
  · have found : host.url r = some url := Option.mem_toList.1 member
    obtain ⟨a, head, rfl, addresses⟩ := addresses_of_url found
    exact (mem_addressesOf addresses).1
  · exact absurd member List.not_mem_nil

/-- Nothing that is asked about a reference changes the record of an address. -/
structure Spares (sources : Sources) (r : Reference) (url : String) : Prop where
  status : ∀ asker s, (Cache.status sources asker r s).2.record url = s.record url
  manifest : ∀ asker s, (Cache.manifest sources asker r s).2.record url = s.record url
  refresh : ∀ uses s, Reference.parse uses = r →
    (Cache.refresh sources.host uses s).record url = s.record url

/-- A request about a reference leaves alone what does not decide on it. -/
theorem spares_of_not_mem (other : url ∉ addressesOf sources.host r) : Spares sources r url where
  status asker s := by
    rw [status_snd]
    exact lookAll_record_of_not_mem fun member => other (statusLooks_subset _ _ _ _ member)
  manifest asker s := by
    rw [manifest_snd]
    exact lookAll_record_of_not_mem fun member => other (manifestLooks_subset _ _ member)
  refresh uses s read := by
    have restarts : refresh sources.host uses s =
        s.run ((addressesOf sources.host r).map .restart) := by
      rw [refresh, read, State.run, List.foldl_map]
      rfl
    rw [restarts]
    exact State.run_restarts_record_ne other

end Cache

end WorkflowLint
