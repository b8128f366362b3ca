/-
# WorkflowLint.Proofs.Reference.Identity -- an address says whose manifest it is

The address of a manifest is the owner, the repository, the revision, the path and the
file, one after the other with slashes between them.  Owner and repository hold no slash,
so an address gives them back (`same_repository_of_actionUrl`).  A revision and a path may
hold slashes, and nothing in the address tells where one ends and the other starts: it
takes the number of slashes in the revision to find that place (`same_place_of_actionUrl`).

What is known of an action is kept under its addresses, and a request leaves alone what is
kept under others (`Cache.spares_of_not_mem`).  So actions of different repositories have no
record in common (`ManifestHost.url_identifies_action`).
-/
import WorkflowLint.Proofs.Footprint
import WorkflowLint.Proofs.Reference.Grammar

namespace WorkflowLint

set_option autoImplicit false

namespace ManifestHost

/-! ## Parts of an address -/

/-- The file below the revision: the path, if there is one, and the manifest. -/
def fileText (path : Option String) : List Char :=
  (path.map (·.toList ++ ['/'])).getD [] ++ manifestFile.toList

theorem fileText_injective {path path' : Option String} (same : fileText path = fileText path') :
    path = path' := by
  have noSlash : '/' ∉ fileText none := by decide
  have slash (text : String) : '/' ∈ fileText (some text) := by simp [fileText]
  cases path with
  | none =>
      cases path' with
      | none => rfl
      | some text => exact absurd (same ▸ slash text) noSlash
  | some text =>
      cases path' with
      | none => exact absurd (same ▸ slash text) noSlash
      | some text' =>
          have texts : text.toList = text'.toList := by simpa [fileText] using same
          rw [String.toList_inj.1 texts]

/-- The parts of an address after that of the host. -/
def addressText (a : HostedAction) (repo : String) : List Char :=
  a.owner.toList ++ '/' :: (repo.toList ++ '/' :: ((revisionOf a).toList ++ '/' :: fileText a.path))

theorem toList_of_actionUrl {host : ManifestHost} {a : HostedAction} {url repo : String}
    (named : a.repo = some repo) (found : host.actionUrl a = some url) :
    url.toList = host.base.toList ++ '/' :: addressText a repo := by
  simp only [actionUrl, named, Option.map_some, Option.some.injEq] at found
  subst found
  cases path : a.path <;> simp [addressText, fileText, path]

/-! ## Actions with one address -/

variable {host : ManifestHost} {a b : HostedAction}

/-- An action that is named well has an owner and a repository without slashes. -/
theorem slashes_of_isNamed (named : (Reference.hosted a).isNamed = true) :
    ∃ repo, a.repo = some repo ∧ '/' ∉ a.owner.toList ∧ '/' ∉ repo.toList := by
  have valid : a.isValid true = true := named
  cases given : a.repo with
  | none => simp [HostedAction.isValid, given] at valid
  | some repo =>
      simp only [HostedAction.isValid, given, Bool.and_eq_true] at valid
      exact ⟨repo, rfl, (clean_of_isWord valid.1.2).1, (clean_of_isWord valid.2).1⟩

/-- Of two named actions with one address, all that stands behind the repository is the
same text. -/
theorem same_repository_of_actionUrl (named : (Reference.hosted a).isNamed = true)
    (named' : (Reference.hosted b).isNamed = true) {url : String}
    (found : host.actionUrl a = some url) (found' : host.actionUrl b = some url) :
    (a.owner = b.owner ∧ a.repo = b.repo) ∧
      (revisionOf a).toList ++ '/' :: fileText a.path =
        (revisionOf b).toList ++ '/' :: fileText b.path := by
  obtain ⟨repo, repoNamed, ownerClean, repoClean⟩ := slashes_of_isNamed named
  obtain ⟨repo', repoNamed', ownerClean', repoClean'⟩ := slashes_of_isNamed named'
  have texts : addressText a repo = addressText b repo' := by
    have same := (toList_of_actionUrl repoNamed found).symm.trans (toList_of_actionUrl repoNamed' found')
    exact (List.cons.inj (List.append_cancel_left same)).2
  obtain ⟨owners, tails⟩ := Text.append_cons_inj_of_not_mem ownerClean ownerClean' texts
  obtain ⟨repos, rest⟩ := Text.append_cons_inj_of_not_mem repoClean repoClean' tails
  refine ⟨⟨String.toList_inj.1 owners, ?_⟩, rest⟩
  rw [repoNamed, repoNamed', String.toList_inj.1 repos]

/-- As many slashes in the revisions put its end in one place. -/
theorem same_place_of_actionUrl
    (count : (revisionOf a).toList.count '/' = (revisionOf b).toList.count '/')
    (same : (revisionOf a).toList ++ '/' :: fileText a.path =
      (revisionOf b).toList ++ '/' :: fileText b.path) :
    revisionOf a = revisionOf b ∧ a.path = b.path := by
  obtain ⟨revisions, files⟩ := Text.append_cons_inj_of_count count same
  exact ⟨String.toList_inj.1 revisions, fileText_injective files⟩

/-- Each address that decides on a named action is its own at some revision. -/
theorem exists_of_mem_addressesOf (named : (Reference.hosted a).isNamed = true) {url : String}
    (member : url ∈ Cache.addressesOf host (.hosted a)) :
    ∃ a', (Reference.hosted a').isNamed = true ∧ a'.owner = a.owner ∧ a'.repo = a.repo ∧
      host.actionUrl a' = some url := by
  obtain ⟨own, head, addresses⟩ := Addresses.of_isNamed host named
  have either : url = own ∨ url = head := by
    rw [Cache.addressesOf_hosted addresses] at member
    split at member
    · exact Or.inl (List.mem_singleton.1 member)
    · simpa using member
  rcases either with rfl | rfl
  · exact ⟨a, named, rfl, rfl, addresses.own_eq⟩
  · exact ⟨a.atRevision headRevision, named, rfl, rfl, addresses.head_eq⟩

/-! ## Repositories apart -/

/-- **The address of a manifest says whose it is.**  Two actions, each with an owner and a
repository that are named well, whatever their revisions: if their manifests have one address,
then they are of one repository, and if besides as many slashes stand in the revisions that
are downloaded, these and the paths agree as well.  So no address that decides on an action
decides on one of another repository, and nothing that is asked about the one changes a record
of the other.  Owner, repository, path and revision in turn determine the address. -/
theorem url_identifies_action (sources : Sources) {a b : HostedAction}
    (named : (Reference.hosted a).isNamed = true) (named' : (Reference.hosted b).isNamed = true) :
    (∃ url, sources.host.url (.hosted a) = some url) ∧
    (sources.host.url (.hosted a) = sources.host.url (.hosted b) →
      (a.owner = b.owner ∧ a.repo = b.repo) ∧
        ((revisionOf a).toList.count '/' = (revisionOf b).toList.count '/' →
          revisionOf a = revisionOf b ∧ a.path = b.path)) ∧
    (¬ (a.owner = b.owner ∧ a.repo = b.repo) →
      ∀ url ∈ Cache.addressesOf sources.host (.hosted a),
        url ∉ Cache.addressesOf sources.host (.hosted b) ∧
          Cache.Spares sources (.hosted b) url) ∧
    (a.owner = b.owner → a.repo = b.repo → a.path = b.path → revisionOf a = revisionOf b →
      sources.host.url (.hosted a) = sources.host.url (.hosted b)) := by
  obtain ⟨own, head, addresses⟩ := Addresses.of_isNamed sources.host named
  refine ⟨⟨own, addresses.own_eq⟩, fun same => ?_, fun apart url member => ?_, ?_⟩
  · have found' : sources.host.actionUrl b = some own := same.symm.trans addresses.own_eq
    obtain ⟨repository, rest⟩ :=
      same_repository_of_actionUrl named named' addresses.own_eq found'
    exact ⟨repository, fun count => same_place_of_actionUrl count rest⟩
  · have other : url ∉ Cache.addressesOf sources.host (.hosted b) := by
      intro member'
      obtain ⟨a', namedAt, owner, repo, found⟩ := exists_of_mem_addressesOf named member
      obtain ⟨b', namedAt', owner', repo', found'⟩ := exists_of_mem_addressesOf named' member'
      obtain ⟨⟨owners, repos⟩, -⟩ := same_repository_of_actionUrl namedAt namedAt' found found'
      exact apart ⟨owner.symm.trans (owners.trans owner'), repo.symm.trans (repos.trans repo')⟩
    exact ⟨other, Cache.spares_of_not_mem other⟩
  · intro owner repo path revision
    show sources.host.actionUrl a = sources.host.actionUrl b
    simp only [actionUrl, owner, repo, path, revision]

/-- Without as many slashes in the revisions, a path may pass for the end of a revision: two
texts that name one file of `o/r` in different ways.  With `o/q` they have nothing in common. -/
theorem url_identifies_action_crossed :
    let a : HostedAction := ⟨"o", some "r", some "b", some "a"⟩
    let b : HostedAction := ⟨"o", some "r", none, some "a/b"⟩
    let c : HostedAction := ⟨"o", some "q", some "b", some "a b"⟩
    let url := "https://raw.example/o/r/a/b/action.yml"
    (Reference.parse "o/r/b@a" = .hosted a ∧ Reference.parse "o/r@a/b" = .hosted b ∧
        Reference.parse "o/q/b@a b" = .hosted c) ∧
      silentSources.host.url (.hosted a) = some url ∧
      silentSources.host.url (.hosted b) = some url ∧
      (a.owner = b.owner ∧ a.repo = b.repo) ∧ Cache.Spares silentSources (.hosted c) url := by
  intro a b c url
  have aNamed : (Reference.hosted a).isNamed = true := by decide
  have bNamed : (Reference.hosted b).isNamed = true := by decide
  have cNamed : (Reference.hosted c).isNamed = true := by decide
  have aUrl : silentSources.host.url (.hosted a) = some url := by decide
  have bUrl : silentSources.host.url (.hosted b) = some url := by decide
  obtain ⟨-, together, -⟩ := url_identifies_action silentSources aNamed bNamed
  obtain ⟨-, -, apart, -⟩ := url_identifies_action silentSources aNamed cNamed
  obtain ⟨own, head, addresses⟩ := Addresses.of_isNamed silentSources.host aNamed
  obtain rfl : own = url := Option.some.inj (addresses.own_eq.symm.trans aUrl)
  have deciding := (Cache.mem_addressesOf addresses).1
  exact ⟨by decide, aUrl, bUrl, (together (aUrl.trans bUrl.symm)).1,
    (apart (by decide) _ deciding).2⟩

end ManifestHost

end WorkflowLint
