/-
# WorkflowLint.Proofs.LocalAction.Location -- where the manifests of local actions stand

A local reference is seen from the directory of its document, or from the repository if the
document is a workflow file (`base_of_document`).  The steps behind its mark lead from there to a
directory, and the manifest is a file of one of two names in that directory
(`findManifest_eq_some_iff`); slashes at the end of the reference have no part in it
(`findManifest_append_slashes`).

There is one exception: what stands behind the mark is joined to the base as it is written, and a
text with a slash at its start is a path of its own.  Such a reference leaves its base
(`LeavesBase`), and its directory is the same for all documents (`manifests_stand_below_base`).
-/
import WorkflowLint.LocalAction
import WorkflowLint.Proofs.Text.Blank
import WorkflowLint.Proofs.Workflow.Root

namespace WorkflowLint.LocalAction

set_option autoImplicit false

variable {files : FileTree} {document base directory path : Path} {reference rest : String}

/-! ## Bases -/

/-- A document that is no workflow file, wherever it may stand. -/
def IsElsewhere (document : Path) : Prop :=
  ∀ above name, document.components = above ++ belowRoot name → ¬ IsWorkflowFile name

/-- A base has the steps before those from a repository to a workflow file, or before the last
step of any other document. -/
theorem base_of_document (found : baseOf document = some base) :
    (∃ name, IsWorkflowFile name ∧ document.components = base.components ++ belowRoot name) ∨
      (IsElsewhere document ∧
        ∃ step, step ≠ .root ∧ document.components = base.components ++ [step]) := by
  cases isFile : workflowRoot? document with
  | some root =>
      obtain rfl : root = base := by simpa [baseOf, isFile] using found
      obtain ⟨⟨name, steps, named⟩, -⟩ := components_of_workflowRoot? isFile
      exact Or.inl ⟨name, named, steps⟩
  | none =>
      have up : document.parent? = some base := by simpa [baseOf, isFile] using found
      refine Or.inr ⟨fun above name steps named => ?_, (Path.components_of_parent? up).1⟩
      obtain ⟨root, isFile', -⟩ := exists_workflowRoot? steps named
      rw [isFile] at isFile'
      cases isFile'

/-- Every document with a step that is not the root has a base. -/
theorem exists_base {above : List Component} {step : Component}
    (steps : document.components = above ++ [step]) (below : step ≠ .root) :
    ∃ base, baseOf document = some base := by
  obtain ⟨parent, up, -⟩ := Path.exists_parent? steps below
  rw [baseOf, up]
  cases workflowRoot? document with
  | some root => exact ⟨root, rfl⟩
  | none => exact ⟨parent, rfl⟩

/-! ## Directories -/

/-- The manifest of a directory is a file of the preferred name, or of the other name if there is
none. -/
def IsManifestIn (files : FileTree) (directory path : Path) : Prop :=
  files.isFile path = true ∧ (path = directory.join "action.yml" ∨
    path = directory.join "action.yaml" ∧ files.isFile (directory.join "action.yml") = false)

/-- The first of the two candidates that is a file is the manifest of the directory. -/
theorem find?_eq_some_iff_isManifestIn :
    (manifestNames.map (directory.join ·)).find? files.isFile = some path ↔
      IsManifestIn files directory path := by
  simp only [manifestNames, List.map_cons, List.map_nil, IsManifestIn]
  by_cases preferred : files.isFile (directory.join "action.yml") = true
  · rw [List.find?_cons_of_pos preferred, Option.some.injEq]
    constructor
    · rintro rfl
      exact ⟨preferred, Or.inl rfl⟩
    · rintro ⟨-, rfl | ⟨-, missing⟩⟩
      · rfl
      · exact absurd preferred (Bool.eq_false_iff.1 missing)
  · rw [List.find?_cons_of_neg preferred, List.find?_singleton]
    constructor
    · intro found
      split at found
      · next other =>
          cases found
          exact ⟨other, Or.inr ⟨rfl, Bool.eq_false_iff.2 preferred⟩⟩
      · cases found
    · rintro ⟨isFile, rfl | ⟨rfl, -⟩⟩
      · exact absurd isFile preferred
      · exact if_pos isFile

/-- A manifest is found where it stands. -/
theorem findManifest_eq_some_iff : findManifest files document reference = some path ↔
    ∃ base, baseOf document = some base ∧
      IsManifestIn files (base.join (relativePart reference)) path := by
  cases known : baseOf document with
  | none => simp [findManifest, candidates, known]
  | some base =>
      simp only [findManifest, candidates, known, Option.some.injEq, exists_eq_left']
      exact find?_eq_some_iff_isManifestIn

theorem relativePart_marked (rest : String) :
    relativePart ("./" ++ rest) = .ofList (Text.dropEndWhile (· == '/') rest.toList) := by
  have marked : Reference.localMark.toList.isPrefixOf? ("./" ++ rest).toList = some rest.toList :=
    List.isPrefixOf?_eq_some_iff_append_eq.2 (String.toList_append ..).symm
  rw [relativePart, marked]
  rfl

/-- Slashes at the end of a reference have no part in what is found. -/
theorem findManifest_append_slashes {slashes : String} (all : ∀ c ∈ slashes.toList, c = '/') :
    findManifest files document ("./" ++ rest ++ slashes) =
      findManifest files document ("./" ++ rest) := by
  have same : relativePart ("./" ++ rest ++ slashes) = relativePart ("./" ++ rest) := by
    rw [String.append_assoc, relativePart_marked, relativePart_marked, String.toList_append,
      Text.dropEndWhile_append fun c member => beq_iff_eq.2 (all c member)]
  rw [findManifest, candidates, same]
  rfl

/-- A reference that does not stay below its base: behind its mark stands a slash, and then
something else. -/
def LeavesBase (rest : String) : Prop := rest.toList.head? = some '/' ∧ ∃ c ∈ rest.toList, c ≠ '/'

/-- The steps that a reference starts from. -/
inductive StartsFrom (base : Path) (rest : String) : List Component → Prop where
  | base (stays : ¬ LeavesBase rest) : StartsFrom base rest base.route
  | root (leaves : LeavesBase rest) : StartsFrom base rest [.root]

theorem isAbsolute_relativePart_iff (rest : String) :
    Path.isAbsolute ⟨relativePart ("./" ++ rest)⟩ = true ↔ LeavesBase rest := by
  rw [relativePart_marked, Path.isAbsolute_iff, String.toList_ofList, LeavesBase]
  have before : Text.dropEndWhile (· == '/') rest.toList <+: rest.toList :=
    List.rdropWhile_prefix _ _
  have nothing : Text.dropEndWhile (· == '/') rest.toList = [] ↔ ∀ c ∈ rest.toList, c = '/' := by
    refine List.rdropWhile_eq_nil_iff.trans ?_
    simp
  constructor
  · intro first
    obtain ⟨more, text⟩ := List.head?_eq_some_iff.1 first
    refine ⟨?_, ?_⟩
    · obtain ⟨slashes, same⟩ := before
      rw [← same, text]
      rfl
    · by_contra all
      rw [nothing.2 (by simpa using all)] at text
      cases text
  · rintro ⟨first, c, member, other⟩
    have given : Text.dropEndWhile (· == '/') rest.toList ≠ [] :=
      fun none => other (nothing.1 none c member)
    obtain ⟨slashes, same⟩ := before
    rw [← same, List.head?_append_of_ne_nil _ given] at first
    exact first

/-- The steps behind the mark lead to the directory, from the base or from the root. -/
theorem route_of_directory (base : Path) (rest : String) :
    ∃ start, StartsFrom base rest start ∧
      (base.join (relativePart ("./" ++ rest))).route = start ++ Path.stepsOf rest.toList := by
  have steps : Path.stepsOf (relativePart ("./" ++ rest)).toList = Path.stepsOf rest.toList := by
    rw [relativePart_marked, String.toList_ofList, Path.stepsOf_dropEndWhile]
  cases absolute : Path.isAbsolute ⟨relativePart ("./" ++ rest)⟩ with
  | true =>
      refine ⟨_, .root ((isAbsolute_relativePart_iff rest).1 absolute), ?_⟩
      rw [Path.join_of_isAbsolute absolute, Path.route_eq, Path.rootStep,
        if_pos (Path.isAbsolute_iff.1 absolute), steps]
  | false =>
      refine ⟨_, .base fun leaves => ?_, by rw [Path.route_join absolute, steps]⟩
      rw [(isAbsolute_relativePart_iff rest).2 leaves] at absolute
      cases absolute

/-! ## What is found -/

theorem exists_base_iff : (∃ base, baseOf document = some base) ↔
    ∃ above step, step ≠ .root ∧ document.components = above ++ [step] := by
  constructor
  · rintro ⟨base, found⟩
    rcases base_of_document found with ⟨name, -, steps⟩ | ⟨-, step, below, steps⟩
    · refine ⟨base.components ++ [.name ".github", .name "workflows"], .name name, nofun, ?_⟩
      rw [steps, belowRoot, List.append_assoc]
      rfl
    · exact ⟨base.components, step, below, steps⟩
  · rintro ⟨above, step, below, steps⟩
    exact exists_base steps below

theorem route_join_manifestName {name : String} (member : name ∈ manifestNames) (directory : Path) :
    (directory.join name).route = directory.route ++ [.name name] := by
  simp only [manifestNames, List.mem_cons, List.not_mem_nil, or_false] at member
  rcases member with rfl | rfl <;> exact Path.route_join (by decide) directory

/-- **The manifest of a local action stands below the base of the document**, unless the reference
leaves it.  There is a base if the document has a step that is not the root, and it has the steps
before those from a repository to a workflow file, or before the last step of any other document.
From there, or from the root if the reference leaves the base, the steps behind the mark of the
reference lead to a directory, whatever files there are; and what is found is the manifest of this
directory, if it has one.  Slashes at the end of the reference change nothing. -/
theorem manifests_stand_below_base (document : Path) (rest : String) :
    ((∃ base, baseOf document = some base) ↔
      ∃ above step, step ≠ .root ∧ document.components = above ++ [step]) ∧
    (∀ base, baseOf document = some base →
      ((∃ name, IsWorkflowFile name ∧ document.components = base.components ++ belowRoot name) ∨
        (IsElsewhere document ∧
          ∃ step, step ≠ .root ∧ document.components = base.components ++ [step])) ∧
      ∃ start directory, StartsFrom base rest start ∧
        (∀ name ∈ manifestNames, (directory.join name).route =
          start ++ Path.stepsOf rest.toList ++ [.name name]) ∧
        ∀ files path, findManifest files document ("./" ++ rest) = some path ↔
          IsManifestIn files directory path) ∧
    ∀ (files : FileTree) (slashes : String), (∀ c ∈ slashes.toList, c = '/') →
      findManifest files document ("./" ++ rest ++ slashes) =
        findManifest files document ("./" ++ rest) := by
  refine ⟨exists_base_iff, fun base found => ⟨base_of_document found, ?_⟩,
    fun files slashes all => findManifest_append_slashes all⟩
  obtain ⟨start, starts, route⟩ := route_of_directory base rest
  refine ⟨start, base.join (relativePart ("./" ++ rest)), starts, fun name member => ?_,
    fun files path => ?_⟩
  · rw [route_join_manifestName member, route]
  · rw [findManifest_eq_some_iff, found]
    constructor
    · rintro ⟨base', ⟨⟩, manifest⟩
      exact manifest
    · intro manifest
      exact ⟨base, rfl, manifest⟩

/-- Two actions of one name, one at the root and one in a repository. -/
def twoActions : FileTree :=
  let act (name : String) : String × Directory := ("act", .directory [(name, .file .empty)])
  .ofDirectory (.directory [act "action.yml", ("repo", .directory [act "action.yaml"])]) ⟨"/"⟩

theorem manifests_stand_below_base_crooked :
    let document : Path := ⟨"/repo//.github/./workflows/ci.yml"⟩
    let manifest : Path := ⟨"/repo/.//act/action.yaml"⟩
    (baseOf document = some ⟨"/repo"⟩ ∧
        findManifest twoActions document ("./" ++ ".//act/") = some manifest) ∧
      ∃ directory : Path, IsManifestIn twoActions directory manifest ∧
        (directory.join "action.yaml").route =
          [.root, .name "repo", .name "act", .name "action.yaml"] := by
  intro document manifest
  have known : baseOf document = some ⟨"/repo"⟩ := by decide
  have found : findManifest twoActions document ("./" ++ ".//act/") = some manifest := by decide
  obtain ⟨-, start, directory, starts, routes, stands⟩ :=
    (manifests_stand_below_base document ".//act/").2.1 _ known
  refine ⟨⟨known, found⟩, directory, (stands twoActions manifest).1 found, ?_⟩
  rw [routes "action.yaml" (by decide)]
  cases starts with
  | base stays => decide
  | root leaves => exact absurd leaves.1 (by decide)

/-- **A slash behind the mark leaves the base**: for the reference `.//act` in a workflow file of
the repository the manifest of the action at the root is found, although the repository has the
action as well; and none is found if the repository alone has it.  So not every manifest that is
found stands below the base of the document. -/
theorem slash_leaves_base :
    let document : Path := ⟨"/repo/.github/workflows/ci.yml"⟩
    let ownAction : FileTree := .ofDirectory (.directory [("repo",
      .directory [("act", .directory [("action.yaml", .file .empty)])])]) ⟨"/"⟩
    (baseOf document = some ⟨"/repo"⟩ ∧ twoActions.isFile ⟨"/repo/act/action.yaml"⟩ = true ∧
        findManifest twoActions document ".//act" = some ⟨"/act/action.yml"⟩) ∧
      (ownAction.isFile ⟨"/repo/act/action.yaml"⟩ = true ∧
        findManifest ownAction document ".//act" = none) ∧
      ¬ ∀ (files : FileTree) (document base path : Path) (rest : String),
        baseOf document = some base → findManifest files document ("./" ++ rest) = some path →
        ∃ name ∈ manifestNames,
          path.route = base.route ++ Path.stepsOf rest.toList ++ [.name name] := by
  intro document ownAction
  have known : baseOf document = some ⟨"/repo"⟩ := by decide
  have found : findManifest twoActions document ".//act" = some ⟨"/act/action.yml"⟩ := by decide
  refine ⟨⟨known, by decide, found⟩, ⟨by decide, by decide⟩, fun below => ?_⟩
  obtain ⟨name, member, route⟩ := below twoActions document ⟨"/repo"⟩ ⟨"/act/action.yml"⟩ "/act"
    known found
  simp only [manifestNames, List.mem_cons, List.not_mem_nil, or_false] at member
  rcases member with rfl | rfl <;> exact absurd route (by decide)

end WorkflowLint.LocalAction
