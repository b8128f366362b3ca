/-
# WorkflowLint.Proofs.Workflow.Root -- the repository of a workflow file

A path leads to a workflow file if its last steps are the two directories and a file name of the
right form (`IsWorkflowFile`).  Going up from there by the text of the path finds the steps before
these (`workflowRoot?_eq_some_iff`), since every parent lacks one step; and joining the directories
and a file name to a path adds just these steps (`components_below`).  So the one undoes the other
(`root_undoes_join`), and how a path is written makes no difference to the steps of its repository.
-/
import Mathlib.Data.Option.Basic
import WorkflowLint.Proofs.Path.Components
import WorkflowLint.Workflow.Location

namespace WorkflowLint

set_option autoImplicit false

/-- The name of a workflow file: something, a dot and one of two endings.  There may be other dots
before. -/
def IsWorkflowFile (name : String) : Prop :=
  ∃ (stem : List Char) (ending : String), stem ≠ [] ∧ (ending = "yml" ∨ ending = "yaml") ∧
    name.toList = stem ++ '.' :: ending.toList

/-- The steps from a repository to a workflow file. -/
def belowRoot (name : String) : List Component := [.name ".github", .name "workflows", .name name]

/-! ## Extensions -/

/-- The extension of a file name stands behind its last dot. -/
theorem Path.extensionOf?_eq_some_iff {cs ending : List Char} :
    Path.extensionOf? cs = some ending ↔
      ∃ stem, stem ≠ [] ∧ '.' ∉ ending ∧ cs = stem ++ '.' :: ending := by
  rcases Text.not_mem_or_cut '.' cs.reverse with clean | ⟨last, before, clean, back⟩
  · have kept := Text.takeWhile_eq_self_iff.2 clean
    have noRoom : ¬ cs.length + 1 < cs.length := by omega
    constructor
    · intro found
      simp [Path.extensionOf?, kept, noRoom] at found
    · rintro ⟨stem, -, -, rfl⟩
      simp at clean
  · have kept : cs.reverse.takeWhile (· != '.') = last := by
      rw [back, Text.takeWhile_append_cons clean]
    have text : cs = before.reverse ++ '.' :: last.reverse := by
      rw [← List.reverse_reverse cs, back]
      simp
    have read : Path.extensionOf? cs = some ending ↔ before ≠ [] ∧ last.reverse = ending := by
      have long : last.length + 1 < cs.length ↔ before ≠ [] := by
        rw [← List.length_pos_iff, text]
        simp only [List.length_append, List.length_cons, List.length_reverse]
        omega
      simp only [Path.extensionOf?, kept, long]
      by_cases given : before = [] <;> simp [given]
    rw [read]
    constructor
    · rintro ⟨given, rfl⟩
      exact ⟨before.reverse, by simpa using given, by simpa using clean, text⟩
    · rintro ⟨stem, given, clean', same⟩
      have reversed : last ++ '.' :: before = ending.reverse ++ '.' :: stem.reverse := by
        rw [← back, same]
        simp
      obtain ⟨rfl, rfl⟩ := Text.append_cons_inj_of_not_mem clean (by simpa using clean') reversed
      exact ⟨by simpa using given, List.reverse_reverse ending⟩

theorem isWorkflowFile_iff {p : Path} {name : String} (named : p.fileName? = some name) :
    IsWorkflowFile name ↔
      ∃ ending, p.extension? = some ending ∧ workflowExtensions.contains ending = true := by
  have read : ∀ ending : String, p.extension? = some ending ↔
      Path.extensionOf? name.toList = some ending.toList := by
    intro ending
    rw [Path.extension?, named, Option.bind_some, Option.map_eq_some_iff]
    constructor
    · rintro ⟨cs, found, rfl⟩
      rw [found, String.toList_ofList]
    · intro found
      exact ⟨_, found, String.ofList_toList⟩
  constructor
  · rintro ⟨stem, ending, given, allowed, same⟩
    refine ⟨ending, (read ending).2 (Path.extensionOf?_eq_some_iff.2 ⟨stem, given, ?_, same⟩), ?_⟩
    · rcases allowed with rfl | rfl <;> decide
    · rcases allowed with rfl | rfl <;> decide
  · rintro ⟨ending, found, allowed⟩
    obtain ⟨stem, given, -, same⟩ := Path.extensionOf?_eq_some_iff.1 ((read ending).1 found)
    refine ⟨stem, ending, given, ?_, same⟩
    simpa [workflowExtensions] using allowed

/-! ## Going up -/

theorem workflowRoot?_eq_some_iff_parents {p root : Path} :
    workflowRoot? p = some root ↔
      ∃ ending, p.extension? = some ending ∧ workflowExtensions.contains ending = true ∧
        ∃ workflows, p.parent? = some workflows ∧ workflows.fileName? = some "workflows" ∧
          ∃ marker, workflows.parent? = some marker ∧ marker.fileName? = some ".github" ∧
            marker.parent? = some root := by
  simp [workflowRoot?, Option.bind_eq_some_iff, workflowDirectory, markerDirectory]

/-- The repository of a workflow file has the steps before those to the file, and its text is how
the text of the path starts. -/
theorem components_of_workflowRoot? {p root : Path} (found : workflowRoot? p = some root) :
    (∃ name, p.components = root.components ++ belowRoot name ∧ IsWorkflowFile name) ∧
      root.text.toList <+: p.text.toList := by
  obtain ⟨ending, extended, allowed, workflows, up, isWorkflows, marker, up', isMarker, up''⟩ :=
    workflowRoot?_eq_some_iff_parents.1 found
  obtain ⟨name, named⟩ : ∃ name, p.fileName? = some name := by
    cases named : p.fileName? with
    | none => simp [Path.extension?, named] at extended
    | some name => exact ⟨name, rfl⟩
  obtain ⟨-, starts⟩ := Path.components_of_parent? up
  obtain ⟨-, starts'⟩ := Path.components_of_parent? up'
  obtain ⟨-, starts''⟩ := Path.components_of_parent? up''
  have steps := Path.components_of_parent?_of_fileName? up named
  have steps' := Path.components_of_parent?_of_fileName? up' isWorkflows
  have steps'' := Path.components_of_parent?_of_fileName? up'' isMarker
  refine ⟨⟨name, ?_, (isWorkflowFile_iff named).2 ⟨ending, extended, allowed⟩⟩,
    (starts''.trans starts').trans starts⟩
  rw [steps, steps', steps'', belowRoot]
  simp

/-- Every workflow file has a repository. -/
theorem exists_workflowRoot? {p : Path} {above : List Component} {name : String}
    (steps : p.components = above ++ belowRoot name) (isFile : IsWorkflowFile name) :
    ∃ root, workflowRoot? p = some root ∧ root.components = above := by
  have toFile : p.components = (above ++ [.name ".github", .name "workflows"]) ++ [.name name] := by
    simp [steps, belowRoot]
  have named : p.fileName? = some name := Path.fileName?_eq_some_iff.2 ⟨_, toFile⟩
  obtain ⟨ending, extended, allowed⟩ := (isWorkflowFile_iff named).1 isFile
  obtain ⟨workflows, up, steps'⟩ := Path.exists_parent? toFile nofun
  have toWorkflows : workflows.components = (above ++ [.name ".github"]) ++ [.name "workflows"] := by
    simp [steps']
  obtain ⟨marker, up', toMarker⟩ := Path.exists_parent? toWorkflows nofun
  obtain ⟨root, up'', same⟩ := Path.exists_parent? toMarker nofun
  exact ⟨root, workflowRoot?_eq_some_iff_parents.2 ⟨ending, extended, allowed, workflows, up,
    Path.fileName?_eq_some_iff.2 ⟨_, toWorkflows⟩, marker, up',
    Path.fileName?_eq_some_iff.2 ⟨_, toMarker⟩, up''⟩, same⟩

/-! ## Going down -/

/-- A workflow file that is joined to a path adds the steps to the file. -/
theorem components_below {f : String} (slashless : '/' ∉ f.toList) (isFile : IsWorkflowFile f)
    (r : Path) : (r.join (".github/workflows/" ++ f)).components = r.components ++ belowRoot f := by
  have text : (".github/workflows/" ++ f).toList = ".github".toList ++ '/' ::
      ("workflows".toList ++ '/' :: f.toList) := by
    rw [String.toList_append]
    rfl
  have plain : Path.cutLead (".github/workflows/" ++ f).toList =
      ([], (".github/workflows/" ++ f).toList) := by
    rw [text]
    rfl
  have step : Path.stepsOf f.toList = [.name f] := by
    obtain ⟨stem, ending, -, allowed, same⟩ := isFile
    have long : 2 < f.toList.length := by
      rw [same]
      rcases allowed with rfl | rfl <;> simp
    have ne : ∀ cs : List Char, cs.length ≤ 2 → f.toList ≠ cs := by
      rintro cs short rfl
      omega
    rw [Path.stepsOf, Text.splitAll_of_not_mem slashless]
    simp [Path.stepOf, Path.isFiller, ne [] (by simp), ne ['.'] (by simp), ne ['.', '.'] (by simp)]
  rw [Path.components_join plain, text, Path.stepsOf_append_cons, Path.stepsOf_append_cons, step]
  rfl

/-- **Finding the repository undoes joining a workflow file to it.**  A path has a repository if
and only if its last steps are the two directories and the name of a workflow file; the steps of
the repository are those before, and its text is how the text of the path starts.  The other way
round, whatever the path `r` is, the file `f` joined to it below the two directories, at once or
one after the other, has a repository with the steps of `r`.  So two workflow files with the same
steps above them have repositories with the same steps. -/
theorem root_undoes_join :
    (∀ p : Path,
      ((workflowRoot? p).isSome = true ↔
        ∃ above name, p.components = above ++ belowRoot name ∧ IsWorkflowFile name) ∧
      ∀ root, workflowRoot? p = some root →
        (∃ name, p.components = root.components ++ belowRoot name ∧ IsWorkflowFile name) ∧
          root.text.toList <+: p.text.toList) ∧
    (∀ (r : Path) (f : String), '/' ∉ f.toList → IsWorkflowFile f →
      (r.join ".github/workflows/").join f = r.join (".github/workflows/" ++ f) ∧
        ∃ root, workflowRoot? (r.join (".github/workflows/" ++ f)) = some root ∧
          root.components = r.components) ∧
    ∀ (p p' : Path) (above : List Component) (f f' : String),
      p.components = above ++ belowRoot f → p'.components = above ++ belowRoot f' →
      IsWorkflowFile f → IsWorkflowFile f' →
      ∃ root root', workflowRoot? p = some root ∧ workflowRoot? p' = some root' ∧
        root.components = root'.components := by
  refine ⟨fun p => ⟨?_, fun root found => components_of_workflowRoot? found⟩,
    fun r f slashless isFile => ⟨?_, ?_⟩, fun p p' above f f' steps steps' isFile isFile' => ?_⟩
  · constructor
    · intro some
      obtain ⟨root, found⟩ := Option.isSome_iff_exists.1 some
      obtain ⟨⟨name, steps, isFile⟩, -⟩ := components_of_workflowRoot? found
      exact ⟨root.components, name, steps, isFile⟩
    · rintro ⟨above, name, steps, isFile⟩
      obtain ⟨root, found, -⟩ := exists_workflowRoot? steps isFile
      rw [found, Option.isSome_some]
  · refine Path.join_join (by decide) (by decide) ?_ r
    refine beq_eq_false_iff_ne.2 fun first => slashless ?_
    exact List.mem_of_head? first
  · exact exists_workflowRoot? (components_below slashless isFile r) isFile
  · obtain ⟨root, found, same⟩ := exists_workflowRoot? steps isFile
    obtain ⟨root', found', same'⟩ := exists_workflowRoot? steps' isFile'
    exact ⟨root, root', found, found', same.trans same'.symm⟩

/-- Doubled slashes, dots and a slash at the end; the name of the file is two dots and the ending. -/
example : (workflowRoot? ⟨"./a//./.github/workflows//..yml/"⟩).map Path.text = some "./a" := by
  decide

end WorkflowLint
