/-
# WorkflowLint.Proofs.Script.LineLocal -- a script is read line by line

What is reported of a line depends on nothing but the line and its number, and on these in two
separate ways: the number is written down (`checkLine_add`), and of the line only what is left
when it is trimmed is read, so that its end does not matter (`mindsNoEnd`).  The reports of two
scripts, one below the other, are therefore those of the first and those of the second, moved
down by the lines above them (`deprecatedCommands_append`).

Which reports there are is said without a scan (`mem_deprecatedCommands_iff`): those of a line
that prints a deprecated command (`Reports`).
-/
import Mathlib.Data.Option.Basic
import WorkflowLint.Proofs.Text.Blank
import WorkflowLint.Proofs.Text.Lines
import WorkflowLint.Script

namespace WorkflowLint

set_option autoImplicit false

/-- The page that announces the end of a command, by the name of the command. -/
inductive Command.Announced : String → String → Prop where
  | saveState : Announced "save-state" outputNotice
  | setOutput : Announced "set-output" outputNotice
  | setEnv : Announced "set-env" environmentNotice
  | addPath : Announced "add-path" environmentNotice

/-- The deprecated commands are those whose end is announced. -/
theorem Command.exists_successor?_iff {c : Command} {notice : String} :
    (∃ successor, c.successor? = some successor ∧ successor.notice = notice) ↔
      Announced c.name notice := by
  constructor
  · rintro ⟨successor, found, rfl⟩
    unfold successor? at found
    split at found <;> cases found <;> rename_i named <;> rw [named]
    · exact .saveState
    · exact .setOutput
    · exact .setEnv
    · exact .addPath
  · intro announced
    unfold successor?
    generalize c.name = name at announced
    cases announced <;> exact ⟨_, rfl, rfl⟩

/-- The report of the same line, below so many more lines. -/
def DeprecatedCommand.below (d : DeprecatedCommand) (lines : Nat) : DeprecatedCommand :=
  { d with line := d.line + lines }

namespace Script

variable {shell : Shell} {line : List Char} {n : Nat} {d : DeprecatedCommand}

/-! ## One line -/

/-- What is reported of a line: it is no comment and prints a message that is a deprecated
command. -/
structure Reports (shell : Shell) (line : List Char) (d : DeprecatedCommand) : Prop where
  text : d.text = .ofList (Text.trim line)
  noComment : (Text.trim line).head? ≠ some '#'
  printed : ∃ message, echoed shell (Text.trim line) = some message ∧
    Command.parse (.ofList message) = some d.command
  announced : Command.Announced d.command.name d.notice

theorem echoed_nil (shell : Shell) : echoed shell [] = none := by
  cases shell <;> rfl

theorem checkLine_eq_some_iff :
    checkLine shell n line = some d ↔ d.line = n ∧ Reports shell line d := by
  have read : checkLine shell n line = some d ↔
      ((Text.trim line).isEmpty = false ∧ (Text.trim line).head? ≠ some '#') ∧
        ∃ message, echoed shell (Text.trim line) = some message ∧
          ∃ command, Command.parse (.ofList message) = some command ∧
            ∃ successor, command.successor? = some successor ∧
              ⟨n, .ofList (Text.trim line), command, successor.notice⟩ = d := by
    simp [checkLine, Option.bind_eq_some_iff]
  rw [read]
  constructor
  · rintro ⟨⟨-, noComment⟩, message, printed, command, parsed, successor, found, rfl⟩
    exact ⟨rfl, rfl, noComment, ⟨message, printed, parsed⟩,
      Command.exists_successor?_iff.1 ⟨successor, found, rfl⟩⟩
  · rintro ⟨rfl, reports⟩
    obtain ⟨message, printed, parsed⟩ := reports.printed
    obtain ⟨successor, found, notice⟩ := Command.exists_successor?_iff.2 reports.announced
    have given : (Text.trim line).isEmpty = false := by
      cases trimmed : Text.trim line with
      | nil => rw [trimmed, echoed_nil] at printed; cases printed
      | cons c cs => rfl
    refine ⟨⟨given, reports.noComment⟩, message, printed, d.command, parsed, successor, found, ?_⟩
    rw [← reports.text, notice]

/-- The number of a line is only written down. -/
theorem checkLine_add (shell : Shell) (line : List Char) (n k : Nat) :
    checkLine shell (n + k) line = (checkLine shell n line).map (·.below k) := by
  ext d
  rw [Option.map_eq_some_iff, checkLine_eq_some_iff]
  constructor
  · rintro ⟨number, reports⟩
    refine ⟨{ d with line := n }, checkLine_eq_some_iff.2 ⟨rfl, ?_⟩, ?_⟩
    · exact ⟨reports.text, reports.noComment, reports.printed, reports.announced⟩
    · rw [DeprecatedCommand.below, ← number]
  · rintro ⟨d', checked, rfl⟩
    obtain ⟨rfl, reports⟩ := checkLine_eq_some_iff.1 checked
    exact ⟨rfl, reports.text, reports.noComment, reports.printed, reports.announced⟩

/-- Only what is left of a line when it is trimmed is read. -/
theorem checkLine_congr {line' : List Char} (same : Text.trim line = Text.trim line')
    (shell : Shell) (n : Nat) : checkLine shell n line = checkLine shell n line' := by
  rw [checkLine, checkLine, same]

/-! ## All lines -/

def checkNumbered (shell : Shell) (p : List Char × Nat) : Option DeprecatedCommand :=
  checkLine shell p.2 p.1

theorem mindsNoEnd (shell : Shell) : Text.MindsNoEnd (checkNumbered shell) where
  empty n := by
    cases checked : checkNumbered shell ([], n) with
    | none => rfl
    | some d =>
        obtain ⟨message, printed, -⟩ := (checkLine_eq_some_iff.1 checked).2.printed
        have nothing : echoed shell (Text.trim []) = none := echoed_nil shell
        rw [nothing] at printed
        cases printed
  carriageReturn line n := by
    refine checkLine_congr (Text.trim_append_blanks ?_ line) shell n
    intro c member
    rw [List.mem_singleton.1 member]
    decide

/-- What is reported of pieces of a script, the first of which has this number. -/
def reportsFrom (shell : Shell) (first : Nat) (pieces : List (List Char)) :
    List DeprecatedCommand :=
  (pieces.zipIdx first).filterMap (checkNumbered shell)

theorem reportsFrom_append (shell : Shell) (n : Nat) (pieces pieces' : List (List Char)) :
    reportsFrom shell n (pieces ++ pieces') =
      reportsFrom shell n pieces ++ reportsFrom shell (n + pieces.length) pieces' := by
  rw [reportsFrom, List.zipIdx_append, List.filterMap_append]
  rfl

theorem reportsFrom_add (shell : Shell) (n k : Nat) (pieces : List (List Char)) :
    reportsFrom shell (n + k) pieces = (reportsFrom shell n pieces).map (·.below k) := by
  induction pieces generalizing n with
  | nil => rfl
  | cons piece pieces ih =>
      have head : checkNumbered shell (piece, n + k) =
          (checkNumbered shell (piece, n)).map (·.below k) := checkLine_add shell piece n k
      have tail := ih (n + 1)
      rw [Nat.add_right_comm] at tail
      simp only [reportsFrom, List.zipIdx_cons, List.filterMap_cons] at tail ⊢
      rw [head]
      cases checkNumbered shell (piece, n) with
      | none => exact tail
      | some d => simp only [Option.map_some, List.map_cons, tail]

/-- The lines of a script may be taken for the pieces between its line feeds. -/
theorem deprecatedCommands_eq (script : String) (supported : shell.isSupported = true) :
    deprecatedCommands script shell =
      reportsFrom shell 1 (Text.splitAll '\n' script.toList) := by
  rw [deprecatedCommands, if_pos supported]
  exact (mindsNoEnd shell).filterMap_lines script.toList 1

theorem deprecatedCommands_of_unsupported (script : String)
    (unsupported : ¬ shell.isSupported = true) : deprecatedCommands script shell = [] := by
  rw [deprecatedCommands, if_neg unsupported]

/-- A script below another one is reported on as it is alone, further down. -/
theorem deprecatedCommands_append (above below : String) (shell : Shell) :
    deprecatedCommands (above ++ "\n" ++ below) shell =
      deprecatedCommands above shell ++
        (deprecatedCommands below shell).map (·.below (above.toList.count '\n' + 1)) := by
  by_cases supported : shell.isSupported = true
  · have written : (above ++ "\n" ++ below).toList = above.toList ++ '\n' :: below.toList := by
      simp
    rw [deprecatedCommands_eq _ supported, deprecatedCommands_eq _ supported,
      deprecatedCommands_eq _ supported, written, Text.splitAll_append, reportsFrom_append,
      Text.length_splitAll, reportsFrom_add]
  · simp only [deprecatedCommands_of_unsupported _ supported, List.map_nil, List.append_nil]

/-- A script is reported on alike whichever way its lines end. -/
theorem deprecatedCommands_withCarriageReturns (script : String) (shell : Shell) :
    deprecatedCommands (.ofList (Text.withCarriageReturns script.toList)) shell =
      deprecatedCommands script shell := by
  by_cases supported : shell.isSupported = true
  · rw [deprecatedCommands_eq _ supported, deprecatedCommands_eq _ supported, String.toList_ofList]
    exact (mindsNoEnd shell).filterMap_withCarriageReturns script.toList 1
  · simp only [deprecatedCommands_of_unsupported _ supported]

/-- The reports come in the order of the lines, one of a line at most. -/
theorem deprecatedCommands_pairwise (script : String) (shell : Shell) :
    (deprecatedCommands script shell).Pairwise fun d d' => d.line < d'.line := by
  by_cases supported : shell.isSupported = true
  · rw [deprecatedCommands_eq _ supported, reportsFrom]
    have numbered : ((Text.splitAll '\n' script.toList).zipIdx 1).Pairwise
        fun p q => p.2 < q.2 := by
      rw [← List.pairwise_map, List.zipIdx_map_snd]
      exact List.pairwise_lt_range'
    refine numbered.filterMap _ fun p q before d checked d' checked' => ?_
    rw [(checkLine_eq_some_iff.1 checked).1, (checkLine_eq_some_iff.1 checked').1]
    exact before
  · rw [deprecatedCommands_of_unsupported _ supported]
    exact .nil

theorem mem_deprecatedCommands_iff {script : String} :
    d ∈ deprecatedCommands script shell ↔
      shell.isSupported = true ∧ 1 ≤ d.line ∧
        ∃ line, (Text.lines script.toList)[d.line - 1]? = some line ∧ Reports shell line d := by
  by_cases supported : shell.isSupported = true
  · rw [deprecatedCommands, if_pos supported, List.mem_filterMap]
    constructor
    · rintro ⟨⟨line, n⟩, member, checked⟩
      obtain ⟨rfl, reports⟩ := checkLine_eq_some_iff.1 checked
      obtain ⟨from_one, found⟩ := List.mk_mem_zipIdx_iff_le_and_getElem?_sub.1 member
      exact ⟨supported, from_one, line, found, reports⟩
    · rintro ⟨-, from_one, line, found, reports⟩
      exact ⟨(line, d.line), List.mk_mem_zipIdx_iff_le_and_getElem?_sub.2 ⟨from_one, found⟩,
        checkLine_eq_some_iff.2 ⟨rfl, reports⟩⟩
  · simp [deprecatedCommands_of_unsupported, supported]

/-- **A script is read line by line.**  For every shell: the reports of one script below another
are those of the upper one and then those of the lower one, each as many lines further down as
there are line feeds above it; and it makes no difference how the lines end.  The reports of a
script come in strictly ascending order of their lines, which are lines of the script, and what is
reported is what the shell, if it is one that is read, prints there: of the line itself, trimmed,
the command and the page that announces its end. -/
theorem scripts_are_read_by_line (shell : Shell) :
    (∀ above below : String, deprecatedCommands (above ++ "\n" ++ below) shell =
      deprecatedCommands above shell ++
        (deprecatedCommands below shell).map (·.below (above.toList.count '\n' + 1))) ∧
    (∀ script : String,
      deprecatedCommands (.ofList (Text.withCarriageReturns script.toList)) shell =
        deprecatedCommands script shell) ∧
    ∀ script : String,
      ((deprecatedCommands script shell).Pairwise fun d d' => d.line < d'.line) ∧
      (∀ d ∈ deprecatedCommands script shell,
        1 ≤ d.line ∧ d.line ≤ (Text.lines script.toList).length) ∧
      ∀ d, d ∈ deprecatedCommands script shell ↔
        shell.isSupported = true ∧ 1 ≤ d.line ∧
          ∃ line, (Text.lines script.toList)[d.line - 1]? = some line ∧ Reports shell line d := by
  refine ⟨fun above below => deprecatedCommands_append above below shell,
    fun script => deprecatedCommands_withCarriageReturns script shell, fun script => ?_⟩
  refine ⟨deprecatedCommands_pairwise script shell, ?_, fun d => mem_deprecatedCommands_iff⟩
  intro d member
  obtain ⟨-, from_one, line, found, -⟩ := mem_deprecatedCommands_iff.1 member
  obtain ⟨within, -⟩ := List.getElem?_eq_some_iff.1 found
  omega

end Script

end WorkflowLint
