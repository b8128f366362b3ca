/-
# WorkflowLint.Proofs.Script.Quoting -- in which quotes a command is printed

A line prints a message as it is if the shell removes the quotes around it, or wants none
(`Prints`); then the command in the message is reported, at any indentation and with any blanks
behind the line.  A line that lacks the quotes, or has a word that the shell does not know, passes
unreported even if it holds the same message (`Passes`).

The text behind the print word is trimmed before its quotes are looked at (`exists_printLine`), and
the message between them is trimmed once more when it is read (`Command.parse_congr`).  A message
that is a command starts with a colon (`Command.trim_of_parse`), so that one without quotes around
it is never taken for a quoted one, whatever quotes stand in it.
-/
import WorkflowLint.Proofs.Command.Grammar
import WorkflowLint.Proofs.Script.LineLocal

namespace WorkflowLint

set_option autoImplicit false

open Text (isBlank trim trimmed)

/-! ## Messages -/

namespace Command

variable {message message' : String} {c : Command}

/-- Only what is left of a message when it is trimmed is read. -/
theorem parse_congr (same : trim message.toList = trim message'.toList) :
    parse message = parse message' := by
  rw [parse, parse, cut, cut, same]

/-- What is left of a command when it is trimmed starts with a colon. -/
theorem trim_of_parse (parsed : parse message = some c) :
    ∃ rest, trim message.toList = ':' :: rest := by
  obtain ⟨⟨info, data⟩, found, -⟩ := Option.map_eq_some_iff.1 parsed
  exact ⟨_, (cut_eq_some_iff.1 found).written⟩

end Command

namespace Script

variable {shell : Shell} {line text message : List Char} {more trail : List Char}
  {first quote : Char}

/-! ## Quotes -/

theorem unquote_quoted (quote : Char) (message : List Char) :
    unquote quote (quote :: (message ++ [quote])) = some message := by
  simp [unquote]

theorem unquote_of_ne {c : Char} (other : c ≠ quote) (rest : List Char) :
    unquote quote (c :: rest) = none := if_neg other

/-- A text that starts with a colon stands in no quotes. -/
theorem unquoteAny_colon (rest : List Char) : unquoteAny (':' :: rest) = none := by
  rw [unquoteAny, unquote_of_ne (by decide), unquote_of_ne (by decide)]
  rfl

/-! ## Print words -/

/-- A line that is trimmed keeps its first word and, trimmed, the text behind it. -/
theorem exists_printLine (word : String) (given : word.toList ≠ [])
    (trimmed : Text.IsTrimmed word) (text_given : trim text ≠ []) :
    ∃ rest, trim (word.toList ++ ' ' :: text) = word.toList ++ ' ' :: rest ∧
      trim rest = trim text := by
  obtain ⟨before, after, whole, blank, blank'⟩ := Text.exists_trim text
  refine ⟨before ++ trim text, ?_, by rw [Text.trim_blanks_append blank, Text.trim_trim]⟩
  have line : word.toList ++ ' ' :: text =
      word.toList ++ ((' ' :: before) ++ trim text) ++ after := by
    conv_lhs => rw [whole]
    simp
  rw [line, Text.trim_append_blanks blank',
    Text.trim_append_of_trimmed given trimmed _ text_given (Text.trim_trim text)]
  simp

/-- What is printed depends on what is left of the text behind the word when it is trimmed. -/
theorem echoed_echo (shell : Shell) (left : trim text = first :: more) :
    echoed shell (trim ("echo".toList ++ ' ' :: text)) =
      if shell = .cmd then some ((unquote '"' (first :: more)).getD (first :: more))
      else unquoteAny (first :: more) := by
  obtain ⟨rest, line, same⟩ := exists_printLine "echo" (by decide) (by decide)
    (left ▸ List.cons_ne_nil first more)
  have word : "echo ".toList.isPrefixOf? ("echo".toList ++ ' ' :: rest) = some rest :=
    List.isPrefixOf?_eq_some_iff_append_eq.2 rfl
  rw [line]
  simp only [echoed, word, same, left]

theorem echoed_write (powerShell : shell.isPowerShell = true) (left : trim text = first :: more) :
    echoed shell (trim ("Write-Output".toList ++ ' ' :: text)) = unquoteAny (first :: more) := by
  obtain ⟨rest, line, same⟩ := exists_printLine "Write-Output" (by decide) (by decide)
    (left ▸ List.cons_ne_nil first more)
  have other : "echo ".toList.isPrefixOf? ("Write-Output".toList ++ ' ' :: rest) = none := rfl
  have word : "Write-Output ".toList.isPrefixOf? ("Write-Output".toList ++ ' ' :: rest) =
      some rest := List.isPrefixOf?_eq_some_iff_append_eq.2 rfl
  rw [line]
  simp only [echoed, other, word, powerShell, if_true, Option.bind_some, same, left]

theorem echoed_comment (shell : Shell) (rest : List Char) : echoed shell ('#' :: rest) = none := by
  cases shell <;> rfl

/-- The word that only two shells know prints nothing in the others. -/
theorem echoed_foreign (foreign : shell.isPowerShell = false) (rest : List Char) :
    echoed shell ('W' :: rest) = none := by
  have other : "echo ".toList.isPrefixOf? ('W' :: rest) = none := rfl
  simp only [echoed, other, foreign, Bool.false_eq_true, if_false]

/-! ## Lines that print a message -/

/-- The quotes that a shell removes. -/
inductive Removes : Shell → Char → Prop where
  | double {shell : Shell} (supported : shell.isSupported = true) : Removes shell '"'
  | single {shell : Shell} (known : shell = .bash ∨ shell.isPowerShell = true) : Removes shell '\''

def quoted (quote : Char) (message : String) : String :=
  .ofList (quote :: (message.toList ++ [quote]))

/-- The lines that print a message as it is. -/
inductive Prints (message : String) : Shell → String → Prop where
  | echo {shell : Shell} {quote : Char} (removes : Removes shell quote) :
      Prints message shell ("echo " ++ quoted quote message)
  | write {shell : Shell} {quote : Char} (powerShell : shell.isPowerShell = true)
      (removes : Removes shell quote) :
      Prints message shell ("Write-Output " ++ quoted quote message)
  | echoBare : Prints message .cmd ("echo " ++ message)

/-- Lines of which nothing is reported, even if the message is a command: a comment, the message
without the quotes that the shell wants, and the word that the shell does not know. -/
inductive Passes (message : String) : Shell → String → Prop where
  | comment {shell : Shell} {text : String} (clean : '\n' ∉ text.toList) :
      Passes message shell ("#" ++ text)
  | echoBare {shell : Shell} (known : shell = .bash ∨ shell.isPowerShell = true) :
      Passes message shell ("echo " ++ message)
  | write {shell : Shell} {text : String} (foreign : shell.isPowerShell = false)
      (clean : '\n' ∉ text.toList) : Passes message shell ("Write-Output " ++ text)

section Message

variable {message line : String} {c : Command}

theorem ne_cmd_of_known (known : shell = .bash ∨ shell.isPowerShell = true) : shell ≠ .cmd := by
  rintro rfl
  rcases known with same | powerShell
  · cases same
  · cases powerShell

theorem Removes.isSupported (removes : Removes shell quote) : shell.isSupported = true := by
  cases removes with
  | double supported => exact supported
  | single known =>
      rcases known with rfl | powerShell
      · rfl
      · rw [Shell.isSupported, powerShell, Bool.or_true]

/-- Quotes are no blanks, so that they stay when a line is trimmed. -/
theorem Removes.trim_quoted (removes : Removes shell quote) (message : String) :
    trim (quoted quote message).toList = quote :: (message.toList ++ [quote]) := by
  have solid : isBlank quote = false := by cases removes <;> decide
  rw [quoted, String.toList_ofList]
  exact Text.trim_cons_append_cons solid solid message.toList []

theorem Removes.unquoteAny_eq (removes : Removes shell quote) (message : List Char) :
    unquoteAny (quote :: (message ++ [quote])) = some message := by
  cases removes with
  | double supported =>
      rw [unquoteAny, unquote_quoted]
      rfl
  | single known =>
      rw [unquoteAny, unquote_of_ne (by decide), unquote_quoted]
      rfl

theorem Prints.isSupported (prints : Prints message shell line) : shell.isSupported = true := by
  cases prints with
  | echo removes => exact removes.isSupported
  | write powerShell removes => exact removes.isSupported
  | echoBare => rfl

theorem Prints.clean (prints : Prints message shell line) (oneLine : '\n' ∉ message.toList) :
    '\n' ∉ line.toList := by
  cases prints with
  | echo removes => cases removes <;> simp [quoted, oneLine]
  | write powerShell removes => cases removes <;> simp [quoted, oneLine]
  | echoBare => simp [oneLine]

theorem Passes.clean (passes : Passes message shell line) (oneLine : '\n' ∉ message.toList) :
    '\n' ∉ line.toList := by
  cases passes with
  | comment clean => simp [clean]
  | echoBare known => simp [oneLine]
  | write foreign clean => simp [clean]

theorem toList_echo (text : String) :
    ("echo " ++ text).toList = "echo".toList ++ ' ' :: text.toList := by
  rw [String.toList_append]
  rfl

theorem toList_write (text : String) :
    ("Write-Output " ++ text).toList = "Write-Output".toList ++ ' ' :: text.toList := by
  rw [String.toList_append]
  rfl

/-- A line that prints a command prints it, but for blanks at its ends. -/
theorem Prints.echoed (prints : Prints message shell line)
    (parsed : Command.parse message = some c) :
    ∃ printed, Script.echoed shell (trim line.toList) = some printed ∧
      trim printed = trim message.toList := by
  cases prints with
  | echo removes =>
      refine ⟨message.toList, ?_, rfl⟩
      rw [toList_echo, echoed_echo shell (removes.trim_quoted message), removes.unquoteAny_eq]
      cases removes with
      | double supported => rw [unquote_quoted, Option.getD_some, ite_self]
      | single known => rw [if_neg (ne_cmd_of_known known)]
  | write powerShell removes =>
      refine ⟨message.toList, ?_, rfl⟩
      rw [toList_write, echoed_write powerShell (removes.trim_quoted message),
        removes.unquoteAny_eq]
  | echoBare =>
      obtain ⟨rest, colon⟩ := Command.trim_of_parse parsed
      refine ⟨trim message.toList, ?_, Text.trim_trim _⟩
      rw [toList_echo, echoed_echo .cmd colon, if_pos rfl, unquote_of_ne (by decide),
        Option.getD_none, colon]

/-- A line that passes prints nothing. -/
theorem Passes.echoed (passes : Passes message shell line)
    (parsed : Command.parse message = some c) : Script.echoed shell (trim line.toList) = none := by
  cases passes with
  | comment clean =>
      rw [String.toList_append]
      show Script.echoed shell (trim ('#' :: _)) = none
      rw [Text.trim_cons (by decide), echoed_comment]
  | echoBare known =>
      obtain ⟨rest, colon⟩ := Command.trim_of_parse parsed
      rw [toList_echo, echoed_echo shell colon, if_neg (ne_cmd_of_known known), unquoteAny_colon]
  | write foreign clean =>
      rw [String.toList_append]
      show Script.echoed shell (trim ('W' :: _)) = none
      rw [Text.trim_cons (by decide), echoed_foreign foreign]

end Message

/-! ## Scripts of one line -/

/-- Nothing is reported of blanks. -/
theorem reportsFrom_of_blank {cs : List Char} (blank : ∀ c ∈ cs, isBlank c = true) (n : Nat) :
    reportsFrom shell n (Text.splitAll '\n' cs) = [] := by
  have silent : ∀ piece : List Char, (∀ c ∈ piece, isBlank c = true) → ∀ n,
      checkNumbered shell (piece, n) = none := by
    intro piece blank n
    have nothing : trim piece = trim [] := Text.trim_eq_nil_iff.2 blank
    exact (checkLine_congr nothing shell n).trans ((mindsNoEnd shell).empty n)
  induction cs using Text.cut_induction '\n' generalizing n with
  | last piece clean =>
      rw [Text.splitAll_of_not_mem clean]
      simp [reportsFrom, silent piece blank]
  | cut piece rest clean ih =>
      have first := silent piece (fun c member => blank c (List.mem_append_left _ member)) n
      have others := ih (fun c member => blank c (by simp [member])) (n + 1)
      rw [Text.splitAll_append_cons clean, reportsFrom, List.zipIdx_cons, List.filterMap_cons,
        first]
      exact others

theorem reportsFrom_singleton (shell : Shell) (n : Nat) (line : List Char) :
    reportsFrom shell n [line] = (checkLine shell n line).toList := by
  simp only [reportsFrom, List.zipIdx_cons, List.zipIdx_nil, List.filterMap_cons,
    List.filterMap_nil, checkNumbered]
  cases checkLine shell n line <;> rfl

/-- Of a script of one line just that line is reported, if anything, whatever blanks and line ends
stand behind it. -/
theorem deprecatedCommands_of_line (supported : shell.isSupported = true) (clean : '\n' ∉ line)
    (blank : ∀ c ∈ trail, isBlank c = true) :
    deprecatedCommands (.ofList (line ++ trail)) shell = (checkLine shell 1 line).toList := by
  have one : ∀ {after : List Char}, '\n' ∉ after → (∀ c ∈ after, isBlank c = true) →
      reportsFrom shell 1 (Text.splitAll '\n' (line ++ after)) =
        (checkLine shell 1 line).toList := by
    intro after clean' blank
    rw [Text.splitAll_of_not_mem (by simp [clean, clean']), reportsFrom_singleton,
      checkLine_congr (Text.trim_append_blanks blank line)]
  rw [deprecatedCommands_eq _ supported, String.toList_ofList]
  rcases Text.not_mem_or_cut '\n' trail with clean' | ⟨before, after, clean', rfl⟩
  · exact one clean' blank
  · have first := one clean' fun c member => blank c (List.mem_append_left _ member)
    have blank' : ∀ c ∈ after, isBlank c = true := fun c member => blank c (by simp [member])
    rw [← List.append_assoc, Text.splitAll_append, reportsFrom_append, first,
      reportsFrom_of_blank blank', List.append_nil]

/-- A line that prints a deprecated command is reported for it. -/
theorem checkLine_of_echoed {printed : List Char} {c : Command} {successor : Command.Successor}
    (prints : echoed shell (trim line) = some printed)
    (parsed : Command.parse (.ofList printed) = some c) (found : c.successor? = some successor)
    (n : Nat) : checkLine shell n line = some ⟨n, .ofList (trim line), c, successor.notice⟩ := by
  refine checkLine_eq_some_iff.2 ⟨rfl, rfl, fun first => ?_, ⟨printed, prints, parsed⟩,
    Command.exists_successor?_iff.1 ⟨successor, found, rfl⟩⟩
  obtain ⟨rest, comment⟩ := List.head?_eq_some_iff.1 first
  rw [comment, echoed_comment] at prints
  cases prints

/-- Of a line that prints nothing nothing is reported. -/
theorem checkLine_of_silent (silent : echoed shell (trim line) = none) (n : Nat) :
    checkLine shell n line = none := by
  cases checked : checkLine shell n line with
  | none => rfl
  | some d =>
      obtain ⟨printed, prints, -⟩ := (checkLine_eq_some_iff.1 checked).2.printed
      rw [silent] at prints
      cases prints

/-- Of a comment nothing is reported, wherever in a script it stands. -/
theorem line_ne_of_comment {script : String} {n : Nat}
    (here : (Text.lines script.toList)[n]? = some line) (comment : (trim line).head? = some '#')
    {d : DeprecatedCommand} (member : d ∈ deprecatedCommands script shell) : d.line ≠ n + 1 := by
  intro same
  obtain ⟨-, -, line', here', reports⟩ := mem_deprecatedCommands_iff.1 member
  rw [same, Nat.add_sub_cancel, here] at here'
  obtain rfl := Option.some.inj here'
  exact reports.noComment comment

/-- Blanks that are no line ends. -/
def IsIndent (s : String) : Prop := ∀ ch ∈ s.toList, isBlank ch = true ∧ ch ≠ '\n'

/-- Blanks of any kind, line ends among them. -/
def IsTrail (s : String) : Prop := ∀ ch ∈ s.toList, isBlank ch = true

/-- A script of one line is the line between blanks. -/
theorem deprecatedCommands_of_indented {indent line trail : String}
    (supported : shell.isSupported = true) (isIndent : IsIndent indent)
    (clean : '\n' ∉ line.toList) (isTrail : IsTrail trail) :
    deprecatedCommands (indent ++ line ++ trail) shell =
      (checkLine shell 1 line.toList).toList := by
  have written : indent ++ line ++ trail =
      .ofList ((indent.toList ++ line.toList) ++ trail.toList) := by
    rw [← String.toList_append, ← String.toList_append, String.ofList_toList]
  have clean' : '\n' ∉ indent.toList ++ line.toList := by
    rw [List.mem_append, not_or]
    exact ⟨fun member => (isIndent _ member).2 rfl, clean⟩
  rw [written, deprecatedCommands_of_line supported clean' isTrail,
    checkLine_congr (Text.trim_blanks_append (fun ch member => (isIndent ch member).1) _)]

/-- **Neither the quotes nor the shell change which command is found.**  Let a message without line
ends be a deprecated command.  If it stands in a line that prints it as it is, at any indentation
and with any blanks behind, just this command is reported, on line one.  Nothing is reported if
the quotes are missing that the shell wants, or if the shell does not know the word; and nothing
of a comment in any script, or of any script in a shell that is not read. -/
theorem command_found_in_all_quotes {message : String} {c : Command}
    {successor : Command.Successor} (oneLine : '\n' ∉ message.toList)
    (parsed : Command.parse message = some c) (deprecated : c.successor? = some successor) :
    (∀ shell line, Prints message shell line → ∀ indent trail, IsIndent indent → IsTrail trail →
      deprecatedCommands (indent ++ line ++ trail) shell =
        [⟨1, trimmed line, c, successor.notice⟩]) ∧
    (∀ shell line, Passes message shell line → ∀ indent trail, IsIndent indent → IsTrail trail →
      deprecatedCommands (indent ++ line ++ trail) shell = []) ∧
    (∀ (shell : Shell) (script : String) (n : Nat) (line : List Char),
      (Text.lines script.toList)[n]? = some line → (trim line).head? = some '#' →
        ∀ d ∈ deprecatedCommands script shell, d.line ≠ n + 1) ∧
    ∀ script, deprecatedCommands script .python = [] ∧ deprecatedCommands script .custom = [] := by
  refine ⟨fun shell line prints indent trail isIndent isTrail => ?_,
    fun shell line passes indent trail isIndent isTrail => ?_,
    fun shell script n line here comment d member => line_ne_of_comment here comment member,
    fun script => ⟨rfl, rfl⟩⟩
  · obtain ⟨printed, said, same⟩ := prints.echoed parsed
    have read : Command.parse (.ofList printed) = some c := by
      rw [← parsed]
      refine Command.parse_congr ?_
      rw [String.toList_ofList, same]
    rw [deprecatedCommands_of_indented prints.isSupported isIndent (prints.clean oneLine) isTrail,
      checkLine_of_echoed said read deprecated]
    rfl
  · by_cases supported : shell.isSupported = true
    · rw [deprecatedCommands_of_indented supported isIndent (passes.clean oneLine) isTrail,
        checkLine_of_silent (passes.echoed parsed)]
      rfl
    · exact deprecatedCommands_of_unsupported _ supported

/-- A message with blanks, quotes of both kinds, a number sign and a third marker. -/
def crowdedMessage : String := " ::Set-Output a=\"b\"::'# ::\" "

theorem command_found_in_all_quotes_crowded :
    let c : Command := ⟨"set-output", [("a", "\"b\"")], some "'# ::\""⟩
    ('\n' ∉ crowdedMessage.toList ∧ Command.parse crowdedMessage = some c ∧
        c.successor? = some ⟨"GITHUB_OUTPUT", Command.outputNotice⟩) ∧
      deprecatedCommands ("\t " ++ ("echo " ++ quoted '\'' crowdedMessage) ++ " \r\n\n") .bash =
        [⟨1, "echo ' ::Set-Output a=\"b\"::'# ::\" '", c, Command.outputNotice⟩] ∧
      deprecatedCommands ("\t " ++ ("echo " ++ crowdedMessage) ++ " \r\n\n") .bash = [] := by
  intro c
  have oneLine : '\n' ∉ crowdedMessage.toList := by decide
  have parsed : Command.parse crowdedMessage = some c := by decide
  have deprecated : c.successor? = some ⟨"GITHUB_OUTPUT", Command.outputNotice⟩ := by decide
  have isIndent : IsIndent "\t " := by simp [IsIndent, isBlank]
  have isTrail : IsTrail " \r\n\n" := by simp [IsTrail, isBlank]
  obtain ⟨reported, silent, -⟩ := command_found_in_all_quotes oneLine parsed deprecated
  have text : trimmed ("echo " ++ quoted '\'' crowdedMessage) =
      "echo ' ::Set-Output a=\"b\"::'# ::\" '" := by decide
  refine ⟨⟨oneLine, parsed, deprecated⟩, ?_, ?_⟩
  · rw [← text]
    exact reported .bash _ (.echo (.single (Or.inl rfl))) "\t " " \r\n\n" isIndent isTrail
  · exact silent .bash _ (.echoBare (Or.inl rfl)) "\t " " \r\n\n" isIndent isTrail

end Script

end WorkflowLint
