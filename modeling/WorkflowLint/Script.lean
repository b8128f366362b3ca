/-
# WorkflowLint.Script -- deprecated commands in scripts

`deprecatedCommands` reads a script line by line and reports every line that
plainly echoes a deprecated command.  Which lines do that depends on the shell;
nothing a shell would expand is expanded.
-/
import WorkflowLint.Command

namespace WorkflowLint

set_option autoImplicit false

inductive Shell where
  | cmd
  | bash
  | powerShell
  | powerShellCore
  | python
  | custom
  deriving DecidableEq, Repr, Inhabited

namespace Shell

def name : Shell → String
  | .cmd => "cmd"
  | .bash => "bash"
  | .powerShell => "power_shell"
  | .powerShellCore => "power_shell_core"
  | .python => "python"
  | .custom => "custom"

/-- The shell that the `shell` text of a step means. -/
def ofText (text : String) : Shell :=
  match text with
  | "cmd" => .cmd
  | "sh" => .bash
  | "bash" => .bash
  | "powershell" => .powerShell
  | "pwsh" => .powerShellCore
  | "python" => .python
  | _ => .custom

/-- The default shell of a machine with this label. -/
def ofRunner? (label : String) : Option Shell :=
  let starts (head : String) := head.toList.isPrefixOf label.toList
  if starts "windows-" then some .powerShellCore
  else if starts "ubuntu-" || starts "macos-" then some .bash
  else none

/-- The shell of a step: the one it names, else the default of its machine, else bash. -/
def guess (shell runsOn : Option String) : Shell :=
  match shell with
  | some text => ofText text
  | none => (runsOn.bind ofRunner?).getD .bash

/-- Whether the shell is one of the two that know `Write-Output`. -/
def isPowerShell : Shell → Bool
  | .powerShell => true
  | .powerShellCore => true
  | _ => false

/-- Whether the echo lines of the shell can be read. -/
def isSupported (s : Shell) : Bool := s == .cmd || s == .bash || s.isPowerShell

end Shell

/-- A deprecated command that a line of a script echoes. -/
structure DeprecatedCommand where
  /-- The number of the line, from one. -/
  line : Nat
  /-- The line without the blanks at its ends. -/
  text : String
  command : Command
  /-- The page that announces the end of the command. -/
  notice : String
  deriving DecidableEq, Repr, Inhabited

def DeprecatedCommand.message (d : DeprecatedCommand) : String :=
  match d.command.successor? with
  | some successor =>
    "the '" ++ d.command.name ++ "' command is deprecated, write to $" ++ successor.file ++
      " instead (" ++ d.notice ++ ")"
  | none => "the '" ++ d.command.name ++ "' command is deprecated (" ++ d.notice ++ ")"

namespace Script

def unquote (quote : Char) (text : List Char) : Option (List Char) :=
  match text with
  | c :: rest =>
    if c = quote then
      match rest.reverse with
      | d :: inner => if d = quote then some inner.reverse else none
      | [] => none
    else none
  | [] => none

/-- The text between two double or two single quotes. -/
def unquoteAny (text : List Char) : Option (List Char) :=
  unquote '"' text <|> unquote '\'' text

/-- The text that a trimmed line prints, if it is a plain print line of the shell. -/
def echoed (shell : Shell) (line : List Char) : Option (List Char) :=
  match "echo ".toList.isPrefixOf? line with
  | some rest =>
    let text := Text.trim rest
    if shell = .cmd then some ((unquote '"' text).getD text) else unquoteAny text
  | none =>
    if shell.isPowerShell then
      ("Write-Output ".toList.isPrefixOf? line).bind fun rest => unquoteAny (Text.trim rest)
    else none

def checkLine (shell : Shell) (number : Nat) (line : List Char) : Option DeprecatedCommand := do
  let text := Text.trim line
  guard (!text.isEmpty && text.head? != some '#')
  let printed ← echoed shell text
  let command ← Command.parse (.ofList printed)
  let successor ← command.successor?
  return { line := number, text := .ofList text, command, notice := successor.notice }

/-- The deprecated commands that a script echoes, in the order of its lines. -/
def deprecatedCommands (script : String) (shell : Shell) : List DeprecatedCommand :=
  if shell.isSupported then
    ((Text.lines script.toList).zipIdx 1).filterMap fun (line, number) =>
      checkLine shell number line
  else []

end Script

end WorkflowLint
