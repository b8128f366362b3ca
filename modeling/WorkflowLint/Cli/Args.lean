/-
# WorkflowLint.Cli.Args -- reading the command line

The command line names a command, and for `config` a command below it.  The options
`--root`, `--json` and `--verbose` may stand at every level, each once per level;
the root given at the deepest level counts.  Behind `--` nothing is an option.
-/

namespace WorkflowLint.Cli

set_option autoImplicit false

inductive Command where
  | parse (uses : String)
  | status (uses : List String)
  | inputs (uses : String)
  | check (files : List String)
  | showConfig
  | validateConfig
  deriving DecidableEq, Repr

/-- A command and the options that hold for every command. -/
structure Request where
  root : Option String
  json : Bool
  command : Command
  deriving DecidableEq, Repr

inductive Parsed where
  | request (request : Request)
  /-- The version, under the name of a command. -/
  | version (name : String)
  | help
  /-- The command line cannot be read. -/
  | usageError
  deriving DecidableEq, Repr

structure Options where
  root : Option String
  json : Bool
  verbose : Bool
  deriving DecidableEq, Repr

def Options.none : Options := ⟨.none, false, false⟩

/-- What stops the reading of a command line. -/
inductive Stop where
  | version
  | help
  | error
  deriving DecidableEq, Repr

namespace Options

/-- Gives a root; an empty one is no root. -/
def setRoot (o : Options) (root : String) : Except Stop Options :=
  if o.root.isSome || root.isEmpty then .error .error else .ok { o with root := some root }

def setJson (o : Options) : Except Stop Options :=
  if o.json then .error .error else .ok { o with json := true }

def setVerbose (o : Options) : Except Stop Options :=
  if o.verbose then .error .error else .ok { o with verbose := true }

/-- Reads the letters behind one dash. -/
def setLetters (o : Options) : List Char → Except Stop Options
  | [] => .ok o
  | 'j' :: cs => do (← o.setJson).setLetters cs
  | 'v' :: cs => do (← o.setVerbose).setLetters cs
  | 'h' :: _ => .error .help
  | 'V' :: _ => .error .version
  | _ => .error .error

/-- Reads an option without value behind two dashes. -/
def setWord (o : Options) (word : String) : Except Stop Options :=
  match word with
  | "json" => o.setJson
  | "verbose" => o.setVerbose
  | "help" => .error .help
  | "version" => .error .version
  | _ => .error .error

end Options

def isOption (arg : String) : Bool :=
  match arg.toList with
  | '-' :: _ :: _ => true
  | _ => false

/-- Reads one option and what belongs to it; `none` if the argument is a value. -/
def readOption (o : Options) (arg : String) (rest : List String) :
    Except Stop (Option (Options × List String)) := do
  match arg.toList with
  | '-' :: '-' :: word =>
    if word = "root".toList then
      match rest with
      | value :: rest =>
        if isOption value then throw .error else return some (← o.setRoot value, rest)
      | [] => throw .error
    else
      match ("root=".toList).isPrefixOf? word with
      | some value => return some (← o.setRoot (.ofList value), rest)
      | none => return some (← o.setWord (.ofList word), rest)
  | '-' :: c :: cs => return some (← o.setLetters (c :: cs), rest)
  | _ => return none

/-- Reads the options of a level up to the word that names a command, or to the end.
A value that names no command is an error, and so is a further value. -/
def readUpTo (commands : List String) (o : Options) :
    Nat → List String → Except Stop (Options × String × List String)
  | 0, _ => .error .error
  | steps + 1, args =>
    match args with
    | [] => .error .error
    | arg :: rest => do
      if arg = "--" then throw .error
      match ← readOption o arg rest with
      | some (o, rest) => readUpTo commands o steps rest
      | none => if commands.contains arg then return (o, arg, rest) else throw .error

/-- Reads the options and the values of a command that has no commands below it. -/
def readValues (most : Option Nat) (o : Options) (values : List String) :
    Nat → List String → Except Stop (Options × List String)
  | 0, _ => .error .error
  | steps + 1, args =>
    match args with
    | [] => .ok (o, values)
    | arg :: rest => do
      if arg = "--" then
        let values := values ++ rest
        if most.any (· < values.length) then throw .error
        return (o, values)
      match ← readOption o arg rest with
      | some (o, rest) => readValues most o values steps rest
      | none =>
        if most.any (· < values.length + 1) then throw .error
        readValues most o (values ++ [arg]) steps rest

def commandNames : List String := ["parse", "status", "inputs", "check", "config", "help"]

def configNames : List String := ["show", "validate", "help"]

/-- A command of its values, if they are as many as it takes. -/
def commandOf (name : String) (values : List String) : Option Command :=
  match name, values with
  | "parse", [uses] => some (.parse uses)
  | "inputs", [uses] => some (.inputs uses)
  | "status", u :: us => some (.status (u :: us))
  | "check", f :: fs => if (f :: fs).any (·.isEmpty) then none else some (.check (f :: fs))
  | "show", [] => some .showConfig
  | "validate", [] => some .validateConfig
  | _, _ => none

def mostValues (name : String) : Option Nat :=
  match name with
  | "parse" => some 1
  | "inputs" => some 1
  | "show" => some 0
  | "validate" => some 0
  | _ => none

/-- The request of a command, given the options of all levels, outermost first.  The
root in the environment stands in for one that no level gives, and may not be empty
where a level relies on it. -/
def requestOf (levels : List Options) (environmentRoot : Option String) (command : Command) :
    Parsed :=
  if environmentRoot == some "" && levels.any (·.root.isNone) then .usageError
  else
    .request
      { root := (levels.filterMap (·.root)).getLast? <|> environmentRoot
        json := levels.any (·.json)
        command }

def stopped (name : String) : Stop → Parsed
  | .version => .version name
  | .help => .help
  | .error => .usageError

def programName : String := "actionref"

/-- What `help` with these commands behind it asks for. -/
def helpOn (commands : List String) : List String → Parsed
  | [] => .help
  | "config" :: rest => if commands.contains "config" then helpOn configNames rest else .usageError
  | [name] => if commands.contains name then .help else .usageError
  | _ => .usageError

/-- Reads a command without commands below it, behind its name. -/
def parseLeaf (levels : List Options) (environmentRoot : Option String) (fullName name : String)
    (args : List String) : Parsed :=
  match readValues (mostValues name) .none [] (args.length + 1) args with
  | .error stop => stopped fullName stop
  | .ok (o, values) =>
    match commandOf name values with
    | some command => requestOf (levels ++ [o]) environmentRoot command
    | none => .usageError

def parseConfig (levels : List Options) (environmentRoot : Option String) (args : List String) :
    Parsed :=
  let fullName := programName ++ "-config"
  match readUpTo configNames .none (args.length + 1) args with
  | .error stop => stopped fullName stop
  | .ok (_, "help", rest) => helpOn configNames rest
  | .ok (o, name, rest) =>
    parseLeaf (levels ++ [o]) environmentRoot (fullName ++ "-" ++ name) name rest

def parseArgs (environmentRoot : Option String) (args : List String) : Parsed :=
  match readUpTo commandNames .none (args.length + 1) args with
  | .error stop => stopped programName stop
  | .ok (_, "help", rest) => helpOn commandNames rest
  | .ok (o, "config", rest) => parseConfig [o] environmentRoot rest
  | .ok (o, name, rest) =>
    parseLeaf [o] environmentRoot (programName ++ "-" ++ name) name rest

end WorkflowLint.Cli
