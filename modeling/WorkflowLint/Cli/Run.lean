/-
# WorkflowLint.Cli.Run -- the commands

`Cli.run` carries out a command line in an `Environment` and returns what it prints
and how it ends.  Nothing is read but the file tree of the environment, and nothing
is downloaded but through its `download`.
-/
import WorkflowLint.Check.Steps
import WorkflowLint.Cli.Args
import WorkflowLint.Cli.Output
import WorkflowLint.Http.Client
import WorkflowLint.Problem
import WorkflowLint.Report

namespace WorkflowLint.Cli

set_option autoImplicit false

open Fetch (Outcome State)

/-- What a run can see of the world. -/
structure Environment where
  files : FileTree
  /-- The absolute path of the current directory. -/
  cwd : Path
  /-- The root that the environment names. -/
  root : Option String
  download : String → Outcome

structure Outcome where
  exit : Nat
  stdout : String
  /-- The message of the error that ended the run. -/
  error : Option String
  deriving DecidableEq, Repr

/-- Why a command ends early or ends badly. -/
inductive Failure where
  | config (cause : ConfigError)
  /-- The name under which downloads are made cannot be sent. -/
  | client
  | check (file : String) (cause : Check.FileProblem)
  | errorsFound (count : Nat)
  | configErrors
  | noManifest (uses : String) (status : Status)
  deriving DecidableEq, Repr

def Failure.message : Failure → String
  | .config e => "failed to load config: " ++ e.problem.message
  | .client => "failed to set up the HTTP client: builder error: failed to parse header value"
  | .check file e => "failed to check " ++ file ++ ": " ++ e.problem.message
  | .errorsFound count => toString count ++ " error(s) found"
  | .configErrors => "config validation found errors"
  | .noManifest uses status =>
    "no manifest available for '" ++ uses ++ "' (status: " ++ status.name ++ ")"

/-- What a command has printed, and why it ends badly if it does. -/
structure Printed where
  stdout : String
  failure : Option Failure
  deriving DecidableEq, Repr

def printed (stdout : String) : Printed := ⟨stdout, none⟩

def jsonLines (v : Json) : String := v.pretty ++ "\n"

/-! ## What commands share -/

/-- The nearest directory from `start` upwards that contains a directory `marker`. -/
def findUpward (files : FileTree) (start : Path) (marker : String) : Option Path :=
  start.ancestors.find? fun directory => files.isDirectory (directory.join marker)

/-- The root of the repository: the one that is asked for, else the nearest directory
with a marker, else the current directory. -/
def resolveRoot (env : Environment) (asked : Option String) : Path :=
  match asked with
  | some root => ⟨root⟩
  | none =>
    (findUpward env.files env.cwd markerDirectory <|> findUpward env.files env.cwd ".git").getD
      env.cwd

def loadConfig (env : Environment) (root : Path) : Except Failure Config :=
  (Config.load env.files root).mapError .config

/-- A cache as the settings ask for.  With no time to wait, no download ends before
its outcome is needed. -/
def openCache (env : Environment) (config : Config) : Except Failure (Sources × State) :=
  match Http.Client.ofConfig config.fetch with
  | none => .error .client
  | some _ =>
    let answers := fun url =>
      if config.fetch.waitTimeoutMs = 0 then none else some (env.download url)
    .ok (⟨.ofAddress config.github.rawBase, env.files⟩, .initial answers)

/-- The document that references on the command line are seen from. -/
def rootAskerPath (root : Path) : Path := root.join manifestFile

def rootAsker (root : Path) : Asker := .of (rootAskerPath root)

/-! ## Commands -/

def referenceFields : Reference → List (String × Option String)
  | .hosted a =>
    [("owner", some a.owner), ("repo", a.repo), ("path", a.path), ("ref", a.revision)]
  | .image i => [("image", some i.name), ("tag", i.tag)]
  | .localPath path => [("path", some path)]

/-- Shows what a `uses` text refers to, without downloading anything. -/
def parse (env : Environment) (root : Path) (json : Bool) (uses : String) :
    Except Failure Printed := do
  let config ← loadConfig env root
  let r := Reference.parse uses
  let page := r.pageUrl config.github.webBase
  let manifest := (ManifestHost.ofAddress config.github.rawBase).url r
  let problem := (Check.uses uses fun _ => .unknown).map UsesFinding.message
  if json then
    return printed (jsonLines (.object
      ([("uses", .string uses), ("descriptor", r.toJson), ("display", .string r.display),
        ("valid", .bool r.isValid)] ++ Json.field? "canonical_url" (page.map .string) ++
        Json.field? "manifest_url" (manifest.map .string) ++
        Json.field? "problem" (problem.map .string))))
  else
    return printed (fieldList
      ([("kind", some r.kind)] ++ referenceFields r ++
        [("valid", some (if r.isValid then "true" else "false")), ("url", page),
          ("manifest", manifest)] ++
        match problem with
        | some message => [("problem", some message)]
        | none => []))

def statuses (sources : Sources) (asker : Asker) : List String → State → List (String × Status)
  | [], _ => []
  | uses :: rest, s =>
    let (status, s) := Cache.status sources asker (.parse uses) s
    (uses, status) :: statuses sources asker rest s

def status (env : Environment) (root : Path) (json : Bool) (uses : List String) :
    Except Failure Printed := do
  let config ← loadConfig env root
  let (sources, s) ← openCache env config
  let rows := statuses sources (rootAsker root) uses s
  if json then
    return printed (jsonLines (.array (rows.map fun (uses, status) =>
      .object [("uses", .string uses), ("status", .string status.name)])))
  else
    return printed (table ["USES", "STATUS"] (rows.map fun (uses, status) => [uses, status.name]))

def inputRow (i : Input) : List String :=
  [i.name, if i.required then "yes" else "no", i.defaultValue.getD "", i.deprecation.getD ""]

def inputs (env : Environment) (root : Path) (json : Bool) (uses : String) :
    Except Failure Printed := do
  let config ← loadConfig env root
  let (sources, s) ← openCache env config
  let asker := rootAsker root
  let r := Reference.parse uses
  match Cache.manifest sources asker r s with
  | (none, s) => throw (.noManifest uses (Cache.status sources asker r s).1)
  | (some m, _) =>
    if json then return printed (jsonLines m.toJson)
    else if m.inputs.isEmpty then return printed ("'" ++ uses ++ "' declares no inputs.\n")
    else
      return printed
        (table ["NAME", "REQUIRED", "DEFAULT", "DEPRECATED"] (m.inputs.map inputRow))

/-- Checks files one after the other; the first one that cannot be read ends it. -/
def checkFiles (sources : Sources) (root : Path) :
    List String → State → Except Failure (List (String × List Diagnostic))
  | [], _ => .ok []
  | f :: fs, s =>
    match Check.file sources (root.join f) s with
    | (.error e, _) => .error (.check f e)
    | (.ok found, s) => do
      return (f, found) :: (← checkFiles sources root fs s)

def diagnosticLine (f : String) (d : Diagnostic) : String :=
  let line := (d.line.map fun n => " line " ++ toString n).getD ""
  let uses := (d.uses.map fun u => " [" ++ u ++ "]").getD ""
  f ++ ":" ++ d.location ++ line ++ ": " ++ d.severity.name ++ ": " ++ d.message ++ uses ++ "\n"

def reportText (reports : List (String × List Diagnostic)) : String :=
  let lines := reports.flatMap fun (f, found) => found.map (diagnosticLine f)
  if lines.isEmpty then "No problems found.\n" else .join lines

def check (env : Environment) (root : Path) (json : Bool) (files : List String) :
    Except Failure Printed := do
  let config ← loadConfig env root
  let (sources, s) ← openCache env config
  let reports ← checkFiles sources root files s
  let errors := (reports.flatMap (·.2)).countP (·.severity == .error)
  let stdout :=
    if json then
      jsonLines (.array (reports.map fun (f, found) =>
        .object [("file", .string f), ("diagnostics", .array (found.map Diagnostic.toJson))]))
    else reportText reports
  return ⟨stdout, if errors = 0 then none else some (.errorsFound errors)⟩

def showConfig (env : Environment) (root : Path) (json : Bool) : Except Failure Printed := do
  let config ← loadConfig env root
  if json then return printed (jsonLines config.toJson)
  else
    let path := Config.path root
    let source := if env.files.exists? path then path.text else "defaults"
    return printed (fieldList
      [("source", some source),
        ("fetch.wait_timeout_ms", some (toString config.fetch.waitTimeoutMs)),
        ("fetch.poll_interval_ms", some (toString config.fetch.pollIntervalMs)),
        ("fetch.request_timeout_secs", some (toString config.fetch.requestTimeoutSecs)),
        ("fetch.user_agent", some config.fetch.userAgent),
        ("github.raw_base", some config.github.rawBase),
        ("github.web_base", some config.github.webBase)])

def validateConfig (env : Environment) (root : Path) (json : Bool) : Except Failure Printed := do
  let config ← loadConfig env root
  let remarks := config.validate
  let stdout :=
    if json then jsonLines (.object [("warnings", .array (remarks.map ConfigRemark.toJson))])
    else if remarks.isEmpty then "Config is valid. No warnings.\n"
    else .join (remarks.map fun r => "[" ++ r.level ++ "] " ++ r.message ++ "\n")
  return ⟨stdout, if remarks.any (·.isError) then some .configErrors else none⟩

def perform (env : Environment) (request : Request) : Except Failure Printed :=
  let root := resolveRoot env request.root
  let json := request.json
  match request.command with
  | .parse uses => parse env root json uses
  | .status uses => status env root json uses
  | .inputs uses => inputs env root json uses
  | .check files => check env root json files
  | .showConfig => showConfig env root json
  | .validateConfig => validateConfig env root json

/-- How a run ends that has printed this. -/
def outcomeOf : Except Failure Printed → Outcome
  | .ok p => ⟨if p.failure.isSome then 1 else 0, p.stdout, p.failure.map Failure.message⟩
  | .error f => ⟨1, "", some f.message⟩

def version : String := "0.1.0"

def run (env : Environment) (args : List String) : Outcome :=
  match parseArgs env.root args with
  | .request request => outcomeOf (perform env request)
  | .version name => ⟨0, name ++ " " ++ version ++ "\n", none⟩
  | .help => ⟨0, "", none⟩
  | .usageError => ⟨2, "", none⟩

end WorkflowLint.Cli
