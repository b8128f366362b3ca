/-
# WorkflowLint.Report -- results as JSON

The fields of each result stand in a fixed order, and a result of several kinds
starts with its kind.
-/
import WorkflowLint.Config
import WorkflowLint.Finding
import WorkflowLint.Json
import WorkflowLint.Manifest
import WorkflowLint.Reference
import WorkflowLint.Workflow

namespace WorkflowLint

set_option autoImplicit false

open Json (field? ofText? ofNat)

def Reference.kind : Reference → String
  | .hosted _ => "standard"
  | .image _ => "docker"
  | .localPath _ => "local"

def Reference.toJson (r : Reference) : Json :=
  .object (("kind", .string r.kind) ::
    match r with
    | .hosted a =>
      [("owner", .string a.owner), ("repo", ofText? a.repo), ("path", ofText? a.path),
        ("ref", ofText? a.revision)]
    | .image i => [("image", .string i.name), ("tag", ofText? i.tag)]
    | .localPath path => [("path", .string path)])

def Input.toJson (i : Input) : Json :=
  .object
    ([("name", .string i.name)] ++ field? "description" (i.description.map .string) ++
      field? "default" (i.defaultValue.map .string) ++ [("required", .bool i.required)] ++
      field? "deprecation_message" (i.deprecation.map .string))

def Manifest.toJson (m : Manifest) : Json :=
  .object
    (field? "name" (m.name.map .string) ++ field? "description" (m.description.map .string) ++
      [("inputs", .array (m.inputs.map Input.toJson))])

def Command.toJson (c : Command) : Json :=
  .object
    [("command", .string c.name),
      ("properties", .object (c.properties.map fun (k, v) => (k, .string v))),
      ("data", ofText? c.data)]

def DeprecatedCommand.toJson (d : DeprecatedCommand) : Json :=
  .object
    [("kind", .string "deprecated_command"), ("line", ofNat d.line), ("text", .string d.text),
      ("command", d.command.toJson), ("url", .string d.notice)]

def UsesFinding.toJson (f : UsesFinding) : Json :=
  .object <|
    match f with
    | .untrimmed => [("kind", .string "untrimmed")]
    | .invalid => [("kind", .string "invalid")]
    | .invalidRevision => [("kind", .string "invalid_ref")]
    | .invalidTag => [("kind", .string "invalid_docker_tag")]
    | .missingRevision => [("kind", .string "missing_ref")]
    | .notFetched action => [("kind", .string "not_fetched"), ("action", .string action)]
    | .actionNotFound action => [("kind", .string "action_not_found"), ("action", .string action)]
    | .revisionNotFound action revision =>
      [("kind", .string "revision_not_found"), ("action", .string action),
        ("git_ref", .string revision)]

def InputFinding.toJson (f : InputFinding) : Json :=
  .object <|
    match f with
    | .unknown input => [("kind", .string "unknown_input"), ("input", .string input)]
    | .deprecated input message =>
      [("kind", .string "deprecated_input"), ("input", .string input), ("message", .string message)]
    | .missing input => [("kind", .string "missing_required_input"), ("input", .string input)]

def Finding.toJson : Finding → Json
  | .uses f => f.toJson
  | .input f => f.toJson
  | .command d => d.toJson

def Diagnostic.toJson (d : Diagnostic) : Json :=
  .object
    ([("location", .string d.location)] ++ field? "uses" (d.uses.map .string) ++
      field? "line" (d.line.map ofNat) ++
      [("severity", .string d.severity.name), ("message", .string d.message),
        ("finding", d.finding.toJson)])

def UsesEntry.toJson (e : UsesEntry) : Json :=
  .object
    ([("job", .string e.job), ("site", .string (if e.step.isSome then "step" else "job"))] ++
      field? "step" (e.step.map ofNat) ++ field? "name" (e.name.map .string) ++
      [("uses", .string e.uses), ("with", .ofTexts e.withKeys)])

def RunEntry.toJson (e : RunEntry) : Json :=
  .object
    ([("job", .string e.job), ("step", ofNat e.step)] ++ field? "name" (e.name.map .string) ++
      [("run", .string e.script)] ++ field? "shell" (e.shell.map .string) ++
      field? "runs_on" (e.runsOn.map .string))

def Config.toJson (c : Config) : Json :=
  .object
    [("fetch", .object
      [("wait_timeout_ms", ofNat c.fetch.waitTimeoutMs),
        ("poll_interval_ms", ofNat c.fetch.pollIntervalMs),
        ("request_timeout_secs", ofNat c.fetch.requestTimeoutSecs),
        ("user_agent", .string c.fetch.userAgent)]),
      ("github", .object
        [("raw_base", .string c.github.rawBase), ("web_base", .string c.github.webBase)])]

def ConfigRemark.level (r : ConfigRemark) : String := if r.isError then "error" else "warning"

def ConfigRemark.toJson (r : ConfigRemark) : Json :=
  .object [("level", .string r.level), ("message", .string r.message)]

end WorkflowLint
