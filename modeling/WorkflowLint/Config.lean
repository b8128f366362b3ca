/-
# WorkflowLint.Config -- the settings of a repository

The settings stand in one YAML file of the repository.  Every setting has a
default; settings that are not known are passed over.  `Config.validate` reports
values that can be read but make no sense.
-/
import WorkflowLint.FileTree
import WorkflowLint.Reference.Address
import WorkflowLint.Yaml.Field

namespace WorkflowLint

set_option autoImplicit false

/-- How downloads are made and waited for. -/
structure FetchConfig where
  waitTimeoutMs : Nat
  pollIntervalMs : Nat
  requestTimeoutSecs : Nat
  userAgent : String
  deriving DecidableEq, Repr, Inhabited

structure HostConfig where
  rawBase : String
  webBase : String
  deriving DecidableEq, Repr, Inhabited

structure Config where
  fetch : FetchConfig
  github : HostConfig
  deriving DecidableEq, Repr, Inhabited

inductive ConfigError where
  | file (cause : FileError)
  /-- The file is no YAML document that gives the settings. -/
  | invalid
  deriving DecidableEq, Repr

/-- A remark on settings: whether they are of no use, and the wording. -/
structure ConfigRemark where
  isError : Bool
  message : String
  deriving DecidableEq, Repr

def FetchConfig.standard : FetchConfig := ⟨10000, 50, 30, "actionref/0.1.0"⟩

def HostConfig.standard : HostConfig := ⟨ManifestHost.defaultBase, "https://github.com"⟩

namespace Config

def standard : Config := ⟨.standard, .standard⟩

/-- Where the settings stand in a repository. -/
def fileName : String := ".github/actionref.yaml"

def path (root : Path) : Path := root.join fileName

open Yaml (Document Node setting?)

def fetchOf? (d : Document) (n : Node Nat) : Option FetchConfig := do
  let fields ← d.fields? n
  let standard := FetchConfig.standard
  return {
    waitTimeoutMs := ← setting? fields "wait_timeout_ms" standard.waitTimeoutMs d.numberOf?
    pollIntervalMs := ← setting? fields "poll_interval_ms" standard.pollIntervalMs d.numberOf?
    requestTimeoutSecs :=
      ← setting? fields "request_timeout_secs" standard.requestTimeoutSecs d.numberOf?
    userAgent := ← setting? fields "user_agent" standard.userAgent d.textOf? }

def hostOf? (d : Document) (n : Node Nat) : Option HostConfig := do
  let fields ← d.fields? n
  let standard := HostConfig.standard
  return {
    rawBase := ← setting? fields "raw_base" standard.rawBase d.textOf?
    webBase := ← setting? fields "web_base" standard.webBase d.textOf? }

def ofDocument? (d : Document) : Option Config := do
  let fields ← d.rootFields?
  return {
    fetch := ← setting? fields "fetch" .standard (fetchOf? d)
    github := ← setting? fields "github" .standard (hostOf? d) }

/-- Reads settings; a blank text stands for the defaults. -/
def parse (text : String) : Except ConfigError Config :=
  if (Text.trim text.toList).isEmpty then .ok standard
  else
    match Yaml.readOne text with
    | .error _ => .error .invalid
    | .ok d =>
      match ofDocument? d with
      | some config => .ok config
      | none => .error .invalid

/-- The settings of the repository at `root`; a missing file stands for the defaults. -/
def load (files : FileTree) (root : Path) : Except ConfigError Config :=
  if files.exists? (path root) then
    match files.readText (path root) with
    | .ok text => parse text
    | .error e => .error (.file e)
  else .ok standard

def isWebAddress (s : String) : Bool :=
  "http://".toList.isPrefixOf s.toList || "https://".toList.isPrefixOf s.toList

def hostRemark (key value : String) : List ConfigRemark :=
  if isWebAddress value then []
  else [⟨true, key ++ " '" ++ value ++ "' is not an http(s) URL"⟩]

def pollRemark (f : FetchConfig) : List ConfigRemark :=
  if f.pollIntervalMs = 0 then [⟨true, "fetch.poll_interval_ms must be greater than 0"⟩]
  else if f.waitTimeoutMs < f.pollIntervalMs then
    [⟨false, "fetch.poll_interval_ms (" ++ toString f.pollIntervalMs ++
      ") exceeds fetch.wait_timeout_ms (" ++ toString f.waitTimeoutMs ++ ")"⟩]
  else []

def timeoutRemark (f : FetchConfig) : List ConfigRemark :=
  if f.requestTimeoutSecs = 0 then
    [⟨true, "fetch.request_timeout_secs must be greater than 0"⟩]
  else []

/-- Remarks on values that make no sense. -/
def validate (c : Config) : List ConfigRemark :=
  pollRemark c.fetch ++ timeoutRemark c.fetch ++
    hostRemark "github.raw_base" c.github.rawBase ++ hostRemark "github.web_base" c.github.webBase

end Config

end WorkflowLint
