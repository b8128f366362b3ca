/-
# WorkflowLint.Main -- the program

The program reads the paths that its run looks at, carries the run out in memory, and
prints what it returns.  It has no connection to a network, so that every download
fails.
-/
import WorkflowLint.Cli.Lookups

namespace WorkflowLint.Main

set_option autoImplicit false

/-- What is known of some paths. -/
abbrev Snapshot := List (Path × Except FileError FileEntry)

def treeOf (known : Snapshot) : FileTree where
  entry path := (known.lookup path).getD (.error .notFound)

def readEntry (path : Path) : IO (Except FileError FileEntry) := do
  if path.text.isEmpty then
    return .error .notFound
  try
    let there ← IO.FS.realPath path.text
    if ← there.isDir then
      return .ok .directory
    else
      return .ok (.file (← IO.FS.readBinFile path.text))
  catch
    | .inappropriateType .. => return .error .notDirectory
    | _ => return .error .notFound

def noNetwork : Fetch.Outcome := Http.outcomeOf (.error .transport)

/-- The environment of a run, as far as it is known. -/
def environmentOf (cwd : Path) (root : Option String) (known : Snapshot) : Cli.Environment where
  files := treeOf known
  cwd := cwd
  root := root
  download _ := noNetwork

/-- Reads what a run looks at.  The markers tell the root, the root tells the files,
and the files tell the local actions, so that three rounds are enough. -/
def readAll (cwd : Path) (root : Option String) (args : List String) : IO Snapshot := do
  let mut known : Snapshot := []
  for _ in [0:3] do
    for path in Cli.lookups (environmentOf cwd root known) args do
      if (known.lookup path).isNone then
        known := (path, ← readEntry path) :: known
  return known

end WorkflowLint.Main

open WorkflowLint in
def main (args : List String) : IO UInt32 := do
  let cwd : Path := ⟨(← IO.currentDir).toString⟩
  let root ← IO.getEnv "ACTIONREF_ROOT"
  let known ← Main.readAll cwd root args
  let outcome := Cli.run (Main.environmentOf cwd root known) args
  (← IO.getStdout).putStr outcome.stdout
  if let some message := outcome.error then
    (← IO.getStderr).putStrLn ("error: " ++ message)
  return outcome.exit.toUInt32
