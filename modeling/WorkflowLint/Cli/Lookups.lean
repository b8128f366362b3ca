/-
# WorkflowLint.Cli.Lookups -- the paths that a run looks at

A run looks only at paths that can be told in advance: the markers of a repository
above the current directory, the settings, the files to check, and the manifests of
the local actions that they or the command line name.  `lookups` lists them as far
as the files that are known already tell.
-/
import WorkflowLint.Cli.Run

namespace WorkflowLint.Cli

set_option autoImplicit false

/-- The paths that are looked at to find the root of the repository. -/
def markerPaths (cwd : Path) : List Path :=
  cwd.ancestors.flatMap fun directory => [directory.join markerDirectory, directory.join ".git"]

def manifestPaths (document : Path) (uses : String) : List Path :=
  match Reference.parse uses with
  | .localPath path => LocalAction.candidates document path
  | _ => []

def checkPaths (files : FileTree) (path : Path) : List Path :=
  path ::
    match Check.scanFile files path with
    | .ok w => w.uses.flatMap fun e => manifestPaths path e.uses
    | .error _ => []

/-- The paths that a command looks at below the root of the repository. -/
def commandPaths (files : FileTree) (root : Path) : Command → List Path
  | .status uses => uses.flatMap (manifestPaths (rootAskerPath root))
  | .inputs uses => manifestPaths (rootAskerPath root) uses
  | .check paths => paths.flatMap fun f => checkPaths files (root.join f)
  | _ => []

/-- The paths that a run looks at, as far as its environment tells. -/
def lookups (env : Environment) (args : List String) : List Path :=
  match parseArgs env.root args with
  | .request request =>
    let root := resolveRoot env request.root
    markerPaths env.cwd ++ Config.path root :: commandPaths env.files root request.command
  | _ => []

end WorkflowLint.Cli
