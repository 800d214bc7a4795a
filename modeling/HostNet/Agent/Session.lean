import HostNet.Agent.Help
import HostNet.Document.Json
import HostNet.Document.PolicyForm
import HostNet.Document.Yaml.Written
/-!
What the agent does with a command line: it reads its configuration and the node object, derives
the feature, and shows it or applies it. Everything up to the host itself is decided here.
-/
namespace HostNet.Agent

/-- How the agent ends. -/
structure Exit where
  code : Nat
  output : String
  /-- The message of a failure; mistakes on the command line have none of their own. -/
  complaint : Option String
deriving DecidableEq, Repr

namespace Exit

def success (output : String) : Exit :=
  ⟨0, output, none⟩

def failure (message : String) : Exit :=
  ⟨1, "", some message⟩

def misuse : Exit :=
  ⟨2, "", none⟩

/-- The end of a pass over the host. -/
def ofOutcome : Outcome → Exit
  | .ok () => success ""
  | .error fault => failure fault.message

end Exit

/-- How far the agent gets without a host. -/
inductive Decision where
  | exit (exit : Exit)
  /-- The outcome of a pass decides. -/
  | perform (pass : Pass)

abbrev TextFiles : Type :=
  String → Option String

/-- The configuration in a file, or the standard one. -/
def loadConfig (files : TextFiles) (path? : Option String) : Except String AgentConfig :=
  match path? with
  | none => .ok .standard
  | some path =>
    match files path with
    | none => .error ("reading " ++ path)
    | some text =>
      match AgentConfig.read? text with
      | none => .error ("parsing " ++ path)
      | some config => .ok config

/-- The routing that follows from the node object in a file. -/
def routesOfFile (files : TextFiles) (path : String) : Except String LocalRoutes :=
  match files path with
  | none => .error ("reading " ++ path)
  | some text =>
    match (Yaml.read? text).bind (Node.ofDocument? Yaml.levels) with
    | none => .error ("parsing node object " ++ path)
    | some node => node.localRoutes.mapError Fault.message

/-- The routing of the node that the agent runs for. Nodes known by name alone would come from an
API server, which is out of reach without the cluster's configuration. -/
def localRoutes (files : TextFiles) (arguments : Arguments) : Except String LocalRoutes :=
  match arguments.nodeFile, arguments.nodeName with
  | some path, _ => routesOfFile files path
  | none, some _ => .error "building Kubernetes client"
  | none, none => .error "--node-name (or NODE_NAME) is required without --node-file"

def plan (files : TextFiles) (arguments : Arguments) : Except String Plan := do
  let config ← loadConfig files arguments.configFile
  let routes ← localRoutes files arguments
  return ⟨routes, config.policyRouting.feature routes⟩

def showPlan (plan : Plan) : Format → String
  | .yaml => Yaml.write plan.toDocument
  | .json => Json.pretty 0 plan.toDocument ++ "\n"

/-- What a command does with the plan. -/
def carryOut (plan : Plan) : Command → Decision
  | .apply => .perform plan.feature.reconcile
  | .reset => .perform (plan.feature.ensure false)
  | .show format => .exit (.success (showPlan plan format))

/-- What a command line comes to. -/
def decide (environment : Environment) (files : TextFiles) (arguments : List String) : Decision :=
  match readArguments environment arguments with
  | .misuse => .exit .misuse
  | .version => .exit (.success versionText)
  | .help topic => .exit (.success (helpText environment topic))
  | .run arguments =>
    match plan files arguments with
    | .error message => .exit (.failure message)
    | .ok plan => carryOut plan arguments.command

/-- The whole run of the agent on a host. -/
def run {σ : Type} (host : Host σ) (environment : Environment) (files : TextFiles)
    (arguments : List String) (state : σ) : Exit × σ :=
  match decide environment files arguments with
  | .exit exit => (exit, state)
  | .perform pass =>
    let (outcome, after) := pass.run host state
    (.ofOutcome outcome, after)

end HostNet.Agent
