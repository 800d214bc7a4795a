import HostNet.Host.Pass
/-!
Declared pieces of host state, and the pass that brings each of them about (enabled) or takes it
away (disabled). Both directions may be repeated at any time.
-/
namespace HostNet

/-- A kernel parameter with a value for each direction. -/
structure SysctlConfig where
  key : String
  on : String
  off : String
deriving DecidableEq, Repr

/-- A chain with the rules this process keeps in it. -/
structure ChainConfig where
  chain : Chain
  /-- A built-in chain, shared with the rest of the system: only our rules are removed from it,
  the chain itself is never cleared or deleted. -/
  builtIn : Bool
  rules : List ChainRule
deriving DecidableEq, Repr

/-- A declared piece of host state. -/
inductive Config where
  | sysctl (config : SysctlConfig)
  | route (route : Route)
  | rule (rule : Rule)
  | chain (config : ChainConfig)
deriving DecidableEq, Repr

namespace SysctlConfig

def ensure (config : SysctlConfig) (enabled : Bool) : Pass :=
  Pass.call (.setSysctl config.key (if enabled then config.on else config.off)) fun
    | .ok _ => .done (.ok ())
    | .error fault => .done (.error fault)

end SysctlConfig

namespace Route

/-- Add the route, or delete it; one that is there or gone already is as good. -/
def ensure (route : Route) : (enabled : Bool) → Pass
  | true => Pass.attempt (.addRoute route) (Pass.tolerate Fault.isAlreadyExists)
  | false => Pass.attempt (.delRoute route) (Pass.tolerate Fault.isNotFound)

end Route

namespace Rule

/-- The listed rules that are this one but for the priority. Those at its own priority come last,
so that one of them survives. -/
def instances (rule : Rule) (listed : List Rule) : List Rule :=
  let found := listed.filter fun installed => installed.same rule
  let wanted := fun installed : Rule =>
    rule.priority.isSome && installed.priority == rule.priority
  found.filter (fun installed => !wanted installed) ++ found.filter wanted

/-- What is to be reported after one more reply: the latest failure that is not benign. -/
def latest (benign : Fault → Bool) (sofar : Outcome) : Except Fault Unit → Outcome
  | .ok () => sofar
  | .error fault => if benign fault then sofar else .error fault

/-- Delete every one of the rules, whatever becomes of the others, and report the last failure. A
rule that is gone already is no failure. -/
def deleteEach : List Rule → (sofar : Outcome) → Pass
  | [], sofar => .done sofar
  | victim :: victims, sofar =>
    Pass.call (.delRule victim) fun reply =>
      deleteEach victims (latest Fault.isNotFound sofar reply)

/-- Bring the instances of the rule down to one, or to none, or add it where there is none. A
delete that fails leaves its rule in place until the next pass. -/
def converge (rule : Rule) (enabled : Bool) (installed : List Rule) : Pass :=
  match enabled, installed with
  | true, [] => Pass.attempt (.addRule rule) (Pass.tolerate Fault.isAlreadyExists)
  | true, installed => deleteEach installed.dropLast (.ok ())
  | false, installed => deleteEach installed (.ok ())

/-- Exactly one instance of the rule, or none. -/
def ensure (rule : Rule) (enabled : Bool) : Pass :=
  Pass.call (.listRules rule.family) fun
    | .ok listed => rule.converge enabled (rule.instances listed)
    | .error fault => .done (.error fault)

end Rule

namespace ChainConfig

/-- Create the chain, then append the rules it lacks. -/
def enable (config : ChainConfig) : Pass :=
  (Pass.attempt (.newChain config.chain) (Pass.tolerate Fault.isAlreadyExists)).andThen
    (Pass.inOrder (config.rules.map fun rule =>
      Pass.attempt (.appendUnique config.chain rule) id))

/-- Clear the chain and delete it. A chain that cannot be found to clear is gone. -/
def remove (config : ChainConfig) : Pass :=
  Pass.call (.clearChain config.chain) fun
    | .error fault => .done (Pass.tolerate Fault.isNotFound (.error fault))
    | .ok () => Pass.attempt (.deleteChain config.chain) (Pass.tolerate Fault.isNotFound)

/-- Delete our rules from the chain. -/
def withdraw (config : ChainConfig) : Pass :=
  Pass.inOrder (config.rules.map fun rule =>
    Pass.attempt (.deleteRule config.chain rule) (Pass.tolerate Fault.isNotFound))

/-- The chain with our rules, or without them; a chain of our own goes with them. -/
def ensure (config : ChainConfig) (enabled : Bool) : Pass :=
  if enabled then config.enable
  else if config.builtIn then config.withdraw
  else config.remove

end ChainConfig

namespace Config

/-- Bring the declared state about, or take it away. -/
def ensure : Config → (enabled : Bool) → Pass
  | .sysctl config, enabled => config.ensure enabled
  | .route wanted, enabled => wanted.ensure enabled
  | .rule wanted, enabled => wanted.ensure enabled
  | .chain config, enabled => config.ensure enabled

end Config

/-- A named feature: declared pieces of state that are enabled and disabled together. -/
structure Feature where
  name : String
  enabled : Bool
  configs : List Config
deriving DecidableEq, Repr

namespace Feature

/-- Every member in order, up to the first that fails; those before it stay as they are. -/
def ensure (feature : Feature) (enabled : Bool) : Pass :=
  Pass.inOrder (feature.configs.map fun config => config.ensure enabled)

/-- The direction the feature itself asks for. -/
def reconcile (feature : Feature) : Pass :=
  feature.ensure feature.enabled

end Feature

end HostNet
