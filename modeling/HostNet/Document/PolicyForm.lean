import HostNet.Document.NodeForm
import HostNet.Document.Yaml.Reader
import HostNet.Policy
/-!
Documents of settings, features and whole plans.
-/
namespace HostNet

namespace PolicyOptions

def memberNames : List String :=
  ["enabled", "custom_table", "host_dev", "gateway_dev", "host_gateway", "rule_priority"]

/-- The settings in an object. A missing one takes its standard value, and only the gateway may be
absent. -/
def ofMembers? (members : Members) : Option PolicyOptions := do
  let enabled ← members.orElse "enabled" standard.enabled Document.flag?
  let table ← members.orElse "custom_table" standard.table Reader.word32
  let hostDevice ← members.orElse "host_dev" standard.hostDevice Document.text?
  let gatewayDevice ← members.orElse "gateway_dev" standard.gatewayDevice Document.text?
  let hostGateway ← members.optional "host_gateway" Reader.v4
  let rulePriority ← members.orElse "rule_priority" standard.rulePriority Reader.word32
  return ⟨enabled, table, hostDevice, gatewayDevice, hostGateway, rulePriority⟩

/-- The settings in a document that is an object. -/
def ofObject? (document : Document) : Option PolicyOptions :=
  document.members?.bind ofMembers?

/-- The settings in a document: an object, or a list of the first few in order. -/
def ofDocument? (document : Document) : Option PolicyOptions :=
  ofObject? (document.labelled memberNames 0)

def toDocument (options : PolicyOptions) : Document :=
  .object [
    ("enabled", .flag options.enabled),
    ("custom_table", .word32 options.table),
    ("host_dev", .text options.hostDevice),
    ("gateway_dev", .text options.gatewayDevice),
    ("host_gateway", .optional (fun gateway => .address (.v4 gateway)) options.hostGateway),
    ("rule_priority", .word32 options.rulePriority)]

end PolicyOptions

/-- The configuration of the agent: a section for each feature. -/
structure AgentConfig where
  policyRouting : PolicyOptions
deriving DecidableEq, Repr

namespace AgentConfig

def standard : AgentConfig :=
  ⟨.standard⟩

def sectionName : String := "policy_routing"

/-- The configuration in a document. A missing section takes its standard value; sections of other
names are refused. -/
def ofDocument? (document : Document) : Option AgentConfig := do
  let members ← document.members?
  guard (members.all fun member => member.1 == sectionName)
  let options ← members.orElse sectionName .standard PolicyOptions.ofObject?
  return ⟨options⟩

def read? (text : String) : Option AgentConfig :=
  (Yaml.read? text).bind ofDocument?

def toDocument (config : AgentConfig) : Document :=
  .object [(sectionName, config.policyRouting.toDocument)]

end AgentConfig

namespace Config

def toDocument : Config → Document
  | .sysctl config =>
    .object [
      ("kind", .text "sysctl"),
      ("key", .text config.key),
      ("value", .text config.on),
      ("default_value", .text config.off)]
  | .route wanted => .object [("kind", .text "route"), ("route", wanted.toDocument)]
  | .rule wanted => .object [("kind", .text "rule"), ("rule", wanted.toDocument)]
  | .chain config =>
    .object [
      ("kind", .text "chain"),
      ("chain", .object [
        ("table", .text config.chain.table),
        ("chain", .text config.chain.name),
        ("is_default", .flag config.builtIn)]),
      ("rule_specs", .list (config.rules.map ChainRule.toDocument))]

end Config

namespace Feature

def toDocument (feature : Feature) : Document :=
  .object [
    ("feature_name", .text feature.name),
    ("enabled", .flag feature.enabled),
    ("configs", .list (feature.configs.map Config.toDocument))]

end Feature

/-- What the agent has derived: the routing of the node, and the feature made from it. -/
structure Plan where
  routes : LocalRoutes
  feature : Feature
deriving DecidableEq, Repr

def Plan.toDocument (plan : Plan) : Document :=
  .object [("state", plan.routes.toDocument), ("feature", plan.feature.toDocument)]

end HostNet
