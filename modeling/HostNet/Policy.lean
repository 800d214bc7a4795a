import HostNet.Config
import HostNet.Node
/-!
The policy-routing feature. Traffic from the pods' bridge goes through a table of its own, whose
default route leaves through the host's interface, and marks of connections are restored on the way
in so that replies take the same path. The node's own addresses stay in the local table, which is
looked up before.
-/
namespace HostNet

structure PolicyOptions where
  enabled : Bool
  /-- Routing table for traffic from the bridge. -/
  table : UInt32
  /-- Interface towards the node's network. -/
  hostDevice : String
  /-- Bridge of the pods. -/
  gatewayDevice : String
  /-- Next hop of the table's default route; without one there is no such route. -/
  hostGateway : Option Ipv4
  /-- Priority of the rule that selects the table. -/
  rulePriority : UInt32
deriving DecidableEq, Repr

namespace PolicyOptions

def standard : PolicyOptions where
  enabled := true
  table := 1
  hostDevice := "eth0"
  gatewayDevice := "cbr0"
  hostGateway := none
  rulePriority := 30001

def featureName : String := "PolicyRouting"

/-- Reverse-path filtering of the host's interface is loose, since replies may come back on another
interface than the one the table chose. -/
def looseFilter (options : PolicyOptions) : SysctlConfig where
  key := "net.ipv4.conf." ++ options.hostDevice ++ ".rp_filter"
  on := "2"
  off := "1"

/-- Marks take part in reverse-path filtering. -/
def markedFilter : SysctlConfig where
  key := "net.ipv4.conf.all.src_valid_mark"
  on := "1"
  off := "0"

def gatewayRoute (options : PolicyOptions) (routes : LocalRoutes) : Route :=
  (((Route.toDestination routes.gatewayHost).onDevice options.gatewayDevice).ofScope
    .link).inTable options.table

def everywhere : Cidr :=
  ⟨.v4 0, 0, Nat.zero_le _⟩

def defaultRoute (options : PolicyOptions) (gateway : Ipv4) : Route :=
  (((Route.toDestination everywhere).via (.v4 gateway)).onDevice options.hostDevice).inTable
    options.table

/-- The rule that selects the table. -/
def tableRule (options : PolicyOptions) : Rule :=
  (((Rule.ofFamily .inet).withPriority options.rulePriority).onInput
    options.gatewayDevice).lookingUp options.table

/-- The built-in chain that sees traffic on its way in. -/
def inboundChain : Chain :=
  ⟨"mangle", "PREROUTING"⟩

/-- Marks of connections are restored on the way in. -/
def markRestore : ChainConfig where
  chain := inboundChain
  builtIn := true
  rules := [⟨["-m", "comment", "--comment", "nodenet policy routing", "-j", "CONNMARK",
    "--restore-mark"]⟩]

/-- The feature for a node's routing. -/
def feature (options : PolicyOptions) (routes : LocalRoutes) : Feature where
  name := featureName
  enabled := options.enabled
  configs :=
    [.sysctl options.looseFilter, .sysctl markedFilter, .route (options.gatewayRoute routes)] ++
      (options.hostGateway.map fun gateway => Config.route (options.defaultRoute gateway)).toList ++
      [.rule options.tableRule, .chain markRestore] ++ routes.rules.map Config.rule

end PolicyOptions

end HostNet
