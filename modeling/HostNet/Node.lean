import HostNet.Fault
import HostNet.Net.CidrText
import HostNet.Rule
/-!
What a node object says about the host's routing: the gateway address of its pod network, and the
node's own addresses, which are to be looked up in the local table. Nothing here touches a host.
-/
namespace HostNet

/-- An address that a node reports, with the purpose it reports it for. -/
structure NodeAddress where
  purpose : String
  text : String
deriving DecidableEq, Repr

/-- The parts of a node object that matter here. -/
structure Node where
  name : String
  podCidr : Option String
  podCidrs : List String
  addresses : List NodeAddress
deriving DecidableEq, Repr

/-- The routing that follows from one reading of a node object. -/
structure LocalRoutes where
  /-- Gateway of the pod network. -/
  gateway : Ipv4
  /-- The node's internal addresses, each once, in the order of the node. -/
  addresses : List Ipv4
deriving DecidableEq, Repr

/-- The address after the first one of a prefix, if the prefix holds it. -/
def Cidr.firstHost? (cidr : Cidr) : Option Address :=
  let next : Address := ⟨cidr.network.family, cidr.network.bits + 1⟩
  if cidr.contains next then some next else none

namespace Node

/-- The purpose of an address inside the cluster. -/
def internalPurpose : String := "InternalIP"

def nonEmpty (text? : Option String) : Option String :=
  text?.filter fun text => !text.isEmpty

/-- The text of the pod network: the node's own, or else the first of its list. -/
def podCidrText? (node : Node) : Option String :=
  (nonEmpty node.podCidr).or (nonEmpty node.podCidrs.head?)

def podNetwork (node : Node) : Except Fault Cidr :=
  match node.podCidrText? with
  | none => .error (.missingPodCidr node.name)
  | some text =>
    (Cidr.readAs .inet text).mapError fun malformed =>
      .invalidPodCidr node.name text malformed.message

/-- The gateway of the pod network: its first address that is not the network's own. -/
def gateway (node : Node) : Except Fault Ipv4 := do
  let network ← node.podNetwork
  match network.firstHost?.bind Address.v4? with
  | some address => return address
  | none =>
    throw (.invalidPodCidr node.name network.text "no host address after the network address")

/-- The IPv4 addresses among the texts, each once, in order. The first text that is no address at
all is a failure; `seen` are the addresses before these. -/
def distinctAddresses (name : String) : (seen : List Ipv4) → List String → Except Fault (List Ipv4)
  | seen, [] => .ok seen
  | seen, text :: texts =>
    match Address.read? text with
    | none => .error (.invalidAddress name text)
    | some address =>
      match address.v4? with
      | some v4 =>
        if seen.contains v4 then distinctAddresses name seen texts
        else distinctAddresses name (seen ++ [v4]) texts
      | none => distinctAddresses name seen texts

def internalTexts (node : Node) : List String :=
  (node.addresses.filter fun address => address.purpose == internalPurpose).map (·.text)

/-- The node's internal IPv4 addresses. There must be one. -/
def internalAddresses (node : Node) : Except Fault (List Ipv4) := do
  let addresses ← distinctAddresses node.name [] node.internalTexts
  if addresses.isEmpty then throw (.missingInternalIp node.name) else return addresses

/-- The routing that follows from the node object. -/
def localRoutes (node : Node) : Except Fault LocalRoutes := do
  let gateway ← node.gateway
  let addresses ← node.internalAddresses
  return ⟨gateway, addresses⟩

end Node

namespace LocalRoutes

def rulePriority : UInt32 := 30000

/-- The rule that sends traffic for an address of the node to the local table. -/
def localRule (address : Ipv4) : Rule :=
  (((Rule.ofFamily .inet).withPriority rulePriority).toDestination
    (.host (.v4 address))).lookingUp localTable

def gatewayHost (routes : LocalRoutes) : Cidr :=
  .host (.v4 routes.gateway)

def rules (routes : LocalRoutes) : List Rule :=
  routes.addresses.map localRule

end LocalRoutes

/-- Where node objects come from, with state `σ`. -/
abbrev NodeSource (σ : Type) : Type :=
  String → σ → Except Fault Node × σ

/-- The routing that follows from the node object a source gives for a name. -/
def NodeSource.localRoutes {σ : Type} (source : NodeSource σ) (name : String) (state : σ) :
    Except Fault LocalRoutes × σ :=
  let (node, after) := source name state
  (node.bind Node.localRoutes, after)

/-- The source that has one node object, whatever the name. -/
def NodeSource.fixed (node : Node) : NodeSource Unit :=
  fun _ state => (.ok node, state)

end HostNet
