import HostNet.Document.NodeShape
import HostNet.Document.Values
import HostNet.Node
/-!
Documents of node objects and of the routing that follows from them. Of several members of one name
the last counts, but all of them must be readable.
-/
namespace HostNet

namespace Node

/-- The member under a name is missing, or it is the given text. -/
def agrees (members : Members) (name expected : String) : Bool :=
  (members.every name).all fun document => document.text? == some expected

/-- An object that may be missing or absent, which is as good as an empty one. -/
def part? (members : Members) (name : String) : Option Members :=
  (members.latest name Document.members?).map fun part => part.getD []

/-- A reported address in a document. A missing part of it is empty. -/
def address? (document : Document) : Option NodeAddress := do
  let members ← document.members?
  let purpose ← members.latest "type" Document.text?
  let text ← members.latest "address" Document.text?
  return ⟨purpose.getD "", text.getD ""⟩

/-- The node in a document with collections in no more levels than given. An unnamed node goes by
the name it was to be generated from. -/
def ofDocument? (levels : Nat) (document : Document) : Option Node := do
  guard (shape.admits levels document)
  let members ← document.members?
  guard (agrees members "apiVersion" "v1" && agrees members "kind" "Node")
  let metadata ← part? members "metadata"
  let name ← metadata.latest "name" Document.text?
  let generated ← metadata.latest "generateName" Document.text?
  let spec ← part? members "spec"
  let podCidr ← spec.latest "podCIDR" Document.text?
  let podCidrs ← spec.latest "podCIDRs" Reader.texts
  let status ← part? members "status"
  let addresses ← status.latest "addresses" (Reader.each address?)
  return ⟨(name.or generated).getD "", podCidr, podCidrs.getD [], addresses.getD []⟩

end Node

namespace LocalRoutes

def toDocument (routes : LocalRoutes) : Document :=
  .object [
    ("veth_gateway_dst", .cidr routes.gatewayHost),
    ("local_table_rules",
      .list (routes.rules.map fun rule => .object [("rule", rule.toDocument)]))]

end LocalRoutes

end HostNet
