import HostNet.Chain
import HostNet.Document.Tree
import HostNet.Route
/-!
Documents of addresses, rules and routes. Readers take the members in any order, and ignore the ones
they do not know; writers give every member, in the order of the structure.
-/
namespace HostNet

namespace Document

def word32 (value : UInt32) : Document :=
  natural value.toNat

def address (value : Address) : Document :=
  text value.text

def cidr (value : Cidr) : Document :=
  text value.text

def texts (values : List String) : Document :=
  list (values.map text)

end Document

namespace Reader

/-- A name out of a list, or an object with nothing under such a name. -/
def choice {α : Type} (ofName? : String → Option α) : Reader α
  | .object [(name, .leaf .null)] => ofName? name
  | document => named ofName? document

def address : Reader Address :=
  named Address.read?

def v4 : Reader Ipv4 :=
  named Address.readV4?

def cidr : Reader Cidr :=
  named Cidr.read?

def texts : Reader (List String) :=
  each Document.text?

end Reader

namespace Rule

def memberNames : List String :=
  ["family", "priority", "table", "action", "src", "dst", "iif", "oif", "fwmark", "fwmask", "tos",
    "invert"]

/-- The rule in an object. Only the last member may be missing without being absent. -/
def ofMembers? (members : Members) : Option Rule := do
  let family ← members.required "family" (Reader.choice Family.ofName?)
  let priority ← members.optional "priority" Reader.word32
  let table ← members.required "table" Reader.word32
  let action ← members.required "action" (Reader.choice RuleAction.ofName?)
  let src ← members.optional "src" Reader.cidr
  let dst ← members.optional "dst" Reader.cidr
  let iif ← members.optional "iif" Document.text?
  let oif ← members.optional "oif" Document.text?
  let mark ← members.optional "fwmark" Reader.word32
  let mask ← members.optional "fwmask" Reader.word32
  let tos ← members.required "tos" Reader.word8
  let inverted ← members.orElse "invert" false Document.flag?
  return ⟨family, priority, table, action, src, dst, iif, oif, mark, mask, tos, inverted⟩

/-- The rule in a document: an object, or a list of the members in order. -/
def ofDocument? (document : Document) : Option Rule :=
  (document.labelled memberNames 11).members?.bind ofMembers?

def toDocument (rule : Rule) : Document :=
  .object [
    ("family", .text rule.family.name),
    ("priority", .optional .word32 rule.priority),
    ("table", .word32 rule.table),
    ("action", .text rule.action.name),
    ("src", .optional .cidr rule.src),
    ("dst", .optional .cidr rule.dst),
    ("iif", .optional .text rule.iif),
    ("oif", .optional .text rule.oif),
    ("fwmark", .optional .word32 rule.mark),
    ("fwmask", .optional .word32 rule.mask),
    ("tos", .natural rule.tos.toNat),
    ("invert", .flag rule.inverted)]

end Rule

namespace Route

def memberNames : List String :=
  ["dst", "gateway", "dev", "table", "scope"]

def ofMembers? (members : Members) : Option Route := do
  let dst ← members.required "dst" Reader.cidr
  let gateway ← members.optional "gateway" Reader.address
  let dev ← members.optional "dev" Document.text?
  let table ← members.required "table" Reader.word32
  let scope ← members.optional "scope" (Reader.choice RouteScope.ofName?)
  return ⟨dst, gateway, dev, table, scope⟩

/-- The route in a document: an object, or a list of the members in order. -/
def ofDocument? (document : Document) : Option Route :=
  (document.labelled memberNames 5).members?.bind ofMembers?

def toDocument (route : Route) : Document :=
  .object [
    ("dst", .cidr route.dst),
    ("gateway", .optional .address route.gateway),
    ("dev", .optional .text route.dev),
    ("table", .word32 route.table),
    ("scope", .optional (fun scope => .text scope.name) route.scope)]

end Route

namespace ChainRule

/-- The rule in a document: the list of its tokens. -/
def ofDocument? (document : Document) : Option ChainRule :=
  (Reader.texts document).map ChainRule.mk

def toDocument (rule : ChainRule) : Document :=
  .texts rule.tokens

end ChainRule

end HostNet
