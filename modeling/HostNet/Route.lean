import HostNet.Rule
/-!
Routing-table entries.
-/
namespace HostNet

/-- How far away the destination of a route is. -/
inductive RouteScope where
  | global
  | site
  | link
  | host
  | nowhere
deriving DecidableEq, Repr

namespace RouteScope

def code : RouteScope → UInt8
  | global => 0
  | site => 200
  | link => 253
  | host => 254
  | nowhere => 255

def name : RouteScope → String
  | global => "universe"
  | site => "site"
  | link => "link"
  | host => "host"
  | nowhere => "nowhere"

def ofName? (name : String) : Option RouteScope :=
  [global, site, link, host, nowhere].find? fun scope => scope.name == name

end RouteScope

/-- A routing-table entry. -/
structure Route where
  dst : Cidr
  gateway : Option Address
  /-- Name of the output interface. -/
  dev : Option String
  table : UInt32
  /-- Absent, it follows from whether there is a gateway. -/
  scope : Option RouteScope
deriving DecidableEq, Repr

namespace Route

def toDestination (dst : Cidr) : Route :=
  ⟨dst, none, none, mainTable, none⟩

def via (route : Route) (gateway : Address) : Route :=
  { route with gateway := some gateway }

def onDevice (route : Route) (name : String) : Route :=
  { route with dev := some name }

def inTable (route : Route) (table : UInt32) : Route :=
  { route with table := table }

def ofScope (route : Route) (scope : RouteScope) : Route :=
  { route with scope := some scope }

def family (route : Route) : Family :=
  route.dst.family

/-- The scope on the wire: the given one, else everywhere with a gateway and on the link without. -/
def sentScope (route : Route) : RouteScope :=
  match route.scope, route.gateway with
  | some scope, _ => scope
  | none, some _ => .global
  | none, none => .link

/-- Whether two routes take the same place in the kernel's tables. -/
def samePlace (a b : Route) : Bool :=
  a.dst == b.dst && a.table == b.table && a.gateway == b.gateway

def text (route : Route) : String :=
  let gateway := match route.gateway with
    | some gateway => " via " ++ gateway.text
    | none => ""
  let dev := match route.dev with
    | some name => " dev " ++ name
    | none => ""
  route.dst.text ++ gateway ++ dev ++ " table " ++ toString route.table.toNat

end Route

end HostNet
