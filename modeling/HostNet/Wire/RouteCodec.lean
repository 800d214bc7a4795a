import HostNet.Route
import HostNet.Wire.RuleCodec
/-!
Routes on the wire: the requests that add and delete one.
-/
namespace HostNet.Wire

/-! Types of route attributes. -/
namespace RouteAttr

def dst : UInt16 := 1
def oif : UInt16 := 4
def gateway : UInt16 := 5
def table : UInt16 := 15

end RouteAttr

structure RouteHeader where
  family : UInt8
  dstLength : UInt8
  srcLength : UInt8
  tos : UInt8
  table : UInt8
  protocol : UInt8
  scope : UInt8
  type : UInt8
  flags : UInt32
deriving DecidableEq, Repr

namespace RouteHeader

def size : Nat := 12

/-- The protocol of routes installed by an administrator. -/
def bootProtocol : UInt8 := 3

/-- The type of a gateway or direct route. -/
def unicast : UInt8 := 1

def encode (header : RouteHeader) : List UInt8 :=
  [header.family, header.dstLength, header.srcLength, header.tos, header.table, header.protocol,
    header.scope, header.type] ++ Word.bytes32 header.flags

/-- The header at the front of the bytes, and what follows it. -/
def decode? : List UInt8 → Option (RouteHeader × List UInt8)
  | family :: dstLength :: srcLength :: tos :: table :: protocol :: scope :: type ::
      f0 :: f1 :: f2 :: f3 :: rest =>
    some (⟨family, dstLength, srcLength, tos, table, protocol, scope, type,
      Word.word32 [f0, f1, f2, f3]⟩, rest)
  | _ => none

/-- A header followed by anything reads back. -/
theorem decode?_encode_append (header : RouteHeader) (rest : List UInt8) :
    decode? (header.encode ++ rest) = some (header, rest) := by
  have hflags := Word.word32_bytes32 header.flags
  simp only [Word.bytes32, Word.littleEndian] at hflags
  simp only [encode, decode?, Word.bytes32, Word.littleEndian, List.cons_append, List.nil_append,
    hflags]

end RouteHeader

/-- The attributes of a route whose output interface has been resolved to an index. A route to
everywhere has no destination. -/
def routeAttrs (route : Route) (oif : Option UInt32) : List Attr :=
  (if 0 < route.dst.length then [Attr.address RouteAttr.dst route.dst.network] else []) ++
  (route.gateway.map (Attr.address RouteAttr.gateway)).toList ++
  (oif.map (Attr.word RouteAttr.oif)).toList ++
  tableAttrs RouteAttr.table route.table

/-- The request that adds a route; it fails where the route exists. -/
def routeAddRequest (route : Route) (oif : Option UInt32) : Request where
  kind := MessageKind.newRoute
  flags :=
    MessageFlag.request ||| MessageFlag.ack ||| MessageFlag.create ||| MessageFlag.exclusive
  fixed := RouteHeader.encode
    ⟨route.family.code, route.dst.lengthByte, 0, 0, tableByte route.table,
      RouteHeader.bootProtocol, route.sentScope.code, RouteHeader.unicast, 0⟩
  attrs := routeAttrs route oif

/-- The request that deletes a route, of whatever scope. -/
def routeDeleteRequest (route : Route) (oif : Option UInt32) : Request where
  kind := MessageKind.delRoute
  flags := MessageFlag.request ||| MessageFlag.ack
  fixed := RouteHeader.encode
    ⟨route.family.code, route.dst.lengthByte, 0, 0, tableByte route.table, 0,
      RouteScope.nowhere.code, 0, 0⟩
  attrs := routeAttrs route oif

end HostNet.Wire
