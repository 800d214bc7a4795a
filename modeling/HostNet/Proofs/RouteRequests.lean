import HostNet.Proofs.RuleListing
import HostNet.Wire.RouteCodec
/-!
What the two requests for a route say. Nothing here reads them but the kernel, so they are read back
with the readers for headers and attributes. Main statement: the request that adds a route names
its destination without host bits, its gateway, output interface, table and scope, and nothing else;
the one that deletes it names all of this but the scope, which then may be any.
-/
namespace HostNet

theorem Family.code_inj {first second : Family} (h : first.code = second.code) :
    first = second := by
  have hread := congrArg ofCode? h
  rw [ofCode?_code, ofCode?_code] at hread
  exact Option.some.inj hread

theorem RouteScope.code_inj {first second : RouteScope} (h : first.code = second.code) :
    first = second := by
  revert h
  cases first <;> cases second <;> decide

/-- The number of octets tells the family, and the octets the address. -/
theorem Address.octets_inj {first second : Address} (h : first.octets = second.octets) :
    first = second := by
  have hcount := congrArg List.length h
  rw [length_octets, length_octets] at hcount
  have hfamily : first.family = second.family := by
    revert hcount
    cases first.family <;> cases second.family <;> decide
  have hfirst := ofOctets?_octets_append first []
  have hsecond := ofOctets?_octets_append second []
  rw [h, hfamily, hsecond] at hfirst
  exact (Option.some.inj hfirst).symm

theorem Word.bytes32_inj {first second : UInt32} (h : bytes32 first = bytes32 second) :
    first = second := by
  rw [← word32_bytes32 first, h, word32_bytes32]

namespace Cidr

theorem toNat_lengthByte (cidr : Cidr) : cidr.lengthByte.toNat = cidr.length := by
  have hwidth : cidr.address.family.width ≤ 128 := by
    cases cidr.address.family <;> decide
  have hlength := cidr.length_le
  rw [lengthByte, UInt8.toNat_ofNat', Nat.mod_eq_of_lt]
  omega

/-- A prefix without length holds the whole family. -/
theorem network_of_length_eq_zero {cidr : Cidr} (h : cidr.length = 0) :
    cidr.network = ⟨cidr.family, 0⟩ := by
  obtain ⟨⟨family, bits⟩, length, _⟩ := cidr
  obtain rfl : length = 0 := h
  have hmask : Address.mask family.width 0 = 0#(family.width) := by
    cases family <;> rfl
  change Address.mk family (bits &&& Address.mask family.width 0) = ⟨family, 0⟩
  rw [hmask, BitVec.and_zero]
  rfl

end Cidr

/-- The given scope is sent. Without one it follows from whether there is a gateway. -/
theorem Route.sentScope_eq (route : Route) :
    route.sentScope = route.scope.getD (if route.gateway.isSome then .global else .link) := by
  obtain ⟨dst, gateway, dev, table, scope⟩ := route
  cases scope with
  | some scope => rfl
  | none => cases gateway <;> rfl

/-- Two routes, with the indices of their output interfaces, that are the same to the kernel: it
is not told host bits, names of interfaces, or where a scope comes from. -/
structure Route.SentAlike (first : Route) (firstOif : Option UInt32) (second : Route)
    (secondOif : Option UInt32) : Prop where
  network : first.dst.network = second.dst.network
  length : first.dst.length = second.dst.length
  gateway : first.gateway = second.gateway
  oif : firstOif = secondOif
  table : first.table = second.table
  scope : first.sentScope = second.sentScope

namespace Wire

namespace Attr

/-- The attributes with the given payloads, of those that have one. -/
def present (fields : List (UInt16 × Option (List UInt8))) : List Attr :=
  fields.flatMap fun (kind, payload?) => (payload?.map (⟨kind, ·⟩)).toList

variable {first second : List (UInt16 × Option (List UInt8))}

theorem present_cons (kind : UInt16) (payload? : Option (List UInt8)) :
    present ((kind, payload?) :: first) = (payload?.map (⟨kind, ·⟩)).toList ++ present first :=
  rfl

theorem mem_present {attr : Attr} :
    attr ∈ present first ↔ (attr.kind, some attr.payload) ∈ first := by
  induction first with
  | nil => simp [present]
  | cons field rest ih =>
      obtain ⟨kind, payload?⟩ := field
      rw [present_cons, List.mem_append, ih, List.mem_cons]
      apply or_congr_left
      cases payload? with
      | none => simp
      | some payload =>
          obtain ⟨attrKind, attrPayload⟩ := attr
          simp

/-- A type that none of the fields has is in none of the attributes. -/
theorem present_ne_cons {attr : Attr} {attrs : List Attr}
    (h : attr.kind ∉ first.map Prod.fst) : present first ≠ attr :: attrs := by
  intro hpresent
  have hmem : attr ∈ present first := hpresent ▸ List.mem_cons_self
  exact h (List.mem_map.mpr ⟨_, mem_present.mp hmem, rfl⟩)

/-- Where no type stands twice, the attributes tell which fields have a payload, and which. -/
theorem present_inj (hnodup : (first.map Prod.fst).Nodup)
    (hkinds : first.map Prod.fst = second.map Prod.fst) (h : present first = present second) :
    first = second := by
  induction first generalizing second with
  | nil => exact (List.map_eq_nil_iff.mp hkinds.symm).symm
  | cons field rest ih =>
      obtain ⟨kind, payload?⟩ := field
      cases second with
      | nil => cases hkinds
      | cons other others =>
          obtain ⟨otherKind, other?⟩ := other
          obtain ⟨rfl, hrest⟩ := List.cons.inj hkinds
          obtain ⟨hfresh, hothers⟩ := List.nodup_cons.mp hnodup
          rw [present_cons, present_cons] at h
          cases payload? with
          | none =>
              cases other? with
              | none => rw [ih hothers hrest h]
              | some payload => exact absurd h (present_ne_cons hfresh)
          | some payload =>
              cases other? with
              | none => exact absurd h.symm (present_ne_cons (hrest ▸ hfresh))
              | some other =>
                  obtain ⟨hpayload, hpresent⟩ := List.cons.inj h
                  rw [ih hothers hrest hpresent, (Attr.mk.inj hpayload).2]

end Attr

/-- The header says of a route what no attribute says. -/
structure RouteHeader.Heads (header : RouteHeader) (route : Route) : Prop where
  family : header.family = route.dst.family.code
  length : header.dstLength.toNat = route.dst.length
  table : header.table.toNat = if 255 < route.table then 0 else route.table.toNat
  scope : header.scope =
    (route.scope.getD (if route.gateway.isSome then .global else .link)).code

def addHeader (route : Route) : RouteHeader :=
  ⟨route.family.code, route.dst.lengthByte, 0, 0, tableByte route.table, RouteHeader.bootProtocol,
    route.sentScope.code, RouteHeader.unicast, 0⟩

/-- The header of the request that deletes a route, of whatever scope. -/
def deleteHeader (route : Route) : RouteHeader :=
  { addHeader route with protocol := 0, scope := 255, type := 0 }

/-- The parts of a route that travel as attributes, in order. -/
def routeFields (route : Route) (oif : Option UInt32) : List (UInt16 × Option (List UInt8)) :=
  [(RouteAttr.dst, if 0 < route.dst.length then some route.dst.network.octets else none),
    (RouteAttr.gateway, route.gateway.map Address.octets),
    (RouteAttr.oif, oif.map Word.bytes32),
    (RouteAttr.table, if 255 < route.table then some (Word.bytes32 route.table) else none)]

theorem routeAttrs_eq (route : Route) (oif : Option UInt32) :
    routeAttrs route oif = Attr.present (routeFields route oif) := by
  have hdst :
      (if 0 < route.dst.length then [Attr.address RouteAttr.dst route.dst.network] else []) =
      ((if 0 < route.dst.length then some route.dst.network.octets else none).map
        (Attr.mk RouteAttr.dst ·)).toList := by
    split <;> rfl
  have hgateway : (route.gateway.map (Attr.address RouteAttr.gateway)).toList =
      ((route.gateway.map Address.octets).map (Attr.mk RouteAttr.gateway ·)).toList := by
    rw [Option.map_map]
    rfl
  have hoif : (oif.map (Attr.word RouteAttr.oif)).toList =
      ((oif.map Word.bytes32).map (Attr.mk RouteAttr.oif ·)).toList := by
    rw [Option.map_map]
    rfl
  have htable : tableAttrs RouteAttr.table route.table =
      ((if 255 < route.table then some (Word.bytes32 route.table) else none).map
        (Attr.mk RouteAttr.table ·)).toList := by
    rw [tableAttrs]
    by_cases hsmall : route.table ≤ 255
    · rw [if_pos hsmall, if_neg (UInt32.not_lt.mpr hsmall)]
      rfl
    · rw [if_neg hsmall, if_pos (UInt32.not_le.mp hsmall)]
      rfl
  rw [routeAttrs, hdst, hgateway, hoif, htable, List.append_assoc, List.append_assoc, routeFields,
    Attr.present_cons, Attr.present_cons, Attr.present_cons, Attr.present_cons, Attr.present,
    List.flatMap_nil, List.append_nil]

/-- Every attribute of a route fits its length field. -/
theorem fits_routeAttrs (route : Route) (oif : Option UInt32) :
    ∀ attr ∈ routeAttrs route oif, attr.Fits := by
  intro attr hattr
  simp only [routeAttrs, tableAttrs, List.mem_append, Option.mem_toList, Option.map_eq_some_iff]
    at hattr
  rcases hattr with ((hdst | ⟨gateway, -, rfl⟩) | ⟨index, -, rfl⟩) | htable
  · split at hdst
    · rw [List.mem_singleton.mp hdst]
      exact fits_address rfl _
    · cases hdst
  · exact fits_address rfl gateway
  · exact fits_word rfl index
  · split at htable
    · cases htable
    · rw [List.mem_singleton.mp htable]
      exact fits_word rfl _

theorem heads_addHeader (route : Route) : (addHeader route).Heads route := by
  refine ⟨rfl, route.dst.toNat_lengthByte, ?_, congrArg RouteScope.code route.sentScope_eq⟩
  change (tableByte route.table).toNat = _
  by_cases hsmall : route.table ≤ 255
  · have htable := congrArg UInt32.toNat (toUInt32_tableByte hsmall)
    rw [UInt8.toNat_toUInt32] at htable
    rw [if_neg (UInt32.not_lt.mpr hsmall), htable]
  · rw [tableByte, if_neg hsmall, if_pos (UInt32.not_le.mp hsmall)]
    rfl

theorem RouteHeader.dvd_length_encode (header : RouteHeader) : 4 ∣ header.encode.length := by
  simp [encode, Word.length_bytes32]

theorem body_routeAddRequest (route : Route) (oif : Option UInt32) :
    (routeAddRequest route oif).body =
      (addHeader route).encode ++ Attr.encodeAll (routeAttrs route oif) :=
  Request.body_of_dvd (addHeader route).dvd_length_encode

theorem body_routeDeleteRequest (route : Route) (oif : Option UInt32) :
    (routeDeleteRequest route oif).body =
      (deleteHeader route).encode ++ Attr.encodeAll (routeAttrs route oif) :=
  Request.body_of_dvd (deleteHeader route).dvd_length_encode

/-- What the kernel is told decides all of a request to add. -/
theorem body_routeAddRequest_congr {first second : Route} {firstOif secondOif : Option UInt32}
    (h : first.SentAlike firstOif second secondOif) :
    (routeAddRequest first firstOif).body = (routeAddRequest second secondOif).body := by
  have hnetwork := congrArg Address.family h.network
  have hfamily : first.dst.family = second.dst.family := hnetwork
  have hheader : addHeader first = addHeader second := by
    rw [addHeader, addHeader, Route.family, Route.family, hfamily, Cidr.lengthByte, Cidr.lengthByte,
      h.length, h.table, h.scope]
  have hfields : routeFields first firstOif = routeFields second secondOif := by
    rw [routeFields, routeFields, h.network, h.length, h.gateway, h.oif, h.table]
  rw [body_routeAddRequest, body_routeAddRequest, routeAttrs_eq, routeAttrs_eq, hheader, hfields]

/-- The header tells the family, so that all of the destination can be told from it and from the
attributes. -/
theorem sentAlike_of_heads {first second : Route} {firstOif secondOif : Option UInt32}
    {header : RouteHeader} (hfirst : header.Heads first) (hsecond : header.Heads second)
    (hfields : routeFields first firstOif = routeFields second secondOif) :
    first.SentAlike firstOif second secondOif := by
  simp only [routeFields, List.cons.injEq, Prod.mk.injEq, true_and, and_true] at hfields
  obtain ⟨hdst, hgateway, hoif, htable⟩ := hfields
  have hlength : first.dst.length = second.dst.length := hfirst.length.symm.trans hsecond.length
  have hfamily : first.dst.family = second.dst.family :=
    Family.code_inj (hfirst.family.symm.trans hsecond.family)
  have hscope : first.sentScope = second.sentScope := by
    rw [first.sentScope_eq, second.sentScope_eq]
    exact RouteScope.code_inj (hfirst.scope.symm.trans hsecond.scope)
  refine ⟨?_, hlength, ?_, ?_, ?_, hscope⟩
  · by_cases hzero : second.dst.length = 0
    · rw [Cidr.network_of_length_eq_zero hzero,
        Cidr.network_of_length_eq_zero (hlength.trans hzero), hfamily]
    · rw [hlength, if_pos (Nat.pos_of_ne_zero hzero), if_pos (Nat.pos_of_ne_zero hzero)] at hdst
      exact Address.octets_inj (Option.some.inj hdst)
  · exact (Option.map_inj_right fun _ _ => Address.octets_inj).mp hgateway
  · exact (Option.map_inj_right fun _ _ => Word.bytes32_inj).mp hoif
  · have hbyte := hfirst.table.symm.trans hsecond.table
    by_cases hlarge : 255 < first.table
    · rw [if_pos hlarge] at htable
      split at htable
      · exact Word.bytes32_inj (Option.some.inj htable)
      · cases htable
    · rw [if_neg hlarge] at htable hbyte
      split at htable
      · cases htable
      · rename_i hsmall
        rw [if_neg hsmall] at hbyte
        exact UInt32.toNat_inj.mp hbyte

end Wire

namespace Route

open HostNet.Wire

/-- The request to add a route names the route: its header and its attributes, read back, are those
of the route and no more. The request to delete it has the same attributes under a header without
protocol, scope and type, and neither creates nor excludes. Two requests to add are the same
exactly where the kernel is told the same of the two routes. -/
theorem requests_agree (route : Route) (oif : Option UInt32) :
    let add := routeAddRequest route oif
    let delete := routeDeleteRequest route oif
    (∃ header region, header.Heads route ∧
      RouteHeader.decode? add.body = some (header, region) ∧
      RouteHeader.decode? delete.body =
        some ({ header with protocol := 0, scope := 255, type := 0 }, region) ∧
      Attr.readAll region = Attr.present (routeFields route oif)) ∧
    delete.flags &&& MessageFlag.create = 0 ∧ delete.flags &&& MessageFlag.exclusive = 0 ∧
    ∀ other otherOif, (routeAddRequest other otherOif).body = add.body ↔
      other.SentAlike otherOif route oif := by
  intro add delete
  have hcreate : (MessageFlag.request ||| MessageFlag.ack) &&& MessageFlag.create = 0 := by decide
  have hexclusive : (MessageFlag.request ||| MessageFlag.ack) &&& MessageFlag.exclusive = 0 := by
    decide
  have hkinds : [RouteAttr.dst, RouteAttr.gateway, RouteAttr.oif, RouteAttr.table].Nodup := by
    decide
  have hread : ∀ other otherOif, Attr.readAll (Attr.encodeAll (routeAttrs other otherOif)) =
      Attr.present (routeFields other otherOif) := by
    intro other otherOif
    rw [Attr.readAll_encodeAll (fits_routeAttrs other otherOif), routeAttrs_eq]
  refine ⟨⟨addHeader route, Attr.encodeAll (routeAttrs route oif), heads_addHeader route, ?_, ?_,
    hread route oif⟩, hcreate, hexclusive,
    fun other otherOif => ⟨fun hbody => ?_, body_routeAddRequest_congr⟩⟩
  · rw [body_routeAddRequest, RouteHeader.decode?_encode_append]
  · rw [body_routeDeleteRequest, RouteHeader.decode?_encode_append]
    rfl
  · have hdecoded := congrArg RouteHeader.decode? hbody
    rw [body_routeAddRequest, body_routeAddRequest, RouteHeader.decode?_encode_append,
      RouteHeader.decode?_encode_append] at hdecoded
    obtain ⟨hheader, hregion⟩ := Prod.mk.inj (Option.some.inj hdecoded)
    have hpresent := congrArg Attr.readAll hregion
    rw [hread, hread] at hpresent
    exact sentAlike_of_heads (hheader ▸ heads_addHeader other) (heads_addHeader route)
      (Attr.present_inj hkinds rfl hpresent)

end Route

end HostNet
