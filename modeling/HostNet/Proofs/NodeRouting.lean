import HostNet.Node
import HostNet.Proofs.Tables
/-!
The routing that follows from a node object. The node names its pod network in one of two places,
and reports addresses of which only those inside the cluster count, and of these only the IPv4 ones.
Main statement: which routing follows, exactly for which nodes, and which failure is reported for
every other one, where several could be.
-/
namespace HostNet
namespace Cidr

theorem family_of_make? {address : Address} {length : Nat} {cidr : Cidr}
    (h : make? address length = some cidr) : cidr.family = address.family := by
  rw [make?] at h
  split at h
  · rw [← Option.some.inj h]
    rfl
  · cases h

theorem family_of_readAs {family : Family} {text : String} {cidr : Cidr}
    (h : readAs family text = .ok cidr) : cidr.family = family := by
  have haddress : ∀ part address, Address.readAs? family part = some address →
      address.family = family := by
    intro part address hpart
    cases family with
    | inet =>
        obtain ⟨bits, -, rfl⟩ := Option.map_eq_some_iff.mp hpart
        rfl
    | inet6 =>
        obtain ⟨bits, -, rfl⟩ := Option.map_eq_some_iff.mp hpart
        rfl
  simp only [readAs, bind, Except.bind] at h
  split at h
  · cases h
  · split at h
    · cases h
    · rename_i address hpart
      split at h
      · rw [← Except.ok.inj h]
        exact haddress _ address hpart
      · split at h
        · cases h
        · rename_i length? _ _ _ _ hmake
          rw [← Except.ok.inj h]
          obtain ⟨length, -, hmake⟩ := Option.bind_eq_some_iff.mp hmake
          exact (family_of_make? hmake).trans (haddress _ address hpart)

/-! ## The first host -/

section Bits

variable {w : Nat} {base mask : BitVec w}

/-- The number after one whose last bit is not set is within the same prefix. -/
theorem next_and_mask (hmask : mask &&& 1#w = 0#w) (hbase : base &&& mask = base) :
    (base + 1#w) &&& mask = base := by
  have hdisjoint : base &&& 1#w = 0#w := by
    rw [← hbase, BitVec.and_assoc, hmask, BitVec.and_zero]
  rw [BitVec.add_eq_or_of_and_eq_zero _ _ hdisjoint, BitVec.and_or_distrib_right, hbase,
    BitVec.and_comm, hmask, BitVec.or_zero]

theorem toNat_next (hpos : 0 < w) (hmask : mask &&& 1#w = 0#w)
    (hbase : base &&& mask = base) : (base + 1#w).toNat = base.toNat + 1 := by
  have hdisjoint : base &&& 1#w = 0#w := by
    rw [← hbase, BitVec.and_assoc, hmask, BitVec.and_zero]
  rw [BitVec.toNat_add_of_and_eq_zero hdisjoint, BitVec.toNat_ofNat, Nat.mod_eq_of_lt]
  exact Nat.one_lt_two_pow (Nat.ne_of_gt hpos)

theorem mask_and_one {length : Nat} (hroom : length < w) :
    Address.mask w length &&& 1#w = 0#w := by
  rw [Address.mask]
  ext i hi
  have hlow : 0 < w - length := Nat.sub_pos_of_lt hroom
  simp only [BitVec.getElem_and, BitVec.getElem_shiftLeft, BitVec.getElem_one,
    BitVec.getElem_zero, Bool.and_eq_false_iff]
  grind

theorem mask_full : Address.mask w w = BitVec.allOnes w := by
  rw [Address.mask, Nat.sub_self, BitVec.shiftLeft_zero]

end Bits

section FirstHost

variable {network : Cidr}

theorem exists_network_eq (hfamily : network.family = .inet) :
    ∃ base : Ipv4, network.network = .v4 base ∧
      base &&& Address.mask 32 network.length = base := by
  obtain ⟨⟨family, bits⟩, length, hlength⟩ := network
  obtain rfl : family = .inet := hfamily
  refine ⟨bits &&& Address.mask Family.inet.width length, rfl, ?_⟩
  exact (BitVec.and_assoc _ _ _).trans (congrArg (bits &&& ·) BitVec.and_self)

theorem contains_v4_iff {base address : Ipv4} (hnetwork : network.network = .v4 base) :
    network.contains (.v4 address) = true ↔ address &&& Address.mask 32 network.length = base := by
  rw [contains, hnetwork, beq_iff_eq]
  exact ⟨fun h => Option.some.inj (congrArg Address.v4? h), congrArg Address.v4⟩

theorem firstHost?_eq {base : Ipv4} (hnetwork : network.network = .v4 base) :
    network.firstHost? =
      if network.contains (.v4 (base + 1#32)) then some (.v4 (base + 1#32)) else none := by
  rw [firstHost?, hnetwork]
  rfl

/-- A prefix that leaves a bit to its hosts has an address after its first one. -/
theorem exists_firstHost?_of_le (hfamily : network.family = .inet) (hroom : network.length ≤ 31) :
    ∃ gateway : Ipv4, network.firstHost? = some (.v4 gateway) ∧
      gateway.toNat = network.network.bits.toNat + 1 ∧
      network.contains (.v4 gateway) = true ∧ .v4 gateway ≠ network.network := by
  obtain ⟨base, hnetwork, hbase⟩ := exists_network_eq hfamily
  have hmask : Address.mask 32 network.length &&& 1#32 = 0#32 :=
    mask_and_one (Nat.lt_succ_of_le hroom)
  have hcontains : network.contains (.v4 (base + 1#32)) = true :=
    (contains_v4_iff hnetwork).mpr (next_and_mask hmask hbase)
  have hcount : (base + 1#32).toNat = base.toNat + 1 := toNat_next (by decide) hmask hbase
  refine ⟨base + 1#32, ?_, ?_, hcontains, ?_⟩
  · rw [firstHost?_eq hnetwork, if_pos hcontains]
  · rw [hnetwork]
    exact hcount
  · rw [hnetwork]
    intro heq
    have hbits : base + 1#32 = base := Option.some.inj (congrArg Address.v4? heq)
    rw [hbits] at hcount
    omega

/-- A prefix that holds a single address has none after it. -/
theorem firstHost?_of_lt (hfamily : network.family = .inet) (hfull : 31 < network.length) :
    network.firstHost? = none := by
  obtain ⟨base, hnetwork, -⟩ := exists_network_eq hfamily
  have hwidth : network.length ≤ network.family.width := network.length_le
  rw [hfamily] at hwidth
  have hlength : network.length = 32 := Nat.le_antisymm hwidth hfull
  rw [firstHost?_eq hnetwork, if_neg]
  rw [contains_v4_iff hnetwork, hlength, mask_full, BitVec.and_allOnes]
  bv_omega

end FirstHost

end Cidr

namespace LocalRoutes

/-- The rule for an address of the node: what goes there, and nothing else, is looked up in the
local table. -/
def ruleTo (address : Ipv4) : Rule where
  family := .inet
  priority := some 30000
  table := 255
  action := .lookup
  src := none
  dst := some ⟨.v4 address, 32, Nat.le_refl 32⟩
  iif := none
  oif := none
  mark := none
  mask := none
  tos := 0
  inverted := false

/-- The routing is that of a pod network and the addresses reported: the gateway is the address
after the network's own, and every address has one rule, in the order of the first reports. -/
structure Follows (routes : LocalRoutes) (network : Cidr) (reported : List Ipv4) : Prop where
  next : routes.gateway.toNat = network.network.bits.toNat + 1
  inside : network.contains (.v4 routes.gateway) = true
  apart : .v4 routes.gateway ≠ network.network
  host : routes.gatewayHost = ⟨.v4 routes.gateway, 32, Nat.le_refl 32⟩
  addresses : routes.addresses = reported.eraseDups
  rules : routes.rules = reported.eraseDups.map ruleTo

end LocalRoutes

namespace Node

/-- The text of the pod network: the node's own, unless it is absent or empty, and then the first
of the node's list, unless there is none or it is empty. -/
def NamesPodNetwork (node : Node) (text : String) : Prop :=
  text ≠ "" ∧ (node.podCidr = some text ∨
    (∀ own, node.podCidr = some own → own = "") ∧ node.podCidrs.head? = some text)

/-- The node names a pod network that has room for a gateway. -/
def HasPodNetwork (node : Node) (network : Cidr) : Prop :=
  ∃ text, node.NamesPodNetwork text ∧ Cidr.readAs .inet text = .ok network ∧ network.length ≤ 31

/-- The IPv4 address that a text is, if it is one. -/
def ipv4? (text : String) : Option Ipv4 :=
  (Address.read? text).bind Address.v4?

/-- The IPv4 addresses among the node's internal ones, as often as they are reported. -/
def reported (node : Node) : List Ipv4 :=
  node.internalTexts.filterMap ipv4?

variable {node : Node} {text : String} {network : Cidr}

/-! ## The pod network -/

theorem nonEmpty_eq_some_iff {text? : Option String} :
    nonEmpty text? = some text ↔ text? = some text ∧ text ≠ "" := by
  simp [nonEmpty, Option.filter_eq_some_iff]

theorem podCidrText?_eq_some_iff : node.podCidrText? = some text ↔ node.NamesPodNetwork text := by
  have hown : nonEmpty node.podCidr = none ↔ ∀ own, node.podCidr = some own → own = "" := by
    simp [nonEmpty]
  rw [podCidrText?, Option.or_eq_some_iff, hown, nonEmpty_eq_some_iff, nonEmpty_eq_some_iff,
    NamesPodNetwork]
  constructor
  · rintro (⟨hpod, hne⟩ | ⟨hempty, hhead, hne⟩)
    · exact ⟨hne, Or.inl hpod⟩
    · exact ⟨hne, Or.inr ⟨hempty, hhead⟩⟩
  · rintro ⟨hne, hpod | ⟨hempty, hhead⟩⟩
    · exact Or.inl ⟨hpod, hne⟩
    · exact Or.inr ⟨hempty, hhead, hne⟩

theorem mem_internalTexts_iff :
    text ∈ node.internalTexts ↔
      ∃ address ∈ node.addresses, address.purpose = "InternalIP" ∧ address.text = text := by
  simp [internalTexts, internalPurpose, and_assoc]

theorem ipv4?_eq_some_iff {ip : Ipv4} :
    ipv4? text = some ip ↔ Address.read? text = some (.v4 ip) := by
  rw [ipv4?, Option.bind_eq_some_iff]
  constructor
  · rintro ⟨⟨family, bits⟩, hread, hv4⟩
    cases family with
    | inet => rwa [← Option.some.inj hv4]
    | inet6 => cases hv4
  · exact fun hread => ⟨.v4 ip, hread, rfl⟩

theorem reported_ne_nil_iff :
    node.reported ≠ [] ↔ ∃ address ∈ node.addresses, address.purpose = "InternalIP" ∧
      ∃ ip, Address.read? address.text = some (.v4 ip) := by
  constructor
  · intro hne
    obtain ⟨ip, hip⟩ := List.exists_mem_of_ne_nil _ hne
    obtain ⟨text, htext, hread⟩ := List.mem_filterMap.mp hip
    obtain ⟨address, hmem, hpurpose, rfl⟩ := mem_internalTexts_iff.mp htext
    exact ⟨address, hmem, hpurpose, ip, ipv4?_eq_some_iff.mp hread⟩
  · rintro ⟨address, hmem, hpurpose, ip, hread⟩
    have htext : address.text ∈ node.internalTexts :=
      mem_internalTexts_iff.mpr ⟨address, hmem, hpurpose, rfl⟩
    exact List.ne_nil_of_mem (List.mem_filterMap.mpr ⟨_, htext, ipv4?_eq_some_iff.mpr hread⟩)

/-! ## The addresses -/

/-- Every address goes to those before it, unless it is of the other family or among them. -/
theorem distinctAddresses_cons (name : String) (seen : List Ipv4) (text : String)
    (texts : List String) :
    distinctAddresses name seen (text :: texts) =
      (Address.read? text).elim (.error (.invalidAddress name text)) fun address =>
        distinctAddresses name (address.v4?.elim seen fun v4 =>
          if seen.contains v4 then seen else seen ++ [v4]) texts := by
  rw [distinctAddresses]
  cases Address.read? text with
  | none => rfl
  | some address =>
      rw [Option.elim_some]
      dsimp only
      cases address.v4? with
      | none => rfl
      | some v4 => exact (apply_ite (distinctAddresses name · texts) _ _ _).symm

theorem distinctAddresses_of_forall (name : String) {seen : List Ipv4} {texts : List String}
    (h : ∀ text ∈ texts, (Address.read? text).isSome = true) :
    distinctAddresses name seen texts =
      .ok (seen ++ ((texts.filterMap ipv4?).filter fun address =>
        !seen.contains address).eraseDups) := by
  -- the addresses seen before the texts change from one text to the next
  induction texts generalizing seen with
  | nil => exact congrArg Except.ok (List.append_nil seen).symm
  | cons text texts ih =>
      obtain ⟨hhead, htexts⟩ := List.forall_mem_cons.mp h
      obtain ⟨address, haddress⟩ := Option.isSome_iff_exists.mp hhead
      have hipv4 : ipv4? text = address.v4? := by
        rw [ipv4?, haddress, Option.bind_some]
      rw [distinctAddresses_cons, haddress, Option.elim_some, ih htexts, List.filterMap_cons, hipv4]
      cases address.v4? with
      | none => rfl
      | some v4 =>
          dsimp only [Option.elim_some]
          cases hseen : seen.contains v4 with
          | true =>
              have hskip : ((v4 :: texts.filterMap ipv4?).filter fun address =>
                  !seen.contains address) =
                  (texts.filterMap ipv4?).filter fun address => !seen.contains address :=
                List.filter_cons_of_neg (by rw [hseen]; exact Bool.false_ne_true)
              rw [if_pos rfl, hskip]
          | false =>
              rw [if_neg Bool.false_ne_true, eraseDups_lacking_cons hseen, List.append_assoc,
                List.singleton_append]

theorem distinctAddresses_of_find? (name : String) {seen : List Ipv4} {texts : List String}
    (h : (texts.find? fun text => (Address.read? text).isNone) = some text) :
    distinctAddresses name seen texts = .error (.invalidAddress name text) := by
  induction texts generalizing seen with
  | nil => cases h
  | cons other texts ih =>
      rw [List.find?_cons] at h
      cases hother : Address.read? other with
      | none =>
          rw [hother] at h
          rw [distinctAddresses_cons, hother, Option.elim_none, Option.some.inj h]
      | some address =>
          rw [hother] at h
          rw [distinctAddresses_cons, hother, Option.elim_some]
          exact ih h

theorem internalAddresses_of_find?
    (h : (node.internalTexts.find? fun text => (Address.read? text).isNone) = some text) :
    node.internalAddresses = .error (.invalidAddress node.name text) := by
  rw [internalAddresses, distinctAddresses_of_find? node.name h]
  rfl

theorem internalAddresses_of_forall
    (h : ∀ text ∈ node.internalTexts, (Address.read? text).isSome = true) :
    node.internalAddresses =
      if node.reported = [] then .error (.missingInternalIp node.name)
      else .ok node.reported.eraseDups := by
  have hall : (node.reported.filter fun address => !([] : List Ipv4).contains address) =
      node.reported := List.filter_eq_self.mpr fun _ _ => rfl
  rw [internalAddresses, distinctAddresses_of_forall node.name h, List.nil_append, ← reported, hall]
  cases hreported : node.reported with
  | nil => rfl
  | cons address addresses =>
      rw [List.eraseDups_cons]
      rfl

/-! ## The gateway -/

theorem podNetwork_of_named (hnamed : node.NamesPodNetwork text) :
    node.podNetwork = (Cidr.readAs .inet text).mapError fun malformed =>
      .invalidPodCidr node.name text malformed.message := by
  rw [podNetwork, podCidrText?_eq_some_iff.mpr hnamed]

theorem podNetwork_of_read (hnamed : node.NamesPodNetwork text)
    (hread : Cidr.readAs .inet text = .ok network) : node.podNetwork = .ok network := by
  rw [podNetwork_of_named hnamed, hread]
  rfl

theorem gateway_of_missing (h : ∀ text, ¬ node.NamesPodNetwork text) :
    node.gateway = .error (.missingPodCidr node.name) := by
  have hnone : node.podCidrText? = none := Option.eq_none_iff_forall_ne_some.mpr fun text htext =>
    h text (podCidrText?_eq_some_iff.mp htext)
  rw [gateway, podNetwork, hnone]
  rfl

theorem gateway_of_malformed {malformed : Cidr.Malformed} (hnamed : node.NamesPodNetwork text)
    (hread : Cidr.readAs .inet text = .error malformed) :
    node.gateway = .error (.invalidPodCidr node.name text malformed.message) := by
  rw [gateway, podNetwork_of_named hnamed, hread]
  rfl

theorem gateway_of_full (hnamed : node.NamesPodNetwork text)
    (hread : Cidr.readAs .inet text = .ok network) (hfull : 31 < network.length) :
    node.gateway = .error (.invalidPodCidr node.name network.text
      "no host address after the network address") := by
  have hnone := Cidr.firstHost?_of_lt (Cidr.family_of_readAs hread) hfull
  rw [gateway, podNetwork_of_read hnamed hread]
  simp only [bind, Except.bind, hnone, Option.bind_none]
  rfl

theorem exists_gateway (h : node.HasPodNetwork network) :
    ∃ gateway, node.gateway = .ok gateway ∧
      gateway.toNat = network.network.bits.toNat + 1 ∧
      network.contains (.v4 gateway) = true ∧ .v4 gateway ≠ network.network := by
  obtain ⟨text, hnamed, hread, hroom⟩ := h
  obtain ⟨gateway, hfirst, hfacts⟩ :=
    Cidr.exists_firstHost?_of_le (Cidr.family_of_readAs hread) hroom
  refine ⟨gateway, ?_, hfacts⟩
  rw [Node.gateway, podNetwork_of_read hnamed hread]
  simp only [bind, Except.bind, hfirst]
  rfl

/-! ## All of it -/

/-- What the node says of the host's routing, or the first of the reasons why it says nothing. -/
inductive Derives (node : Node) : Except Fault LocalRoutes → Prop where
  | missingPodCidr (unnamed : ∀ text, ¬ node.NamesPodNetwork text) :
      Derives node (.error (.missingPodCidr node.name))
  | malformedPodCidr {text : String} {malformed : Cidr.Malformed}
      (named : node.NamesPodNetwork text) (unread : Cidr.readAs .inet text = .error malformed) :
      Derives node (.error (.invalidPodCidr node.name text malformed.message))
  | fullPodCidr {text : String} {network : Cidr} (named : node.NamesPodNetwork text)
      (read : Cidr.readAs .inet text = .ok network) (full : 31 < network.length) :
      Derives node (.error (.invalidPodCidr node.name network.text
        "no host address after the network address"))
  | invalidAddress {network : Cidr} {text : String} (pod : node.HasPodNetwork network)
      (first : (node.internalTexts.find? fun text => (Address.read? text).isNone) = some text) :
      Derives node (.error (.invalidAddress node.name text))
  | missingInternalIp {network : Cidr} (pod : node.HasPodNetwork network)
      (read : ∀ text ∈ node.internalTexts, (Address.read? text).isSome = true)
      (absent : node.reported = []) : Derives node (.error (.missingInternalIp node.name))
  | routes {network : Cidr} {routes : LocalRoutes} (pod : node.HasPodNetwork network)
      (read : ∀ text ∈ node.internalTexts, (Address.read? text).isSome = true)
      (found : node.reported ≠ []) (follows : routes.Follows network node.reported) :
      Derives node (.ok routes)

theorem localRoutes_of_derives {result : Except Fault LocalRoutes} (h : node.Derives result) :
    node.localRoutes = result := by
  cases h with
  | missingPodCidr unnamed =>
      rw [localRoutes, gateway_of_missing unnamed]
      rfl
  | malformedPodCidr named unread =>
      rw [localRoutes, gateway_of_malformed named unread]
      rfl
  | fullPodCidr named read full =>
      rw [localRoutes, gateway_of_full named read full]
      rfl
  | invalidAddress pod first =>
      obtain ⟨gateway, hgateway, -⟩ := exists_gateway pod
      rw [localRoutes, hgateway, internalAddresses_of_find? first]
      rfl
  | missingInternalIp pod read absent =>
      obtain ⟨gateway, hgateway, -⟩ := exists_gateway pod
      rw [localRoutes, hgateway, internalAddresses_of_forall read, if_pos absent]
      rfl
  | @routes network routes pod read found follows =>
      obtain ⟨gateway, hgateway, hnext, -⟩ := exists_gateway pod
      have hsame : gateway = routes.gateway :=
        BitVec.eq_of_toNat_eq (hnext.trans follows.next.symm)
      rw [localRoutes, hgateway, internalAddresses_of_forall read, if_neg found, hsame,
        ← follows.addresses]
      rfl

theorem exists_derives_routes (pod : node.HasPodNetwork network)
    (read : ∀ text ∈ node.internalTexts, (Address.read? text).isSome = true)
    (found : node.reported ≠ []) : ∃ routes, node.Derives (.ok routes) := by
  obtain ⟨gateway, -, next, inside, apart⟩ := exists_gateway pod
  exact ⟨⟨gateway, node.reported.eraseDups⟩,
    .routes pod read found ⟨next, inside, apart, rfl, rfl, rfl⟩⟩

theorem exists_derives (node : Node) : ∃ result, node.Derives result := by
  by_cases hnamed : ∃ text, node.NamesPodNetwork text
  · obtain ⟨text, hnamed⟩ := hnamed
    cases hread : Cidr.readAs .inet text with
    | error malformed => exact ⟨_, .malformedPodCidr hnamed hread⟩
    | ok network =>
        by_cases hroom : network.length ≤ 31
        · have hpod : node.HasPodNetwork network := ⟨text, hnamed, hread, hroom⟩
          cases hfirst : node.internalTexts.find? fun text => (Address.read? text).isNone with
          | some text => exact ⟨_, .invalidAddress hpod hfirst⟩
          | none =>
              have hparsed : ∀ text ∈ node.internalTexts, (Address.read? text).isSome = true := by
                intro text htext
                have hread := List.find?_eq_none.mp hfirst text htext
                rwa [Bool.not_eq_true, Option.isNone_eq_false_iff] at hread
              by_cases hreported : node.reported = []
              · exact ⟨_, .missingInternalIp hpod hparsed hreported⟩
              · obtain ⟨routes, hroutes⟩ := exists_derives_routes hpod hparsed hreported
                exact ⟨.ok routes, hroutes⟩
        · exact ⟨_, .fullPodCidr hnamed hread (Nat.lt_of_not_le hroom)⟩
  · exact ⟨_, .missingPodCidr fun text htext => hnamed ⟨text, htext⟩⟩

theorem localRoutes_eq_iff_derives {result : Except Fault LocalRoutes} :
    node.localRoutes = result ↔ node.Derives result := by
  refine ⟨?_, localRoutes_of_derives⟩
  rintro rfl
  obtain ⟨derived, hderives⟩ := node.exists_derives
  rwa [localRoutes_of_derives hderives]

/-- The routing of a node is what follows from it. It is found exactly for a node that names an
IPv4 pod network with room for a gateway, whose internal addresses all are addresses, at least one
of them IPv4. -/
theorem localRoutes_exact (node : Node) :
    (∀ result, node.localRoutes = result ↔ node.Derives result) ∧
      ((∃ routes, node.localRoutes = .ok routes) ↔
        (∃ network, node.HasPodNetwork network) ∧
          (∀ address ∈ node.addresses, address.purpose = "InternalIP" →
            (Address.read? address.text).isSome = true) ∧
          ∃ address ∈ node.addresses, address.purpose = "InternalIP" ∧
            ∃ ip, Address.read? address.text = some (.v4 ip)) := by
  refine ⟨fun _ => localRoutes_eq_iff_derives, ?_⟩
  simp only [localRoutes_eq_iff_derives]
  rw [← reported_ne_nil_iff]
  constructor
  · rintro ⟨routes, _ | _ | _ | _ | _ | ⟨pod, read, found, follows⟩⟩
    exact ⟨⟨_, pod⟩, fun address hmem hpurpose =>
      read _ (mem_internalTexts_iff.mpr ⟨address, hmem, hpurpose, rfl⟩), found⟩
  · rintro ⟨⟨network, pod⟩, read, found⟩
    refine exists_derives_routes pod (fun text htext => ?_) found
    obtain ⟨address, hmem, hpurpose, rfl⟩ := mem_internalTexts_iff.mp htext
    exact read address hmem hpurpose

end Node

end HostNet
