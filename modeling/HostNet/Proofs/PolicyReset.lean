import HostNet.Policy
import HostNet.Proofs.FeatureOutcome
import HostNet.Proofs.NodeRouting
/-!
Policy routing applied to a host and reset again. Main statement: whatever the settings and the
node's addresses, applying puts every rule and route in place once, and the restoring of marks once
into the shared inbound chain; resetting leaves the host as it was without them.
-/
namespace HostNet

namespace PolicyOptions

/-! ## What applying and resetting come to -/

def filterKey (options : PolicyOptions) : String :=
  "net.ipv4.conf." ++ options.hostDevice ++ ".rp_filter"

/-- The parameter that lets marks take part in reverse-path filtering. -/
def markKey : String := "net.ipv4.conf.all.src_valid_mark"

/-- What comes in from the pods' bridge is looked up in the table. -/
def bridgeRule (options : PolicyOptions) : Rule where
  family := .inet
  priority := some options.rulePriority
  table := options.table
  action := .lookup
  src := none
  dst := none
  iif := some options.gatewayDevice
  oif := none
  mark := none
  mask := none
  tos := 0
  inverted := false

/-- The rules of the feature: that of the bridge, and one for each address of the node. -/
def wantedRules (options : PolicyOptions) (routes : LocalRoutes) : List Rule :=
  options.bridgeRule :: routes.addresses.map LocalRoutes.ruleTo

/-- The routes of the feature: to the gateway of the pods on their bridge, and to everything else
through the host's gateway, if there is one. -/
def wantedRoutes (options : PolicyOptions) (routes : LocalRoutes) : List Route :=
  ⟨.host (.v4 routes.gateway), none, some options.gatewayDevice, options.table, some .link⟩ ::
    options.hostGateway.toList.map fun gateway =>
      ⟨⟨.v4 0#32, 0, Nat.zero_le 32⟩, some (.v4 gateway), some options.hostDevice, options.table,
        none⟩

def restoreMark : ChainRule :=
  ⟨["-m", "comment", "--comment", "nodenet policy routing", "-j", "CONNMARK", "--restore-mark"]⟩

/-- Policy routing is in place: each rule and each route once, and the restoring of marks once in
the inbound chain. -/
structure Applied (options : PolicyOptions) (routes : LocalRoutes) (memory : Memory) : Prop where
  loose : memory.sysctls.lookup options.filterKey = some "2"
  marked : memory.sysctls.lookup markKey = some "1"
  rules : ∀ wanted ∈ options.wantedRules routes, memory.rules.countP (·.same wanted) = 1
  routes : ∀ wanted ∈ options.wantedRoutes routes,
    (memory.routes.countP fun installed => installed.dst = wanted.dst ∧
      installed.table = wanted.table ∧ installed.gateway = wanted.gateway) = 1
  restored : ∃ inbound, memory.chain? ⟨"mangle", "PREROUTING"⟩ = some inbound ∧
    inbound.count restoreMark = 1

/-- Policy routing is gone: what was there before is left, but for its rules, its routes and the
restoring of marks, and its two parameters are off. -/
structure Reset (options : PolicyOptions) (routes : LocalRoutes) (before after : Memory) :
    Prop where
  strict : after.sysctls.lookup options.filterKey = some "1"
  unmarked : after.sysctls.lookup markKey = some "0"
  parameters : ∀ key, key ≠ options.filterKey → key ≠ markKey →
    after.sysctls.lookup key = before.sysctls.lookup key
  rules : after.rules = before.rules.filter fun installed =>
    ∀ wanted ∈ options.wantedRules routes, ¬ installed.same wanted = true
  routes : after.routes = before.routes.filter fun installed =>
    ∀ wanted ∈ options.wantedRoutes routes, ¬ (installed.dst = wanted.dst ∧
      installed.table = wanted.table ∧ installed.gateway = wanted.gateway)
  inbound : ∀ held, before.chain? ⟨"mangle", "PREROUTING"⟩ = some held →
    after.chain? ⟨"mangle", "PREROUTING"⟩ = some (held.filter fun rule => rule ≠ restoreMark)
  chains : ∀ target, target ≠ ⟨"mangle", "PREROUTING"⟩ → after.chain? target = before.chain? target

variable {options : PolicyOptions} {routes : LocalRoutes}

/-! ## Members -/

theorem sysctl_mem_configs_iff {config : SysctlConfig} :
    .sysctl config ∈ (options.feature routes).configs ↔
      config = options.looseFilter ∨ config = markedFilter := by
  simp [feature]

theorem chain_mem_configs_iff {config : ChainConfig} :
    .chain config ∈ (options.feature routes).configs ↔ config = markRestore := by
  simp [feature]

theorem rule_mem_configs_iff {wanted : Rule} :
    .rule wanted ∈ (options.feature routes).configs ↔
      wanted = options.tableRule ∨ wanted ∈ routes.rules := by
  simp [feature]

theorem route_mem_configs_iff {wanted : Route} :
    .route wanted ∈ (options.feature routes).configs ↔ wanted ∈ options.wantedRoutes routes := by
  have hgateway : options.wantedRoutes routes = options.gatewayRoute routes ::
      options.hostGateway.toList.map options.defaultRoute := rfl
  rw [hgateway]
  cases hnext : options.hostGateway with
  | none => simp [feature, hnext]
  | some gateway => simp [feature, hnext]

theorem rule_mem_configs_iff_wanted {wanted : Rule} :
    .rule wanted ∈ (options.feature routes).configs ↔ wanted ∈ options.wantedRules routes := by
  have hrules : options.wantedRules routes = options.tableRule :: routes.rules := rfl
  rw [rule_mem_configs_iff, hrules, List.mem_cons]

theorem looseFilter_key_ne (options : PolicyOptions) :
    options.looseFilter.key ≠ markedFilter.key := by
  intro h
  -- the two keys end in different letters, whatever the interface is called
  have hloose : options.looseFilter.key.toList.getLast? = some 'r' := by
    change ("net.ipv4.conf." ++ options.hostDevice ++ ".rp_filter").toList.getLast? = some 'r'
    rw [String.toList_append, List.getLast?_append]
    rfl
  have hmarked : markedFilter.key.toList.getLast? = some 'k' := rfl
  rw [h, hmarked] at hloose
  exact absurd hloose (by decide)

theorem keys_feature (options : PolicyOptions) (routes : LocalRoutes) :
    (options.feature routes).keys = [options.looseFilter.key, markedFilter.key] := by
  simp [Feature.keys, feature]

theorem nodup_keys (options : PolicyOptions) (routes : LocalRoutes) :
    (options.feature routes).keys.Nodup := by
  rw [keys_feature, List.nodup_cons, List.mem_singleton]
  exact ⟨options.looseFilter_key_ne, List.nodup_singleton _⟩

theorem settable_feature {memory : Memory}
    (hloose : (memory.sysctls.lookup options.looseFilter.key).isSome = true)
    (hmarked : (memory.sysctls.lookup markedFilter.key).isSome = true) :
    (options.feature routes).Settable memory := by
  intro config hconfig
  cases config with
  | sysctl config =>
      rcases sysctl_mem_configs_iff.mp hconfig with rfl | rfl
      · exact hloose
      · exact hmarked
  | _ => trivial

/-! ## The shared chain -/

theorem shares_inboundChain (target : Chain) : (options.feature routes).Shares target := by
  intro config hconfig _
  rw [chain_mem_configs_iff.mp hconfig]
  rfl

/-! ## Applying and resetting -/

theorem foreignRoute_feature (installed : Route) :
    (options.feature routes).foreignRoute installed =
      decide (∀ wanted ∈ options.wantedRoutes routes, ¬ (installed.dst = wanted.dst ∧
        installed.table = wanted.table ∧ installed.gateway = wanted.gateway)) := by
  rw [Bool.eq_iff_iff, decide_eq_true_iff, Feature.foreignRoute_iff]
  simp only [route_mem_configs_iff, Route.samePlace_iff]

theorem foreignRule_feature (installed : Rule) :
    (options.feature routes).foreignRule installed =
      decide (∀ wanted ∈ options.wantedRules routes, ¬ installed.same wanted = true) := by
  rw [Bool.eq_iff_iff, decide_eq_true_iff, Feature.foreignRule_iff]
  simp only [rule_mem_configs_iff_wanted]

theorem foreignChainRule_feature (installed : ChainRule) :
    (options.feature routes).foreignChainRule inboundChain installed =
      decide (installed ≠ restoreMark) := by
  rw [Bool.eq_iff_iff, decide_eq_true_iff, Feature.foreignChainRule_iff]
  simp only [chain_mem_configs_iff, forall_eq]
  rw [ne_eq, not_iff_not]
  exact ⟨fun h => List.mem_singleton.mp h.2, fun h => ⟨rfl, List.mem_singleton.mpr h⟩⟩

theorem applied_of_inPlace {memory : Memory} (h : (options.feature routes).InPlace memory) :
    options.Applied routes memory where
  loose := h.sysctls options.looseFilter (sysctl_mem_configs_iff.mpr (Or.inl rfl))
  marked := h.sysctls markedFilter (sysctl_mem_configs_iff.mpr (Or.inr rfl))
  rules wanted hwanted := h.rules wanted (rule_mem_configs_iff_wanted.mpr hwanted)
  routes wanted hwanted := by
    rw [← h.routes wanted (route_mem_configs_iff.mpr hwanted)]
    apply List.countP_congr
    intro installed _
    rw [decide_eq_true_iff, Route.samePlace_iff]
  restored := by
    obtain ⟨inbound, hinbound, hcount⟩ := h.chains markRestore (chain_mem_configs_iff.mpr rfl)
    exact ⟨inbound, hinbound, hcount restoreMark (List.mem_singleton.mpr rfl)⟩

theorem reset_of_withdrawn {before after : Memory}
    (h : (options.feature routes).Withdrawn before after) :
    options.Reset routes before after where
  strict := h.sysctls options.looseFilter (sysctl_mem_configs_iff.mpr (Or.inl rfl))
  unmarked := h.sysctls markedFilter (sysctl_mem_configs_iff.mpr (Or.inr rfl))
  parameters key hloose hmarked := by
    apply h.otherSysctls
    rw [Feature.foreignKey_iff]
    intro member hmember heq
    rcases sysctl_mem_configs_iff.mp hmember with rfl | rfl
    · exact hloose heq.symm
    · exact hmarked heq.symm
  rules := by
    rw [h.rules]
    exact List.filter_congr fun installed _ => foreignRule_feature installed
  routes := by
    rw [h.routes]
    exact List.filter_congr fun installed _ => foreignRoute_feature installed
  inbound held hheld := by
    refine (h.shared markRestore (chain_mem_configs_iff.mpr rfl)
      (shares_inboundChain inboundChain) held hheld).trans (congrArg some ?_)
    exact List.filter_congr fun installed _ => foreignChainRule_feature installed
  chains target htarget := by
    apply h.otherChains
    rw [Feature.foreignChain_iff]
    intro member hmember heq
    rw [chain_mem_configs_iff.mp hmember] at heq
    exact htarget heq.symm

/-- On a quiet host that has the two parameters, applying the feature succeeds and puts everything
in place. Resetting it then succeeds and leaves the host of before, without what belongs to the
feature and with its two parameters off. -/
theorem apply_then_reset (options : PolicyOptions) (routes : LocalRoutes) (drill : Drill)
    (hquiet : drill.Quiet) (horderly : drill.memory.Orderly)
    (hloose : (drill.memory.sysctls.lookup options.filterKey).isSome = true)
    (hmarked : (drill.memory.sysctls.lookup markKey).isSome = true) :
    let feature := options.feature routes
    let applied := (feature.ensure true).run Drill.host drill
    let reset := (feature.ensure false).run Drill.host applied.2
    applied.1 = .ok () ∧ options.Applied routes applied.2.memory ∧
      reset.1 = .ok () ∧ options.Reset routes drill.memory reset.2.memory := by
  obtain ⟨happlied, hinPlace, hreset, hwithdrawn⟩ := Feature.enable_then_disable
    (options.nodup_keys routes) hquiet horderly (settable_feature hloose hmarked)
  exact ⟨happlied, applied_of_inPlace hinPlace, hreset, reset_of_withdrawn hwithdrawn⟩

/-- A host with an instance of the table's rule at another priority, a second one of a node
address's, and the mark restored before other rules: all of it is gone after a reset, and the rule
of a VPN, the main default route and the other chain rule are still there. -/
theorem apply_then_reset_leftovers :
    let node : Node := ⟨"node-1", some "10.124.0.0/16", [],
      [⟨"InternalIP", "10.128.0.24"⟩, ⟨"InternalIP", "10.128.0.25"⟩]⟩
    let gateway : Ipv4 := 0x0a800001#32
    let options := { standard with hostGateway := some gateway }
    let routes : LocalRoutes := ⟨0x0a7c0001#32, [0x0a800018#32, 0x0a800019#32]⟩
    let local24 := LocalRoutes.ruleTo 0x0a800018#32
    let vpn := ((Rule.ofFamily .inet).withPriority 100).withMark 51820
    let main := ((Route.toDestination everywhere).via (.v4 gateway)).onDevice "eth0"
    let accept : ChainRule := ⟨["-j", "ACCEPT"]⟩
    let before : Memory :=
      ⟨[("net.ipv4.conf.eth0.rp_filter", "0"), ("net.ipv4.ip_forward", "1"),
          ("net.ipv4.conf.all.src_valid_mark", "0")],
        [main, options.gatewayRoute routes],
        [options.bridgeRule.withPriority 29999, vpn, local24, local24.withPriority 40000],
        [(⟨"mangle", "PREROUTING"⟩, [restoreMark, accept]), (⟨"nat", "OUTPUT"⟩, [accept])]⟩
    let feature := options.feature routes
    let applied := (feature.ensure true).run Drill.host (Drill.ofMemory before)
    let reset := (feature.ensure false).run Drill.host applied.2
    node.localRoutes = .ok routes ∧ (Drill.ofMemory before).Quiet ∧ before.Orderly ∧
      (before.sysctls.lookup options.filterKey).isSome = true ∧
      (before.sysctls.lookup markKey).isSome = true ∧
      applied.1 = .ok () ∧ options.Applied routes applied.2.memory ∧
      reset.1 = .ok () ∧ reset.2.memory.rules = [vpn] ∧ reset.2.memory.routes = [main] ∧
      reset.2.memory.chain? ⟨"mangle", "PREROUTING"⟩ = some [accept] ∧
      reset.2.memory.sysctls.lookup options.filterKey = some "1" := by
  intro node gateway options routes local24 vpn main accept before
  have hnode : node.localRoutes = .ok routes := by decide +kernel
  have horderly : before.Orderly := by
    refine ⟨by decide, by decide, ?_⟩
    intro chain rules hrules
    have hall : ∀ entry ∈ before.chains, entry.2.Nodup := by decide +kernel
    obtain ⟨front, back, hchains, -⟩ := List.lookup_eq_some_iff.mp hrules
    exact hall (chain, rules) (by simp [hchains])
  have hloose : (before.sysctls.lookup options.filterKey).isSome = true := by decide +kernel
  have hmarked : (before.sysctls.lookup markKey).isSome = true := by decide +kernel
  obtain ⟨happlied, hplace, hreset, hgone⟩ := apply_then_reset options routes
    (Drill.ofMemory before) ⟨rfl, rfl⟩ horderly hloose hmarked
  refine ⟨hnode, ⟨rfl, rfl⟩, horderly, hloose, hmarked, happlied, hplace, hreset, ?_, ?_, ?_,
    hgone.strict⟩
  · rw [hgone.rules]
    decide +kernel
  · rw [hgone.routes]
    decide +kernel
  · rw [hgone.inbound [restoreMark, accept] (by decide +kernel)]
    decide +kernel

end PolicyOptions

end HostNet
