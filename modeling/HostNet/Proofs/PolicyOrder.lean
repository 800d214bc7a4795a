import HostNet.Proofs.PolicyReset
import HostNet.Proofs.Survivors
/-!
Which of the rules of policy routing is looked up first. A pass keeps an instance that it finds
under another priority, so the node's addresses come ahead of the table only as far as the
instances left from before allow. Main statement: the order after a pass is that of the survivors,
and it is the wanted one where every rule stood at its own priority or nowhere.
-/
namespace HostNet

namespace PolicyOptions

/-- Every instance of a rule for a node address is looked up ahead of every instance of the rule
that selects the table. -/
def AddressesFirst (options : PolicyOptions) (routes : LocalRoutes) (installed : List Rule) :
    Prop :=
  ∀ address ∈ routes.rules, ∀ first ∈ installed, first.same address = true →
    ∀ second ∈ installed, second.same options.tableRule = true → first.precedes second = true

variable {options : PolicyOptions} {routes : LocalRoutes}

/-! ## Rules of the feature -/

/-- The feature has no two rules of one shape. -/
theorem eq_of_same {wanted next : Rule}
    (hwanted : .rule wanted ∈ (options.feature routes).configs)
    (hnext : .rule next ∈ (options.feature routes).configs) (hsame : next.same wanted = true) :
    next = wanted := by
  have hshape := Rule.same_iff.mp hsame
  have hdst : next.dst = wanted.dst := (congrArg Rule.dst hshape :)
  have hiif : next.iif = wanted.iif := (congrArg Rule.iif hshape :)
  rcases rule_mem_configs_iff.mp hwanted with rfl | hwanted <;>
    rcases rule_mem_configs_iff.mp hnext with rfl | hnext
  · rfl
  · obtain ⟨address, -, rfl⟩ := List.mem_map.mp hnext
    cases hiif
  · obtain ⟨address, -, rfl⟩ := List.mem_map.mp hwanted
    cases hiif
  · obtain ⟨address, -, rfl⟩ := List.mem_map.mp hwanted
    obtain ⟨other, -, rfl⟩ := List.mem_map.mp hnext
    change { LocalRoutes.localRule address with dst := (LocalRoutes.localRule other).dst } = _
    rw [hdst]

theorem precedes_of_priority {first second : Rule} {priority other : UInt32}
    (hfirst : first.priority = some priority) (hsecond : second.priority = some other)
    (hlt : priority < other) : first.precedes second = true := by
  rw [Rule.precedes, hfirst, hsecond]
  exact decide_eq_true hlt

theorem addressesFirst_iff {before after : List Rule}
    (hafter : ∀ wanted, .rule wanted ∈ (options.feature routes).configs →
      after.filter (·.same wanted) = [wanted.survivor before]) :
    options.AddressesFirst routes after ↔ ∀ address ∈ routes.rules,
      (address.survivor before).precedes (options.tableRule.survivor before) = true := by
  have hinstance : ∀ wanted, .rule wanted ∈ (options.feature routes).configs → ∀ installed,
      installed ∈ after ∧ installed.same wanted = true ↔ installed = wanted.survivor before := by
    intro wanted hwanted installed
    have hfilter : installed ∈ after.filter (·.same wanted) ↔
        installed ∈ after ∧ installed.same wanted = true := List.mem_filter
    rw [← hfilter, hafter wanted hwanted, List.mem_singleton]
  have htable := hinstance _ (rule_mem_configs_iff.mpr (Or.inl rfl))
  constructor
  · intro hall address haddress
    have hlocal := hinstance _ (rule_mem_configs_iff.mpr (Or.inr haddress))
    obtain ⟨hfirst, hsame⟩ := (hlocal _).mpr rfl
    obtain ⟨hsecond, hsame'⟩ := (htable _).mpr rfl
    exact hall address haddress _ hfirst hsame _ hsecond hsame'
  · intro hall address haddress first hfirst hsame second hsecond hsame'
    have hlocal := hinstance _ (rule_mem_configs_iff.mpr (Or.inr haddress))
    rw [(hlocal first).mp ⟨hfirst, hsame⟩, (htable second).mp ⟨hsecond, hsame'⟩]
    exact hall address haddress

/-! ## The order after a pass -/

/-- An enabling pass that succeeds leaves one instance of each rule of the feature, the survivor of
those before. The node's addresses come first exactly if the survivors stand in that order; so they
do if each rule stood at its own priority before, among others or not, or nowhere. -/
theorem addresses_first (options : PolicyOptions) (routes : LocalRoutes) (drill : Drill)
    (hquiet : drill.Quiet)
    (hprio : ∀ installed ∈ drill.memory.rules, installed.priority.isSome = true)
    (hpriority : LocalRoutes.rulePriority < options.rulePriority)
    (hok : (((options.feature routes).ensure true).run Drill.host drill).1 = .ok ()) :
    let before := drill.memory.rules
    let after := (((options.feature routes).ensure true).run Drill.host drill).2.memory.rules
    (∀ wanted, wanted = options.tableRule ∨ wanted ∈ routes.rules →
        after.filter (·.same wanted) = [wanted.survivor before]) ∧
      (options.AddressesFirst routes after ↔ ∀ address ∈ routes.rules,
        (address.survivor before).precedes (options.tableRule.survivor before) = true) ∧
      ((∀ wanted, wanted = options.tableRule ∨ wanted ∈ routes.rules → wanted.Home before) →
        options.AddressesFirst routes after) := by
  intro before after
  have hrun := Drill.run_of_quiet ((options.feature routes).ensure true) hquiet
  have hrules : after =
      (((options.feature routes).ensure true).run Memory.host drill.memory).2.rules :=
    congrArg (fun result => result.2.memory.rules) hrun
  rw [hrun] at hok
  have hafter : ∀ wanted, .rule wanted ∈ (options.feature routes).configs →
      after.filter (·.same wanted) = [wanted.survivor before] := by
    intro wanted hwanted
    rw [hrules]
    exact Feature.filter_same_of_run hwanted (fun next hnext => eq_of_same hwanted hnext) hprio hok
  have hiff := addressesFirst_iff hafter
  refine ⟨fun wanted hwanted => hafter wanted (rule_mem_configs_iff.mpr hwanted), hiff, ?_⟩
  intro hhome
  rw [hiff]
  intro address haddress
  have hlocal : address.priority = some LocalRoutes.rulePriority := by
    obtain ⟨node, -, rfl⟩ := List.mem_map.mp haddress
    rfl
  exact precedes_of_priority (Rule.survivor_priority hlocal (hhome address (Or.inr haddress)))
    (Rule.survivor_priority rfl (hhome options.tableRule (Or.inl rfl))) hpriority

/-- The rule of one node address is there at its own priority and at a later one; the other's is
not there, and neither is the table's but for one of another interface. Both addresses come first
afterwards. -/
theorem addresses_first_duplicate :
    let routes : LocalRoutes := ⟨0x0a7c0001#32, [0x0a800018#32, 0x0a800019#32]⟩
    let local24 := LocalRoutes.localRule 0x0a800018#32
    let before : Memory :=
      ⟨[("net.ipv4.conf.eth0.rp_filter", "1"), ("net.ipv4.conf.all.src_valid_mark", "0")], [],
        [local24, standard.tableRule.onInput "docker0", local24.withPriority 40000],
        [(inboundChain, [])]⟩
    let drill := Drill.ofMemory before
    let applied := ((standard.feature routes).ensure true).run Drill.host drill
    drill.Quiet ∧ (∀ installed ∈ before.rules, installed.priority.isSome = true) ∧
      LocalRoutes.rulePriority < standard.rulePriority ∧ applied.1 = .ok () ∧
      (∀ wanted, wanted = standard.tableRule ∨ wanted ∈ routes.rules →
        wanted.Home before.rules) ∧
      standard.AddressesFirst routes applied.2.memory.rules := by
  intro routes local24 before drill
  have hprio : ∀ installed ∈ before.rules, installed.priority.isSome = true := by decide
  have hok : (((standard.feature routes).ensure true).run Drill.host drill).1 = .ok () := by
    decide +kernel
  have hhome : ∀ wanted, wanted = standard.tableRule ∨ wanted ∈ routes.rules →
      wanted.Home before.rules := by
    have hall : ∀ wanted ∈ standard.tableRule :: routes.rules,
        before.rules.countP (·.same wanted) = 0 ∨
          ∃ installed ∈ before.rules, installed.same wanted = true ∧
            wanted.prefers installed = true := by
      decide +kernel
    exact fun wanted hwanted => hall wanted (List.mem_cons.mpr hwanted)
  have hlt : LocalRoutes.rulePriority < standard.rulePriority := by decide
  obtain ⟨-, -, hfirst⟩ := addresses_first standard routes drill ⟨rfl, rfl⟩ hprio hlt hok
  exact ⟨⟨rfl, rfl⟩, hprio, hlt, hok, hhome, hfirst hhome⟩

/-- A single rule for the node's address, left behind under a later priority than the table's, is
kept there: the pass succeeds and the table is looked up ahead of the address. -/
theorem not_addresses_first_of_leftover :
    let node : Node := ⟨"test-node", some "10.124.0.0/16", [], [⟨"InternalIP", "10.128.0.24"⟩]⟩
    let routes : LocalRoutes := ⟨0x0a7c0001#32, [0x0a800018#32]⟩
    let leftover := (LocalRoutes.localRule 0x0a800018#32).withPriority 40000
    let before : Memory :=
      ⟨[("net.ipv4.conf.eth0.rp_filter", "1"), ("net.ipv4.conf.all.src_valid_mark", "0")], [],
        [leftover], [(inboundChain, [])]⟩
    let drill := Drill.ofMemory before
    let applied := ((standard.feature routes).ensure true).run Drill.host drill
    node.localRoutes = .ok routes ∧ drill.Quiet ∧
      (∀ installed ∈ before.rules, installed.priority.isSome = true) ∧
      LocalRoutes.rulePriority < standard.rulePriority ∧ applied.1 = .ok () ∧
      applied.2.memory.rules = [leftover, standard.tableRule] ∧
      ¬ standard.AddressesFirst routes applied.2.memory.rules := by
  intro node routes leftover before drill applied
  have hrules : applied.2.memory.rules = [leftover, standard.tableRule] := by decide +kernel
  refine ⟨by decide +kernel, ⟨rfl, rfl⟩, by decide, by decide, by decide +kernel, hrules, ?_⟩
  rw [hrules]
  intro hfirst
  have hprecedes := hfirst (LocalRoutes.localRule 0x0a800018#32) List.mem_cons_self leftover
    List.mem_cons_self rfl standard.tableRule (by decide) (Rule.same_refl _)
  exact absurd hprecedes (by decide)

end PolicyOptions

end HostNet
