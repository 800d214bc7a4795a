import HostNet.Proofs.FeatureOutcome
import HostNet.Proofs.FilterRefinement
/-!
The life of one chain on a host without failures. Enabling keeps what the chain holds and appends
what it lacks; disabling removes a chain of our own whole, and takes only our rules out of a
built-in one. Main statement: what the chain holds afterwards, and that at no point of the pass is
anything else touched or a rule held twice.
-/
namespace HostNet

open Pass

namespace Memory

/-- No chain holds a rule twice. -/
def Unrepeated (memory : Memory) : Prop :=
  ∀ chain rules, memory.chain? chain = some rules → rules.Nodup

/-- Nothing differs but the chain. -/
structure SameBut (chain : Chain) (before after : Memory) : Prop where
  sysctls : after.sysctls = before.sysctls
  routes : after.routes = before.routes
  rules : after.rules = before.rules
  chains : ∀ other, other ≠ chain → after.chain? other = before.chain? other

variable {memory : Memory}

theorem Unrepeated.host (h : memory.Unrepeated) (c : Call) :
    (Memory.host c memory).2.Unrepeated := by
  intro chain
  rw [host_chain?]
  exact Call.onChain_nodup (h chain)

/-- A call on a chain changes nothing but that chain. -/
theorem SameBut.host {before : Memory} {chain : Chain} (h : before.SameBut chain memory) {c : Call}
    (hc : c.chain? = some chain) : before.SameBut chain (Memory.host c memory).2 where
  sysctls := by
    rw [host_sysctls, ← h.sysctls]
    cases c <;> first | rfl | cases hc
  routes := by
    rw [host_routes, ← h.routes]
    cases c <;> first | rfl | cases hc
  rules := by
    rw [host_rules, ← h.rules]
    cases c <;> first | rfl | cases hc
  chains := by
    intro other hother
    rw [host_chain?, Call.onChain_of_ne hc hother, h.chains other hother]

end Memory

theorem Config.MayMake.chain? {config : ChainConfig} {enabled : Bool} {c : Call}
    (h : (Config.chain config).MayMake enabled c) : c.chain? = some config.chain := by
  cases c with
  | newChain target => exact congrArg some h.2
  | clearChain target => exact congrArg some h.2.2
  | deleteChain target => exact congrArg some h.2.2
  | appendUnique target rule => exact congrArg some h.2.1
  | deleteRule target rule => exact congrArg some h.2.2.1
  | _ => exact h.elim

namespace ChainConfig

/-- What the chain holds after a pass, from what it held before. -/
def content (config : ChainConfig) :
    (enabled : Bool) → Option (List ChainRule) → Option (List ChainRule)
  | true, before =>
    let held := before.getD []
    some (held ++ (config.rules.filter fun rule => !held.contains rule).eraseDups)
  | false, before =>
    if config.builtIn then
      before.map fun held => held.filter fun rule => !config.rules.contains rule
    else none

variable {chain : Chain} {memory : Memory}

/-! ## Appending -/

theorem chain?_appends (rules : List ChainRule) {held : List ChainRule}
    (h : memory.chain? chain = some held) :
    ((inOrder (rules.map fun rule => attempt (.appendUnique chain rule) id)).run
        Memory.host memory).2.chain? chain =
      some (held ++ (rules.filter fun rule => !held.contains rule).eraseDups) := by
  induction rules generalizing memory held with
  | nil =>
      rw [List.filter_nil, List.eraseDups_nil, List.append_nil]
      exact h
  | cons rule rules ih =>
      have hok : ((attempt (.appendUnique chain rule) id).run Memory.host memory).1 = .ok () := by
        change (memory.appendUnique chain rule).1 = .ok ()
        rw [Memory.appendUnique, h]
        simp only
        split <;> rfl
      have hafter : (Memory.host (.appendUnique chain rule) memory).2.chain? chain =
          some (if held.contains rule then held else held ++ [rule]) := by
        rw [Memory.host_chain?, Call.onChain, if_pos rfl, h]
        rfl
      rw [List.map_cons, inOrder, run_andThen_of_ok hok]
      refine (ih hafter).trans ?_
      cases hheld : held.contains rule with
      | true =>
          have hskip : ((rule :: rules).filter fun other => !held.contains other) =
              rules.filter fun other => !held.contains other :=
            List.filter_cons_of_neg (by rw [hheld, Bool.not_true]; exact Bool.false_ne_true)
          rw [if_pos rfl, hskip]
      | false =>
          rw [if_neg Bool.false_ne_true, eraseDups_lacking_cons hheld, List.append_assoc,
            List.singleton_append]

theorem chain?_enable (config : ChainConfig) (memory : Memory) :
    (config.enable.run Memory.host memory).2.chain? config.chain =
      config.content true (memory.chain? config.chain) := by
  have hnew : ((attempt (.newChain config.chain) (tolerate Fault.isAlreadyExists)).run
      Memory.host memory).1 = .ok () := memory.tolerate_newChain config.chain
  have hthere : (Memory.host (.newChain config.chain) memory).2.chain? config.chain =
      some ((memory.chain? config.chain).getD []) := by
    rw [Memory.host_chain?, Call.onChain, if_pos rfl]
  rw [enable, run_andThen_of_ok hnew]
  exact chain?_appends config.rules hthere

/-! ## Deleting -/

/-- A rule that is held once is gone when it is deleted, so that each further delete of it finds
nothing. -/
theorem chain?_deletes (rules : List ChainRule)
    (hnodup : ∀ held, memory.chain? chain = some held → held.Nodup) :
    ((inOrder (rules.map fun rule =>
        attempt (.deleteRule chain rule) (tolerate Fault.isNotFound))).run
          Memory.host memory).2.chain? chain =
      (memory.chain? chain).map fun held => held.filter fun rule => !rules.contains rule := by
  induction rules generalizing memory with
  | nil =>
      change memory.chain? chain = _
      simp
  | cons rule rules ih =>
      have hok : ((attempt (.deleteRule chain rule) (tolerate Fault.isNotFound)).run
          Memory.host memory).1 = .ok () := memory.tolerate_deleteRule chain rule
      have hafter : (Memory.host (.deleteRule chain rule) memory).2.chain? chain =
          (memory.chain? chain).map fun held => held.erase rule := by
        rw [Memory.host_chain?, Call.onChain, if_pos rfl]
      have hnodup' : ∀ held, (Memory.host (.deleteRule chain rule) memory).2.chain? chain =
          some held → held.Nodup := by
        rw [Memory.host_chain?]
        exact Call.onChain_nodup hnodup
      rw [List.map_cons, inOrder, run_andThen_of_ok hok]
      refine (ih hnodup').trans ?_
      rw [hafter]
      cases hheld : memory.chain? chain with
      | none => rfl
      | some held =>
          rw [Option.map_some, Option.map_some, Option.map_some,
            (hnodup held hheld).erase_eq_filter, List.filter_filter]
          congr 1
          apply List.filter_congr
          intro other _
          rw [List.contains_cons, Bool.not_or, Bool.and_comm]
          rfl

/-! ## Whole passes -/

theorem chain?_ensure (config : ChainConfig) (enabled : Bool)
    (hunrepeated : memory.Unrepeated) :
    ((config.ensure enabled).run Memory.host memory).2.chain? config.chain =
      config.content enabled (memory.chain? config.chain) := by
  cases enabled with
  | true => exact config.chain?_enable memory
  | false =>
      rw [ensure, if_neg Bool.false_ne_true, content]
      split
      · exact chain?_deletes config.rules (hunrepeated config.chain)
      · rw [run_remove]
        exact Memory.chain?_without memory config.chain

/-- A pass on a host without planned failures that holds no rule of a chain twice succeeds. What
the chain holds afterwards follows from what it held before, and at no stage of the pass is another
chain or table changed, or any rule of a chain held twice. -/
theorem ensure_lifecycle (config : ChainConfig) (enabled : Bool) {drill : Drill}
    (hquiet : drill.Quiet) (hunrepeated : drill.memory.Unrepeated) :
    let result := (config.ensure enabled).run Drill.host drill
    let stages := (config.ensure enabled).stages Drill.host drill
    result.1 = .ok () ∧
      result.2.memory.chain? config.chain =
        config.content enabled (drill.memory.chain? config.chain) ∧
      result.2 ∈ stages ∧
      ∀ stage ∈ stages, drill.memory.SameBut config.chain stage.memory ∧
        stage.memory.Unrepeated := by
  intro result stages
  have hresult : result = _ := Drill.run_of_quiet (config.ensure enabled) hquiet
  refine ⟨?_, ?_, run_mem_stages _ drill, ?_⟩
  · rw [hresult]
    exact config.run_ensure_ok enabled drill.memory
  · rw [hresult]
    exact config.chain?_ensure enabled hunrepeated
  · have hstep : ∀ (c : Call) (stage : Drill), (Config.chain config).MayMake enabled c →
        drill.memory.SameBut config.chain stage.memory ∧ stage.memory.Unrepeated →
          drill.memory.SameBut config.chain (Drill.host c stage).2.memory ∧
            (Drill.host c stage).2.memory.Unrepeated := by
      rintro c stage hc ⟨hsame, hnodup⟩
      -- a planned failure changes nothing, so it need not be excluded here
      rcases (Drill.host_cases stage.plans_true c).2.2 with ⟨-, -, -, hkept⟩ | ⟨-, hmoved⟩
      · rw [hkept]
        exact ⟨hsame, hnodup⟩
      · rw [hmoved]
        exact ⟨hsame.host hc.chain?, hnodup.host c⟩
    exact Makes.forall_stages hstep ((Config.chain config).makes_ensure enabled)
      ⟨⟨rfl, rfl, rfl, fun _ _ => rfl⟩, hunrepeated⟩

/-- The declared rules name one rule twice and one that is there already: both are left out. -/
theorem ensure_lifecycle_repeated :
    let chain : Chain := ⟨"nat", "HOST-MASQ"⟩
    let a : ChainRule := ⟨["-o", "eth0", "-j", "MASQUERADE"]⟩
    let b : ChainRule := ⟨["-d", "10.0.0.0/8", "-j", "RETURN"]⟩
    let c : ChainRule := ⟨["-d", "192.168.0.0/16", "-j", "RETURN"]⟩
    let drill := Drill.ofMemory ⟨[], [], [], [(chain, [a, b])]⟩
    let result := ((ChainConfig.mk chain false [c, b, c]).ensure true).run Drill.host drill
    drill.Quiet ∧ drill.memory.Unrepeated ∧ result.1 = .ok () ∧
      result.2.memory.chain? chain = some [a, b, c] := by
  intro chain a b c drill result
  have hquiet : drill.Quiet := ⟨rfl, rfl⟩
  have hunrepeated : drill.memory.Unrepeated := by
    intro other rules hrules
    change [(chain, [a, b])].lookup other = some rules at hrules
    rw [Memory.lookup_cons_ite] at hrules
    split at hrules
    · cases hrules
      decide
    · cases hrules
  obtain ⟨hok, hcontent, -⟩ := ensure_lifecycle (.mk chain false [c, b, c]) true hquiet hunrepeated
  refine ⟨hquiet, hunrepeated, hok, hcontent.trans ?_⟩
  decide

end ChainConfig

end HostNet
