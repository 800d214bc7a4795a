import HostNet.Proofs.ConfigCalls
/-!
The direction of single calls. Enabling only creates, adds and appends, but for extra instances of
a rule; disabling only deletes. Main statements: what one direction has brought about, no call of
that direction takes away again.
-/
namespace HostNet

/-- The call is one of a pass in the direction: it does not remove routes, chains or their rules
when enabling, and does not bring any about, nor rules, when disabling. -/
def Call.Towards (enabled : Bool) : Call → Prop
  | addRoute _ => enabled = true
  | addRule _ => enabled = true
  | newChain _ => enabled = true
  | appendUnique _ _ => enabled = true
  | delRoute _ => enabled = false
  | clearChain _ => enabled = false
  | deleteChain _ => enabled = false
  | deleteRule _ _ => enabled = false
  | _ => True

theorem Config.MayMake.towards {config : Config} {enabled : Bool} {c : Call}
    (h : config.MayMake enabled c) : c.Towards enabled := by
  cases config with
  | sysctl config => cases c <;> trivial
  | route wanted => cases c <;> first | exact h.1 | exact h.elim
  | rule wanted => cases c <;> first | exact h.1 | trivial
  | chain config => cases c <;> first | exact h.1 | exact h.elim

namespace Memory

/-- The chain is there and holds the rule. -/
def Holds (memory : Memory) (chain : Chain) (rule : ChainRule) : Prop :=
  ∃ rules, memory.chain? chain = some rules ∧ rule ∈ rules

variable {c : Call} {memory : Memory}

/-- No call makes a parameter or removes one. -/
theorem lookup_isSome_host (key : String) :
    ((host c memory).2.sysctls.lookup key).isSome = (memory.sysctls.lookup key).isSome := by
  rw [host_sysctls]
  cases c with
  | setSysctl written value => exact lookup_replace_isSome written key value memory.sysctls
  | _ => rfl

theorem any_samePlace_host {enabled : Bool} {route : Route} (hc : c.Towards enabled)
    (h : memory.routes.any (·.samePlace route) = enabled) :
    (host c memory).2.routes.any (·.samePlace route) = enabled := by
  rw [host_routes]
  cases c with
  | addRoute added =>
      have hadded : enabled = true := hc
      subst hadded
      rw [Call.onRoutes]
      split
      · exact h
      · rw [List.any_append, h, Bool.true_or]
  | delRoute victim =>
      have hdeleted : enabled = false := hc
      subst hdeleted
      rw [List.any_eq_false] at h ⊢
      exact fun other hother => h other (List.mem_of_mem_eraseP hother)
  | _ => exact h

theorem countP_same_host_of_zero {rule : Rule} (hc : c.Towards false)
    (h : memory.rules.countP (·.same rule) = 0) :
    (host c memory).2.rules.countP (·.same rule) = 0 := by
  rw [host_rules]
  cases c with
  | addRule added => exact absurd hc Bool.false_ne_true
  | delRule victim =>
      rw [List.countP_eq_zero] at h ⊢
      exact fun other hother => h other (List.mem_of_mem_eraseP hother)
  | _ => exact h

/-- Members of another shape leave the number of instances as it is. -/
theorem countP_same_host {config : Config} {enabled : Bool} {rule : Rule}
    (hmay : config.MayMake enabled c)
    (hother : ∀ next, config = .rule next → next.same rule = false) :
    (host c memory).2.rules.countP (·.same rule) = memory.rules.countP (·.same rule) := by
  rw [host_rules]
  cases c with
  | addRule added =>
      cases config with
      | rule next =>
          obtain ⟨-, rfl⟩ := hmay
          have hnot : (installedForm added).same rule = false := by
            rw [Rule.same_comm, Rule.same_congr (same_installedForm added), Rule.same_comm,
              hother added rfl]
          rw [Call.onRules]
          split
          · rfl
          · rw [List.countP_append, List.countP_singleton, hnot]
            rfl
      | _ => exact hmay.elim
  | delRule victim =>
      cases config with
      | rule next =>
          rw [List.countP_eq_length_filter, List.countP_eq_length_filter, Call.onRules,
            filter_eraseP]
          intro installed _ hmatch
          have hvictim : installed.same next = true :=
            Rule.same_trans (same_of_ruleMatches hmatch) hmay
          rw [Rule.same_comm, Rule.same_congr hvictim, Rule.same_comm, hother next rfl]
      | _ => exact hmay.elim
  | _ => rfl

theorem isSome_chain?_host {chain : Chain} (hc : c.Towards true)
    (h : (memory.chain? chain).isSome = true) : ((host c memory).2.chain? chain).isSome = true := by
  obtain ⟨rules, hrules⟩ := Option.isSome_iff_exists.mp h
  rw [host_chain?, hrules]
  cases c <;> grind [Call.Towards, Call.onChain]

theorem holds_host {chain : Chain} {rule : ChainRule} (hc : c.Towards true)
    (h : memory.Holds chain rule) : (host c memory).2.Holds chain rule := by
  obtain ⟨rules, hrules, hmem⟩ := h
  rw [Holds, host_chain?, hrules]
  cases c <;> grind [Call.Towards, Call.onChain]

theorem chain?_eq_none_host {chain : Chain} (hc : c.Towards false)
    (h : memory.chain? chain = none) : (host c memory).2.chain? chain = none := by
  rw [host_chain?, h]
  cases c <;> grind [Call.Towards, Call.onChain]

theorem not_holds_host {chain : Chain} {rule : ChainRule} (hc : c.Towards false)
    (h : ¬ memory.Holds chain rule) : ¬ (host c memory).2.Holds chain rule := by
  rintro ⟨rules, hrules, hmem⟩
  rw [host_chain?] at hrules
  apply h
  cases hcontent : memory.chain? chain with
  | none =>
      rw [hcontent] at hrules
      cases c <;> grind [Call.Towards, Call.onChain]
  | some old =>
      refine ⟨old, hcontent, ?_⟩
      rw [hcontent] at hrules
      cases c <;> grind [Call.Towards, Call.onChain, List.mem_of_mem_erase]

end Memory

end HostNet
