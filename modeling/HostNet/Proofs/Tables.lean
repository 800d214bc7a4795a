import HostNet.Host.Memory
/-!
What one call does to the tables of a host in memory. Every table changes by itself: what becomes
of the parameters, the routes, the rules and each single chain depends on the call and on what was
there, and on nothing else. Main statement: the order of the tables (priorities given, no place
taken twice, no chain holding a rule twice) survives every call.
-/
namespace HostNet

theorem Route.samePlace_iff {installed route : Route} :
    installed.samePlace route = true ↔
      installed.dst = route.dst ∧ installed.table = route.table ∧
        installed.gateway = route.gateway := by
  simp [samePlace, and_assoc]

theorem Route.samePlace_refl (route : Route) : route.samePlace route = true := by
  simp [samePlace]

/-- The first element that a list lacks is appended to it, and then lacked no more. -/
theorem eraseDups_lacking_cons {α : Type} [DecidableEq α] {held : List α} {x : α}
    (h : held.contains x = false) (l : List α) :
    ((x :: l).filter fun y => !held.contains y).eraseDups =
      x :: (l.filter fun y => !(held ++ [x]).contains y).eraseDups := by
  have hlater : (l.filter fun y => !(held ++ [x]).contains y) =
      (l.filter fun y => !held.contains y).filter fun y => !y == x := by
    rw [List.filter_filter]
    apply List.filter_congr
    intro y _
    rw [List.contains_append, Bool.not_or, Bool.and_comm, List.contains_cons, List.contains_nil,
      Bool.or_false]
  have hhead : ((x :: l).filter fun y => !held.contains y) =
      x :: l.filter fun y => !held.contains y :=
    List.filter_cons_of_pos (by rw [h, Bool.not_false])
  rw [hhead, List.eraseDups_cons, hlater]

namespace Call

def onSysctls : Call → List (String × String) → List (String × String)
  | setSysctl key value, sysctls => Memory.replace key value sysctls
  | _, sysctls => sysctls

def onRoutes : Call → List Route → List Route
  | addRoute route, routes =>
    if routes.any (·.samePlace route) then routes else routes ++ [route]
  | delRoute route, routes => routes.eraseP (·.samePlace route)
  | _, routes => routes

def onRules : Call → List Rule → List Rule
  | addRule rule, rules =>
    if rules.any (Memory.ruleMatches rule) then rules else rules ++ [Memory.installedForm rule]
  | delRule rule, rules => rules.eraseP (Memory.ruleMatches rule)
  | _, rules => rules

/-- The rules of a chain after a call, or its absence. -/
def onChain (chain : Chain) : Call → Option (List ChainRule) → Option (List ChainRule)
  | newChain other, content => if chain = other then some (content.getD []) else content
  | clearChain other, content => if chain = other then content.map fun _ => [] else content
  | deleteChain other, content => if chain = other ∧ content = some [] then none else content
  | appendUnique other rule, content =>
    if chain = other then
      content.map fun rules => if rules.contains rule then rules else rules ++ [rule]
    else content
  | deleteRule other rule, content =>
    if chain = other then content.map fun rules => rules.erase rule else content
  | _, content => content

end Call

namespace Memory

/-! ## Association lists -/

section Replace

variable {α β : Type} [DecidableEq α]

theorem replace_of_lookup_eq_none {key : α} {value : β} {entries : List (α × β)}
    (h : entries.lookup key = none) : replace key value entries = entries := by
  induction entries with
  | nil => rfl
  | cons entry rest ih =>
      rw [lookup_cons_ite] at h
      by_cases hkey : key = entry.1
      · simp [hkey] at h
      · rw [if_neg hkey] at h
        rw [replace, if_neg (Ne.symm hkey), ih h]

/-- The later of two values for one key is the one that stays. -/
@[simp] theorem replace_replace (key : α) (value later : β) (entries : List (α × β)) :
    replace key later (replace key value entries) = replace key later entries := by
  induction entries with
  | nil => rfl
  | cons entry rest ih =>
      by_cases hkey : entry.1 = key
      · simp [replace, hkey]
      · simp [replace, hkey, ih]

theorem replace_comm {first second : α} (hne : first ≠ second) (value other : β)
    (entries : List (α × β)) :
    replace first value (replace second other entries) =
      replace second other (replace first value entries) := by
  induction entries with
  | nil => rfl
  | cons entry rest ih =>
      by_cases hfirst : entry.1 = first
      · have hsecond : entry.1 ≠ second := fun h => hne (hfirst.symm.trans h)
        simp [replace, hfirst, hne]
      · by_cases hsecond : entry.1 = second
        · simp [replace, hsecond, Ne.symm hne]
        · simp [replace, hfirst, hsecond, ih]

theorem lookup_replace_isSome (key other : α) (value : β) (entries : List (α × β)) :
    ((replace key value entries).lookup other).isSome = (entries.lookup other).isSome := by
  rw [lookup_replace]
  split
  · rename_i hkey
    rw [hkey, Option.isSome_map]
  · rfl

theorem lookup_filter_ne (key other : α) (entries : List (α × β)) :
    (entries.filter fun entry => entry.1 != key).lookup other =
      if other = key then none else entries.lookup other := by
  induction entries with
  | nil => simp
  | cons entry rest ih =>
      by_cases hkey : entry.1 = key
      · rw [List.filter_cons_of_neg (by simp [hkey]), ih, lookup_cons_ite]
        by_cases hother : other = key
        · simp [hother]
        · have hne : ¬ other = entry.1 := fun h => hother (h.trans hkey)
          simp [hother, hne]
      · rw [List.filter_cons_of_pos (by simp [hkey]), lookup_cons_ite, lookup_cons_ite, ih]
        by_cases hother : other = entry.1
        · simp [hother, hkey]
        · simp [hother]

end Replace

theorem filter_eraseP {α : Type} {p q : α → Bool} {l : List α}
    (h : ∀ x ∈ l, p x = true → q x = false) : (l.eraseP p).filter q = l.filter q := by
  induction l with
  | nil => rfl
  | cons x l ih =>
      have hrest := ih fun y hy => h y (List.mem_cons_of_mem x hy)
      by_cases hp : p x = true
      · rw [List.eraseP_cons_of_pos hp,
          List.filter_cons_of_neg (by simp [h x List.mem_cons_self hp])]
      · rw [List.eraseP_cons_of_neg hp, List.filter_cons, List.filter_cons, hrest]

/-- Erasing one element that counts takes one off the count. -/
theorem countP_eraseP {α : Type} {p q : α → Bool} {l : List α} (h : ∃ x ∈ l, p x = true)
    (hpq : ∀ x, p x = true → q x = true) : (l.eraseP p).countP q + 1 = l.countP q := by
  obtain ⟨found, hfound, hp⟩ := h
  obtain ⟨first, pre, post, -, hfirst, rfl, herase⟩ := List.exists_of_eraseP hfound hp
  have hcons : (first :: post).countP q = post.countP q + 1 :=
    List.countP_cons_of_pos (hpq first hfirst)
  rw [herase, List.countP_append, List.countP_append, hcons, Nat.add_assoc]

/-! ## What a request names -/

theorem same_of_ruleMatches {wanted installed : Rule}
    (h : ruleMatches wanted installed = true) : installed.same wanted = true :=
  (Bool.and_eq_true_iff.mp h).1

theorem same_installedForm (rule : Rule) : (installedForm rule).same rule = true :=
  Rule.same_iff.mpr rfl

/-! ## The tables after a call -/

/-- A call that is refused changes nothing. -/
theorem host_of_error {c : Call} {memory : Memory} {fault : Fault}
    (h : (host c memory).1 = .error fault) : (host c memory).2 = memory := by
  cases c <;> grind [host, setSysctl, addRoute, delRoute, addRule, delRule, newChain, clearChain,
    deleteChain, appendUnique, deleteRule]

variable (c : Call) (memory : Memory)

@[simp] theorem host_sysctls : (host c memory).2.sysctls = c.onSysctls memory.sysctls := by
  cases c with
  | setSysctl key value =>
      cases h : memory.sysctls.lookup key with
      | none => simp [host, setSysctl, Call.onSysctls, h, replace_of_lookup_eq_none h]
      | some previous => simp [host, setSysctl, Call.onSysctls, h]
  | _ => grind [host, Call.onSysctls, addRoute, delRoute, addRule, delRule, newChain, clearChain,
      deleteChain, appendUnique, deleteRule, withChain]

@[simp] theorem host_routes : (host c memory).2.routes = c.onRoutes memory.routes := by
  cases c with
  | addRoute route => grind [host, addRoute, Call.onRoutes]
  | delRoute route =>
      by_cases h : memory.routes.any (·.samePlace route)
      · simp [host, delRoute, Call.onRoutes, h]
      · have hnone : ∀ other ∈ memory.routes, ¬ other.samePlace route = true := by
          simpa using h
        rw [host, delRoute, if_neg h, Call.onRoutes, List.eraseP_of_forall_not hnone]
  | _ => grind [host, Call.onRoutes, setSysctl, addRule, delRule, newChain, clearChain,
      deleteChain, appendUnique, deleteRule, withChain]

@[simp] theorem host_rules : (host c memory).2.rules = c.onRules memory.rules := by
  cases c with
  | addRule rule => grind [host, addRule, Call.onRules]
  | delRule rule =>
      by_cases h : memory.rules.any (ruleMatches rule)
      · simp [host, delRule, Call.onRules, h]
      · have hnone : ∀ other ∈ memory.rules, ¬ ruleMatches rule other = true := by
          simpa using h
        rw [host, delRule, if_neg h, Call.onRules, List.eraseP_of_forall_not hnone]
  | _ => grind [host, Call.onRules, setSysctl, addRoute, delRoute, newChain, clearChain,
      deleteChain, appendUnique, deleteRule, withChain]

theorem chain?_withChain (chain other : Chain) (rules : List ChainRule) :
    (memory.withChain chain rules).chain? other =
      if other = chain then (memory.chain? chain).map fun _ => rules
      else memory.chain? other :=
  lookup_replace other chain rules memory.chains

theorem chain?_newChain (chain other : Chain) :
    (memory.newChain other).2.chain? chain =
      Call.onChain chain (.newChain other) (memory.chain? chain) := by
  cases h : memory.chain? other with
  | some rules => by_cases hchain : chain = other <;> simp [newChain, Call.onChain, h, hchain]
  | none =>
      simp only [newChain, h, Call.onChain]
      simp only [chain?] at h ⊢
      rw [List.lookup_append, lookup_cons_ite]
      by_cases hchain : chain = other <;> simp [hchain, h]

theorem chain?_clearChain (chain other : Chain) :
    (memory.clearChain other).2.chain? chain =
      Call.onChain chain (.clearChain other) (memory.chain? chain) := by
  cases h : memory.chain? other with
  | none => by_cases hchain : chain = other <;> simp [clearChain, Call.onChain, h, hchain]
  | some rules =>
      simp only [clearChain, h, chain?_withChain, Call.onChain]
      by_cases hchain : chain = other <;> simp [hchain, h]

theorem chain?_deleteChain (chain other : Chain) :
    (memory.deleteChain other).2.chain? chain =
      Call.onChain chain (.deleteChain other) (memory.chain? chain) := by
  rcases h : memory.chain? other with _ | _ | ⟨rule, rules⟩
  · by_cases hchain : chain = other <;> simp [deleteChain, Call.onChain, h, hchain]
  · simp only [deleteChain, h, Call.onChain]
    change (memory.chains.filter fun entry => entry.1 != other).lookup chain = _
    rw [lookup_filter_ne]
    by_cases hchain : chain = other
    · simp [hchain, h]
    · simp [hchain, chain?]
  · by_cases hchain : chain = other <;> simp [deleteChain, Call.onChain, h, hchain]

theorem chain?_appendUnique (chain other : Chain) (rule : ChainRule) :
    (memory.appendUnique other rule).2.chain? chain =
      Call.onChain chain (.appendUnique other rule) (memory.chain? chain) := by
  cases h : memory.chain? other with
  | none => by_cases hchain : chain = other <;> simp [appendUnique, Call.onChain, h, hchain]
  | some rules =>
      by_cases hmem : rule ∈ rules
      · by_cases hchain : chain = other <;>
          simp [appendUnique, Call.onChain, h, hmem, hchain]
      · by_cases hchain : chain = other <;>
          simp [appendUnique, Call.onChain, chain?_withChain, h, hmem, hchain]

theorem chain?_deleteRule (chain other : Chain) (rule : ChainRule) :
    (memory.deleteRule other rule).2.chain? chain =
      Call.onChain chain (.deleteRule other rule) (memory.chain? chain) := by
  cases h : memory.chain? other with
  | none => by_cases hchain : chain = other <;> simp [deleteRule, Call.onChain, h, hchain]
  | some rules =>
      by_cases hmem : rule ∈ rules
      · by_cases hchain : chain = other <;>
          simp [deleteRule, Call.onChain, chain?_withChain, h, hmem, hchain]
      · have herase : rules.erase rule = rules := List.erase_of_not_mem hmem
        by_cases hchain : chain = other <;>
          simp [deleteRule, Call.onChain, h, hmem, hchain, herase]

@[simp] theorem host_chain? (chain : Chain) :
    (host c memory).2.chain? chain = c.onChain chain (memory.chain? chain) := by
  cases c with
  | newChain other => exact chain?_newChain memory chain other
  | clearChain other => exact chain?_clearChain memory chain other
  | deleteChain other => exact chain?_deleteChain memory chain other
  | appendUnique other rule => exact chain?_appendUnique memory chain other rule
  | deleteRule other rule => exact chain?_deleteRule memory chain other rule
  | _ => grind [host, Call.onChain, setSysctl, addRoute, delRoute, addRule, delRule, chain?]

/-! ## Order -/

/-- Every rule has a priority, no place in the routing tables is taken twice, and no chain holds a
rule twice. -/
structure Orderly (memory : Memory) : Prop where
  prioritized : ∀ rule ∈ memory.rules, rule.priority.isSome = true
  placed : memory.routes.Pairwise fun a b => a.samePlace b = false
  unrepeated : ∀ chain rules, memory.chain? chain = some rules → rules.Nodup

end Memory

namespace Call

variable {c : Call}

theorem onRules_prioritized {rules : List Rule}
    (h : ∀ rule ∈ rules, rule.priority.isSome = true) :
    ∀ rule ∈ c.onRules rules, rule.priority.isSome = true := by
  cases c with
  | addRule added =>
      simp only [onRules]
      split
      · exact h
      · intro rule hrule
        rcases List.mem_append.mp hrule with hold | hnew
        · exact h rule hold
        · rw [List.mem_singleton.mp hnew]
          rfl
  | delRule victim => exact fun rule hrule => h rule (List.mem_of_mem_eraseP hrule)
  | _ => exact h

theorem onRoutes_placed {routes : List Route}
    (h : routes.Pairwise fun a b => a.samePlace b = false) :
    (c.onRoutes routes).Pairwise fun a b => a.samePlace b = false := by
  cases c with
  | addRoute route =>
      simp only [onRoutes]
      split
      · exact h
      · rename_i hfree
        rw [List.pairwise_append]
        refine ⟨h, List.pairwise_singleton _ _, ?_⟩
        intro other hother added hadded
        rw [List.mem_singleton.mp hadded]
        simpa using fun hplace => hfree (List.any_eq_true.mpr ⟨other, hother, hplace⟩)
  | delRoute route => exact h.sublist List.eraseP_sublist
  | _ => exact h

theorem onChain_nodup {chain : Chain} {content : Option (List ChainRule)}
    (h : ∀ rules, content = some rules → rules.Nodup) :
    ∀ rules, c.onChain chain content = some rules → rules.Nodup := by
  intro rules hrules
  cases content with
  | none => cases c <;> grind [onChain]
  | some old =>
      have hold := h old rfl
      cases c with
      | deleteRule other rule =>
          have herase := hold.erase rule
          grind [onChain]
      | _ => grind [onChain]

end Call

namespace Memory

/-- Every call keeps the order. -/
theorem Orderly.host {memory : Memory} (h : memory.Orderly) (c : Call) :
    (Memory.host c memory).2.Orderly where
  prioritized := by
    rw [host_rules]
    exact Call.onRules_prioritized h.prioritized
  placed := by
    rw [host_routes]
    exact Call.onRoutes_placed h.placed
  unrepeated := by
    intro chain
    rw [host_chain?]
    exact Call.onChain_nodup (h.unrepeated chain)

end Memory

end HostNet
