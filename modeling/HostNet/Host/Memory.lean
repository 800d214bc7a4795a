import HostNet.Host.Call
/-!
A host in memory that answers as the kernel and the filter tool do: kernel parameters, the two
routing tables and the packet-filter chains as plain lists.
-/
namespace HostNet

structure Memory where
  sysctls : List (String × String)
  routes : List Route
  rules : List Rule
  chains : List (Chain × List ChainRule)
deriving DecidableEq, Repr

namespace Memory

def empty : Memory :=
  ⟨[], [], [], []⟩

/-- The priority of a rule added without one. -/
def defaultPriority : UInt32 := 32765

/-- Whether an installed rule is what a request names: an absent priority names any. -/
def ruleMatches (wanted installed : Rule) : Bool :=
  installed.same wanted && (wanted.priority.isNone || wanted.priority == installed.priority)

def installedForm (rule : Rule) : Rule :=
  { rule with priority := some (rule.priority.getD defaultPriority) }

/-- Replace the value of a present key in an association list. -/
def replace {α β : Type} [DecidableEq α] (key : α) (value : β) : List (α × β) → List (α × β)
  | [] => []
  | (k, v) :: rest => if k = key then (k, value) :: rest else (k, v) :: replace key value rest

theorem lookup_cons_ite {α β : Type} [DecidableEq α] (wanted key : α) (value : β)
    (rest : List (α × β)) :
    ((key, value) :: rest).lookup wanted =
      if wanted = key then some value else rest.lookup wanted := by
  by_cases h : wanted = key
  · simp [h]
  · have hne : (wanted == key) = false := beq_eq_false_iff_ne.mpr h
    simp [List.lookup_cons, hne, h]

/-- Replacing a value changes what is found under its own key, if anything is, and nothing else. -/
theorem lookup_replace {α β : Type} [DecidableEq α] (wanted key : α) (value : β)
    (entries : List (α × β)) :
    (replace key value entries).lookup wanted =
      if wanted = key then (entries.lookup key).map fun _ => value
      else entries.lookup wanted := by
  induction entries with
  | nil => simp [replace]
  | cons entry rest ih =>
    obtain ⟨k, v⟩ := entry
    by_cases hk : k = key
    · subst hk
      by_cases hw : wanted = k <;> simp [replace, lookup_cons_ite, hw]
    · by_cases hw : wanted = key
      · subst hw
        have hne : ¬ wanted = k := fun h => hk h.symm
        simp [replace, hk, lookup_cons_ite, hne, ih]
      · simp [replace, hk, hw, lookup_cons_ite, ih]

def noChain : String := "iptables: No chain/target/match by that name."

def noRule : String := "iptables: Bad rule (does a matching rule exist in that chain?)."

def chainExists : String := "iptables: Chain already exists."

def chainBusy : String := "iptables: Directory not empty."

/-- The failure of the filter tool, which exits with 1. -/
def filterFault (op : ChainOp) (chain : Chain) (message : String) : Fault :=
  .filter op chain.table chain.name 1 message

def chain? (memory : Memory) (chain : Chain) : Option (List ChainRule) :=
  memory.chains.lookup chain

/-- The memory with other rules in a present chain. -/
def withChain (memory : Memory) (chain : Chain) (rules : List ChainRule) : Memory :=
  { memory with chains := replace chain rules memory.chains }

/-- Set a parameter that is there, and give back its previous value. -/
def setSysctl (memory : Memory) (key value : String) : Except Fault String × Memory :=
  match memory.sysctls.lookup key with
  | some previous => (.ok previous, { memory with sysctls := replace key value memory.sysctls })
  | none => (.error (.sysctl key .absent), memory)

/-- Add a route whose place is free. -/
def addRoute (memory : Memory) (route : Route) : Except Fault Unit × Memory :=
  if memory.routes.any (·.samePlace route) then
    (.error (.kernel Errno.alreadyExists), memory)
  else (.ok (), { memory with routes := memory.routes ++ [route] })

/-- Delete the first route of the same place. -/
def delRoute (memory : Memory) (route : Route) : Except Fault Unit × Memory :=
  if memory.routes.any (·.samePlace route) then
    (.ok (), { memory with routes := memory.routes.eraseP (·.samePlace route) })
  else (.error (.kernel Errno.noProcess), memory)

/-- Add a rule that no installed one matches. -/
def addRule (memory : Memory) (rule : Rule) : Except Fault Unit × Memory :=
  if memory.rules.any (ruleMatches rule) then
    (.error (.kernel Errno.alreadyExists), memory)
  else (.ok (), { memory with rules := memory.rules ++ [installedForm rule] })

/-- Delete the first rule that matches. -/
def delRule (memory : Memory) (rule : Rule) : Except Fault Unit × Memory :=
  if memory.rules.any (ruleMatches rule) then
    (.ok (), { memory with rules := memory.rules.eraseP (ruleMatches rule) })
  else (.error (.kernel Errno.noEntry), memory)

def listRules (memory : Memory) (family : Family) : List Rule :=
  memory.rules.filter fun rule => rule.family == family

def newChain (memory : Memory) (chain : Chain) : Except Fault Unit × Memory :=
  match memory.chain? chain with
  | some _ => (.error (filterFault .create chain chainExists), memory)
  | none => (.ok (), { memory with chains := memory.chains ++ [(chain, [])] })

def clearChain (memory : Memory) (chain : Chain) : Except Fault Unit × Memory :=
  match memory.chain? chain with
  | some _ => (.ok (), memory.withChain chain [])
  | none => (.error (filterFault .clear chain noChain), memory)

def deleteChain (memory : Memory) (chain : Chain) : Except Fault Unit × Memory :=
  match memory.chain? chain with
  | none => (.error (filterFault .delete chain noChain), memory)
  | some [] => (.ok (), { memory with chains := memory.chains.filter (·.1 != chain) })
  | some _ => (.error (filterFault .delete chain chainBusy), memory)

/-- Append a rule that the chain does not hold. -/
def appendUnique (memory : Memory) (chain : Chain) (rule : ChainRule) :
    Except Fault Unit × Memory :=
  match memory.chain? chain with
  | none => (.error (filterFault .append chain noChain), memory)
  | some rules =>
    if rules.contains rule then (.ok (), memory)
    else (.ok (), memory.withChain chain (rules ++ [rule]))

/-- Delete the first rule that is equal. -/
def deleteRule (memory : Memory) (chain : Chain) (rule : ChainRule) :
    Except Fault Unit × Memory :=
  match memory.chain? chain with
  | none => (.error (filterFault .deleteRule chain noChain), memory)
  | some rules =>
    if rules.contains rule then (.ok (), memory.withChain chain (rules.erase rule))
    else (.error (filterFault .deleteRule chain noRule), memory)

/-- The answer to a call, and the tables after it. A refused call changes nothing. -/
def host : Host Memory
  | .setSysctl key value, memory => memory.setSysctl key value
  | .addRoute route, memory => memory.addRoute route
  | .delRoute route, memory => memory.delRoute route
  | .addRule rule, memory => memory.addRule rule
  | .delRule rule, memory => memory.delRule rule
  | .listRules family, memory => (.ok (memory.listRules family), memory)
  | .newChain chain, memory => memory.newChain chain
  | .clearChain chain, memory => memory.clearChain chain
  | .deleteChain chain, memory => memory.deleteChain chain
  | .appendUnique chain rule, memory => memory.appendUnique chain rule
  | .deleteRule chain rule, memory => memory.deleteRule chain rule

end Memory

end HostNet
