import HostNet.Config
import HostNet.Host.Machine
/-!
The runs of the filter tool that one chain takes, whatever the tool answers. Main statement: which
runs are made, in which order, that none follows the first failure that counts, and that this
failure, or success where there is none, is the outcome of the pass.
-/
namespace HostNet

open Pass

/-! ## What a failure of the tool means -/

theorem Kind.beq_ite (kind : Kind) (h : ∀ code, Kind.other code ≠ kind) (benign : Bool)
    (code : Int32) : ((if benign then kind else .other code) == kind) = benign := by
  cases benign with
  | true => exact beq_self_eq_true kind
  | false => exact beq_eq_false_iff_ne.mpr (h code)

namespace ToolFailure

def status? : ToolFailure → Option Int32
  | exited status _ => some status
  | notRun _ => none

/-- What is said about the failure. Output of the tool counts without the blanks around it. -/
def message : ToolFailure → String
  | exited _ output => Text.trim output
  | notRun reason => reason

/-- The phrase is somewhere in the message. -/
def mentions (failure : ToolFailure) (phrase : String) : Bool :=
  decide (phrase.toList <:+: failure.message.toList)

/-- By each of these the tool says that a chain or a rule is missing. -/
def missingPhrases : List String :=
  ["No chain/target/match", "does a matching rule exist", "No such file or directory"]

/-- The message says that something is missing. -/
def saysMissing (failure : ToolFailure) : Bool :=
  missingPhrases.any failure.mentions

variable (failure : ToolFailure)

theorem fault_eq (op : ChainOp) (chain : Chain) :
    failure.fault op chain =
      .filter op chain.table chain.name (failure.status?.getD (-1)) failure.message := by
  cases failure <;> rfl

theorem kind_fault (op : ChainOp) (chain : Chain) :
    (failure.fault op chain).kind =
      op.classify (failure.status?.getD (-1)) failure.message := by
  rw [failure.fault_eq, Fault.kind]

theorem mentions_message (phrase : String) :
    Text.mentions failure.message phrase = failure.mentions phrase := by
  rw [Bool.eq_iff_iff, Text.mentions, Text.occursIn_iff, mentions, decide_eq_true_iff]

theorem saysMissing_message : ChainOp.saysMissing failure.message = failure.saysMissing := by
  simp only [ChainOp.saysMissing, mentions_message, saysMissing, missingPhrases, List.any_cons,
    List.any_nil, Bool.or_false, Bool.or_assoc]

/-- A tool that was not run has neither of the statuses that mean something. -/
theorem status_eq {status : Int32} (h : status ≠ -1) :
    decide (failure.status?.getD (-1) = status) = (failure.status? == some status) := by
  cases failure with
  | exited actual output => rfl
  | notRun reason => exact decide_eq_false fun hstatus => h hstatus.symm

end ToolFailure

namespace Invocation

def op : Invocation → ChainOp
  | create _ => .create
  | flush _ => .clear
  | delete _ => .delete
  | check .. => .append
  | append .. => .append
  | remove .. => .deleteRule

def chain : Invocation → Chain
  | create chain => chain
  | flush chain => chain
  | delete chain => chain
  | check chain _ => chain
  | append chain _ => chain
  | remove chain _ => chain

/-- The failures that a run may end with because what it was to bring about is so already. -/
def tolerates : Invocation → ToolFailure → Bool
  | create _, failure =>
    failure.status? == some 1 || failure.mentions "Chain already exists"
  | flush _, failure =>
    failure.saysMissing || (failure.status? == some 1 && failure.message.isEmpty)
  | delete _, failure =>
    failure.saysMissing || (failure.status? == some 1 && failure.message.isEmpty)
  | remove .., failure => failure.status? == some 2 || failure.saysMissing
  | check .., _ => false
  | append .., _ => false

/-- What a pass asks of the failure of a run before it gives up. -/
def benign : Invocation → Fault → Bool
  | create _ => Fault.isAlreadyExists
  | flush _ => Fault.isNotFound
  | delete _ => Fault.isNotFound
  | check .. => fun _ => false
  | append .. => fun _ => false
  | remove .. => Fault.isNotFound

/-- The classification of failures lets a pass go on after exactly the tolerated ones. -/
theorem benign_fault (invocation : Invocation) (failure : ToolFailure) :
    invocation.benign (failure.fault invocation.op invocation.chain) =
      invocation.tolerates failure := by
  cases invocation with
  | create chain =>
      rw [benign, Fault.isAlreadyExists, failure.kind_fault, op, ChainOp.classify,
        Kind.beq_ite .alreadyExists (fun _ h => nomatch h), failure.status_eq (by decide),
        failure.mentions_message, tolerates]
  | check chain line => rfl
  | append chain line => rfl
  | _ =>
      rw [benign, Fault.isNotFound, failure.kind_fault, op, ChainOp.classify,
        Kind.beq_ite .notFound (fun _ h => nomatch h), failure.status_eq (by decide),
        failure.saysMissing_message, tolerates]

/-- A chain that others still jump to is not taken for a deleted one. -/
example :
    (delete ⟨"nat", "HOST-MASQ"⟩).tolerates (.exited 1 "iptables: Too many links.") = false := by
  decide

end Invocation

/-! ## Runs with their answers -/

/-- A run of the filter tool and what came back. -/
structure ToolRun where
  invocation : Invocation
  answer : Except ToolFailure invocation.Answer

namespace ToolRun

/-- The failure that a run reports, unless the run tolerates it. -/
def complaint? (run : ToolRun) : Option Fault :=
  match run.answer with
  | .ok _ => none
  | .error failure =>
    if run.invocation.tolerates failure then none
    else some (.filter run.invocation.op run.invocation.chain.table run.invocation.chain.name
      (failure.status?.getD (-1)) failure.message)

/-- The first failure that counts, or success. -/
def verdict (runs : List ToolRun) : Outcome :=
  match runs.findSome? complaint? with
  | none => .ok ()
  | some fault => .error fault

/-- No chain is flushed or deleted by the run. -/
def Spares (run : ToolRun) : Prop :=
  ∀ target, run.invocation ≠ .flush target ∧ run.invocation ≠ .delete target

variable {τ : Type}

/-- The tool gives these answers to these runs, one after the other. -/
inductive Answers (tool : FilterTool τ) : τ → List ToolRun → τ → Prop
  | nil (state : τ) : Answers tool state [] state
  | cons {state next final : τ} {run : ToolRun} {runs : List ToolRun} :
      tool run.invocation state = (run.answer, next) → Answers tool next runs final →
      Answers tool state (run :: runs) final

/-- The runs go on up to the first failure that counts, which is the outcome. -/
inductive Judged : List ToolRun → Outcome → Prop
  | nil : Judged [] (.ok ())
  | failed {run : ToolRun} {fault : Fault} :
      run.complaint? = some fault → Judged [run] (.error fault)
  | cons {run : ToolRun} {runs : List ToolRun} {outcome : Outcome} :
      run.complaint? = none → Judged runs outcome → Judged (run :: runs) outcome

variable {tool : FilterTool τ} {state next final : τ} {run : ToolRun}
  {runs earlier later : List ToolRun} {outcome : Outcome}

theorem Answers.single (h : tool run.invocation state = (run.answer, next)) :
    Answers tool state [run] next :=
  .cons h (.nil next)

theorem Answers.append (h : Answers tool state earlier next)
    (hlater : Answers tool next later final) : Answers tool state (earlier ++ later) final := by
  induction h with
  | nil => exact hlater
  | cons hrun _ ih => exact .cons hrun (ih hlater)

theorem Judged.append (h : Judged earlier (.ok ())) (hlater : Judged later outcome) :
    Judged (earlier ++ later) outcome := by
  generalize hok : (Except.ok () : Outcome) = first at h
  induction h with
  | nil => exact hlater
  | failed => cases hok
  | cons hrun _ ih => exact .cons hrun (ih hok)

theorem Judged.outcome_eq (h : Judged runs outcome) : outcome = verdict runs := by
  induction h with
  | nil => rfl
  | failed hrun => rw [verdict, List.findSome?_cons, hrun]
  | cons hrun _ ih => rw [ih, verdict, verdict, List.findSome?_cons, hrun]

/-- Nothing is run after a failure that counts. -/
theorem Judged.stops (h : Judged runs outcome) : ∀ run ∈ runs.dropLast, run.complaint? = none := by
  induction h with
  | nil => exact fun run hrun => nomatch hrun
  | failed => exact fun run hrun => nomatch hrun
  | @cons head runs outcome hhead _ ih =>
      intro run hrun
      cases runs with
      | nil => cases hrun
      | cons second rest =>
          rw [List.dropLast_cons_cons] at hrun
          rcases List.mem_cons.mp hrun with rfl | hrest
          · exact hhead
          · exact ih run hrest

/-- How a pass takes what came back: it goes on after a failure that it may pass over. -/
def settled (run : ToolRun) : Outcome :=
  match run.answer with
  | .ok _ => .ok ()
  | .error failure =>
    tolerate run.invocation.benign
      (.error (failure.fault run.invocation.op run.invocation.chain))

theorem Judged.settled (run : ToolRun) : Judged [run] run.settled := by
  obtain ⟨invocation, answer⟩ := run
  cases answer with
  | ok _ => exact .cons rfl .nil
  | error failure =>
      simp only [ToolRun.settled, tolerate, invocation.benign_fault]
      cases htolerated : invocation.tolerates failure with
      | true =>
          rw [if_pos rfl]
          exact .cons (if_pos htolerated) .nil
      | false =>
          rw [if_neg Bool.false_ne_true]
          refine .failed ?_
          simp only [complaint?, htolerated, Bool.false_eq_true, if_false, failure.fault_eq]

end ToolRun

open ToolRun

/-! ## What a chain takes -/

/-- The rules have their runs in turn, up to the first rule that ends in a failure. -/
inductive InTurn (takes : ChainRule → List ToolRun → Prop) :
    List ChainRule → List ToolRun → Prop
  | nil : InTurn takes [] []
  | stopped {rule : ChainRule} {rules : List ChainRule} {runs : List ToolRun} :
      takes rule runs → verdict runs ≠ .ok () → InTurn takes (rule :: rules) runs
  | next {rule : ChainRule} {rules : List ChainRule} {runs later : List ToolRun} :
      takes rule runs → verdict runs = .ok () → InTurn takes rules later →
      InTurn takes (rule :: rules) (runs ++ later)

/-- The rule is looked for, and appended only where the answer is that it is not there. -/
inductive Appends (chain : Chain) (rule : ChainRule) : List ToolRun → Prop
  | unanswered (failure : ToolFailure) :
      Appends chain rule [⟨.check chain rule.line, .error failure⟩]
  | present : Appends chain rule [⟨.check chain rule.line, .ok true⟩]
  | lacking (answer : Except ToolFailure Unit) :
      Appends chain rule [⟨.check chain rule.line, .ok false⟩, ⟨.append chain rule.line, answer⟩]

/-- The rule is removed once. -/
inductive Removes (chain : Chain) (rule : ChainRule) : List ToolRun → Prop
  | once (answer : Except ToolFailure Unit) :
      Removes chain rule [⟨.remove chain rule.line, answer⟩]

/-- The runs of a pass, for each direction and for each of the two kinds of chain. -/
inductive ChainConfig.Course (config : ChainConfig) : (enabled : Bool) → List ToolRun → Prop
  | refused {answer : Except ToolFailure Unit} :
      verdict [⟨.create config.chain, answer⟩] ≠ .ok () →
      config.Course true [⟨.create config.chain, answer⟩]
  | enabled {answer : Except ToolFailure Unit} {later : List ToolRun} :
      verdict [⟨.create config.chain, answer⟩] = .ok () →
      InTurn (Appends config.chain) config.rules later →
      config.Course true (⟨.create config.chain, answer⟩ :: later)
  | withdrawn {runs : List ToolRun} :
      config.builtIn = true → InTurn (Removes config.chain) config.rules runs →
      config.Course false runs
  | kept (failure : ToolFailure) :
      config.builtIn = false → config.Course false [⟨.flush config.chain, .error failure⟩]
  | removed (answer : Except ToolFailure Unit) :
      config.builtIn = false →
      config.Course false [⟨.flush config.chain, .ok ()⟩, ⟨.delete config.chain, answer⟩]

theorem InTurn.forall_mem {takes : ChainRule → List ToolRun → Prop} {allowed : ToolRun → Prop}
    (htakes : ∀ rule runs, takes rule runs → ∀ run ∈ runs, allowed run) {rules : List ChainRule}
    {runs : List ToolRun} (h : InTurn takes rules runs) : ∀ run ∈ runs, allowed run := by
  induction h with
  | nil => exact fun run hrun => nomatch hrun
  | stopped hfirst _ => exact htakes _ _ hfirst
  | next hfirst _ _ ih =>
      intro run hrun
      rcases List.mem_append.mp hrun with hrun | hlater
      · exact htakes _ _ hfirst run hrun
      · exact ih run hlater

theorem Appends.spares {chain : Chain} {rule : ChainRule} {runs : List ToolRun}
    (h : Appends chain rule runs) : ∀ run ∈ runs, run.Spares := by
  cases h with
  | unanswered failure => exact List.forall_mem_singleton.mpr fun target => ⟨nofun, nofun⟩
  | present => exact List.forall_mem_singleton.mpr fun target => ⟨nofun, nofun⟩
  | lacking answer =>
      exact List.forall_mem_cons.mpr ⟨fun target => ⟨nofun, nofun⟩,
        List.forall_mem_singleton.mpr fun target => ⟨nofun, nofun⟩⟩

theorem Removes.spares {chain : Chain} {rule : ChainRule} {runs : List ToolRun}
    (h : Removes chain rule runs) : ∀ run ∈ runs, run.Spares := by
  cases h with
  | once answer => exact List.forall_mem_singleton.mpr fun target => ⟨nofun, nofun⟩

theorem ChainConfig.Course.spares {config : ChainConfig} {enabled : Bool} {runs : List ToolRun}
    (h : config.Course enabled runs) (hbuiltIn : config.builtIn = true) :
    ∀ run ∈ runs, run.Spares := by
  cases h with
  | refused _ => exact List.forall_mem_singleton.mpr fun target => ⟨nofun, nofun⟩
  | enabled _ hlater =>
      exact List.forall_mem_cons.mpr ⟨fun target => ⟨nofun, nofun⟩,
        hlater.forall_mem fun _ _ happends => happends.spares⟩
  | withdrawn _ hruns => exact hruns.forall_mem fun _ _ hremoves => hremoves.spares
  | kept failure howned => rw [hbuiltIn] at howned; cases howned
  | removed answer howned => rw [hbuiltIn] at howned; cases howned

/-! ## Passes over a machine -/

variable {κ τ φ : Type}

namespace Machine

/-- The machine after some runs of the tool, which left the tool in a state. -/
def afterRuns (machine : Machine κ τ φ) (runs : List ToolRun) (state : τ) : Machine κ τ φ :=
  { machine with filter := ⟨state, machine.filter.runs ++ runs.map ToolRun.invocation⟩ }

theorem afterRuns_append (machine : Machine κ τ φ) (earlier later : List ToolRun)
    (state final : τ) :
    (machine.afterRuns earlier state).afterRuns later final =
      machine.afterRuns (earlier ++ later) final := by
  simp only [afterRuns, List.map_append, List.append_assoc]

end Machine

/-- On the machine, the pass makes these runs of the tool and changes nothing else, and it ends as
they are judged. -/
structure Performs (ends : Machine.Ends κ τ φ) (pass : Pass) (machine : Machine κ τ φ)
    (runs : List ToolRun) (outcome : Outcome) (state : τ) : Prop where
  judged : Judged runs outcome
  answered : Answers ends.tool machine.filter.tool runs state
  run_eq : pass.run (Machine.host ends) machine = (outcome, machine.afterRuns runs state)

namespace Performs

variable {ends : Machine.Ends κ τ φ} {machine : Machine κ τ φ} {first second : Pass}
  {runs earlier later : List ToolRun} {outcome : Outcome} {state final : τ}

theorem andThen (h : Performs ends first machine earlier (.ok ()) state)
    (hsecond : Performs ends second (machine.afterRuns earlier state) later outcome final) :
    Performs ends (first.andThen second) machine (earlier ++ later) outcome final where
  judged := h.judged.append hsecond.judged
  answered := h.answered.append hsecond.answered
  run_eq := by
    rw [run_andThen, h.run_eq]
    exact hsecond.run_eq.trans (by rw [machine.afterRuns_append])

theorem andThen_of_error {fault : Fault} (h : Performs ends first machine runs (.error fault) state)
    (second : Pass) : Performs ends (first.andThen second) machine runs (.error fault) state where
  judged := h.judged
  answered := h.answered
  run_eq := by rw [run_andThen, h.run_eq]

/-- Where the pass for each rule takes certain runs, the passes in order take them in turn. -/
theorem inOrder {takes : ChainRule → List ToolRun → Prop} {pass : ChainRule → Pass}
    (hpass : ∀ rule machine, ∃ runs outcome state,
      takes rule runs ∧ Performs ends (pass rule) machine runs outcome state)
    (rules : List ChainRule) (machine : Machine κ τ φ) :
    ∃ runs outcome state, InTurn takes rules runs ∧
      Performs ends (Pass.inOrder (rules.map pass)) machine runs outcome state := by
  induction rules generalizing machine with
  | nil =>
      refine ⟨[], .ok (), machine.filter.tool, .nil, .nil, .nil _, ?_⟩
      simp only [List.map_nil, Pass.inOrder, run, Machine.afterRuns, List.append_nil]
  | cons rule rules ih =>
      obtain ⟨earlier, outcome, state, htakes, hfirst⟩ := hpass rule machine
      have hverdict := hfirst.judged.outcome_eq
      cases outcome with
      | error fault =>
          exact ⟨earlier, .error fault, state, .stopped htakes (by rw [← hverdict]; nofun),
            hfirst.andThen_of_error _⟩
      | ok _ =>
          obtain ⟨later, outcome, final, hturn, hrest⟩ := ih (machine.afterRuns earlier state)
          exact ⟨earlier ++ later, outcome, final, .next htakes hverdict.symm hturn,
            hfirst.andThen hrest⟩

/-! ## The calls on a chain -/

variable (ends) (machine)

/-- A pass that runs the tool once and settles the answer. -/
theorem once (invocation : Invocation) {pass : Pass}
    (hrun : let (answer, state) := ends.tool invocation machine.filter.tool
      pass.run (Machine.host ends) machine =
        (settled ⟨invocation, answer⟩, machine.afterRuns [⟨invocation, answer⟩] state)) :
    ∃ answer outcome state, Performs ends pass machine [⟨invocation, answer⟩] outcome state :=
  ⟨_, _, _, .settled _, .single rfl, hrun⟩

theorem newChain (chain : Chain) :
    ∃ answer outcome state,
      Performs ends (attempt (.newChain chain) (tolerate Fault.isAlreadyExists)) machine
        [⟨.create chain, answer⟩] outcome state := by
  apply once
  simp only [attempt, run, Machine.host, Iptables.newChain, Iptables.invoke]
  cases (ends.tool (.create chain) machine.filter.tool).1 <;> rfl

theorem deleteRule (chain : Chain) (rule : ChainRule) :
    ∃ answer outcome state,
      Performs ends (attempt (.deleteRule chain rule) (tolerate Fault.isNotFound)) machine
        [⟨.remove chain rule.line, answer⟩] outcome state := by
  apply once
  simp only [attempt, run, Machine.host, Iptables.deleteRule, Iptables.invoke]
  cases (ends.tool (.remove chain rule.line) machine.filter.tool).1 <;> rfl

theorem appendUnique (chain : Chain) (rule : ChainRule) :
    ∃ runs outcome state, Appends chain rule runs ∧
      Performs ends (attempt (.appendUnique chain rule) id) machine runs outcome state := by
  rcases hcheck : ends.tool (.check chain rule.line) machine.filter.tool with
    ⟨failure | found, state⟩
  · refine ⟨_, _, state, .unanswered failure, .settled _, .single hcheck, ?_⟩
    simp only [attempt, run, Machine.host, Iptables.appendUnique, Iptables.invoke, hcheck]
    rfl
  · cases found with
    | true =>
        refine ⟨_, _, state, .present, .settled _, .single hcheck, ?_⟩
        simp only [attempt, run, Machine.host, Iptables.appendUnique, Iptables.invoke, hcheck]
        rfl
    | false =>
        rcases happend : ends.tool (.append chain rule.line) state with ⟨answer, final⟩
        refine ⟨_, _, final, .lacking answer, .cons rfl (.settled _),
          .cons hcheck (.single happend), ?_⟩
        simp only [attempt, run, Machine.host, Iptables.appendUnique, Iptables.invoke, hcheck,
          happend, Machine.afterRuns, List.append_assoc]
        cases answer <;> rfl

/-- A chain that could not be flushed, for whatever reason, is not deleted. -/
theorem remove (config : ChainConfig) (howned : config.builtIn = false) :
    ∃ runs outcome state, config.Course false runs ∧
      Performs ends config.remove machine runs outcome state := by
  rcases hflush : ends.tool (.flush config.chain) machine.filter.tool with
    ⟨failure | flushed, state⟩
  · refine ⟨_, _, state, .kept failure howned, .settled _, .single hflush, ?_⟩
    simp only [ChainConfig.remove, run, Machine.host, Iptables.clearChain, Iptables.invoke, hflush]
    rfl
  · obtain rfl : flushed = () := rfl
    rcases hdelete : ends.tool (.delete config.chain) state with ⟨answer, final⟩
    refine ⟨_, _, final, .removed answer howned, .cons rfl (.settled _),
      .cons hflush (.single hdelete), ?_⟩
    simp only [ChainConfig.remove, run, Machine.host, Iptables.clearChain, Iptables.invoke, hflush]
    -- what comes back from flushing lets the pass go on to delete the chain
    change run (Machine.host ends) (attempt (.deleteChain config.chain) _) _ = _
    simp only [attempt, run, Machine.host, Iptables.deleteChain, Iptables.invoke, hdelete,
      Machine.afterRuns, List.append_assoc]
    cases answer <;> rfl

theorem enable (config : ChainConfig) :
    ∃ runs outcome state, config.Course true runs ∧
      Performs ends config.enable machine runs outcome state := by
  obtain ⟨answer, outcome, state, hcreate⟩ := newChain ends machine config.chain
  have hverdict := hcreate.judged.outcome_eq
  cases outcome with
  | error fault =>
      exact ⟨_, _, _, .refused (by rw [← hverdict]; nofun), hcreate.andThen_of_error _⟩
  | ok _ =>
      obtain ⟨later, outcome, final, hturn, hlater⟩ :=
        inOrder (fun rule machine => appendUnique ends machine config.chain rule) config.rules
          (machine.afterRuns [⟨.create config.chain, answer⟩] state)
      exact ⟨_, _, _, .enabled hverdict.symm hturn, hcreate.andThen hlater⟩

theorem withdraw (config : ChainConfig) (hbuiltIn : config.builtIn = true) :
    ∃ runs outcome state, config.Course false runs ∧
      Performs ends config.withdraw machine runs outcome state := by
  have hrule : ∀ rule machine, ∃ runs outcome state, Removes config.chain rule runs ∧
      Performs ends (attempt (.deleteRule config.chain rule) (tolerate Fault.isNotFound))
        machine runs outcome state := by
    intro rule machine
    obtain ⟨answer, outcome, state, hremove⟩ := deleteRule ends machine config.chain rule
    exact ⟨_, outcome, state, .once answer, hremove⟩
  obtain ⟨runs, outcome, state, hturn, hruns⟩ := inOrder hrule config.rules machine
  exact ⟨runs, outcome, state, .withdrawn hbuiltIn hturn, hruns⟩

theorem ensure (config : ChainConfig) (enabled : Bool) :
    ∃ runs outcome state, config.Course enabled runs ∧
      Performs ends (config.ensure enabled) machine runs outcome state := by
  cases enabled with
  | true => exact enable ends machine config
  | false =>
      rw [ChainConfig.ensure, if_neg Bool.false_ne_true]
      cases hbuiltIn : config.builtIn with
      | true => exact withdraw ends machine config hbuiltIn
      | false => exact remove ends machine config hbuiltIn

end Performs

/-- Whatever the tool answers, a pass over a chain makes the runs of its course, one after the
other, stops at the first failure that counts, and ends with it. Without such a failure it ends
well. Nothing but the tool is reached, and a built-in chain is never flushed or deleted. -/
theorem ChainConfig.ensure_course (config : ChainConfig) (enabled : Bool)
    (ends : Machine.Ends κ τ φ) (machine : Machine κ τ φ) :
    ∃ runs state, config.Course enabled runs ∧
      Answers ends.tool machine.filter.tool runs state ∧
      (config.ensure enabled).run (Machine.host ends) machine =
        (verdict runs, machine.afterRuns runs state) ∧
      (∀ run ∈ runs.dropLast, run.complaint? = none) ∧
      (config.builtIn = true → ∀ run ∈ runs, run.Spares) := by
  obtain ⟨runs, outcome, state, hcourse, hperforms⟩ := Performs.ensure ends machine config enabled
  have hresult := hperforms.run_eq
  rw [hperforms.judged.outcome_eq] at hresult
  exact ⟨runs, state, hcourse, hperforms.answered, hresult, hperforms.judged.stops, hcourse.spares⟩

end HostNet
