import HostNet.Host.Machine
import HostNet.Proofs.Tables
import HostNet.Proofs.Transcript
import Mathlib.Logic.Function.Basic
/-!
Chains through the filter tool and chains in memory. A tool that keeps command lines and a memory
that keeps rules answer alike as long as different rules have different command lines. Main
statement: a run of calls on chains is answered alike on both, failures included, and leaves the
lines of the tool those of the rules in memory.
-/
namespace HostNet

/-- The command lines of each chain, for the chains that are there. -/
abbrev ChainLines : Type :=
  Chain → Option (List String)

namespace ChainLines

/-- The tool exits with 1, and says why. -/
def refused {α : Type} (message : String) : Except ToolFailure α :=
  .error (.exited 1 message)

/-- A filter tool that keeps command lines. -/
def tool : FilterTool ChainLines
  | .create chain, lines =>
    match lines chain with
    | some _ => (refused Memory.chainExists, lines)
    | none => (.ok (), Function.update lines chain (some []))
  | .flush chain, lines =>
    match lines chain with
    | some _ => (.ok (), Function.update lines chain (some []))
    | none => (refused Memory.noChain, lines)
  | .delete chain, lines =>
    match lines chain with
    | some [] => (.ok (), Function.update lines chain none)
    | some _ => (refused Memory.chainBusy, lines)
    | none => (refused Memory.noChain, lines)
  | .check chain line, lines => (.ok (((lines chain).getD []).contains line), lines)
  | .append chain line, lines =>
    match lines chain with
    | some present => (.ok (), Function.update lines chain (some (present ++ [line])))
    | none => (refused Memory.noChain, lines)
  | .remove chain line, lines =>
    match lines chain with
    | some present =>
      if present.contains line then
        (.ok (), Function.update lines chain (some (present.erase line)))
      else (refused Memory.noRule, lines)
    | none => (refused Memory.noChain, lines)

def refusals : List String :=
  [Memory.chainExists, Memory.noChain, Memory.chainBusy, Memory.noRule]

/-- None of these texts has blanks around it, so the failure of the tool is the one in memory. -/
theorem fault_exited (op : ChainOp) (chain : Chain) {message : String} (h : message ∈ refusals) :
    (ToolFailure.exited 1 message).fault op chain = Memory.filterFault op chain message := by
  have htrim : ∀ text ∈ refusals, Text.trim text = text := by decide +kernel
  rw [ToolFailure.fault, htrim message h, Memory.filterFault]

/-- Some chain in memory holds the rule. -/
def Held (memory : Memory) (rule : ChainRule) : Prop :=
  ∃ chain rules, memory.chain? chain = some rules ∧ rule ∈ rules

/-- The tool keeps the lines of the rules in memory, all of which are known. -/
structure Matches (known : ChainRule → Prop) (lines : ChainLines) (memory : Memory) : Prop where
  lines : ∀ chain, lines chain = (memory.chain? chain).map fun rules => rules.map ChainRule.line
  known : ∀ chain rules, memory.chain? chain = some rules → ∀ rule ∈ rules, known rule

/-- No other known rule has the command line of this one. -/
def Distinct (known : ChainRule → Prop) (rule : ChainRule) : Prop :=
  ∀ other, known other → other.line = rule.line → other = rule

end ChainLines

namespace Call

/-- A call on chains, which names only rules that are allowed. -/
def OnChains (allowed : ChainRule → Prop) : Call → Prop
  | newChain _ => True
  | clearChain _ => True
  | deleteChain _ => True
  | appendUnique _ rule => allowed rule
  | deleteRule _ rule => allowed rule
  | _ => False

theorem OnChains.mono {allowed wider : ChainRule → Prop}
    (hle : ∀ rule, allowed rule → wider rule) {call : Call} (h : call.OnChains allowed) :
    call.OnChains wider := by
  cases call with
  | appendUnique chain rule => exact hle rule h
  | deleteRule chain rule => exact hle rule h
  | _ => exact h

def chain? : Call → Option Chain
  | newChain chain => some chain
  | clearChain chain => some chain
  | deleteChain chain => some chain
  | appendUnique chain _ => some chain
  | deleteRule chain _ => some chain
  | _ => none

variable {call : Call}

theorem onChain_of_ne {chain other : Chain} (hchain : call.chain? = some chain)
    (hother : other ≠ chain) (content : Option (List ChainRule)) :
    call.onChain other content = content := by
  cases call with
  | newChain target =>
      cases hchain
      exact if_neg hother
  | clearChain target =>
      cases hchain
      exact if_neg hother
  | deleteChain target =>
      cases hchain
      exact if_neg fun h => hother h.1
  | appendUnique target rule =>
      cases hchain
      exact if_neg hother
  | deleteRule target rule =>
      cases hchain
      exact if_neg hother
  | _ => rfl

/-- A call brings no rule into a chain but one that it names. -/
theorem OnChains.known_onChain {known : ChainRule → Prop} (hcall : call.OnChains known)
    {chain : Chain} {content : Option (List ChainRule)}
    (hcontent : ∀ rules, content = some rules → ∀ rule ∈ rules, known rule)
    {rules : List ChainRule} (h : call.onChain chain content = some rules) :
    ∀ rule ∈ rules, known rule := by
  cases content with
  | none => cases call <;> grind [onChain]
  | some old =>
      have hold := hcontent old rfl
      cases call with
      | appendUnique target named =>
          have hnamed : known named := hcall
          grind [onChain]
      | deleteRule target named =>
          have herase : ∀ rule ∈ old.erase named, known rule := fun rule hmem =>
            hold rule (List.mem_of_mem_erase hmem)
          grind [onChain]
      | _ => grind [onChain]

end Call

namespace ChainLines

section Lists

variable {known : ChainRule → Prop} {rule : ChainRule} {rules : List ChainRule}

theorem contains_map_line (hrule : Distinct known rule) (hrules : ∀ other ∈ rules, known other) :
    (rules.map ChainRule.line).contains rule.line = rules.contains rule := by
  induction rules with
  | nil => rfl
  | cons other rules ih =>
      have hrest := ih fun later hlater => hrules later (List.mem_cons_of_mem other hlater)
      have hhead : (rule.line == other.line) = (rule == other) := by
        by_cases hsame : rule = other
        · simp [hsame]
        · have hline : rule.line ≠ other.line := fun hline =>
            hsame (hrule other (hrules other List.mem_cons_self) hline.symm).symm
          simp [hsame, hline]
      rw [List.map_cons, List.contains_cons, List.contains_cons, hhead, hrest]

theorem erase_map_line (hrule : Distinct known rule) (hrules : ∀ other ∈ rules, known other) :
    (rules.map ChainRule.line).erase rule.line = (rules.erase rule).map ChainRule.line := by
  induction rules with
  | nil => rfl
  | cons other rules ih =>
      have hrest := ih fun later hlater => hrules later (List.mem_cons_of_mem other hlater)
      by_cases hsame : other = rule
      · simp [hsame]
      · have hline : other.line ≠ rule.line := fun hline =>
          hsame (hrule other (hrules other List.mem_cons_self) hline)
        simp [hsame, hline, hrest]

end Lists

/-! ## One call -/

section Step

variable {known : ChainRule → Prop} {memory : Memory} {filter : Iptables ChainLines}
  {chain : Chain}

/-- What a chain holds after a call, as command lines. -/
def linesAfter (chain : Chain) (call : Call) (memory : Memory) : Option (List String) :=
  (call.onChain chain (memory.chain? chain)).map fun rules => rules.map ChainRule.line

theorem newChain_matches (h : Matches known filter.tool memory) (chain : Chain) :
    let first := filter.newChain tool chain
    first.1 = (memory.newChain chain).1 ∧
      first.2.tool =
        Function.update filter.tool chain (linesAfter chain (.newChain chain) memory) := by
  have hlines := h.lines chain
  cases hchain : memory.chain? chain with
  | none =>
      have hafter : linesAfter chain (.newChain chain) memory = some [] := by
        simp [linesAfter, Call.onChain, hchain]
      rw [hchain, Option.map_none] at hlines
      simp only [Iptables.newChain, Iptables.invoke, tool, hlines, Memory.newChain, hchain, hafter]
      exact ⟨rfl, trivial⟩
  | some rules =>
      have hafter : linesAfter chain (.newChain chain) memory = filter.tool chain := by
        simp [linesAfter, Call.onChain, hlines, hchain]
      rw [hchain, Option.map_some] at hlines
      rw [hafter, Function.update_eq_self]
      simp only [Iptables.newChain, Iptables.invoke, tool, hlines, Memory.newChain, hchain]
      exact ⟨congrArg Except.error (fault_exited _ _ (by simp [refusals])), trivial⟩

theorem clearChain_matches (h : Matches known filter.tool memory) (chain : Chain) :
    let first := filter.clearChain tool chain
    first.1 = (memory.clearChain chain).1 ∧
      first.2.tool =
        Function.update filter.tool chain (linesAfter chain (.clearChain chain) memory) := by
  have hlines := h.lines chain
  cases hchain : memory.chain? chain with
  | none =>
      have hafter : linesAfter chain (.clearChain chain) memory = filter.tool chain := by
        simp [linesAfter, Call.onChain, hlines, hchain]
      rw [hchain, Option.map_none] at hlines
      rw [hafter, Function.update_eq_self]
      simp only [Iptables.clearChain, Iptables.invoke, tool, hlines, Memory.clearChain, hchain]
      exact ⟨congrArg Except.error (fault_exited _ _ (by simp [refusals])), trivial⟩
  | some rules =>
      have hafter : linesAfter chain (.clearChain chain) memory = some [] := by
        simp [linesAfter, Call.onChain, hchain]
      rw [hchain, Option.map_some] at hlines
      simp only [Iptables.clearChain, Iptables.invoke, tool, hlines, Memory.clearChain, hchain,
        hafter]
      exact ⟨rfl, trivial⟩

theorem deleteChain_matches (h : Matches known filter.tool memory) (chain : Chain) :
    let first := filter.deleteChain tool chain
    first.1 = (memory.deleteChain chain).1 ∧
      first.2.tool =
        Function.update filter.tool chain (linesAfter chain (.deleteChain chain) memory) := by
  have hlines := h.lines chain
  rcases hchain : memory.chain? chain with _ | _ | ⟨rule, rules⟩
  · have hafter : linesAfter chain (.deleteChain chain) memory = filter.tool chain := by
      simp [linesAfter, Call.onChain, hlines, hchain]
    rw [hchain, Option.map_none] at hlines
    rw [hafter, Function.update_eq_self]
    simp only [Iptables.deleteChain, Iptables.invoke, tool, hlines, Memory.deleteChain, hchain]
    exact ⟨congrArg Except.error (fault_exited _ _ (by simp [refusals])), trivial⟩
  · have hafter : linesAfter chain (.deleteChain chain) memory = none := by
      simp [linesAfter, Call.onChain, hchain]
    rw [hchain, Option.map_some, List.map_nil] at hlines
    simp only [Iptables.deleteChain, Iptables.invoke, tool, hlines, Memory.deleteChain, hchain,
      hafter]
    exact ⟨rfl, trivial⟩
  · have hafter : linesAfter chain (.deleteChain chain) memory = filter.tool chain := by
      simp [linesAfter, Call.onChain, hlines, hchain]
    rw [hchain, Option.map_some, List.map_cons] at hlines
    rw [hafter, Function.update_eq_self]
    simp only [Iptables.deleteChain, Iptables.invoke, tool, hlines, Memory.deleteChain, hchain]
    exact ⟨congrArg Except.error (fault_exited _ _ (by simp [refusals])), trivial⟩

variable {rule : ChainRule}

/-- The tool finds a line exactly if the memory finds the rule. -/
theorem invoke_check (h : Matches known filter.tool memory) (hrule : Distinct known rule)
    (chain : Chain) :
    filter.invoke tool (.check chain rule.line) =
      (.ok (((memory.chain? chain).getD []).contains rule),
        ⟨filter.tool, filter.runs ++ [.check chain rule.line]⟩) := by
  have hcontains : ((filter.tool chain).getD []).contains rule.line =
      ((memory.chain? chain).getD []).contains rule := by
    rw [h.lines]
    cases hchain : memory.chain? chain with
    | none => rfl
    | some rules => exact contains_map_line hrule (h.known chain rules hchain)
  rw [← hcontains]
  rfl

theorem appendUnique_matches (h : Matches known filter.tool memory)
    (hrule : Distinct known rule) (chain : Chain) :
    let first := filter.appendUnique tool chain rule
    first.1 = (memory.appendUnique chain rule).1 ∧
      first.2.tool =
        Function.update filter.tool chain (linesAfter chain (.appendUnique chain rule) memory) := by
  have hlines := h.lines chain
  have hcheck := invoke_check h hrule chain
  cases hchain : memory.chain? chain with
  | none =>
      have hafter : linesAfter chain (.appendUnique chain rule) memory = filter.tool chain := by
        simp [linesAfter, Call.onChain, hlines, hchain]
      rw [hchain, Option.map_none] at hlines
      rw [hchain, Option.getD_none, List.contains_nil] at hcheck
      rw [hafter, Function.update_eq_self]
      simp only [Iptables.appendUnique, hcheck, Memory.appendUnique, hchain]
      simp only [Iptables.invoke, tool, hlines]
      exact ⟨congrArg Except.error (fault_exited _ _ (by simp [refusals])), trivial⟩
  | some rules =>
      rw [hchain, Option.getD_some] at hcheck
      cases hheld : rules.contains rule with
      | true =>
          have hafter : linesAfter chain (.appendUnique chain rule) memory = filter.tool chain := by
            simp only [linesAfter, Call.onChain, hlines, hchain, hheld, if_true, Option.map_some]
          rw [hheld] at hcheck
          rw [hafter, Function.update_eq_self]
          simp only [Iptables.appendUnique, hcheck, Memory.appendUnique, hchain, hheld, if_true]
          exact ⟨trivial, trivial⟩
      | false =>
          have hafter : linesAfter chain (.appendUnique chain rule) memory =
              some (rules.map ChainRule.line ++ [rule.line]) := by
            simp only [linesAfter, Call.onChain, hchain, hheld, if_true, Option.map_some,
              Bool.false_eq_true, if_false, List.map_append, List.map_cons, List.map_nil]
          rw [hchain, Option.map_some] at hlines
          rw [hheld] at hcheck
          simp only [Iptables.appendUnique, hcheck, Memory.appendUnique, hchain, hheld, hafter]
          simp only [Iptables.invoke, tool, hlines]
          exact ⟨rfl, trivial⟩

theorem deleteRule_matches (h : Matches known filter.tool memory)
    (hrule : Distinct known rule) (chain : Chain) :
    let first := filter.deleteRule tool chain rule
    first.1 = (memory.deleteRule chain rule).1 ∧
      first.2.tool =
        Function.update filter.tool chain (linesAfter chain (.deleteRule chain rule) memory) := by
  have hlines := h.lines chain
  cases hchain : memory.chain? chain with
  | none =>
      have hafter : linesAfter chain (.deleteRule chain rule) memory = filter.tool chain := by
        simp [linesAfter, Call.onChain, hlines, hchain]
      rw [hchain, Option.map_none] at hlines
      rw [hafter, Function.update_eq_self]
      simp only [Iptables.deleteRule, Iptables.invoke, tool, hlines, Memory.deleteRule, hchain]
      exact ⟨congrArg Except.error (fault_exited _ _ (by simp [refusals])), trivial⟩
  | some rules =>
      have hcontains := contains_map_line hrule (h.known chain rules hchain)
      have herase := erase_map_line hrule (h.known chain rules hchain)
      have hafter : linesAfter chain (.deleteRule chain rule) memory =
          some ((rules.map ChainRule.line).erase rule.line) := by
        simp [linesAfter, Call.onChain, hchain, herase]
      rw [hchain, Option.map_some] at hlines
      cases hheld : rules.contains rule with
      | true =>
          simp only [Iptables.deleteRule, Iptables.invoke, tool, hlines, hcontains, hheld,
            Memory.deleteRule, hchain, hafter, if_true]
          exact ⟨rfl, trivial⟩
      | false =>
          have habsent : rule.line ∉ rules.map ChainRule.line := by
            rw [← List.contains_iff_mem, hcontains, hheld]
            exact Bool.false_ne_true
          rw [hafter, List.erase_of_not_mem habsent, ← hlines, Function.update_eq_self]
          simp only [Iptables.deleteRule, Iptables.invoke, tool, hlines, hcontains, hheld,
            Memory.deleteRule, hchain, Bool.false_eq_true, if_false]
          exact ⟨congrArg Except.error (fault_exited _ _ (by simp [refusals])), trivial⟩

/-- A call changes the one chain it is on. -/
theorem Matches.host {lines : ChainLines} (h : Matches known lines memory) {call : Call}
    (hchain : call.chain? = some chain) (hcall : call.OnChains known) :
    Matches known (Function.update lines chain (linesAfter chain call memory))
      (Memory.host call memory).2 := by
  constructor
  · intro other
    rw [Memory.host_chain?]
    by_cases hother : other = chain
    · rw [hother, Function.update_self, linesAfter]
    · rw [Function.update_of_ne hother, Call.onChain_of_ne hchain hother, h.lines]
  · intro other rules hrules
    rw [Memory.host_chain?] at hrules
    exact hcall.known_onChain (h.known other) hrules

end Step

end ChainLines

namespace Machine

variable {κ φ : Type} {ends : Ends κ ChainLines φ} {machine : Machine κ ChainLines φ}
  {memory : Memory} {known : ChainRule → Prop}

/-- A call on chains is answered alike on both hosts, and they stay alike. -/
theorem host_matches (htool : ends.tool = ChainLines.tool)
    (h : ChainLines.Matches known machine.filter.tool memory) {call : Call}
    (hcall : call.OnChains fun rule => known rule ∧ ChainLines.Distinct known rule) :
    (host ends call machine).1 = (Memory.host call memory).1 ∧
      ChainLines.Matches known (host ends call machine).2.filter.tool
        (Memory.host call memory).2 := by
  have hknown : call.OnChains known := hcall.mono fun _ hrule => hrule.1
  cases call with
  | newChain chain =>
      obtain ⟨hreply, hafter⟩ := ChainLines.newChain_matches h chain
      rw [← htool] at hreply hafter
      exact ⟨hreply, hafter ▸ h.host rfl hknown⟩
  | clearChain chain =>
      obtain ⟨hreply, hafter⟩ := ChainLines.clearChain_matches h chain
      rw [← htool] at hreply hafter
      exact ⟨hreply, hafter ▸ h.host rfl hknown⟩
  | deleteChain chain =>
      obtain ⟨hreply, hafter⟩ := ChainLines.deleteChain_matches h chain
      rw [← htool] at hreply hafter
      exact ⟨hreply, hafter ▸ h.host rfl hknown⟩
  | appendUnique chain rule =>
      obtain ⟨hreply, hafter⟩ := ChainLines.appendUnique_matches h hcall.2 chain
      rw [← htool] at hreply hafter
      exact ⟨hreply, hafter ▸ h.host rfl hknown⟩
  | deleteRule chain rule =>
      obtain ⟨hreply, hafter⟩ := ChainLines.deleteRule_matches h hcall.2 chain
      rw [← htool] at hreply hafter
      exact ⟨hreply, hafter ▸ h.host rfl hknown⟩
  | _ => exact hcall.elim

theorem run_matches (htool : ends.tool = ChainLines.tool)
    (h : ChainLines.Matches known machine.filter.tool memory) {pass : Pass}
    (hpass : pass.Makes (Call.OnChains fun rule => known rule ∧ ChainLines.Distinct known rule)) :
    pass.transcript (host ends) machine = pass.transcript Memory.host memory ∧
      (pass.run (host ends) machine).1 = (pass.run Memory.host memory).1 ∧
      ChainLines.Matches known (pass.run (host ends) machine).2.filter.tool
        (pass.run Memory.host memory).2 := by
  induction pass generalizing machine memory with
  | done outcome => exact ⟨rfl, rfl, h⟩
  | call c next ih =>
      obtain ⟨hreply, hafter⟩ := host_matches htool h hpass.1
      obtain ⟨htranscript, houtcome, hend⟩ := ih _ hafter (hpass.2 (host ends c machine).1)
      rw [Pass.transcript_call, Pass.transcript_call, Pass.run_call, Pass.run_call, ← hreply]
      exact ⟨congrArg _ htranscript, houtcome, hend⟩

/-- Start with a tool that holds, chain by chain, the lines of the rules in memory. A run of calls
on chains is answered alike on both, call by call, and leaves the tool with the lines of the rules
in memory, as long as no rule that it names shares its line with another rule that it names or that
was there at the start. -/
theorem filter_refines_memory (htool : ends.tool = ChainLines.tool)
    (hstart : ∀ chain, machine.filter.tool chain =
      (memory.chain? chain).map fun rules => rules.map ChainRule.line)
    {named : ChainRule → Prop}
    (hdistinct : ∀ rule, named rule → ∀ other, named other ∨ ChainLines.Held memory other →
      other.line = rule.line → other = rule)
    {pass : Pass} (hpass : pass.Makes (Call.OnChains named)) :
    pass.transcript (host ends) machine = pass.transcript Memory.host memory ∧
      (pass.run (host ends) machine).1 = (pass.run Memory.host memory).1 ∧
      ∀ chain, (pass.run (host ends) machine).2.filter.tool chain =
        ((pass.run Memory.host memory).2.chain? chain).map fun rules =>
          rules.map ChainRule.line := by
  have hmatches : ChainLines.Matches (fun other => named other ∨ ChainLines.Held memory other)
      machine.filter.tool memory :=
    ⟨hstart, fun chain rules hrules rule hmem => Or.inr ⟨chain, rules, hrules, hmem⟩⟩
  have hmakes : pass.Makes (Call.OnChains fun rule =>
      (named rule ∨ ChainLines.Held memory rule) ∧
        ChainLines.Distinct (fun other => named other ∨ ChainLines.Held memory other) rule) :=
    Pass.Makes.mono (fun _ hcall => hcall.mono fun rule hrule =>
      ⟨Or.inl hrule, hdistinct rule hrule⟩) hpass
  obtain ⟨htranscript, houtcome, hend⟩ := run_matches htool hmatches hmakes
  exact ⟨htranscript, houtcome, hend.lines⟩

/-- A chain is made, gets two rules and cannot be deleted; then it loses one of them. -/
theorem filter_refines_memory_two_rules :
    let chain : Chain := ⟨"nat", "NODE"⟩
    let first : ChainRule := ⟨["-j", "RETURN"]⟩
    let second : ChainRule := ⟨["-m", "comment", "--comment", "two words"]⟩
    let pass := Pass.call (.newChain chain) fun _ => .call (.appendUnique chain first) fun _ =>
      .call (.appendUnique chain second) fun _ => .call (.deleteChain chain) fun _ =>
      .call (.deleteRule chain first) fun _ => .done (.ok ())
    let ends : Ends (List (Option Errno)) ChainLines FileTree :=
      ⟨Connection.scripted, ChainLines.tool, FileTree.files, "/"⟩
    let machine : Machine _ _ _ := ⟨Connection.fresh 0 [] [] [], ⟨fun _ => none, []⟩, ⟨[]⟩⟩
    pass.transcript (host ends) machine = pass.transcript Memory.host Memory.empty ∧
      (pass.run (host ends) machine).2.filter.tool chain = some [second.line] := by
  intro chain first second pass ends machine
  have htool : ends.tool = ChainLines.tool := rfl
  have hstart : ∀ other, machine.filter.tool other =
      (Memory.empty.chain? other).map fun rules => rules.map ChainRule.line := fun _ => rfl
  have hlines : first.line ≠ second.line := by decide +kernel
  have hdistinct : ∀ rule, rule = first ∨ rule = second → ∀ other,
      (other = first ∨ other = second) ∨ ChainLines.Held Memory.empty other →
      other.line = rule.line → other = rule := by
    rintro rule hrule other (hother | ⟨_, _, hnone, -⟩) hline
    · rcases hrule with rfl | rfl
      · rcases hother with rfl | rfl
        · rfl
        · exact absurd hline.symm hlines
      · rcases hother with rfl | rfl
        · exact absurd hline hlines
        · rfl
    · cases hnone
  have hpass : pass.Makes (Call.OnChains fun rule => rule = first ∨ rule = second) :=
    ⟨trivial, fun _ => ⟨Or.inl rfl, fun _ => ⟨Or.inr rfl, fun _ => ⟨trivial, fun _ =>
      ⟨Or.inl rfl, fun _ => trivial⟩⟩⟩⟩⟩
  obtain ⟨htranscript, -, hend⟩ := filter_refines_memory htool hstart hdistinct hpass
  have hleft : (pass.run Memory.host Memory.empty).2.chain? chain = some [second] := by
    decide +kernel
  refine ⟨htranscript, ?_⟩
  rw [hend, hleft]
  rfl

end Machine

end HostNet
