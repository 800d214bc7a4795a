import HostNet.Proofs.FilterRefinement
/-!
Rules of a chain on one command line and back. A line is split at the spaces outside of quotes, and
the quotes go; any other blank, and a space between quotes, is part of a word. Main statement: a
rule with proper tokens is what its line is split into, so that a tool that compares lines takes no
such rule for another.
-/
namespace HostNet

namespace ChainRule

/-- The parts of a line around its spaces, less the quotes. A space between quotes separates
nothing. -/
def pieces : (quoted : Bool) → List Char → List (List Char)
  | _, [] => [[]]
  | quoted, c :: rest =>
    if c = '"' then pieces (!quoted) rest
    else if c = ' ' ∧ quoted = false then [] :: pieces false rest
    else (pieces quoted rest).modifyHead (c :: ·)

/-- The words of a line. A line without characters has none. -/
def words (line : String) : List String :=
  if line = "" then [] else (pieces false line.toList).map String.ofList

/-- Every token has characters, and none of them is a double quote. -/
def Quotable (rule : ChainRule) : Prop :=
  ∀ token ∈ rule.tokens, token ≠ "" ∧ '"' ∉ token.toList

instance (rule : ChainRule) : Decidable rule.Quotable :=
  inferInstanceAs (Decidable (∀ token ∈ rule.tokens, token ≠ "" ∧ '"' ∉ token.toList))

/-! ## Splitting a line -/

section Splitting

variable {token rest : List Char}

/-- Characters that neither quote nor separate lengthen the piece they stand in. -/
theorem pieces_append {quoted : Bool} (hquote : '"' ∉ token)
    (hspace : quoted = false → ' ' ∉ token) :
    pieces quoted (token ++ rest) = (pieces quoted rest).modifyHead (token ++ ·) := by
  induction token with
  | nil => exact (congrFun List.modifyHead_id (pieces quoted rest)).symm
  | cons c token ih =>
      rw [List.mem_cons, not_or] at hquote
      have hc : ¬ (c = ' ' ∧ quoted = false) := fun ⟨hc, hfalse⟩ =>
        hspace hfalse (hc ▸ List.mem_cons_self)
      have htoken := ih hquote.2 fun hfalse hmem => hspace hfalse (List.mem_cons_of_mem c hmem)
      rw [List.cons_append, pieces, if_neg (Ne.symm hquote.1), if_neg hc, htoken,
        List.modifyHead_modifyHead]
      rfl

/-- Between quotes or not, a token stands for its characters. -/
theorem pieces_quoteToken_append (hquote : '"' ∉ token) :
    pieces false (quoteToken token ++ rest) = (pieces false rest).modifyHead (token ++ ·) := by
  rw [quoteToken]
  cases hblank : token.any Text.isBlank with
  | true =>
      have hclosed : pieces true (token ++ '"' :: rest) =
          (pieces true ('"' :: rest)).modifyHead (token ++ ·) :=
        pieces_append hquote nofun
      rw [if_pos rfl, List.append_assoc, List.cons_append, pieces, if_pos rfl]
      exact hclosed
  | false =>
      -- a space is a blank, so no space stands outside of quotes
      have hspace : ' ' ∉ token := fun hmem =>
        Bool.false_ne_true (hblank.symm.trans (List.any_eq_true.mpr ⟨' ', hmem, by decide⟩))
      rw [if_neg Bool.false_ne_true]
      exact pieces_append hquote fun _ => hspace

theorem pieces_joinTokens {tokens : List (List Char)} (hne : tokens ≠ [])
    (hquote : ∀ token ∈ tokens, '"' ∉ token) : pieces false (joinTokens tokens) = tokens := by
  induction tokens with
  | nil => exact absurd rfl hne
  | cons token tokens ih =>
      obtain ⟨htoken, htokens⟩ := List.forall_mem_cons.mp hquote
      cases tokens with
      | nil =>
          rw [joinTokens, ← List.append_nil (quoteToken token), pieces_quoteToken_append htoken]
          simp [pieces]
      | cons next tokens =>
          have hrest := ih (List.cons_ne_nil next tokens) htokens
          rw [joinTokens, pieces_quoteToken_append htoken, pieces, if_neg (by decide),
            if_pos ⟨rfl, rfl⟩, hrest, List.modifyHead_cons, List.append_nil]
          exact List.cons_ne_nil next tokens

end Splitting

/-! ## Rules and their lines -/

variable {rule other : ChainRule}

theorem words_line (h : rule.Quotable) : words rule.line = rule.tokens := by
  obtain ⟨tokens⟩ := rule
  rw [words, line, String.toList_ofList]
  by_cases hnil : tokens = []
  · rw [hnil]
    rfl
  · have hquote : ∀ token ∈ tokens.map String.toList, '"' ∉ token := by
      intro token htoken
      obtain ⟨text, htext, rfl⟩ := List.mem_map.mp htoken
      exact (h text htext).2
    have hpieces := pieces_joinTokens (mt List.map_eq_nil_iff.mp hnil) hquote
    have hline : String.ofList (joinTokens (tokens.map String.toList)) ≠ "" := by
      intro hempty
      rw [String.ofList_eq_empty_iff.mp hempty] at hpieces
      obtain ⟨text, htexts⟩ := List.map_eq_singleton_iff.mp hpieces.symm
      have hmem : text ∈ tokens := htexts.1 ▸ List.mem_singleton_self text
      exact (h text hmem).1 (String.toList_eq_nil_iff.mp htexts.2)
    rw [if_neg hline, hpieces, List.map_map]
    exact (List.map_congr_left fun text _ => String.ofList_toList).trans (List.map_id tokens)

theorem eq_of_line_eq (hrule : rule.Quotable) (hother : other.Quotable)
    (h : other.line = rule.line) : other = rule := by
  have htokens : other.tokens = rule.tokens := by
    rw [← words_line hother, ← words_line hrule, h]
  cases rule
  cases other
  exact congrArg ChainRule.mk htokens

section Tool

variable {filter : Iptables ChainLines} {chain : Chain} {rules : List ChainRule}

theorem distinct_of_quotable (hrule : rule.Quotable) : ChainLines.Distinct Quotable rule :=
  fun _ hother => eq_of_line_eq hrule hother

/-- A rule is appended unless it is there itself. -/
theorem appendUnique_lines (hrule : rule.Quotable) (hrules : ∀ other ∈ rules, other.Quotable)
    (hlines : filter.tool chain = some (rules.map line)) :
    let appended := filter.appendUnique ChainLines.tool chain rule
    appended.1 = .ok () ∧ appended.2.tool chain =
      some ((if rule ∈ rules then rules else rules ++ [rule]).map line) := by
  have hcontains := ChainLines.contains_map_line (distinct_of_quotable hrule) hrules
  by_cases hheld : rule ∈ rules
  · rw [List.contains_iff_mem.mpr hheld] at hcontains
    simp only [Iptables.appendUnique, Iptables.invoke, ChainLines.tool, hlines, Option.getD_some,
      hcontains, hheld, if_true]
    exact ⟨trivial, trivial⟩
  · rw [Bool.eq_false_iff.mpr (mt List.contains_iff_mem.mp hheld)] at hcontains
    simp only [Iptables.appendUnique, Iptables.invoke, ChainLines.tool, hlines, Option.getD_some,
      hcontains, hheld, if_false, Function.update_self]
    rw [List.map_append]
    exact ⟨rfl, rfl⟩

/-- A rule is deleted if it is there itself, and no other is. -/
theorem deleteRule_lines (hrule : rule.Quotable) (hrules : ∀ other ∈ rules, other.Quotable)
    (hlines : filter.tool chain = some (rules.map line)) :
    let deleted := filter.deleteRule ChainLines.tool chain rule
    (deleted.1 = .ok () ↔ rule ∈ rules) ∧
      deleted.2.tool chain = some ((rules.erase rule).map line) := by
  have hcontains := ChainLines.contains_map_line (distinct_of_quotable hrule) hrules
  have herase := ChainLines.erase_map_line (distinct_of_quotable hrule) hrules
  by_cases hheld : rule ∈ rules
  · rw [List.contains_iff_mem.mpr hheld] at hcontains
    simp only [Iptables.deleteRule, Iptables.invoke, ChainLines.tool, hlines, hcontains, herase,
      hheld, if_true, Function.update_self]
    exact ⟨iff_of_true rfl trivial, trivial⟩
  · rw [Bool.eq_false_iff.mpr (mt List.contains_iff_mem.mp hheld)] at hcontains
    simp only [Iptables.deleteRule, Iptables.invoke, ChainLines.tool, hlines, hcontains, hheld,
      Bool.false_eq_true, if_false, List.erase_of_not_mem hheld]
    refine ⟨iff_of_false (fun hok => ?_) not_false, trivial⟩
    cases hok

end Tool

/-- The line of a rule with proper tokens is split into these tokens, and no other such rule has
that line. So a tool that compares lines, on a chain that holds such rules, appends the rule unless
the chain holds this very rule, and deletes this rule and no other. -/
theorem line_faithful (hrule : rule.Quotable) :
    words rule.line = rule.tokens ∧
      (∀ other : ChainRule, other.Quotable → other.line = rule.line → other = rule) ∧
      ∀ (filter : Iptables ChainLines) (chain : Chain) (rules : List ChainRule),
        (∀ other ∈ rules, other.Quotable) → filter.tool chain = some (rules.map line) →
        let appended := filter.appendUnique ChainLines.tool chain rule
        let deleted := filter.deleteRule ChainLines.tool chain rule
        appended.1 = .ok () ∧
          appended.2.tool chain =
            some ((if rule ∈ rules then rules else rules ++ [rule]).map line) ∧
          (deleted.1 = .ok () ↔ rule ∈ rules) ∧
          deleted.2.tool chain = some ((rules.erase rule).map line) := by
  refine ⟨words_line hrule, fun other => eq_of_line_eq hrule, ?_⟩
  intro filter chain rules hrules hlines
  obtain ⟨happended, hafter⟩ := appendUnique_lines hrule hrules hlines
  obtain ⟨hdeleted, hleft⟩ := deleteRule_lines hrule hrules hlines
  exact ⟨happended, hafter, hdeleted, hleft⟩

/-- A comment with a space, a tab and a no-break space in it is one word. Without the space between
its last two parts it is another rule, which a chain that holds only the first does not hold. -/
theorem line_faithful_comment :
    let spaced : ChainRule := ⟨["--comment", "two words,\ttab\u00a0end", "-j", "RETURN"]⟩
    let joined : ChainRule := ⟨["--comment", "two words,\ttab\u00a0end", "-jRETURN"]⟩
    let chain : Chain := ⟨"mangle", "PREROUTING"⟩
    let filter : Iptables ChainLines := ⟨fun _ => some [spaced.line], []⟩
    spaced.Quotable ∧ joined.Quotable ∧ words joined.line = joined.tokens ∧
      spaced.line ≠ joined.line ∧
      (filter.appendUnique ChainLines.tool chain joined).2.tool chain =
        some [spaced.line, joined.line] ∧
      (filter.deleteRule ChainLines.tool chain joined).2.tool chain = some [spaced.line] := by
  intro spaced joined chain filter
  have hspaced : spaced.Quotable := by decide +kernel
  have hjoined : joined.Quotable := by decide +kernel
  have hne : spaced ≠ joined := by decide +kernel
  have hheld : joined ∉ [spaced] := by decide +kernel
  obtain ⟨hwords, hlines, htool⟩ := line_faithful hjoined
  obtain ⟨-, hafter, -, hleft⟩ := htool filter chain [spaced]
    (List.forall_mem_singleton.mpr hspaced) rfl
  rw [if_neg hheld] at hafter
  rw [List.erase_of_not_mem hheld] at hleft
  exact ⟨hspaced, hjoined, hwords, fun hline => hne (hlines spaced hspaced hline), hafter, hleft⟩

end ChainRule

end HostNet
