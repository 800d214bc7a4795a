import HostNet.Text.Blank
/-!
Packet-filter chains and the rules inside them. A rule is a list of tokens; the filter tool takes
it as one command line, in which tokens with blanks stand between quotes.
-/
namespace HostNet

/-- A chain within a table. -/
structure Chain where
  table : String
  name : String
deriving DecidableEq, Repr

/-- One rule inside a chain: matches followed by the target. -/
structure ChainRule where
  tokens : List String
deriving DecidableEq, Repr

namespace ChainRule

/-- A token as it stands on a command line. -/
def quoteToken (token : List Char) : List Char :=
  if token.any Text.isBlank then '"' :: token ++ ['"'] else token

/-- Tokens on one line, a space between each two. -/
def joinTokens : List (List Char) → List Char
  | [] => []
  | [token] => quoteToken token
  | token :: rest => quoteToken token ++ ' ' :: joinTokens rest

/-- The rule on one command line. -/
def line (rule : ChainRule) : String :=
  String.ofList (joinTokens (rule.tokens.map String.toList))

end ChainRule

end HostNet
