import HostNet.Document.Yaml.Place
/-!
Plain words of the YAML notation: scalars without quotes, which may go on over several lines.
-/
namespace HostNet.Yaml

/-- Whether a plain word may begin with the text. -/
def startsWord (flow : Bool) : List Char → Bool
  | [] => false
  | c :: rest =>
    if c == '-' then !endsWord rest
    else if c == '?' || c == ':' then !flow && !endsWord rest
    else !isGap c && !isBreak c && !isFlowMark c &&
      !(['#', '&', '*', '!', '|', '>', '\'', '"', '%', '@', '\x60'].contains c)

/-- The part of a plain word up to the next gap, in reverse behind what is kept so far, and what
follows it. It ends before a colon with a blank behind it, and before the marks of a flow
collection around it; a colon right before one of those marks is neither part nor end of it. -/
def readRun (flow : Bool) (sofar : List Char) : List Char → Option (List Char × List Char)
  | [] => some (sofar, [])
  | c :: rest =>
    if isGap c || isBreak c then some (sofar, c :: rest)
    else if flow && c == ':' && rest.head?.any fun d => d == '?' || isFlowMark d then none
    else if (c == ':' && endsWord rest) || (flow && isFlowMark c) then some (sofar, c :: rest)
    else readRun flow (c :: sofar) rest

structure PlainWord where
  text : String
  /-- Whether a line has ended between the word and the place behind it. -/
  broken : Bool
  after : Place
deriving DecidableEq, Repr

/-- A plain word from a place on, which stands behind a gap. The characters so far are kept in
reverse. Outside flow collections, lines that go on with the word stand at column `least` at
least. -/
def readWord (flow : Bool) (least : Nat) (fuel : Nat) (sofar : List Char) (gap : Gap)
    (place : Place) : Option PlainWord :=
  match fuel with
  | 0 => none
  | fuel + 1 =>
    let whole : PlainWord := ⟨String.ofList sofar.reverse, gap.isBroken, place⟩
    if place.atMark || place.rest.head? == some '#' then some whole
    else
      match readRun flow [] place.rest with
      | none => none
      | some ([], _) => some whole
      | some (run, rest) =>
        let sofar := run ++ (gap.text.reverse ++ sofar)
        let after := place.advance run.length
        if rest.isEmpty || !endsWord rest then
          some ⟨String.ofList sofar.reverse, false, after⟩
        else
          match after.readGap least with
          | none => none
          | some (gap, next) =>
            if !flow && next.column < least then
              some ⟨String.ofList sofar.reverse, gap.isBroken, next⟩
            else readWord flow least fuel sofar gap next

end HostNet.Yaml
