import HostNet.Document.Yaml.Tokens
/-!
Reading documents in the YAML notation from their tokens. A text holds one document. An alias stands
for the node with its anchor; a node inside which it stands cannot be read through it, so that there
it is garbled, as is an object with a name that is no scalar.
-/
namespace HostNet.Yaml

/-- The nodes with anchors, the last one first. -/
abbrev Anchors : Type :=
  List (String × Document)

/-- One more anchor, of a node that is yet to be read. -/
def Anchors.announce (anchors : Anchors) (name? : Option String) : Anchors :=
  match name? with
  | some name => (name, .garbled) :: anchors
  | none => anchors

/-- The node of the anchor that was announced behind the given number of others is read. -/
def Anchors.settle (anchors : Anchors) (name? : Option String) (before : Nat)
    (document : Document) : Anchors :=
  match name? with
  | some name => anchors.set (anchors.length - 1 - before) (name, document)
  | none => anchors

/-- What stands before the content of a node. -/
structure Properties where
  anchor : Option String
  tag : Option String
deriving DecidableEq, Repr

def Properties.isEmpty (properties : Properties) : Bool :=
  properties.anchor.isNone && properties.tag.isNone

/-- The properties at the front of the tokens, in either order, and what follows them. -/
def readProperties (handles : Handles) : List Token → Option (Properties × List Token)
  | .anchor name :: .tag tag :: rest =>
    (tag.name? handles).map fun full => (⟨some name, some full⟩, rest)
  | .anchor name :: rest => some (⟨some name, none⟩, rest)
  | .tag tag :: .anchor name :: rest =>
    (tag.name? handles).map fun full => (⟨some name, some full⟩, rest)
  | .tag tag :: rest => (tag.name? handles).map fun full => (⟨none, some full⟩, rest)
  | tokens => some (⟨none, none⟩, tokens)

/-- A scalar with the tag it has, if any. An exclamation mark alone is none. -/
def scalarOf (tag : Option String) (form : ScalarForm) (text : String) : Scalar :=
  match tag with
  | none | some "!" =>
    match form with
    | .word => .word text
    | _ => .text text
  | some tag => .tagged tag form text

def emptyScalar (tag : Option String) : Scalar :=
  match tag with
  | none => .word ""
  | some tag => .tagged tag .word ""

def objectOf (members : List (Document × Document)) : Document :=
  match members.mapM fun (name, value) => name.text?.map fun text => (text, value) with
  | some members => .object members
  | none => .garbled

/-- A document that has been read with the anchors so far, and the tokens behind it. -/
structure ReadNode where
  document : Document
  anchors : Anchors
  rest : List Token

def ReadNode.blank (anchors : Anchors) (tokens : List Token) : ReadNode :=
  ⟨.blank, anchors, tokens⟩

def isNext (kinds : List Token) (tokens : List Token) : Bool :=
  tokens.head?.any kinds.contains

mutual

/-- A node, where the tokens must give one. Block collections are nodes only where `block` says so,
lists without indentation of their own only where `flat` does. -/
def readNode (fuel : Nat) (handles : Handles) (block flat : Bool) (anchors : Anchors)
    (tokens : List Token) : Option ReadNode :=
  match fuel with
  | 0 => none
  | fuel + 1 =>
    match tokens with
    | .alias name :: rest =>
      (anchors.lookup name).map fun document => ⟨document, anchors, rest⟩
    | _ =>
      match readProperties handles tokens with
      | none => none
      | some (properties, tokens) =>
        let before := anchors.length
        let announced := anchors.announce properties.anchor
        let content : Option ReadNode :=
          match tokens with
          | .scalar form text :: rest =>
            some ⟨.leaf (scalarOf properties.tag form text), announced, rest⟩
          | .listStart :: rest => readList fuel handles true [] announced rest
          | .objectStart :: rest => readObject fuel handles true [] announced rest
          | .blockListStart :: rest =>
            if block then readBlockList fuel handles false [] announced rest else none
          | .blockObjectStart :: rest =>
            if block then readBlockObject fuel handles [] announced rest else none
          | _ =>
            if flat && isNext [.item] tokens then
              readBlockList fuel handles true [] announced tokens
            else if properties.isEmpty then none
            else some ⟨.leaf (emptyScalar properties.tag), announced, tokens⟩
        content.map fun node =>
          { node with anchors := node.anchors.settle properties.anchor before node.document }

/-- A node, or an empty one where one of the given tokens is next. -/
def readUnless (fuel : Nat) (handles : Handles) (block flat : Bool) (stops : List Token)
    (anchors : Anchors) (tokens : List Token) : Option ReadNode :=
  match fuel with
  | 0 => none
  | fuel + 1 =>
    if isNext stops tokens then some (.blank anchors tokens)
    else readNode fuel handles block flat anchors tokens

/-- The rest of a block list from the mark of an item on. One without indentation of its own ends
with the last item. -/
def readBlockList (fuel : Nat) (handles : Handles) (flat : Bool) (sofar : List Document)
    (anchors : Anchors) (tokens : List Token) : Option ReadNode :=
  match fuel with
  | 0 => none
  | fuel + 1 =>
    match tokens with
    | .item :: rest =>
      let stops := if flat then [.item, .name, .value, .blockEnd] else [.item, .blockEnd]
      match readUnless fuel handles true false stops anchors rest with
      | none => none
      | some item =>
        readBlockList fuel handles flat (item.document :: sofar) item.anchors item.rest
    | tokens =>
      if flat then some ⟨.list sofar.reverse, anchors, tokens⟩
      else if isNext [.blockEnd] tokens then
        some ⟨.list sofar.reverse, anchors, tokens.tail⟩
      else none

/-- The rest of a block object from the mark of a name on. -/
def readBlockObject (fuel : Nat) (handles : Handles) (sofar : List (Document × Document))
    (anchors : Anchors) (tokens : List Token) : Option ReadNode :=
  match fuel with
  | 0 => none
  | fuel + 1 =>
    let stops := [.name, .value, .blockEnd]
    match tokens with
    | .blockEnd :: rest => some ⟨objectOf sofar.reverse, anchors, rest⟩
    | .name :: rest =>
      match readUnless fuel handles true true stops anchors rest with
      | none => none
      | some name =>
        let value :=
          match name.rest with
          | .value :: rest => readUnless fuel handles true true stops name.anchors rest
          | tokens => some (.blank name.anchors tokens)
        match value with
        | none => none
        | some value =>
          readBlockObject fuel handles ((name.document, value.document) :: sofar)
            value.anchors value.rest
    | _ => none

/-- The rest of a list in brackets; behind each item but the first a comma is expected. -/
def readList (fuel : Nat) (handles : Handles) (first : Bool) (sofar : List Document)
    (anchors : Anchors) (tokens : List Token) : Option ReadNode :=
  match fuel with
  | 0 => none
  | fuel + 1 =>
    if isNext [.listEnd] tokens then some ⟨.list sofar.reverse, anchors, tokens.tail⟩
    else if !first && !isNext [.comma] tokens then none
    else
      let tokens := if first then tokens else tokens.tail
      if isNext [.listEnd] tokens then some ⟨.list sofar.reverse, anchors, tokens.tail⟩
      else
        let item :=
          match tokens with
          | .name :: rest => readPair fuel handles anchors rest
          | _ => readNode fuel handles false false anchors tokens
        match item with
        | none => none
        | some item =>
          readList fuel handles false (item.document :: sofar) item.anchors item.rest

/-- An object of one member, as an item of a list in brackets. The token that shows that its name is
empty is gone with it. -/
def readPair (fuel : Nat) (handles : Handles) (anchors : Anchors) (tokens : List Token) :
    Option ReadNode :=
  match fuel with
  | 0 => none
  | fuel + 1 =>
    let name :=
      if isNext [.value, .comma, .listEnd] tokens then some (.blank anchors tokens.tail)
      else readNode fuel handles false false anchors tokens
    match name with
    | none => none
    | some name =>
      let value :=
        match name.rest with
        | .value :: rest =>
          readUnless fuel handles false false [.comma, .listEnd] name.anchors rest
        | tokens => some (.blank name.anchors tokens)
      value.map fun value =>
        { value with document := objectOf [(name.document, value.document)] }

/-- The rest of an object in brackets; behind each member but the first a comma is expected. A name
without its mark has no value. -/
def readObject (fuel : Nat) (handles : Handles) (first : Bool)
    (sofar : List (Document × Document)) (anchors : Anchors) (tokens : List Token) :
    Option ReadNode :=
  match fuel with
  | 0 => none
  | fuel + 1 =>
    let whole := fun tokens => some (ReadNode.mk (objectOf sofar.reverse) anchors tokens)
    if isNext [.objectEnd] tokens then whole tokens.tail
    else if !first && !isNext [.comma] tokens then none
    else
      let tokens := if first then tokens else tokens.tail
      match tokens with
      | .objectEnd :: rest => whole rest
      | .name :: rest =>
        match readUnless fuel handles false false [.value, .comma, .objectEnd] anchors rest with
        | none => none
        | some name =>
          let value :=
            match name.rest with
            | .value :: rest =>
              readUnless fuel handles false false [.comma, .objectEnd] name.anchors rest
            | tokens => some (.blank name.anchors tokens)
          match value with
          | none => none
          | some value =>
            readObject fuel handles false ((name.document, value.document) :: sofar)
              value.anchors value.rest
      | tokens =>
        match readNode fuel handles false false anchors tokens with
        | none => none
        | some name =>
          readObject fuel handles false ((name.document, .blank) :: sofar) name.anchors name.rest

end

/-- What the directives at the front of the tokens say about handles, and what follows them. Each
thing is said once, and only the versions 1.1 and 1.2 are known. -/
def readDirectives (versioned : Bool) (handles : Handles) :
    List Token → Option (Handles × List Token)
  | .version major minor :: rest =>
    if versioned || major != 1 || (minor != 1 && minor != 2) then none
    else readDirectives true handles rest
  | .handle name meaning :: rest =>
    if (handles.lookup name).isSome then none
    else readDirectives versioned ((name, meaning) :: handles) rest
  | tokens => some (handles, tokens)

/-- Whether the document ends before the tokens. -/
def endsDocument : List Token → Bool
  | [] => true
  | .documentEnd :: _ => true
  | .documentStart :: _ => true
  | .version .. :: _ => true
  | .handle .. :: _ => true
  | _ => false

/-- The document at the front of the tokens, and what follows it. Without the mark of its start
there is no empty one. -/
def readDocument (tokens : List Token) : Option (Document × List Token) := do
  let (handles, rest) ← readDirectives false [] tokens
  let handles := handles ++ Handles.standard
  let fuel := 3 * tokens.length + 3
  match rest with
  | .documentStart :: rest =>
    if endsDocument rest then return (.blank, rest)
    else
      let node ← readNode fuel handles true false [] rest
      return (node.document, node.rest)
  | _ =>
    guard (rest.length = tokens.length)
    let node ← readNode fuel handles true false [] tokens
    return (node.document, node.rest)

def ofTokens? (tokens : List Token) : Option Document :=
  if tokens.isEmpty then some .blank
  else
    match readDocument tokens with
    | some (document, rest) => if rest.all (· == .documentEnd) then some document else none
    | none => none

/-- The levels of collections in collections that readers of documents in this notation follow. -/
def levels : Nat := 128

/-- The whole of a text as a document. A text with nothing in it is the blank document. -/
def read? (text : String) : Option Document :=
  if text.toList.all isAllowed then
    (tokens? (unifyLines text.toList)).bind ofTokens?
  else none

end HostNet.Yaml
