import Recolor.Yaml.Plain

/-!
# The nodes of a document

Nodes are read from tokens. A collection written by indentation ends with the token for
its end; one in brackets has commas between its entries and may hold single pairs as
entries of a sequence. A file holds one document; an empty one holds nothing.

A collection has its name from its start on, so that an alias inside may stand for it.
-/

set_option autoImplicit false

namespace Recolor.Yaml

/-- What is left of the tokens, with the nodes, anchors and tag handles known so far. -/
structure Reading where
  tokens : List Token
  graph : Graph := {}
  anchors : List (String × NodeId) := []
  handles : List (String × String) := []
  /-- How many collections the next node is inside of. -/
  depth : Nat := 0
  deriving Inhabited

/-- A step that reads tokens. -/
abbrev Read (α : Type) : Type := Reading → Except Fault (α × Reading)

namespace Reading

/-- Past the next token. -/
def next (r : Reading) : Reading :=
  { r with tokens := r.tokens.drop 1 }

/-- The fault of a token that does not belong where it stands. -/
def misplaced (r : Reading) : Fault :=
  match r.tokens with
  | .broken f :: _ => f
  | _ => malformed "a token stands in the wrong place"

/-- Past a token that must come next. -/
def expect (r : Reading) (isIt : Token → Bool) : Except Fault Reading :=
  match r.tokens with
  | t :: _ => if isIt t then .ok r.next else .error r.misplaced
  | [] => .error r.misplaced

/-- Whether the next token is one of some. -/
def isAt (r : Reading) (isIt : Token → Bool) : Bool :=
  r.tokens.head?.any isIt

/-- Adds a node under the name it has, if any. A name is given once. -/
def add (r : Reading) (name : Option String) (n : Node) : Except Fault (NodeId × Reading) :=
  let (id, graph) := r.graph.add n
  match name with
  | none => .ok (id, { r with graph })
  | some name =>
    match r.anchors.lookup name with
    | some _ => .error (malformed "an anchor is given twice")
    | none => .ok (id, { r with graph, anchors := (name, id) :: r.anchors })

/-- Adds a collection that is about to be read. -/
def enter (r : Reading) (name : Option String) (n : Node) : Except Fault (NodeId × Reading) :=
  { r with depth := r.depth + 1 }.add name n

/-- Gives a collection the content that was read. -/
def leave (r : Reading) (id : NodeId) (c : Content) : Reading :=
  { r with graph := r.graph.setContent id c, depth := r.depth - 1 }

/-- In how many collections a node may be. -/
def deepest : Nat := 489

end Reading

/-- The tokens at which an entry of a collection is empty. -/
def endsEntry : Token → Bool
  | .key => true
  | .value => true
  | .blockEnd => true
  | _ => false

/-- The anchor and the tag in front of a node. -/
structure Properties where
  anchor : Option String := none
  tag : Option (Option String × String) := none
  deriving Inhabited

namespace Properties

/-- Reads an anchor and a tag, in any order. -/
def read (r : Reading) : Properties × Reading :=
  match r.tokens with
  | .anchor a :: .tag h s :: _ => ({ anchor := some a, tag := some (h, s) }, r.next.next)
  | .tag h s :: .anchor a :: _ => ({ anchor := some a, tag := some (h, s) }, r.next.next)
  | .anchor a :: _ => ({ anchor := some a }, r.next)
  | .tag h s :: _ => ({ tag := some (h, s) }, r.next)
  | _ => ({}, r)

/-- The tag in full; a lone exclamation mark is none. -/
def fullTag (p : Properties) (r : Reading) : Except Fault (Option String) :=
  match p.tag with
  | none => .ok none
  | some (none, "!") => .ok none
  | some (none, suffix) => .ok (some suffix)
  | some (some handle, suffix) =>
    match r.handles.lookup handle with
    | some start => .ok (some (start ++ suffix))
    | none => .error (malformed "a tag uses an unknown handle")

/-- Whether anything stands in front of the node. -/
def isPresent (p : Properties) : Bool :=
  p.anchor.isSome || p.tag.isSome

/-- The kind of a scalar: that of its tag, or the one its text implies if it is plain. A lone
exclamation mark in front makes any scalar count as plain. -/
def scalarKind (p : Properties) (tag : Option String) (text : String) (isPlain : Bool) : Kind :=
  match tag with
  | some tag => Kind.ofTag tag
  | none => if isPlain || p.tag.isSome then Plain.kind text else .str

/-- The kind of a collection. -/
def collectionKind (tag : Option String) (own : Kind) : Kind :=
  tag.elim own Kind.ofTag

end Properties

mutual

/-- Reads a node. Collections written by indentation may be excluded, and a sequence may be
allowed without indentation of its own. -/
def readNode (allowBlock allowDashes : Bool) : (room : Nat) → Read NodeId
  | 0, r => .error r.misplaced
  | room + 1, r =>
    if Reading.deepest ≤ r.depth then .error .tooDeep
    else
      match r.tokens with
      | .alias name :: _ =>
        match r.anchors.lookup name with
        | some id => .ok (id, r.next)
        | none => .error (malformed "an alias names nothing")
      | _ => do
        let (p, r) := Properties.read r
        let tag ← p.fullTag r
        match r.tokens with
        | .scalar text isPlain :: _ =>
          r.next.add p.anchor ⟨p.scalarKind tag text isPlain, .scalar text⟩
        | .broken f :: _ => .error f
        | t :: _ =>
          let isSequence := (match t with
            | .blockEntry => allowDashes
            | .flowSequenceStart => true
            | .blockSequenceStart => allowBlock
            | _ => false)
          let isMapping := (match t with
            | .flowMappingStart => true
            | .blockMappingStart => allowBlock
            | _ => false)
          if isSequence then
            let (id, r) ← r.enter p.anchor ⟨Properties.collectionKind tag .seq, .sequence []⟩
            let (items, r) ← (match t with
              | .blockEntry => readDashes room [] r
              | .flowSequenceStart => readFlowItems room [] r.next
              | _ => readItems room [] r.next)
            return (id, r.leave id (.sequence items))
          else if isMapping then
            let (id, r) ← r.enter p.anchor ⟨Properties.collectionKind tag .map, .mapping []⟩
            let (entries, r) ← (match t with
              | .flowMappingStart => readFlowEntries room [] r.next
              | _ => readEntries room [] r.next)
            return (id, r.leave id (.mapping entries))
          else if p.isPresent then
            r.add p.anchor ⟨p.scalarKind tag "" p.tag.isNone, .scalar ""⟩
          else .error r.misplaced
        | [] => .error r.misplaced

/-- Reads a node, or an empty one where some tokens come next. -/
def readNodeUnless (isEnd : Token → Bool) (allowBlock allowDashes : Bool) :
    (room : Nat) → Read NodeId
  | 0, r => .error r.misplaced
  | room + 1, r =>
    if r.isAt isEnd then r.add none .empty else readNode allowBlock allowDashes room r

/-- Reads the items of an indented sequence. -/
def readItems : (room : Nat) → List NodeId → Read (List NodeId)
  | 0, _, r => .error r.misplaced
  | room + 1, found, r =>
    match r.tokens with
    | .blockEntry :: _ => do
      let isEnd (t : Token) : Bool := (match t with
        | .blockEntry => true
        | .blockEnd => true
        | _ => false)
      let (n, r) ← readNodeUnless isEnd true false room r.next
      readItems room (n :: found) r
    | .blockEnd :: _ => .ok (found.reverse, r.next)
    | _ => .error r.misplaced

/-- Reads the items of a sequence without indentation of its own. -/
def readDashes : (room : Nat) → List NodeId → Read (List NodeId)
  | 0, _, r => .error r.misplaced
  | room + 1, found, r =>
    match r.tokens with
    | .blockEntry :: _ => do
      let isEnd (t : Token) : Bool := (match t with
        | .blockEntry => true
        | t => endsEntry t)
      let (n, r) ← readNodeUnless isEnd true false room r.next
      readDashes room (n :: found) r
    | _ => .ok (found.reverse, r)

/-- Reads the entries of an indented mapping. -/
def readEntries :
    (room : Nat) → List (NodeId × NodeId) → Read (List (NodeId × NodeId))
  | 0, _, r => .error r.misplaced
  | room + 1, found, r =>
    match r.tokens with
    | .key :: _ => do
      let (k, r) ← readNodeUnless endsEntry true true room r.next
      let (v, r) ← (match r.tokens with
        | .value :: _ => readNodeUnless endsEntry true true room r.next
        | _ => r.add none .empty)
      readEntries room ((k, v) :: found) r
    | .blockEnd :: _ => .ok (found.reverse, r.next)
    | _ => .error r.misplaced

/-- Reads the value after the key of an entry in brackets. -/
def readFlowValue (isEnd : Token → Bool) : (room : Nat) → Read NodeId
  | 0, r => .error r.misplaced
  | room + 1, r =>
    match r.tokens with
    | .value :: _ => readNodeUnless isEnd false false room r.next
    | _ => r.add none .empty

/-- Reads the items of a sequence in brackets. -/
def readFlowItems : (room : Nat) → List NodeId → Read (List NodeId)
  | 0, _, r => .error r.misplaced
  | room + 1, found, r =>
    match r.tokens with
    | .flowSequenceEnd :: _ => .ok (found.reverse, r.next)
    | _ => do
      let r ← if found.isEmpty then pure r else r.expect (fun t => t matches .flowEntry)
      match r.tokens with
      | .key :: _ =>
        if Reading.deepest ≤ r.depth then .error .tooDeep
        else
          let isEnd (t : Token) : Bool := t matches .flowEntry | .flowSequenceEnd
          let (id, r) ← r.enter none ⟨.map, .mapping []⟩
          let (k, r) ←
            readNodeUnless (fun t => t matches .value || isEnd t) false false room r.next
          let (v, r) ← readFlowValue isEnd room r
          readFlowItems room (id :: found) (r.leave id (.mapping [(k, v)]))
      | .flowSequenceEnd :: _ => return (found.reverse, r.next)
      | _ =>
        let (n, r) ← readNode false false room r
        readFlowItems room (n :: found) r

/-- Reads the entries of a mapping in brackets. -/
def readFlowEntries :
    (room : Nat) → List (NodeId × NodeId) → Read (List (NodeId × NodeId))
  | 0, _, r => .error r.misplaced
  | room + 1, found, r =>
    match r.tokens with
    | .flowMappingEnd :: _ => .ok (found.reverse, r.next)
    | _ => do
      let r ← if found.isEmpty then pure r else r.expect (fun t => t matches .flowEntry)
      match r.tokens with
      | .key :: _ =>
        let isEnd (t : Token) : Bool := t matches .flowEntry | .flowMappingEnd
        let (k, r) ← readNodeUnless (fun t => t matches .value || isEnd t) false false room r.next
        let (v, r) ← readFlowValue isEnd room r
        readFlowEntries room ((k, v) :: found) r
      | .flowMappingEnd :: _ => return (found.reverse, r.next)
      | _ =>
        let (n, r) ← readNode false false room r
        let (empty, r) ← r.add none .empty
        readFlowEntries room ((n, empty) :: found) r

end

/-- Reads the directives in front of a document. -/
def readDirectives (hasVersion : Bool) (handles : List (String × String)) :
    List Token → Except Fault (List (String × String) × List Token)
  | .directive (.version major _) :: rest =>
    if hasVersion then .error (malformed "the version is given twice")
    else if major ≠ 1 then .error (malformed "the version is not known")
    else readDirectives true handles rest
  | .directive (.tag handle start) :: rest =>
    if (handles.lookup handle).isSome then .error (malformed "a handle is given twice")
    else readDirectives hasVersion ((handle, start) :: handles) rest
  | .directive (.other _) :: rest => readDirectives hasVersion handles rest
  | rest => .ok (handles, rest)

/-- The handles that stand for something without a directive. -/
def standardHandles : List (String × String) :=
  [("!", "!"), ("!!", Kind.authority)]

/-- Whether a token stands outside documents. -/
def isOutside : Token → Bool
  | .directive _ => true
  | .documentStart => true
  | .documentEnd => true
  | .streamEnd => true
  | _ => false

/-- Past marks of a document's end. -/
def skipEnds : List Token → List Token
  | .documentEnd :: rest => skipEnds rest
  | rest => rest

/-- A document: its nodes and the outermost of them. -/
structure Document where
  graph : Graph
  root : NodeId
  deriving Inhabited

/-- Reads the end of the only document. -/
def readEnd (root : NodeId) (r : Reading) : Except Fault (Option Document) :=
  match skipEnds r.tokens with
  | .streamEnd :: _ => .ok (some { graph := r.graph, root })
  | rest =>
    match readDirectives false [] rest with
    | .error f => .error f
    | .ok (_, rest) => .error { r with tokens := rest }.misplaced

/-- Reads a document that starts with directives or a mark of its start. -/
def readMarked (room : Nat) (ts : List Token) : Except Fault (Option Document) := do
  let (handles, ts) ← readDirectives false [] ts
  let r ← ({ tokens := ts, handles := handles ++ standardHandles } : Reading).expect
    (fun t => t matches .documentStart)
  if r.isAt isOutside then
    let (id, r) ← r.add none .empty
    readEnd id r
  else
    let (id, r) ← readNode true false room r
    readEnd id r

/-- The only document among tokens, if there is one. -/
def document? (ts : List Token) : Except Fault (Option Document) :=
  let room := 4 * ts.length + 8
  match ts with
  | .streamEnd :: _ => .ok none
  | .directive _ :: _ => readMarked room ts
  | .documentStart :: _ => readMarked room ts
  | _ => do
    let (id, r) ← readNode true false room { tokens := ts, handles := standardHandles }
    readEnd id r

end Recolor.Yaml
