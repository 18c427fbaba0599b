import Recolor.Yaml.Token

/-!
# Tokens of a document

Tokens are read one after another. Outside brackets, a line that is indented further
than the collection around it starts a new collection, and one that is indented less
ends collections. A key of a mapping is known as such only when the colon after it is
reached, so every token that could be a key is remembered until then, one for every
depth of brackets; it must be on the same line and at most 1024 characters back.

A token that may turn out to be a key is known only when it has been decided. If the
document breaks off before that, it breaks off at that token.
-/

set_option autoImplicit false

namespace Recolor.Yaml

/-- A token that may turn out to be a key. -/
structure PossibleKey where
  /-- How many tokens came before it. -/
  position : Nat
  /-- Whether it can be nothing else. -/
  isRequired : Bool
  index : Nat
  line : Nat
  column : Nat
  deriving Repr, Inhabited

/-- How far a document has been read. -/
structure Lexing where
  cursor : Cursor
  tokens : Array Token := #[]
  /-- The column of the collection around, `-1` outside all collections. -/
  indent : Int := -1
  /-- The columns of the collections around that. -/
  outer : List Int := []
  /-- How many brackets are open. -/
  depth : Nat := 0
  /-- The possible keys, by the number of open brackets. -/
  keys : List (Nat × PossibleKey) := []
  /-- Whether a key may start here. -/
  mayStartKey : Bool := true
  deriving Inhabited

namespace Lexing

/-- Whether brackets are open. -/
def inFlow (l : Lexing) : Bool :=
  l.depth != 0

/-- Adds a token. -/
def emit (l : Lexing) (t : Token) : Lexing :=
  { l with tokens := l.tokens.push t }

/-- Past spaces, comments and line ends. Outside brackets a key may start on a new line. -/
def skipGap (l : Lexing) : (room : Nat) → Lexing
  | 0 => l
  | room + 1 =>
    let c := l.cursor.skipWhile (· == ' ')
    let c := if c.peek == '#' then c.skipWhile (fun ch => !isLineEnd ch) else c
    if isBreak c.peek then
      skipGap { l with cursor := c.lineBreak.2, mayStartKey := l.mayStartKey || !l.inFlow } room
    else { l with cursor := c }

/-- Whether a possible key is too far back to be one. -/
def isStale (c : Cursor) (k : PossibleKey) : Bool :=
  k.line != c.line || 1024 < c.index - k.index

/-- Forgets the possible keys that are too far back. -/
def dropStale (l : Lexing) : Except Fault Lexing :=
  if l.keys.any fun (_, k) => isStale l.cursor k && k.isRequired then
    .error (malformed "a key has no colon")
  else .ok { l with keys := l.keys.filter fun (_, k) => !isStale l.cursor k }

/-- Forgets the possible key of the present depth. -/
def dropKey (l : Lexing) : Except Fault Lexing :=
  match l.keys.lookup l.depth with
  | none => .ok l
  | some k =>
    if k.isRequired then .error (malformed "a key has no colon")
    else .ok { l with keys := l.keys.filter fun (d, _) => d != l.depth }

/-- Remembers that the next token may be a key. -/
def saveKey (l : Lexing) : Except Fault Lexing :=
  if l.mayStartKey then
    match l.dropKey with
    | .error e => .error e
    | .ok l =>
      let c := l.cursor
      .ok { l with keys := (l.depth,
        { position := l.tokens.size, isRequired := !l.inFlow && l.indent == c.column
          index := c.index, line := c.line, column := c.column }) :: l.keys }
  else .ok l

/-- Ends the collections that are indented further than a column, given the columns of the
collections around the innermost. -/
def closeDeeper (l : Lexing) (column : Int) : List Int → Lexing
  | [] => l
  | around :: outer =>
    if column < l.indent then
      closeDeeper ({ l with indent := around, outer }.emit .blockEnd) column outer
    else l

/-- Ends the collections that are indented further than a column. Inside brackets columns
do not count. -/
def unwind (l : Lexing) (column : Int) : Lexing :=
  if l.inFlow then l else l.closeDeeper column l.outer

/-- Starts a collection at a column if it is indented further than the one around. -/
def openAt (l : Lexing) (column : Nat) (t : Token) : Lexing :=
  if l.indent < column then
    { l with indent := column, outer := l.indent :: l.outer }.emit t
  else l

/-- Adds a token of some characters. -/
def mark (l : Lexing) (length : Nat) (t : Token) : Lexing :=
  { l with cursor := l.cursor.skip length }.emit t

/-- Reads the end of the document. -/
def readEnd (l : Lexing) : Except Fault Lexing :=
  match (l.unwind (-1)).dropKey with
  | .error e => .error e
  | .ok l => .ok (l.emit .streamEnd)

/-- Reads a line that separates documents. -/
def readMark (l : Lexing) (t : Token) : Except Fault Lexing :=
  match (l.unwind (-1)).dropKey with
  | .error e => .error e
  | .ok l => .ok ({ l with mayStartKey := false }.mark 3 t)

/-- Reads a directive. -/
def readDirective (l : Lexing) : Except Fault Lexing := do
  let l ← (l.unwind (-1)).dropKey
  let (t, cursor) ← Token.readDirective l.cursor
  return { l with cursor, mayStartKey := false }.emit t

/-- Reads an opening bracket. -/
def readOpening (l : Lexing) (t : Token) : Except Fault Lexing :=
  match l.saveKey with
  | .error e => .error e
  | .ok l => .ok ({ l with depth := l.depth + 1, mayStartKey := true }.mark 1 t)

/-- Reads a closing bracket. -/
def readClosing (l : Lexing) (t : Token) : Except Fault Lexing :=
  match l.dropKey with
  | .error e => .error e
  | .ok l =>
    if l.inFlow then .ok ({ l with depth := l.depth - 1, mayStartKey := false }.mark 1 t)
    else .error (malformed "a bracket was not opened")

/-- Reads a comma. -/
def readComma (l : Lexing) : Except Fault Lexing :=
  match { l with mayStartKey := true }.dropKey with
  | .error e => .error e
  | .ok l => .ok (l.mark 1 .flowEntry)

/-- Reads a dash. -/
def readDash (l : Lexing) : Except Fault Lexing :=
  if !l.inFlow && !l.mayStartKey then .error (malformed "no entry may start here")
  else
    let l := if l.inFlow then l else l.openAt l.cursor.column .blockSequenceStart
    match { l with mayStartKey := true }.dropKey with
    | .error e => .error e
    | .ok l => .ok (l.mark 1 .blockEntry)

/-- Reads a question mark. -/
def readQuestion (l : Lexing) : Except Fault Lexing :=
  if !l.inFlow && !l.mayStartKey then .error (malformed "no key may start here")
  else
    let l := if l.inFlow then l else l.openAt l.cursor.column .blockMappingStart
    match { l with mayStartKey := !l.inFlow }.dropKey with
    | .error e => .error e
    | .ok l => .ok (l.mark 1 .key)

/-- Turns the possible key into a key. A mapping starts with it if it is indented further
than the collection around. -/
def settleKey (l : Lexing) (k : PossibleKey) : Lexing :=
  let starts := !l.inFlow && l.indent < k.column
  let before := l.tokens.extract 0 k.position
  let after := l.tokens.extract k.position l.tokens.size
  { l with
    keys := l.keys.filter fun (d, _) => d != l.depth
    indent := if starts then k.column else l.indent
    outer := if starts then l.indent :: l.outer else l.outer
    tokens := before ++ (if starts then #[.blockMappingStart, .key] else #[.key]) ++ after
    mayStartKey := false }

/-- Reads a colon. -/
def readColon (l : Lexing) : Except Fault Lexing :=
  match l.keys.lookup l.depth with
  | some k => .ok ((l.settleKey k).mark 1 .value)
  | none =>
    if !l.inFlow && !l.mayStartKey then .error (malformed "no value may start here")
    else
      let l := if l.inFlow then l else l.openAt l.cursor.column .blockMappingStart
      match { l with mayStartKey := !l.inFlow }.dropKey with
      | .error e => .error e
      | .ok l => .ok (l.mark 1 .value)

/-- Reads an anchor or an alias. -/
def readName (l : Lexing) (token : String → Token) : Except Fault Lexing := do
  let l ← l.saveKey
  let (name, cursor) ← Token.readName l.cursor
  return { l with cursor, mayStartKey := false }.emit (token name)

/-- Reads a tag. -/
def readTag (l : Lexing) : Except Fault Lexing := do
  let l ← l.saveKey
  let (t, cursor) ← Token.readTag l.cursor
  return { l with cursor, mayStartKey := false }.emit t

/-- Reads a block scalar. -/
def readBlock (l : Lexing) (isFolded : Bool) : Except Fault Lexing := do
  let l ← { l with mayStartKey := true }.dropKey
  let (text, cursor) ← Block.read isFolded l.indent l.cursor
  return { l with cursor }.emit (.scalar (String.ofList text) false)

/-- Reads a quoted scalar. -/
def readQuoted (l : Lexing) (isDouble : Bool) : Except Fault Lexing := do
  let l ← l.saveKey
  let (text, cursor) ← Quoted.read isDouble l.cursor
  return { l with cursor, mayStartKey := false }.emit (.scalar (String.ofList text) false)

/-- Reads a plain scalar. -/
def readPlain (l : Lexing) : Except Fault Lexing := do
  let l ← l.saveKey
  let (text, cursor, crossesLine) := Plain.read l.inFlow (l.indent + 1).toNat l.cursor
  return { l with cursor, mayStartKey := crossesLine }.emit (.scalar (String.ofList text) true)

/-- Whether a plain scalar may start here. -/
def startsPlain (l : Lexing) : Bool :=
  let ch := l.cursor.peek
  let marks := "-?:,[]\x7b\x7d#&*!|>'\"%@`".toList
  (!isGap ch && !marks.contains ch)
    || (!isGap (l.cursor.ahead 1) && (ch == '-' || (!l.inFlow && (ch == '?' || ch == ':'))))

/-- Reads the next token and the tokens that it implies. -/
def readNext (l : Lexing) : Except Fault Lexing :=
  let c := l.cursor
  let ch := c.peek
  let beforeGap := isGap (c.ahead 1)
  if ch == nul then l.readEnd
  else if ch == '%' && c.column == 0 then l.readDirective
  else if c.column == 0 && c.isDocumentMark then
    l.readMark (if ch == '-' then .documentStart else .documentEnd)
  else if ch == '[' then l.readOpening .flowSequenceStart
  else if ch == '\x7b' then l.readOpening .flowMappingStart
  else if ch == ']' then l.readClosing .flowSequenceEnd
  else if ch == '\x7d' then l.readClosing .flowMappingEnd
  else if ch == ',' then l.readComma
  else if ch == '-' && beforeGap then l.readDash
  else if ch == '?' && (l.inFlow || beforeGap) then l.readQuestion
  else if ch == ':' && (l.inFlow || beforeGap) then l.readColon
  else if ch == '*' then l.readName .alias
  else if ch == '&' then l.readName .anchor
  else if ch == '!' then l.readTag
  else if ch == '|' && !l.inFlow then l.readBlock false
  else if ch == '>' && !l.inFlow then l.readBlock true
  else if ch == '\'' then l.readQuoted false
  else if ch == '"' then l.readQuoted true
  else if l.startsPlain then l.readPlain
  else .error (c.refuse "no token starts here" (if c.column == 0 then 2 else 1))

/-- Whether something that cannot be read comes next. -/
def checkAhead (l : Lexing) : Except Fault Unit :=
  match l.cursor.rest, l.cursor.beyond with
  | [], some f => .error f
  | _, _ => .ok ()

/-- One step: to the next token and past it. -/
def step (l : Lexing) : Except Fault Lexing := do
  let l := l.skipGap (l.cursor.rest.length + 1)
  l.checkAhead
  let l ← l.dropStale
  let l ← (l.unwind l.cursor.column).readNext
  l.checkAhead
  l.dropStale

/-- The tokens in front of the first that may still turn out to be a key. -/
def settled (l : Lexing) : Array Token :=
  l.tokens.take ((l.keys.map fun (_, k) => k.position).foldl min l.tokens.size)

/-- All tokens. Where the document breaks off, the last token says why. -/
def readAll (l : Lexing) : (room : Nat) → Array Token
  | 0 => l.tokens
  | room + 1 =>
    match l.step with
    | .error f => l.settled.push (.broken f)
    | .ok l =>
      match l.tokens.back? with
      | some .streamEnd => l.tokens
      | _ => l.readAll room

end Lexing

/-- The tokens of a document, behind which a fault may stand. -/
def tokens (text : List Char) (beyond : Option Fault := none) : List Token :=
  let rest := if text.head? == some '\uFEFF' then text.drop 1 else text
  (({ cursor := { rest, beyond } : Lexing }).readAll (text.length + 2)).toList

end Recolor.Yaml
