import Recolor.Yaml.Scalar

/-!
# Tokens

A document is a sequence of tokens. Collections are written with brackets or by
indentation; either way a token marks their start and their end, so that what follows
need not look at columns. This module holds the tokens and reads those that are more
than a mark: anchors, tags and directives.
-/

set_option autoImplicit false

namespace Recolor.Yaml

/-- What a directive says. -/
inductive Directive where
  | version (major minor : Nat)
  | tag (handle : String) (start : String)
  | other (name : String)
  deriving Repr, Inhabited

/-- A token. -/
inductive Token where
  | directive (d : Directive)
  | documentStart
  | documentEnd
  | blockSequenceStart
  | blockMappingStart
  | blockEnd
  | flowSequenceStart
  | flowMappingStart
  | flowSequenceEnd
  | flowMappingEnd
  | blockEntry
  | flowEntry
  | key
  | value
  | alias (name : String)
  | anchor (name : String)
  /-- A tag: the handle of a directive if it uses one, and the rest of it. -/
  | tag (handle : Option String) (suffix : String)
  | scalar (text : String) (isPlain : Bool)
  | streamEnd
  /-- The document goes on, but not with a token. -/
  | broken (f : Fault)
  deriving Repr, Inhabited

namespace Token

/-- Whether a character may stand in a name. -/
def isNameChar (c : Char) : Bool :=
  c.isAlphanum || c == '-' || c == '_'

/-- Whether a character may stand in a tag. -/
def isTagChar (c : Char) : Bool :=
  c.isAlphanum || "-;/?:@&=+$,_.!~*'()[]%".toList.contains c

/-- Whether a character may follow a name. -/
def mayFollowName (c : Char) : Bool :=
  isGap c || "?:,]\x7d%@`".toList.contains c

/-- Reads the name of an anchor or an alias, from its mark on. -/
def readName (c : Cursor) : Except Fault (String × Cursor) :=
  let (name, c) := c.next.span isNameChar
  if name.isEmpty then .error (c.refuse "a name is missing")
  else if mayFollowName c.peek then .ok (String.ofList name, c)
  else .error (c.refuse "a name holds another character")

/-- Reads bytes written as percent signs and two hexadecimal digits. -/
def readEscapes : (room : Nat) → List UInt8 → Cursor → Except Fault (List UInt8 × Cursor)
  | 0, found, c => .ok (found, c)
  | room + 1, found, c =>
    if c.peek == '%' then
      let digits := c.next.rest.take 2
      match Quoted.hexNumber? digits with
      | some n =>
        if digits.length < 2 then .error (c.refuse "an escape is cut short" (digits.length + 1))
        else readEscapes room (found ++ [UInt8.ofNat n]) (c.skip 3)
      | none => .error (malformed "an escape has no hexadecimal digits")
    else .ok (found, c)

/-- Reads the characters of a tag. -/
def readTagText : (room : Nat) → List Char → Cursor → Except Fault (List Char × Cursor)
  | 0, found, c => .ok (found, c)
  | room + 1, found, c =>
    let (more, c) := c.span fun ch => isTagChar ch && ch != '%'
    let found := found ++ more
    if c.peek == '%' then
      match readEscapes (c.rest.length + 1) [] c with
      | .error e => .error e
      | .ok (bytes, c) =>
        match String.fromUTF8? (ByteArray.mk bytes.toArray) with
        | some s => readTagText room (found ++ s.toList) c
        | none => .error (malformed "an escape is no character")
    else .ok (found, c)

/-- Reads the part of a tag after its handle, which must not be empty. -/
def readSuffix (c : Cursor) : Except Fault (String × Cursor) :=
  match readTagText (c.rest.length + 1) [] c with
  | .error e => .error e
  | .ok ([], c) => .error (c.refuse "a tag is empty")
  | .ok (text, c) => .ok (String.ofList text, c)

/-- Reads the handle of a tag: an exclamation mark, or a name between two of them. -/
def readHandle (c : Cursor) : Except Fault (String × Cursor) :=
  if c.peek != '!' then .error (c.refuse "a handle does not start with an exclamation mark")
  else if c.ahead 1 == ' ' then .ok ("!", c.next)
  else
    let (name, after) := c.next.span isNameChar
    if after.peek == '!' then .ok ("!" ++ String.ofList name ++ "!", after.next)
    else .error (after.refuse "a handle does not end with an exclamation mark")

/-- The handle of a tag in use, which is a single exclamation mark unless a second follows
before a space. -/
def readUsedHandle (c : Cursor) : Except Fault (String × Cursor) :=
  match c.next.rest.find? fun ch => isSpaceOrEnd ch || ch == '!' with
  | some '!' => readHandle c
  | some _ => .ok ("!", c.next)
  | none =>
    match c.beyond with
    | some f => .error f
    | none => .ok ("!", c.next)

/-- Reads a tag. -/
def readTag (c : Cursor) : Except Fault (Token × Cursor) := do
  let second := c.ahead 1
  let (token, c) ←
    if second == '<' then do
      let (suffix, c) ← readSuffix (c.skip 2)
      if c.peek == '>' then pure (Token.tag none suffix, c.next)
      else .error (c.refuse "a tag is not closed")
    else if isGap second then pure (Token.tag none "!", c.next)
    else do
      let (handle, c) ← readUsedHandle c
      let (suffix, c) ← readSuffix c
      pure (Token.tag (some handle) suffix, c)
  if isSpaceOrEnd c.peek then return (token, c)
  else .error (c.refuse "a tag is followed by another character")

/-- Reads a whole number. -/
def readNumber (c : Cursor) : Except Fault (Nat × Cursor) :=
  match c.span Char.isDigit with
  | ([], c) => .error (c.refuse "a number is missing")
  | (digits, c) =>
    match Text.readInteger? (String.ofList digits) with
    | some n => .ok (n.toNat, c)
    | none => .error (.badNumeral (String.ofList digits))

/-- Reads the version after the name of its directive. -/
def readVersion (c : Cursor) : Except Fault (Directive × Cursor) := do
  let (major, c) ← readNumber (c.skipWhile (· == ' '))
  if c.peek == '.' then
    let (minor, c) ← readNumber c.next
    if isSpaceOrEnd c.peek then return (.version major minor, c)
    else .error (c.refuse "a version is followed by another character")
  else .error (c.refuse "a version has no point")

/-- Reads a handle and what it stands for after the name of their directive. -/
def readTagDirective (c : Cursor) : Except Fault (Directive × Cursor) := do
  let (handle, c) ← readHandle (c.skipWhile (· == ' '))
  if c.peek == ' ' then
    let (start, c) ← readSuffix (c.skipWhile (· == ' '))
    if isSpaceOrEnd c.peek then return (.tag handle start, c)
    else .error (c.refuse "a tag is followed by another character")
  else .error (c.refuse "a handle is followed by another character")

/-- Reads a directive, which takes a line of its own. -/
def readDirective (c : Cursor) : Except Fault (Token × Cursor) := do
  let (name, c) := c.next.span isNameChar
  if name.isEmpty then .error (c.refuse "a directive has no name")
  else if !isSpaceOrEnd c.peek then .error (c.refuse "the name of a directive does not end")
  else
    let name := String.ofList name
    let (d, c) ←
      if name == "YAML" then readVersion c
      else if name == "TAG" then readTagDirective c
      else pure (Directive.other name, c.skipWhile fun ch => !isLineEnd ch)
    let c ← Block.endOfLine c
    return (.directive d, c)

end Token

end Recolor.Yaml
