import Recolor.Yaml.Cursor

/-!
# Scalars

The text of a scalar is written in one of five styles: plain, in single or double
quotes, or as a block of lines that are kept or folded. Line ends inside a plain or
quoted scalar are folded: one of them counts as a space, and of several all but the
first are kept.

Each reader starts at the scalar and gives its text and the place after it.
-/

set_option autoImplicit false

namespace Recolor.Yaml

/-- Space and line ends between two pieces of a scalar. -/
structure Fold where
  text : List Char
  after : Cursor
  /-- Whether a line ended. -/
  crossesLine : Bool := false

namespace Fold

/-- What folded line ends count as: the first, and those after it. -/
def joined (first : List Char) (others : List Char) : List Char :=
  if first != ['\n'] then first ++ others
  else if others.isEmpty then [' ']
  else others

/-- Further line ends with spaces around them, and whether a document mark follows one. -/
def plainBreaks : (room : Nat) → List Char → Cursor → List Char × Bool × Cursor
  | 0, found, c => (found, false, c)
  | room + 1, found, c =>
    if c.peek == ' ' then plainBreaks room found c.next
    else if isBreak c.peek then
      let (b, c) := c.lineBreak
      if c.isDocumentMark then (found ++ b, true, c) else plainBreaks room (found ++ b) c
    else (found, false, c)

/-- The fold after a piece of a plain scalar. It is empty before a document mark, where the
scalar ends. -/
def plain (c : Cursor) : Fold :=
  let (spaces, c) := c.span (· == ' ')
  if isBreak c.peek then
    let (first, c) := c.lineBreak
    if c.isDocumentMark then { text := [], after := c, crossesLine := true }
    else
      match plainBreaks c.rest.length [] c with
      | (_, true, c) => { text := [], after := c, crossesLine := true }
      | (others, false, c) => { text := joined first others, after := c, crossesLine := true }
  else { text := spaces, after := c }

/-- Further line ends with blanks around them inside quotes. -/
def quotedBreaks : (room : Nat) → List Char → Cursor → Except Fault (List Char × Cursor)
  | 0, found, c => .ok (found, c)
  | room + 1, found, c =>
    if c.isDocumentMark then .error (c.refuse "a document mark stands inside quotes" 3)
    else
      let c := c.skipWhile isInlineBlank
      if isBreak c.peek then
        let (b, c) := c.lineBreak
        quotedBreaks room (found ++ b) c
      else .ok (found, c)

/-- The fold after a piece of a quoted scalar. -/
def quoted (c : Cursor) : Except Fault (List Char × Cursor) :=
  let (blanks, c) := c.span isInlineBlank
  if c.peek == nul then .error (c.refuse "quotes are not closed")
  else if isBreak c.peek then
    let (first, c) := c.lineBreak
    match quotedBreaks (c.rest.length + 1) [] c with
    | .error e => .error e
    | .ok (others, c) => .ok (joined first others, c)
  else .ok (blanks, c)

end Fold

namespace Plain

/-- The characters that belong to flow collections. -/
def isFlowMark (c : Char) : Bool :=
  ",[]\x7b\x7d".toList.contains c

/-- Whether a plain scalar ends before the next character. Inside flow collections more
characters end it. -/
def endsAt (inFlow : Bool) (c : Cursor) : Bool :=
  let ch := c.peek
  isGap ch || (ch == ':' && (isGap (c.ahead 1) || (inFlow && isFlowMark (c.ahead 1))))
    || (inFlow && (ch == '?' || isFlowMark ch))

/-- A piece of a plain scalar, and the place after it. -/
def piece (inFlow : Bool) : (room : Nat) → List Char → Cursor → List Char × Cursor
  | 0, found, c => (found.reverse, c)
  | room + 1, found, c =>
    if endsAt inFlow c then (found.reverse, c)
    else piece inFlow room (c.peek :: found) c.next

/-- Reads on in a plain scalar. The text so far comes with the fold after it. -/
def readFrom (inFlow : Bool) (indent : Nat) :
    (room : Nat) → List Char → Fold → List Char × Cursor × Bool
  | 0, text, gap => (text, gap.after, gap.crossesLine)
  | room + 1, text, gap =>
    let c := gap.after
    match piece inFlow c.rest.length [] c with
    | ([], c) => (text, c, gap.crossesLine)
    | (more, c) =>
      let text := text ++ gap.text ++ more
      let gap := Fold.plain c
      let c := gap.after
      if gap.text.isEmpty || c.peek == '#' || (!inFlow && c.column < indent) then
        (text, c, gap.crossesLine)
      else readFrom inFlow indent room text gap

/-- Reads a plain scalar whose further lines are indented at least as given. Also says
whether a line ended after it. -/
def read (inFlow : Bool) (indent : Nat) (c : Cursor) : List Char × Cursor × Bool :=
  readFrom inFlow indent (c.rest.length + 1) [] { text := [], after := c }

end Plain

namespace Quoted

/-- What a backslash and a character stand for. -/
def escape? (c : Char) : Option Char :=
  [('0', nul), ('a', Char.ofNat 7), ('b', Char.ofNat 8), ('t', '\t'), ('\t', '\t'), ('n', '\n'),
    ('v', Char.ofNat 11), ('f', Char.ofNat 12), ('r', '\r'), ('e', Char.ofNat 27), (' ', ' '),
    ('"', '"'), ('\\', '\\'), ('/', '/'), ('N', '\u0085'), ('_', '\u00a0'), ('L', '\u2028'),
    ('P', '\u2029')].lookup c

/-- How many hexadecimal digits follow a backslash and a character. -/
def digitsAfter? (c : Char) : Option Nat :=
  [('x', 2), ('u', 4), ('U', 8)].lookup c

/-- The value of a hexadecimal digit. -/
def hexValue? (c : Char) : Option Nat :=
  if '0' ≤ c ∧ c ≤ '9' then some (c.toNat - 48)
  else if 'a' ≤ c ∧ c ≤ 'f' then some (c.toNat - 87)
  else if 'A' ≤ c ∧ c ≤ 'F' then some (c.toNat - 55)
  else none

/-- The value of hexadecimal digits. -/
def hexNumber? (cs : List Char) : Option Nat :=
  (cs.mapM hexValue?).map fun vs => vs.foldl (fun n v => n * 16 + v) 0

/-- The character with a code. -/
def charOfCode (n : Nat) : Except Fault Char :=
  if 0x7FFFFFFF < n then .error (.raised .overflow "code too large")
  else if 0x10FFFF < n then .error (.raised .value "no such character")
  else .ok (Text.Surrogate.charOfCode n)

/-- Reads what a backslash stands for, from the character after it on. -/
def readEscape (c : Cursor) : Except Fault (List Char × Cursor) :=
  match escape? c.peek with
  | some ch => .ok ([ch], c.next)
  | none =>
    match digitsAfter? c.peek with
    | some count =>
      let c := c.next
      let digits := c.rest.take count
      match hexNumber? digits with
      | some code =>
        if digits.length < count then .error (c.refuse "an escape is cut short" digits.length)
        else
          match charOfCode code with
          | .error e => .error e
          | .ok ch => .ok ([ch], c.skip count)
      | none => .error (malformed "an escape has no hexadecimal digits")
    | none =>
      if isBreak c.peek then
        let (_, c) := c.lineBreak
        Fold.quotedBreaks (c.rest.length + 1) [] c
      else .error (c.refuse "an escape is unknown")

/-- Whether a character stands for itself inside quotes. -/
def isOrdinary (c : Char) : Bool :=
  !(c == '\'' || c == '"' || c == '\\' || isGap c)

/-- Reads a piece of a quoted scalar: up to a blank, a line end or the closing quote. -/
def readPiece (isDouble : Bool) :
    (room : Nat) → List Char → Cursor → Except Fault (List Char × Cursor)
  | 0, text, c => .ok (text, c)
  | room + 1, text, c =>
    let (more, c) := c.span isOrdinary
    let text := text ++ more
    let ch := c.peek
    if !isDouble && ch == '\'' && c.ahead 1 == '\'' then
      readPiece isDouble room (text ++ ['\'']) (c.skip 2)
    else if (isDouble && ch == '\'') || (!isDouble && (ch == '"' || ch == '\\')) then
      readPiece isDouble room (text ++ [ch]) c.next
    else if isDouble && ch == '\\' then
      match readEscape c.next with
      | .error e => .error e
      | .ok (meant, c) => readPiece isDouble room (text ++ meant) c
    else .ok (text, c)

/-- Reads on in a quoted scalar up to the closing quote. -/
def readFrom (isDouble : Bool) :
    (room : Nat) → List Char → Cursor → Except Fault (List Char × Cursor)
  | 0, _, c => .error (c.refuse "quotes are not closed")
  | room + 1, text, c =>
    match readPiece isDouble (c.rest.length + 1) [] c with
    | .error e => .error e
    | .ok (more, c) =>
      if c.peek == (if isDouble then '"' else '\'') then .ok (text ++ more, c.next)
      else
        match Fold.quoted c with
        | .error e => .error e
        | .ok (gap, c) => readFrom isDouble room (text ++ more ++ gap) c

/-- Reads a quoted scalar. -/
def read (isDouble : Bool) (c : Cursor) : Except Fault (List Char × Cursor) :=
  readFrom isDouble (c.rest.length + 1) [] c.next

end Quoted

namespace Block

/-- How line ends after the last line of a block count. -/
inductive Chomping where
  | strip
  | clip
  | keep
  deriving DecidableEq, Repr, Inhabited

/-- The sign that says how line ends after a block count. -/
def chomping? (c : Char) : Option Chomping :=
  if c == '+' then some .keep else if c == '-' then some .strip else none

/-- The digit that says how far a block is indented; zero is refused. -/
def indentDigit? (c : Char) : Option (Except Fault Nat) :=
  if '1' ≤ c ∧ c ≤ '9' then some (.ok (c.toNat - 48))
  else if c == '0' then some (.error (malformed "a block is not indented by zero"))
  else none

/-- Reads the sign and the digit of a block's first line, in any order. -/
def readHeader (c : Cursor) : Except Fault (Chomping × Option Nat × Cursor) :=
  match chomping? c.peek, indentDigit? c.peek with
  | some chomping, _ =>
    match indentDigit? c.next.peek with
    | some (.error e) => .error e
    | some (.ok n) => .ok (chomping, some n, c.skip 2)
    | none => .ok (chomping, none, c.next)
  | none, some (.error e) => .error e
  | none, some (.ok n) =>
    match chomping? c.next.peek with
    | some chomping => .ok (chomping, some n, c.skip 2)
    | none => .ok (.clip, some n, c.next)
  | none, none => .ok (.clip, none, c)

/-- Past the rest of a line, which may hold a comment only. -/
def endOfLine (c : Cursor) : Except Fault Cursor :=
  let c := c.skipWhile (· == ' ')
  let c := if c.peek == '#' then c.skipWhile (fun ch => !isLineEnd ch) else c
  if isLineEnd c.peek then .ok c.lineBreak.2
  else .error (c.refuse "a line does not end where it should")

/-- Empty lines at the start of a block, and the widest indentation among them and the
first line that is not empty. -/
def leadingBreaks : (room : Nat) → List Char → Nat → Cursor → List Char × Nat × Cursor
  | 0, found, widest, c => (found, widest, c)
  | room + 1, found, widest, c =>
    if c.peek == ' ' then
      let c := c.next
      leadingBreaks room found (max widest c.column) c
    else if isBreak c.peek then
      let (b, c) := c.lineBreak
      leadingBreaks room (found ++ b) widest c
    else (found, widest, c)

/-- Line ends between lines of a block. -/
def breaks (indent : Nat) : (room : Nat) → List Char → Cursor → List Char × Cursor
  | 0, found, c => (found, c)
  | room + 1, found, c =>
    let c := c.skipSpacesTo indent
    if isBreak c.peek then
      let (b, c) := c.lineBreak
      breaks indent room (found ++ b) c
    else (found, c)

/-- The line ends between two lines of a block. A folded block joins lines that do not start
with a blank. -/
def between (folds : Bool) (first : List Char) (others : List Char) : List Char :=
  if folds && first == ['\n'] then if others.isEmpty then [' '] else others
  else first ++ others

/-- Reads the lines of a block: its text without the line ends after the last line, the
first of those and the others. -/
def readLines (isFolded : Bool) (indent : Nat) :
    (room : Nat) → List Char → List Char → Cursor → List Char × List Char × List Char × Cursor
  | 0, text, gap, c => (text, [], gap, c)
  | room + 1, text, gap, c =>
    let startsDark := !isInlineBlank c.peek
    let (line, c) := c.span fun ch => !isLineEnd ch
    let text := text ++ gap ++ line
    let (first, c) := c.lineBreak
    let (others, c) := breaks indent (c.rest.length + 1) [] c
    if c.column == indent && c.peek != nul then
      let folds := isFolded && startsDark && !isInlineBlank c.peek
      readLines isFolded indent room text (between folds first others) c
    else (text, first, others, c)

/-- Reads a block scalar inside a collection of the given indentation. -/
def read (isFolded : Bool) (outer : Int) (c : Cursor) : Except Fault (List Char × Cursor) := do
  let (chomping, stated, c) ← readHeader c.next
  if isSpaceOrEnd c.peek then
    let c ← endOfLine c
    let least := max 1 (outer + 1).toNat
    let (leading, indent, c) :=
      match stated with
      | some n =>
        let indent := least + n - 1
        let (leading, c) := breaks indent (c.rest.length + 1) [] c
        (leading, indent, c)
      | none =>
        let (leading, widest, c) := leadingBreaks (c.rest.length + 1) [] 0 c
        (leading, max least widest, c)
    let (text, first, others, c) :=
      if c.column == indent && c.peek != nul then
        readLines isFolded indent (c.rest.length + 1) [] leading c
      else ([], [], leading, c)
    return (match chomping with
      | .strip => text
      | .clip => text ++ first
      | .keep => text ++ first ++ others, c)
  else .error (c.refuse "the first line of a block holds something else")

end Block

end Recolor.Yaml
