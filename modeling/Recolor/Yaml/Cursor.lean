import Recolor.Failure

/-!
# A place in a document

Reading a document keeps the characters that are left together with the place they
start at: how many characters came before, and the line and the column. Documents hold
no NUL character, so NUL stands for the end.

A document may go on with something that cannot be read. The fault of that counts only
when reading gets there.
-/

set_option autoImplicit false

namespace Recolor.Yaml

/-- The end of a document. -/
def nul : Char := Char.ofNat 0

/-- Whether a character ends a line. -/
def isBreak (c : Char) : Bool :=
  c == '\n' || c == '\r' || c == '\u0085' || c == '\u2028' || c == '\u2029'

/-- Whether a character ends a line, or the document ends. -/
def isLineEnd (c : Char) : Bool :=
  c == nul || isBreak c

/-- Whether a character is a space or ends a line, or the document ends. -/
def isSpaceOrEnd (c : Char) : Bool :=
  c == ' ' || isLineEnd c

/-- Whether a character is a space, a tab or ends a line, or the document ends. -/
def isGap (c : Char) : Bool :=
  c == '\t' || isSpaceOrEnd c

/-- Whether a character is a space or a tab. -/
def isInlineBlank (c : Char) : Bool :=
  c == ' ' || c == '\t'

/-- Whether a character may stand in a document. -/
def isAllowed (c : Char) : Bool :=
  let n := c.toNat
  n == 9 || n == 10 || n == 13 || (32 ≤ n && n ≤ 126) || n == 133
    || (160 ≤ n && n ≤ 0xFFFD) || 0x10000 ≤ n

/-- The fault of a malformed document. -/
def malformed (text : String) : Fault :=
  .badDocument text

/-- What is left of a document, and where it starts. -/
structure Cursor where
  rest : List Char
  /-- The fault that stands behind the rest instead of the end. -/
  beyond : Option Fault := none
  index : Nat := 0
  line : Nat := 0
  column : Nat := 0
  deriving Repr, Inhabited

namespace Cursor

/-- The character that many places ahead. -/
def ahead (c : Cursor) (n : Nat) : Char :=
  (c.rest.drop n).headD nul

/-- The next character. -/
def peek (c : Cursor) : Char :=
  c.ahead 0

/-- Past one character. A carriage return before a line feed ends no line of its own, and
a byte order mark takes no column. -/
def next (c : Cursor) : Cursor :=
  match c.rest with
  | [] => c
  | ch :: rest =>
    if isBreak ch && !(ch == '\r' && rest.head? == some '\n') then
      { c with rest, index := c.index + 1, line := c.line + 1, column := 0 }
    else
      { c with
        rest, index := c.index + 1
        column := if ch == '\uFEFF' then c.column else c.column + 1 }

/-- The fault of a document that does not go on as it should. What stands behind the rest comes
first if so many characters had to be looked at besides the next that there are not so many. -/
def refuse (c : Cursor) (text : String) (besides : Nat := 0) : Fault :=
  if (c.rest.drop besides).isEmpty then c.beyond.getD (malformed text) else malformed text

/-- Past several characters. -/
def skip (c : Cursor) : Nat → Cursor
  | 0 => c
  | n + 1 => c.next.skip n

/-- The characters of a class that come next, and the place after them. -/
def span (c : Cursor) (isIn : Char → Bool) : List Char × Cursor :=
  let taken := c.rest.takeWhile isIn
  (taken, c.skip taken.length)

/-- Past the characters of a class that come next. -/
def skipWhile (c : Cursor) (isIn : Char → Bool) : Cursor :=
  (c.span isIn).2

/-- Past spaces, up to a column. -/
def skipSpacesTo (c : Cursor) (column : Nat) : Cursor :=
  let spaces := (c.rest.takeWhile (· == ' ')).length
  c.skip (min spaces (column - c.column))

/-- The line end that comes next, as it counts in a text, and the place after it. Nothing
is taken if no line ends here. -/
def lineBreak (c : Cursor) : List Char × Cursor :=
  let ch := c.peek
  if ch == '\r' && c.ahead 1 == '\n' then (['\n'], c.skip 2)
  else if ch == '\u2028' || ch == '\u2029' then ([ch], c.next)
  else if isBreak ch then (['\n'], c.next)
  else ([], c)

/-- Whether a line of three dashes or dots starts here, which separates documents. -/
def isDocumentMark (c : Cursor) : Bool :=
  (c.rest.take 3 == ['-', '-', '-'] || c.rest.take 3 == ['.', '.', '.']) && isGap (c.ahead 3)

end Cursor

end Recolor.Yaml
