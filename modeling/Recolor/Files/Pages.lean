import Recolor.Files.Bytes

/-!
# Text in files

A text file holds characters in UTF-8. Its bytes are decoded in blocks, and its characters
are handed out in pages of fixed size, so that a fault far behind is met only by who reads
so far. Every line end becomes a line feed; a carriage return at the end of a block is held
back until it is known what follows.
-/

set_option autoImplicit false

namespace Recolor.Pages

/-- The characters of a page; only the last page may have fewer. -/
def pageSize : Nat := 4096

/-- The least bytes of a block; only the last block may have fewer. -/
def blockSize : Nat := 8192

/-- How many bytes the character has that starts with a byte; zero if none does. -/
def width (b : UInt8) : Nat :=
  let n := b.toNat
  if n < 0x80 then 1
  else if n < 0xC2 then 0
  else if n < 0xE0 then 2
  else if n < 0xF0 then 3
  else if n < 0xF5 then 4
  else 0

/-- The least and the greatest second byte of a character. The bounds keep out overlong
forms, surrogates and codes beyond the last character. -/
def secondRange (b : UInt8) : Nat × Nat :=
  if b = 0xE0 then (0xA0, 0xBF)
  else if b = 0xED then (0x80, 0x9F)
  else if b = 0xF0 then (0x90, 0xBF)
  else if b = 0xF4 then (0x80, 0x8F)
  else (0x80, 0xBF)

/-- Whether bytes may follow the first byte of a character. -/
def mayFollow (first : UInt8) : Bytes → Bool
  | [] => true
  | second :: rest =>
    let (least, greatest) := secondRange first
    least ≤ second.toNat && second.toNat ≤ greatest
      && rest.all fun b => 0x80 ≤ b.toNat && b.toNat ≤ 0xBF

/-- The character that a first byte and those after it stand for. -/
def charOf (first : UInt8) (others : Bytes) : Char :=
  let lead :=
    match others.length with
    | 0 => first.toNat
    | 1 => first.toNat % 32
    | 2 => first.toNat % 16
    | _ => first.toNat % 8
  Char.ofNat (others.foldl (fun n b => n * 64 + b.toNat % 64) lead)

/-- The characters in bytes, and the bytes of a character that is cut at the end. There is
nothing if the bytes are no text. -/
def decode? : Bytes → Option (List Char × Bytes)
  | [] => some ([], [])
  | b :: rest =>
    let others := rest.take (width b - 1)
    if width b = 0 || !mayFollow b others then none
    else if others.length < width b - 1 then some ([], b :: rest)
    else (decode? (rest.drop (width b - 1))).map fun (cs, cut) => (charOf b others :: cs, cut)
termination_by bytes => bytes.length
decreasing_by simp only [List.length_drop, List.length_cons]; omega

/-- Characters with every line end written as a line feed. -/
def plainLineEnds : List Char → List Char
  | '\r' :: '\n' :: rest => '\n' :: plainLineEnds rest
  | '\r' :: rest => '\n' :: plainLineEnds rest
  | c :: rest => c :: plainLineEnds rest
  | [] => []

/-- How far a file has been read. -/
structure Progress where
  /-- The bytes after the last block. -/
  rest : Bytes
  /-- The bytes of a character that the last block cut. -/
  cut : Bytes := []
  /-- Whether a carriage return is held back. -/
  holdsReturn : Bool := false
  /-- Decoded characters that are on no page yet. -/
  ready : List Char := []
  /-- The bytes and the characters of the last block. -/
  ratio : Nat × Nat := (0, 0)

namespace Progress

/-- The size of the next block when so many characters are wanted: it should hold them if it
is like the last block. -/
def nextSize (p : Progress) (wanted : Nat) : Nat :=
  let (bytes, chars) := p.ratio
  max blockSize (if chars = 0 then wanted else max wanted (bytes * wanted / chars))

/-- Holds back a carriage return at the end of a block. -/
def holdReturn (isLast : Bool) (cs : List Char) : List Char × Bool :=
  if !isLast && cs.getLast? == some '\r' then (cs.dropLast, true) else (cs, false)

/-- Decodes one more block, which is empty at the end of the file. There is nothing if the
bytes are no text. -/
def advance? (p : Progress) (wanted : Nat) : Option Progress :=
  let size := p.nextSize wanted
  let block := p.rest.take size
  match decode? (p.cut ++ block) with
  | none => none
  | some (cs, cut) =>
    if block.isEmpty && !cut.isEmpty then none
    else
      let isDue := p.holdsReturn && (block.isEmpty || !cs.isEmpty)
      let (cs, holds) := holdReturn block.isEmpty (if isDue then '\r' :: cs else cs)
      let cs := plainLineEnds cs
      some {
        rest := p.rest.drop size, cut
        holdsReturn := holds || (p.holdsReturn && !isDue)
        ready := p.ready ++ cs
        ratio := (block.length, cs.length) }

/-- The next page; it is empty at the end of the file. There is nothing if the bytes are no
text. -/
def page? : (room : Nat) → Progress → Option (List Char × Progress)
  | 0, p => some (p.ready, { p with ready := [] })
  | room + 1, p =>
    let had := p.ready.length
    if pageSize ≤ had then some (p.ready.take pageSize, { p with ready := p.ready.drop pageSize })
    else
      let atEnd := p.rest.isEmpty
      match p.advance? (pageSize - had) with
      | none => none
      | some q =>
        if atEnd && q.ready.length = had then some (q.ready, { q with ready := [] })
        else page? room q

end Progress

/-- The pages from some progress on, and whether bytes that are no text end them. -/
def pagesFrom : (room : Nat) → Progress → List (List Char) × Bool
  | 0, _ => ([], false)
  | room + 1, p =>
    match p.page? (p.rest.length + 2) with
    | none => ([], true)
    | some ([], _) => ([], false)
    | some (page, p) =>
      let (pages, isBroken) := pagesFrom room p
      (page :: pages, isBroken)

/-- The pages of a file, and whether bytes that are no text end them. -/
def ofBytes (data : Bytes) : List (List Char) × Bool :=
  pagesFrom (data.length + 1) { rest := data }

end Recolor.Pages
