import Recolor.Rows.RowOp

/-!
# Laying out samples

A row of samples is cut into pixels, pixels are strung together into a row, and a row
is put into room of a given size. Room that a row does not fill keeps what it held;
a single sample fits any room.
-/

set_option autoImplicit false

namespace Recolor.Rows

variable {α : Type}

/-- The most bytes that an array can be asked to have. -/
def mostBytes : Int := 0x7FFFFFFFFFFFFFFF

/-- The number of bytes for which there is no memory. -/
def tooManyBytes : Int := 0x10000000000

/-- Refuses room for rows that is of no size or for which there is no memory. -/
def checkRoom (count length : Int) : Except Fault Unit :=
  if count < 0 ∨ length < 0 then .error .negativeSize
  else if mostBytes < count ∨ mostBytes < length ∨ mostBytes < count * length then
    .error (.raised .value "an array cannot be that large")
  else if tooManyBytes ≤ count * length then .error (.raised .memory "out of memory")
  else .ok ()

/-- Cuts the first samples of a row into `count` pieces of `length` samples. -/
def cut (length : Nat) : Nat → List α → List (List α)
  | 0, _ => []
  | count + 1, row => row.take length :: cut length count (row.drop length)

/-- The pixels of a row, each of `width` samples; the row must consist of whole ones. -/
def pixels (width : Int) (row : List α) : Except Fault (Block α) :=
  if width < 0 then .error .openLengths
  else if width = 0 ∨ row.length % width.toNat ≠ 0 then
    .error (.notReshapable row.length [-1, width])
  else
    .ok { width := width.toNat, rows := cut width.toNat (row.length / width.toNat) row }

/-- Lays pixels out again as pixels of another width, which must fill the same room. A
negative width is left open and stays. -/
def rewidth (b : Block α) (width : Int) : Except Fault (Block α) :=
  if width = b.width then .ok b
  else if b.rows.isEmpty ∧ 0 ≤ width then .ok { width := width.toNat, rows := [] }
  else if ¬b.rows.isEmpty ∧ width < 0 then .ok b
  else .error (.notReshapable (b.rows.length * b.width) [b.rows.length, width])

/-- The lengths of the axes when so many samples are laid out in a shape, in which one length may
be left open, written as a negative number. -/
def layOut (size : Nat) (shape : List Int) : Except Fault (List Int) :=
  let known := (shape.filter (0 ≤ ·)).foldl (fun product n => product * n.toNat) 1
  match shape.countP (· < 0) with
  | 0 => if known = size then .ok shape else .error (.notReshapable size shape)
  | 1 =>
    if known ≠ 0 ∧ size % known = 0 then
      .ok (shape.map fun n => if n < 0 then (size / known : Nat) else n)
    else .error (.notReshapable size shape)
  | _ => .error .openLengths

/-- Puts a row at the beginning of room. -/
def overlay (row room : List α) : Except Fault (List α) :=
  if row.length ≤ room.length then .ok (row ++ room.drop row.length)
  else if row.length = 1 then .ok room
  else .error (.sizesDiffer row.length room.length)

/-- The samples of room of a given size that a row fills. -/
def fill (row : List α) (size : Nat) : Except Fault (List α) :=
  if row.length = size then .ok row
  else
    match row with
    | [a] => .ok (List.replicate size a)
    | _ => .error (.sizesDiffer row.length size)

/-- The complement of samples. -/
def invert (row : List UInt8) : List UInt8 :=
  row.map (255 - ·)

end Recolor.Rows
