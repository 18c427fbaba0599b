import Recolor.Text.Hex
import Recolor.Text.Printable
import Recolor.Text.Surrogate

/-!
# Quoted text

Text as it stands in messages: between single quotes, or between double quotes
when it holds a single quote and no double one. The quote, the backslash and the
usual line characters are escaped with a backslash, and every character that is
not printable is written by its code.
-/

set_option autoImplicit false

namespace Recolor.Text

/-- One character inside text that stands between the given quotes. -/
def quoteChar (mark c : Char) : List Char :=
  if c = mark ∨ c = '\\' then ['\\', c]
  else if c = '\t' then ['\\', 't']
  else if c = '\n' then ['\\', 'n']
  else if c = '\r' then ['\\', 'r']
  else if isPrintable c then [c]
  else if c.toNat < 256 then '\\' :: 'x' :: (hexDigits 2 c.toNat).toList
  else if c.toNat < 65536 then '\\' :: 'u' :: (hexDigits 4 c.toNat).toList
  else
    match Surrogate.half? c with
    | some code => '\\' :: 'u' :: (hexDigits 4 code).toList
    | none => '\\' :: 'U' :: (hexDigits 8 c.toNat).toList

/-- The quotation mark that text is put between. -/
def quoteMark (s : List Char) : Char :=
  if s.contains '\'' && !s.contains '"' then '"' else '\''

/-- Text between quotation marks, escaped. -/
def quoted (s : String) : String :=
  let mark := quoteMark s.toList
  String.ofList (mark :: s.toList.flatMap (quoteChar mark) ++ [mark])

/-- One byte of quoted bytes, of which only plain characters stand for themselves. -/
def quoteByte (mark : Char) (b : UInt8) : List Char :=
  let c := Char.ofNat b.toNat
  if c = mark ∨ c = '\\' then ['\\', c]
  else if c = '\t' then ['\\', 't']
  else if c = '\n' then ['\\', 'n']
  else if c = '\r' then ['\\', 'r']
  else if 32 ≤ b.toNat ∧ b.toNat < 127 then [c]
  else '\\' :: 'x' :: (hexDigits 2 b.toNat).toList

/-- Bytes between quotation marks, marked with a leading `b`. -/
def quotedBytes (bytes : List UInt8) : String :=
  let mark := quoteMark (bytes.map fun b => Char.ofNat b.toNat)
  String.ofList ('b' :: mark :: bytes.flatMap (quoteByte mark) ++ [mark])

end Recolor.Text
