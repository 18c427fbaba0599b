/-!
# Surrogates

The codes from `0xD800` to `0xDFFF` are halves of pairs and belong to no character, but an
escape can name one and so put it into a text. A text holds such a half as the private-use
character that lies `0xF0000` above its code.
-/

set_option autoImplicit false

namespace Recolor.Text.Surrogate

/-- How far above its code the character for a half lies. -/
def offset : Nat := 0xF0000

/-- Whether a code is that of a half. -/
def isHalf (code : Nat) : Bool :=
  0xD800 ≤ code && code < 0xE000

/-- The character for a code. -/
def charOfCode (code : Nat) : Char :=
  if isHalf code then Char.ofNat (offset + code) else Char.ofNat code

/-- The code of the half that a character is for. -/
def half? (c : Char) : Option Nat :=
  if isHalf (c.toNat - offset) then some (c.toNat - offset) else none

/-- Whether a half stands for a byte that is no text, which the system takes. -/
def isByte (code : Nat) : Bool :=
  0xDC80 ≤ code && code < 0xDD00

/-- Whether a text can be encoded for the system. -/
def isEncodable (s : String) : Bool :=
  s.toList.all fun c => (half? c).all isByte

/-- The character for a half of a surrogate pair stands for that half. -/
theorem half?_charOfCode (code : Nat) (h : isHalf code = true) :
    half? (charOfCode code) = some code := by
  have bounds : 0xD800 ≤ code ∧ code < 0xE000 := by simpa [isHalf] using h
  have valid : (offset + code).isValidChar := by
    right
    simp only [offset]
    omega
  have value : (Char.ofNat (offset + code)).toNat = offset + code := by
    unfold Char.ofNat
    rw [dif_pos valid]
    rfl
  simp [half?, charOfCode, h, value]

end Recolor.Text.Surrogate
