import Recolor.Config.Value

/-!
# The order of sets

A set lists its members in no order of their own. Numbers are scattered over a table by
their residues, which are the same for equal numbers of all kinds, and are listed as they
stand in the table. Where a set has other members it keeps the order they were given in.
-/

set_option autoImplicit false

namespace Recolor.Scatter

/-- The modulus of residues, a prime. -/
def modulus : Nat := 0x1FFFFFFFFFFFFFFF

/-- A residue with the sign of its number. Minus one is passed over. -/
def signed (negative : Bool) (residue : Nat) : Int :=
  let r : Int := if negative then -(residue : Int) else residue
  if r = -1 then -2 else r

/-- The residue of the number `±significand · 2^exponent`. Sixty-one doublings change none. -/
def residue (negative : Bool) (significand : Nat) (exponent : Int) : Int :=
  signed negative (significand * Nat.pow 2 (exponent % 61).toNat % modulus)

/-- The residue of a value that is a number. -/
def residue? : Value → Option Int
  | .bool b => some (Value.ofTruth b)
  | .int n => some (residue (n < 0) n.natAbs 0)
  | .float x =>
    match Binary64.parts x with
    | .finite negative significand exponent => some (residue negative significand exponent)
    | .infinite negative => some (if negative then -314159 else 314159)
    | .notANumber => none
  | _ => none

/-- The size of the table for a count of members: a power of two that leaves half of it free. -/
def tableSize (count : Nat) : Nat :=
  if count < 5 then 8 else Nat.pow 2 (Nat.log2 (2 * count) + 1)

/-- The first free slot for a number. Each try looks at up to ten slots in a row; the next one
starts where the number's higher digits lead. -/
def freeSlot (isTaken : Nat → Bool) (size : Nat) : (room : Nat) → (digits slot : Nat) → Nat
  | 0, _, slot => slot
  | room + 1, digits, slot =>
    let run := if slot + 9 < size then 10 else 1
    match (List.range run).find? fun i => !isTaken (slot + i) with
    | some i => slot + i
    | none =>
      let digits := digits / 32
      freeSlot isTaken size room digits ((slot * 5 + 1 + digits) % size)

/-- Puts numbers with their residues into a table. -/
def fill {α : Type} (table : Array (Option α)) : List (Int × α) → Array (Option α)
  | [] => table
  | (residue, v) :: rest =>
    let digits := (residue % 0x10000000000000000).toNat
    let isTaken (slot : Nat) : Bool := ((table[slot]?).join).isSome
    let slot := freeSlot isTaken table.size (table.size + 14) digits (digits % table.size)
    fill (table.setIfInBounds slot (some v)) rest

/-- The members of a set in the order in which it lists them. -/
def order (members : List Value) : List Value :=
  match members.mapM fun v => (residue? v).map fun r => (r, v) with
  | none => members
  | some numbers =>
    (fill (Array.replicate (tableSize members.length) none) numbers).toList.filterMap id

end Recolor.Scatter
