import Mathlib.Data.List.Induction
import Mathlib.Tactic.Ring
import Recolor.Files.Bytes

/-!
# Numbers in bytes

A number that fits the bytes it is written in is read back from them. What lies in a window is
known when the data before and behind it is.
-/

set_option autoImplicit false

namespace Recolor.Bytes

/-- A number is written in as many bytes as are asked for. -/
@[simp] theorem length_ofNat (count n : Nat) : (ofNat count n).length = count := by
  simp [ofNat]

/-- The last digit of a number stands behind the digits of the rest. -/
theorem ofNat_succ (count n : Nat) :
    ofNat (count + 1) n = ofNat count (n / 256) ++ [UInt8.ofNat n] := by
  unfold ofNat
  rw [List.range_succ, List.map_append]
  congr 1
  · apply List.map_congr_left
    intro i hi
    have hi : i < count := List.mem_range.mp hi
    have hpow : count + 1 - 1 - i = count - 1 - i + 1 := by omega
    have hsplit : Nat.pow 256 (count - 1 - i + 1) = 256 * Nat.pow 256 (count - 1 - i) := by
      rw [Nat.pow_eq, Nat.pow_eq, Nat.pow_succ, Nat.mul_comm]
    rw [hpow, hsplit, ← Nat.div_div_eq_div_mul]
  · simp

/-- A further byte at the end multiplies the number by 256 and is added. -/
theorem toNat_concat (data : Bytes) (b : UInt8) :
    toNat (data ++ [b]) = toNat data * 256 + b.toNat := by
  simp [toNat]

/-- A text is written in as many bytes as it has characters. -/
@[simp] theorem length_ofText (s : String) : (ofText s).length = s.length := by
  rw [ofText, List.length_map, String.length_toList]

/-- Whether every character of a text fits a byte. -/
def IsLatin (s : String) : Prop :=
  ∀ c ∈ s.toList, c.toNat < 256

instance (s : String) : Decidable (IsLatin s) :=
  decidable_of_iff (s.toList.all (fun c => c.toNat < 256) = true) (by simp [IsLatin])

/-- A text of characters that fit a byte is read back from their codes. -/
theorem latin1_ofText {s : String} (h : IsLatin s) : latin1 (ofText s) = s := by
  have hcode : ∀ c ∈ s.toList, Char.ofNat (UInt8.ofNat c.toNat).toNat = c := by
    intro c hc
    rw [UInt8.toNat_ofNat', Nat.mod_eq_of_lt (h c hc), Char.ofNat_toNat]
  have hchars : (s.toList.map fun c => UInt8.ofNat c.toNat).map (fun b => Char.ofNat b.toNat)
      = s.toList :=
    calc (s.toList.map fun c => UInt8.ofNat c.toNat).map (fun b => Char.ofNat b.toNat)
        = s.toList.map fun c => Char.ofNat (UInt8.ofNat c.toNat).toNat := by rw [List.map_map]; rfl
      _ = s.toList.map id := List.map_congr_left hcode
      _ = s.toList := List.map_id _
  rw [latin1, ofText, hchars, String.ofList_toList]

/-- A number that fits its bytes is read back. -/
theorem toNat_ofNat {count n : Nat} (h : n < Nat.pow 256 count) : toNat (ofNat count n) = n := by
  induction count generalizing n with
  | zero =>
    have hn : n = 0 := by simpa using h
    rw [hn]
    rfl
  | succ count ih =>
    have hrest : n / 256 < Nat.pow 256 count := by
      have hpow : Nat.pow 256 (count + 1) = Nat.pow 256 count * 256 := rfl
      omega
    rw [ofNat_succ, toNat_concat, ih hrest]
    have hlast : (UInt8.ofNat n).toNat = n % 256 := by simp [UInt8.toNat_ofNat']
    rw [hlast]
    omega

/-- The number that bytes stand for is shifted by the bytes behind them. -/
theorem toNat_append (front back : Bytes) :
    toNat (front ++ back) = toNat front * 256 ^ back.length + toNat back := by
  induction back using List.reverseRecOn with
  | nil => simp [toNat]
  | append_singleton back b ih =>
    rw [← List.append_assoc, toNat_concat, toNat_concat, ih, List.length_append,
      List.length_singleton, Nat.pow_succ]
    ring

/-- Bytes stand for a number below the power of 256 of their count. -/
theorem toNat_lt (data : Bytes) : toNat data < 256 ^ data.length := by
  induction data using List.reverseRecOn with
  | nil => decide
  | append_singleton data b ih =>
    have hb := b.toNat_lt
    rw [toNat_concat, List.length_append, List.length_singleton, Nat.pow_succ]
    omega

/-- Bytes are the digits of the number that is read from them. -/
theorem ofNat_toNat (data : Bytes) : ofNat data.length (toNat data) = data := by
  induction data using List.reverseRecOn with
  | nil => rfl
  | append_singleton data b ih =>
    have hb := b.toNat_lt
    have hfront : (toNat data * 256 + b.toNat) / 256 = toNat data := by omega
    have hlast : UInt8.ofNat (toNat data * 256 + b.toNat) = b := by
      rw [← UInt8.toNat_inj, UInt8.toNat_ofNat']
      omega
    rw [toNat_concat, List.length_append, List.length_singleton, ofNat_succ, hfront, hlast, ih]

/-- A number is found exactly where all of its bytes are there. -/
theorem numberAt?_eq_some_iff {data : Bytes} {offset size n : Nat} :
    numberAt? data offset size = some n
      ↔ offset + size ≤ data.length ∧ toNat (window data offset size) = n := by
  simp [numberAt?]

/-- No number is found exactly where some of its bytes would lie past the end. -/
theorem numberAt?_eq_none_iff {data : Bytes} {offset size : Nat} :
    numberAt? data offset size = none ↔ data.length < offset + size := by
  simp [numberAt?]

/-- The window onto a piece of data is the piece. -/
theorem window_append {before piece behind : Bytes} {offset size : Nat}
    (hoffset : before.length = offset) (hsize : piece.length = size) :
    window (before ++ (piece ++ behind)) offset size = piece := by
  subst hoffset hsize
  simp [window]

/-- A window within the bytes is as long as it is asked for. -/
theorem length_window {data : Bytes} {offset size : Nat} (h : offset + size ≤ data.length) :
    (window data offset size).length = size := by
  rw [window, List.length_take, List.length_drop]
  omega

/-- The bytes of a window are the digits of its number. -/
theorem ofNat_toNat_window {data : Bytes} {offset size : Nat} (h : offset + size ≤ data.length) :
    ofNat size (toNat (window data offset size)) = window data offset size := by
  have hdigits := ofNat_toNat (window data offset size)
  rwa [length_window h] at hdigits

/-- A window of some bytes stands for a number below the power of 256 of their count. -/
theorem toNat_window_lt {data : Bytes} {offset size : Nat} (h : offset + size ≤ data.length) :
    toNat (window data offset size) < 256 ^ size := by
  have hlt := toNat_lt (window data offset size)
  rwa [length_window h] at hlt

/-- What stands from an offset on is a window and what stands behind it. -/
theorem window_append_drop (data : Bytes) (offset size : Nat) :
    window data offset size ++ data.drop (offset + size) = data.drop offset := by
  rw [window, ← List.drop_drop, List.take_append_drop]

/-- A window is two windows, one behind the other. -/
theorem window_append_window (data : Bytes) (offset front back : Nat) :
    window data offset front ++ window data (offset + front) back
      = window data offset (front + back) := by
  rw [window, window, window, List.take_add, List.drop_drop]

/-- A window that lies in the front of data is one onto the front. -/
theorem window_take {data : Bytes} {offset size front : Nat} (h : offset + size ≤ front) :
    window (data.take front) offset size = window data offset size := by
  have hroom : size ≤ front - offset := by omega
  rw [window, window, List.drop_take, List.take_take, Nat.min_eq_left hroom]

/-- A number is found where it was written. -/
theorem numberAt?_append {before behind : Bytes} {offset count n : Nat}
    (hoffset : before.length = offset) (hn : n < Nat.pow 256 count) :
    numberAt? (before ++ (ofNat count n ++ behind)) offset count = some n := by
  have hroom : offset + count ≤ (before ++ (ofNat count n ++ behind)).length := by
    simp only [List.length_append, length_ofNat, hoffset]
    omega
  rw [numberAt?, if_pos hroom, window_append hoffset (length_ofNat count n), toNat_ofNat hn]

/-- There are half as many words as bytes. -/
theorem length_words16 (data : Bytes) : (words16 data).length = data.length / 2 := by
  fun_induction words16 data with
  | case1 a b rest ih =>
    rw [List.length_cons, ih, List.length_cons, List.length_cons]
    omega
  | case2 data hshort =>
    match data with
    | [] => rfl
    | [_] => simp
    | a :: b :: rest => exact absurd rfl (hshort a b rest)

/-- A number of 16 bits is read off its two bytes. -/
theorem words16_append (v : UInt16) (behind : Bytes) :
    words16 (ofNat 2 v.toNat ++ behind) = v :: words16 behind := by
  have hv : v.toNat < 65536 := v.toNat_lt
  have hbytes : ofNat 2 v.toNat = [UInt8.ofNat (v.toNat / 256), UInt8.ofNat v.toNat] := by
    simp [ofNat, List.range_succ]
  have hword : (UInt8.ofNat (v.toNat / 256)).toNat * 256 + (UInt8.ofNat v.toNat).toNat
      = v.toNat := by
    simp only [UInt8.toNat_ofNat']
    omega
  rw [hbytes, List.cons_append, List.cons_append, List.nil_append, words16, hword,
    UInt16.ofNat_toNat]

end Recolor.Bytes
