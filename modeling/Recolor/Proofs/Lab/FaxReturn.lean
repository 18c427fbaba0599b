import Recolor.Proofs.Lab.Arrays
import Recolor.Proofs.Lab.Rounding

/-!
# From the connection space to fax codes and back

For a colour in the fax envelope the way to fax codes cuts off and the way back rounds. Both ways
are divisions of whole numbers: by 2 and 3 on the first axis, by 40 and 51 on the second. What is
cut off on the first axis is at most half a fax code, a third of a code on the way back, which
rounding makes good. On the second axis up to 39/40 of a fax code are cut off, so the code that
comes back is one too low where the remainder exceeds 25.
-/

set_option autoImplicit false

namespace Recolor.Fax

/-- The fax codes of a colour that is given by its codes in the connection space. -/
def ofCodes (codes : Lab UInt16) : Lab UInt16 :=
  ofConnection (codes.map Scalar.ofCode16 : Lab ℚ)

/-- The codes in the connection space of a colour that is given by its fax codes. -/
def toCodes (fax : Lab UInt16) : Lab UInt16 :=
  toConnection (fax.map Scalar.ofCode16 : Lab ℚ)

/-- Codes lie in the domain of 16-bit codes. -/
theorem inDomain_ofCode16 (codes : Lab UInt16) :
    (codes.map Scalar.ofCode16 : Lab ℚ).InDomain :=
  ⟨⟨Scalar.ofCode16_nonneg _, Scalar.ofCode16_le _⟩,
    ⟨Scalar.ofCode16_nonneg _, Scalar.ofCode16_le _⟩,
    ⟨Scalar.ofCode16_nonneg _, Scalar.ofCode16_le _⟩⟩

/-- In the envelope the fax codes of the axes are quotients without the remainder. -/
theorem toNat_ofCodes {codes : Lab UInt16}
    (h : Envelope.fax.Contains (Connection.colorOf16 codes)) :
    (ofCodes codes).l = codes.l
      ∧ ((ofCodes codes).a.toNat : ℤ) = (3 * codes.a.toNat - 33152) / 2
      ∧ ((ofCodes codes).b.toNat : ℤ) = (51 * codes.b.toNat - 694656) / 40 := by
  have hdomain := inDomain_ofCode16 codes
  obtain ⟨h0, h1⟩ := l_decode16_mem hdomain
  obtain ⟨⟨ha0, ha1⟩, hb0, hb1⟩ := scale_mem h
  have hplaces : scale (Connection.colorOf16 codes)
      = ⟨codes.l.toNat, 3 / 2 * codes.a.toNat + -16576, 51 / 40 * codes.b.toNat + -86832 / 5⟩ := by
    rw [Connection.colorOf16, scale_decode16]
    simp only [Lab.map, Scalar.ofCode16_rat]
  have hcodes : ofCodes codes = (scale (Connection.colorOf16 codes)).map
      fun x => (Scalar.floor x).toCode16 := by
    rw [ofCodes, ofConnection, Envelope.desaturate_of_contains h0 h1 h, encode,
      Connection.colorOf16]
  rw [hplaces] at ha0 ha1 hb0 hb1
  refine ⟨l_ofConnection hdomain rfl, ?_, ?_⟩
  · rw [hcodes, hplaces]
    refine (Scalar.toNat_toCode16_floor ha0 ha1).trans (floor_eq_ediv ?_)
    push_cast
    ring
  · rw [hcodes, hplaces]
    refine (Scalar.toNat_toCode16_floor hb0 hb1).trans (floor_eq_ediv ?_)
    push_cast
    ring

/-- On the way back the quotients are rounded. -/
theorem toNat_toCodes (fax : Lab UInt16) :
    (toCodes fax).l = fax.l
      ∧ ((toCodes fax).a.toNat : ℤ) = (4 * fax.a.toNat + 66307) / 6
      ∧ ((toCodes fax).b.toNat : ℤ) = (80 * fax.b.toNat + 1389363) / 102 := by
  have ha := fax.a.toNat_lt
  have hb := fax.b.toNat_lt
  have hcodes : toCodes fax = (⟨fax.l.toNat, 2 / 3 * fax.a.toNat + 33152 / 3,
      40 / 51 * fax.b.toNat + 231552 / 17⟩ : Lab ℚ).map fun x => (Scalar.round x).toCode16 := by
    rw [toCodes, toConnection_eq, exact16_decode]
    simp only [Lab.map, Scalar.ofCode16_rat]
  have hround {x : ℚ} {n : ℤ} {d : ℕ} (hx : x + 1 / 2 = n / d) (hn0 : 0 ≤ n / d)
      (hn1 : n / d ≤ 65535) : ((Scalar.round x).toCode16.toNat : ℤ) = n / d := by
    rw [Whole.toNat_toCode16, Scalar.round_rat, floor_eq_ediv hx, Whole.clamp_int]
    omega
  refine ⟨l_toConnection rfl, ?_, ?_⟩
  · rw [hcodes]
    refine hround ?_ (by push_cast; omega) (by push_cast; omega)
    push_cast
    ring
  · rw [hcodes]
    refine hround ?_ (by push_cast; omega) (by push_cast; omega)
    push_cast
    ring

/-- What comes back of codes that go to fax codes: all of them, but for the second axis, whose code
is one too low where too much was cut off. -/
structure Returns (codes returned : Lab UInt16) : Prop where
  l : returned.l = codes.l
  a : returned.a = codes.a
  b : returned.b = codes.b ∨ returned.b.toNat + 1 = codes.b.toNat
  b_eq_iff : returned.b = codes.b ↔ (51 * codes.b.toNat + 24) % 40 ≤ 25

/-- Codes in the envelope return from fax codes. -/
theorem returns_of_contains {codes : Lab UInt16}
    (h : Envelope.fax.Contains (Connection.colorOf16 codes)) :
    Returns codes (toCodes (ofCodes codes)) := by
  obtain ⟨hl, ha, hb⟩ := toNat_ofCodes h
  obtain ⟨hl', ha', hb'⟩ := toNat_toCodes (ofCodes codes)
  -- the remainder of the division by 40 is what is lost on the second axis
  obtain ⟨remainder, hremainder⟩ : ∃ r, r = (51 * codes.b.toNat + 24) % 40 := ⟨_, rfl⟩
  have hreturned : ((toCodes (ofCodes codes)).b.toNat : ℤ)
      = (102 * codes.b.toNat + 51 - 2 * remainder) / 102 := by
    rw [hb', hb]
    congr 1
    omega
  refine ⟨hl'.trans hl, ?_, ?_, ?_⟩
  · rw [← UInt16.toNat_inj]
    omega
  · rw [← UInt16.toNat_inj]
    omega
  · rw [← UInt16.toNat_inj, ← hremainder]
    omega

/-- Codes in the envelope return from fax codes. In an array each colour goes there and back by
itself. -/
theorem returns_alone_and_in_arrays :
    (∀ codes : Lab UInt16, Envelope.fax.Contains (Connection.colorOf16 codes) →
      Returns codes (toCodes (ofCodes codes)))
    ∧ ∀ colors : Nested (Lab UInt16), colors.CanHoldRows → ∃ fax : Nested UInt16,
      rowsOfConnection.onNested (colors.expand fun v => (v.map Scalar.ofCode16 : Lab ℚ).toRow)
          = .ok fax
        ∧ rowsToConnection.onNested (fax.map (Scalar.ofCode16 : UInt16 → ℚ))
          = .ok (colors.expand fun v => (toCodes (ofCodes v)).toRow) := by
  refine ⟨fun _ h => returns_of_contains h, fun colors hcolors =>
    ⟨colors.expand fun v => (ofCodes v).toRow, ?_, ?_⟩⟩
  · exact RowOp.onNested_expand rowsOfConnection (k := 3) rfl (fun _ => rfl) hcolors
  · rw [Nested.map_expand]
    exact RowOp.onNested_expand rowsToConnection (k := 3) rfl (fun _ => rfl) hcolors

/-- A gray with a tinge: nothing is lost on the first axis, and a code on the second. -/
theorem returns_tinged :
    Envelope.fax.Contains (Connection.colorOf16 ⟨32768, 32897, 32899⟩)
      ∧ toCodes (ofCodes ⟨32768, 32897, 32899⟩) = ⟨32768, 32897, 32898⟩ := by
  have hcontains : Envelope.fax.Contains (Connection.colorOf16 ⟨32768, 32897, 32899⟩) := by
    constructor <;> decide +kernel
  refine ⟨hcontains, ?_⟩
  obtain ⟨hl, ha, hb, hsame⟩ := returns_alone_and_in_arrays.1 _ hcontains
  have hlost : (toCodes (ofCodes ⟨32768, 32897, 32899⟩)).b ≠ 32899 := by
    rw [Ne, hsame]
    decide
  have hlower := hb.resolve_left hlost
  have hnumber : (toCodes (ofCodes ⟨32768, 32897, 32899⟩)).b = 32898 := by
    rw [← UInt16.toNat_inj]
    exact Nat.succ.inj hlower
  cases hcodes : toCodes (ofCodes ⟨32768, 32897, 32899⟩)
  rw [hcodes] at hl ha hnumber
  simp only at hl ha hnumber
  rw [hl, ha, hnumber]

end Recolor.Fax
