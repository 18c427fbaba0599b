import Recolor.Pixel.Format
import Recolor.Proofs.Numeric.Bits

/-!
# Formats in descriptor words

A descriptor word states a format in six numbers, each made up of some of its bits, and a plain word
has no bits besides them. Packing and unpacking are both read off this one table: a format is packed
into the plain word that states it, and an integer of any size and sign is unpacked to the format
that it states, which there is if the code of its colour space is a known one. The sense of the
samples has a bit of its own, and compatible formats are those whose words differ in no other.
-/

set_option autoImplicit false

namespace Recolor

open Bits (field)

namespace Space

/-- A space is found under its own code and no other. -/
theorem ofCode?_eq_some_iff {n : Nat} {s : Space} : ofCode? n = some s ↔ s.code = n := by
  constructor
  · intro h
    have hcode := List.find?_some h
    exact beq_iff_eq.mp hcode
  · rintro rfl
    exact ofCode?_code s

/-- Different spaces have different codes. -/
theorem code_injective {s t : Space} (h : s.code = t.code) : s = t := by
  have hs := ofCode?_code s
  rw [h, ofCode?_code] at hs
  exact (Option.some.inj hs).symm

end Space

namespace Flavor

/-- The sense of the samples takes one bit. -/
theorem bit_le (v : Flavor) : v.bit ≤ 1 := by
  cases v <;> decide

/-- The two senses of the samples have different bits. -/
theorem bit_injective {v w : Flavor} (h : v.bit = w.bit) : v = w := by
  cases v <;> cases w <;> simp_all [bit]

end Flavor

/-- The two truth values are different numbers. -/
theorem toInt_injective : ∀ {b c : Bool}, b.toInt = c.toInt → b = c := by
  decide

namespace Word

/-- The format that a word states, by the numbers made up of its bits. -/
structure States (word : ℤ) (f : PixelFormat) : Prop where
  bytesPerSample : field word 0 3 = f.bytesPerSample
  channels : field word 3 4 = f.channels
  extra : field word 7 3 = f.extra
  planar : field word 12 1 = f.planar.toInt
  flavor : field word 13 1 = f.flavor.bit
  space : field word 16 5 = f.space.code

/-- A word has no bits that belong to no number. -/
structure IsPlain (word : ℤ) : Prop where
  below_planar : field word 10 2 = 0
  below_space : field word 14 2 = 0
  above_space : word / 2 ^ 21 = 0

/-- A word states one format at most. -/
theorem States.unique {w : ℤ} {f g : PixelFormat} (hf : States w f) (hg : States w g) :
    f = g := by
  have hplanar : f.planar.toInt = g.planar.toInt := hf.planar.symm.trans hg.planar
  have hflavor : (f.flavor.bit : ℤ) = g.flavor.bit := hf.flavor.symm.trans hg.flavor
  have hspace : (f.space.code : ℤ) = g.space.code := hf.space.symm.trans hg.space
  have hplanar' := toInt_injective hplanar
  have hflavor' := Flavor.bit_injective (Int.ofNat.inj hflavor)
  have hspace' := Space.code_injective (Int.ofNat.inj hspace)
  cases f
  cases g
  simp only at hplanar' hflavor' hspace'
  rw [PixelFormat.mk.injEq]
  exact ⟨hspace', hf.channels.symm.trans hg.channels, hf.extra.symm.trans hg.extra,
    hf.bytesPerSample.symm.trans hg.bytesPerSample, hplanar', hflavor'⟩

/-- The mask of the bits that belong to the numbers of a format leaves a plain word. -/
theorem isPlain_land (w : ℤ) : IsPlain (w.land 0x1F33FF) where
  below_planar := Bits.field_land_of_empty (by decide)
  below_space := Bits.field_land_of_empty (by decide)
  above_space := Bits.ediv_land_of_empty (by decide)

/-- The mask of the bits that belong to the numbers of a format keeps the format. -/
theorem States.land {w : ℤ} {f : PixelFormat} (h : States w f) :
    States (w.land 0x1F33FF) f where
  bytesPerSample := (Bits.field_land_of_full (by decide)).trans h.bytesPerSample
  channels := (Bits.field_land_of_full (by decide)).trans h.channels
  extra := (Bits.field_land_of_full (by decide)).trans h.extra
  planar := (Bits.field_land_of_full (by decide)).trans h.planar
  flavor := (Bits.field_land_of_full (by decide)).trans h.flavor
  space := (Bits.field_land_of_full (by decide)).trans h.space

/-- The numbers of a plain word below the sense of the samples. -/
theorem IsPlain.emod {w : ℤ} (h : IsPlain w) : w % 2 ^ 13
    = field w 0 3 + 8 * field w 3 4 + 128 * field w 7 3 + 4096 * field w 12 1 := by
  have hgap := h.below_planar
  norm_num [field] at hgap ⊢
  omega

/-- The number of a plain word above the sense of the samples. -/
theorem IsPlain.ediv {w : ℤ} (h : IsPlain w) : w / 2 ^ 14 = 4 * field w 16 5 := by
  have hgap := h.below_space
  have hrest := h.above_space
  norm_num [field] at hgap hrest ⊢
  omega

end Word

namespace PixelFormat

/-- The sum of a format's numbers, each moved to its place. -/
def word (f : PixelFormat) : ℤ :=
  f.bytesPerSample + 8 * f.channels + 128 * f.extra + 4096 * f.planar.toInt
    + 8192 * f.flavor.bit + 65536 * f.space.code

/-- A format is encoded as its word if its numbers fit their places, and is refused for the first
that does not. -/
theorem encode_eq (f : PixelFormat) : f.encode
    = if ¬(0 ≤ f.bytesPerSample ∧ f.bytesPerSample ≤ 7) then .error (.bytesRange f.bytesPerSample)
      else if ¬(0 ≤ f.channels ∧ f.channels ≤ 15) then .error (.channelsRange f.channels)
      else if ¬(0 ≤ f.extra ∧ f.extra ≤ 7) then .error (.extraRange f.extra)
      else .ok f.word := by
  cases hplanar : f.planar <;> simp [encode, fields, FormatFields.encode, word, hplanar]

/-- A format is packed into the plain word that states it, and into no other. -/
theorem encode_ok_iff {f : PixelFormat} {w : ℤ} :
    f.encode = .ok w ↔ Word.States w f ∧ Word.IsPlain w := by
  have hplanar : 0 ≤ f.planar.toInt ∧ f.planar.toInt ≤ 1 := by
    cases f.planar <;> decide
  have hflavor := f.flavor.bit_le
  have hspace := f.space.code_lt
  rw [encode_eq]
  constructor
  · intro h
    split at h
    · simp at h
    · split at h
      · simp at h
      · split at h
        · simp at h
        · simp only [Except.ok.injEq, word] at h
          constructor <;> constructor <;> norm_num [field] <;> omega
  · rintro ⟨⟨hbytes, hchannels, hextra, hplanar', hflavor', hspace'⟩, hbelow, hbetween, habove⟩
    norm_num [field] at hbytes hchannels hextra hplanar' hflavor' hspace' hbelow hbetween habove
    rw [if_neg (by omega), if_neg (by omega), if_neg (by omega), word]
    congr 1
    omega

/-- A word with the code of a colour space is unpacked to a format that it states. -/
theorem exists_decode {w : ℤ} {s : Space} (hs : field w 16 5 = s.code) :
    ∃ f, decode w = .ok f ∧ Word.States w f := by
  have hcode : Space.ofCode? (w / 65536 % 32).toNat = some s := by
    rw [Space.ofCode?_eq_some_iff]
    norm_num [field] at hs
    omega
  have hplanar : field w 12 1 = (w / 4096 % 2 == 1).toInt := by
    rcases Int.emod_two_eq_zero_or_one (w / 4096) with h | h
    · norm_num [field, h]
      rfl
    · norm_num [field, h]
  have hflavor : field w 13 1
      = (if w / 8192 % 2 == 1 then Flavor.inverted else Flavor.natural).bit := by
    rcases Int.emod_two_eq_zero_or_one (w / 8192) with h | h <;> norm_num [field, h, Flavor.bit]
  refine ⟨_, by simp only [decode, hcode]; rfl, ?_, ?_, ?_, hplanar, hflavor, hs⟩
  · norm_num [field]
  · norm_num [field]
  · norm_num [field]

/-- A word is not unpacked exactly if it has the code of no colour space. -/
theorem exists_decode_error_iff {w : ℤ} :
    (∃ e, decode w = .error e) ↔ ∀ s : Space, field w 16 5 ≠ s.code := by
  constructor
  · rintro ⟨e, he⟩ s hs
    obtain ⟨f, hf, -⟩ := exists_decode hs
    rw [he] at hf
    cases hf
  · intro h
    cases hcode : Space.ofCode? (w / 65536 % 32).toNat with
    | none => exact ⟨_, by simp only [decode, hcode]; rfl⟩
    | some s =>
      rw [Space.ofCode?_eq_some_iff] at hcode
      refine absurd ?_ (h s)
      norm_num [field]
      omega

/-- A word is unpacked to the format that it states. -/
theorem decode_ok_iff {f : PixelFormat} {w : ℤ} : decode w = .ok f ↔ Word.States w f := by
  constructor
  · intro h
    have hknown : ∃ s : Space, field w 16 5 = s.code := by
      by_contra hnone
      obtain ⟨e, he⟩ := exists_decode_error_iff.mpr (not_exists.mp hnone)
      rw [h] at he
      cases he
    obtain ⟨s, hs⟩ := hknown
    obtain ⟨g, hg, hstates⟩ := exists_decode hs
    rw [h] at hg
    cases hg
    exact hstates
  · intro h
    obtain ⟨g, hg, hstates⟩ := exists_decode h.space
    rw [hg, h.unique hstates]

/-- Compatible formats agree in all fields but the sense of the samples. -/
theorem isCompatible_fields_iff {f g : PixelFormat} :
    f.fields.isCompatible g.fields = true ↔ f = { g with flavor := f.flavor } := by
  cases f
  cases g
  simp [FormatFields.isCompatible, fields, Tag.same, and_assoc]

/-- Compatible formats have words that differ in the bit for the sense of the samples at most. -/
theorem isCompatible_iff_testBit {f g : PixelFormat} {w v : ℤ} (hf : f.encode = .ok w)
    (hg : g.encode = .ok v) :
    f.fields.isCompatible g.fields = true ↔ ∀ i, i ≠ 13 → w.testBit i = v.testBit i := by
  obtain ⟨hw, hplain⟩ := encode_ok_iff.mp hf
  obtain ⟨hv, hplain'⟩ := encode_ok_iff.mp hg
  rw [isCompatible_fields_iff, Bits.forall_testBit_eq_iff, hplain.ediv, hplain'.ediv]
  constructor
  · intro hsame
    rw [hsame] at hw
    rw [hplain.emod, hplain'.emod, hw.bytesPerSample, hw.channels, hw.extra, hw.planar, hw.space,
      hv.bytesPerSample, hv.channels, hv.extra, hv.planar, hv.space]
    exact ⟨rfl, rfl⟩
  · -- the one word states the format of the other, but with its own sense of the samples
    rintro ⟨hlow, hhigh⟩
    have hspace : field w 16 5 = field v 16 5 := by omega
    exact hw.unique
      { bytesPerSample := (Bits.field_congr hlow (by decide)).trans hv.bytesPerSample
        channels := (Bits.field_congr hlow (by decide)).trans hv.channels
        extra := (Bits.field_congr hlow (by decide)).trans hv.extra
        planar := (Bits.field_congr hlow (by decide)).trans hv.planar
        flavor := hw.flavor
        space := hspace.trans hv.space }

end PixelFormat

namespace FormatFields

/-- The fields of a format name a space and a sense of the samples, and their numbers fit the bits
that a word has for them. -/
structure IsEncodable (f : FormatFields) : Prop where
  space : ∃ space, f.space = .known space
  flavor : ∃ flavor, f.flavor = .known flavor
  bytesPerSample : 0 ≤ f.bytesPerSample ∧ f.bytesPerSample ≤ 7
  channels : 0 ≤ f.channels ∧ f.channels ≤ 15
  extra : 0 ≤ f.extra ∧ f.extra ≤ 7

/-- Fields that are packed are those of a format. -/
theorem exists_format {f : FormatFields} {w : ℤ} (h : f.encode = .ok w) :
    ∃ p : PixelFormat, p.fields = f ∧ p.encode = .ok w := by
  obtain ⟨space, channels, extra, bytes, planar, flavor⟩ := f
  cases space with
  | other v => simp [encode] at h
  | known space =>
    cases flavor with
    | other v => simp [encode] at h
    | known flavor => exact ⟨⟨space, channels, extra, bytes, planar, flavor⟩, rfl, h⟩

/-- Fields are packed exactly if a word can hold them. -/
theorem exists_encode_iff {f : FormatFields} : (∃ w, f.encode = .ok w) ↔ f.IsEncodable := by
  constructor
  · rintro ⟨w, hw⟩
    obtain ⟨p, rfl, hp⟩ := exists_format hw
    obtain ⟨⟨hbytes, hchannels, hextra, -, -, -⟩, -⟩ := PixelFormat.encode_ok_iff.mp hp
    norm_num [field] at hbytes hchannels hextra
    refine ⟨⟨p.space, rfl⟩, ⟨p.flavor, rfl⟩, ?_, ?_, ?_⟩
    · show 0 ≤ p.bytesPerSample ∧ p.bytesPerSample ≤ 7
      omega
    · show 0 ≤ p.channels ∧ p.channels ≤ 15
      omega
    · show 0 ≤ p.extra ∧ p.extra ≤ 7
      omega
  · obtain ⟨space, channels, extra, bytes, planar, flavor⟩ := f
    rintro ⟨⟨space, rfl⟩, ⟨flavor, rfl⟩, hbytes, hchannels, hextra⟩
    refine ⟨PixelFormat.word ⟨space, channels, extra, bytes, planar, flavor⟩,
      (PixelFormat.encode_eq ⟨space, channels, extra, bytes, planar, flavor⟩).trans ?_⟩
    rw [if_neg (not_not.mpr hbytes), if_neg (not_not.mpr hchannels), if_neg (not_not.mpr hextra)]

/-- A format is refused exactly if it cannot be encoded. -/
theorem exists_encode_error_iff {f : FormatFields} :
    (∃ e, f.encode = .error e) ↔ ¬f.IsEncodable := by
  rw [← exists_encode_iff]
  cases f.encode with
  | error e => simp
  | ok w => simp

/-- Formats and words stand for each other: fields that a word can hold are packed and unpacked
again, a word with a known colour space is unpacked and packed again up to the bits that belong to
no number, all others are refused, and the words of compatible formats differ in a single bit at
most. -/
theorem packing_and_unpacking :
    (∀ f : FormatFields, (∃ e, f.encode = .error e) ↔ ¬f.IsEncodable)
    ∧ (∀ f : FormatFields, f.IsEncodable →
      ∃ w p, f.encode = .ok w ∧ PixelFormat.decode w = .ok p ∧ p.fields = f)
    ∧ (∀ w : ℤ, (∃ e, PixelFormat.decode w = .error e) ↔ ∀ s : Space, field w 16 5 ≠ s.code)
    ∧ (∀ (w : ℤ) (s : Space), field w 16 5 = s.code →
      ∃ p, PixelFormat.decode w = .ok p ∧ p.encode = .ok (w.land 0x1F33FF))
    ∧ ∀ (f g : FormatFields) (w v : ℤ), f.encode = .ok w → g.encode = .ok v →
      (f.isCompatible g = true ↔ ∀ i, i ≠ 13 → w.testBit i = v.testBit i) := by
  refine ⟨fun f => exists_encode_error_iff, fun f hf => ?_, fun w =>
    PixelFormat.exists_decode_error_iff, fun w s hs => ?_, fun f g w v hf hg => ?_⟩
  · obtain ⟨w, hw⟩ := exists_encode_iff.mpr hf
    obtain ⟨p, rfl, hp⟩ := exists_format hw
    exact ⟨w, p, hw, PixelFormat.decode_ok_iff.mpr (PixelFormat.encode_ok_iff.mp hp).1, rfl⟩
  · obtain ⟨p, hp, hstates⟩ := PixelFormat.exists_decode hs
    exact ⟨p, hp, PixelFormat.encode_ok_iff.mpr ⟨hstates.land, Word.isPlain_land w⟩⟩
  · obtain ⟨p, rfl, hp⟩ := exists_format hf
    obtain ⟨q, rfl, hq⟩ := exists_format hg
    exact PixelFormat.isCompatible_iff_testBit hp hq

/-- A negative word that has bits at all places which belong to no number, of which the word of
inverted pixels with four channels is left, and a format whose numbers are as large as they can
be. -/
theorem packing_and_unpacking_extremes :
    (field (-16323551) 16 5 = Space.cmyk.code
      ∧ ∃ p, PixelFormat.decode (-16323551) = .ok p ∧ p.encode = .ok 0x62021)
    ∧ (IsEncodable ⟨.known .lab, 15, 7, 7, true, .known .inverted⟩
      ∧ ∃ w p, encode ⟨.known .lab, 15, 7, 7, true, .known .inverted⟩ = .ok w
        ∧ PixelFormat.decode w = .ok p
        ∧ p.fields = ⟨.known .lab, 15, 7, 7, true, .known .inverted⟩) := by
  have hspace : field (-16323551) 16 5 = Space.cmyk.code := by decide
  have hmasked : Int.land (-16323551) 0x1F33FF = 0x62021 := by decide +kernel
  have hencodable : IsEncodable ⟨.known .lab, 15, 7, 7, true, .known .inverted⟩ :=
    ⟨⟨_, rfl⟩, ⟨_, rfl⟩, by decide, by decide, by decide⟩
  obtain ⟨p, hp, hword⟩ := packing_and_unpacking.2.2.2.1 _ _ hspace
  exact ⟨⟨hspace, p, hp, hmasked ▸ hword⟩, hencodable, packing_and_unpacking.2.1 _ hencodable⟩

end FormatFields

end Recolor
