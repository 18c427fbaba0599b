import Recolor.Marker.Photoshop
import Recolor.Proofs.Files.Bytes

/-!
# Heads of resource blocks

A block starts with its signature, kind, name and length, and two of these pieces have lengths that
others tell. `IsHead` lays them out one behind the other; reading finds a head at an offset exactly
if one is laid out there, whatever stands before and behind it.
-/

set_option autoImplicit false

namespace Recolor.Photoshop

/-- The signature of a block has four bytes. -/
@[simp] theorem length_blockSignature : blockSignature.length = 4 := by
  decide +kernel

/-- A name and its length byte are filled up to an even number of bytes. -/
theorem paddedName_eq (length : Nat) : paddedName length = length + (1 + length) % 2 := by
  rw [paddedName]
  split <;> omega

/-- The pieces of a block's head stand one behind the other at an offset of some data. -/
structure IsHead (data : Bytes) (i : Nat) (head : BlockHead) : Prop where
  kind_lt : head.kind < 256 ^ 2
  length_lt : head.length < 256 ^ 4
  pieces : ∃ before name filler rest : Bytes,
    before.length = i ∧ name.length < 256 ∧ filler.length = (1 + name.length) % 2
      ∧ head.start + rest.length = data.length
      ∧ data = before ++ (blockSignature ++ (Bytes.ofNat 2 head.kind
        ++ (Bytes.ofNat 1 name.length ++ (name ++ (filler
          ++ (Bytes.ofNat 4 head.length ++ rest))))))

/-- A head that is laid out is read. -/
theorem readHead?_of_isHead {data : Bytes} {i : Nat} {head : BlockHead} (h : IsHead data i head) :
    readHead? data i = some head := by
  obtain ⟨hkind, hlength, before, name, filler, rest, rfl, hname, hfiller, hstart, hdata⟩ := h
  have hpadded := paddedName_eq name.length
  have hsize := congrArg List.length hdata
  simp only [List.length_append, Bytes.length_ofNat, length_blockSignature] at hsize
  have hsignature : Bytes.window data before.length 4 = blockSignature := by
    rw [hdata]
    exact Bytes.window_append rfl length_blockSignature
  have hkinds : Bytes.window data (before.length + 4) 2 = Bytes.ofNat 2 head.kind := by
    rw [hdata, ← List.append_assoc]
    exact Bytes.window_append (by simp) (by simp)
  have hnames : Bytes.window data (before.length + 6) 1 = Bytes.ofNat 1 name.length := by
    rw [hdata, ← List.append_assoc, ← List.append_assoc]
    exact Bytes.window_append (by simp) (by simp)
  -- the length stands behind the name and its filler, which the length of the name tells
  have hlengths : Bytes.numberAt? data (before.length + 7 + paddedName name.length) 4
      = some head.length := by
    simp only [← List.append_assoc] at hdata
    rw [hdata, List.append_assoc]
    refine Bytes.numberAt?_append ?_ hlength
    simp only [List.length_append, Bytes.length_ofNat, length_blockSignature]
    omega
  have hroom : before.length + 7 ≤ data.length := by omega
  have hkindNumber : Bytes.toNat (Bytes.ofNat 2 head.kind) = head.kind := Bytes.toNat_ofNat hkind
  have hnameNumber : Bytes.toNat (Bytes.ofNat 1 name.length) = name.length :=
    Bytes.toNat_ofNat hname
  have hhead : head = ⟨head.kind, head.length,
      before.length + 7 + paddedName name.length + 4⟩ := by
    cases head
    simp only [BlockHead.mk.injEq, true_and]
    simp only at hsize hstart
    omega
  rw [hhead]
  simp only [readHead?, hsignature, hkinds, hnames, hkindNumber, hnameNumber, hlengths, hroom,
    beq_self_eq_true, decide_true, Bool.and_self, if_true]

/-- The checks that a head passes when it is read. -/
theorem readHead?_ok {data : Bytes} {i : Nat} {head : BlockHead}
    (h : readHead? data i = some head) : ∃ name length,
      Bytes.window data i 4 = blockSignature ∧ i + 7 ≤ data.length
        ∧ Bytes.toNat (Bytes.window data (i + 6) 1) = name
        ∧ Bytes.numberAt? data (i + 7 + paddedName name) 4 = some length
        ∧ head = { kind := Bytes.toNat (Bytes.window data (i + 4) 2), length
                   start := i + 7 + paddedName name + 4 } := by
  unfold readHead? at h
  split at h
  · rename_i hchecks
    simp only [Bool.and_eq_true, beq_iff_eq, decide_eq_true_eq] at hchecks
    simp only at h
    split at h
    · cases h
    · rename_i length hlength
      exact ⟨_, length, hchecks.1, hchecks.2, rfl, hlength, (Option.some.inj h).symm⟩
  · cases h

/-- A head that is read is laid out. -/
theorem isHead_of_readHead? {data : Bytes} {i : Nat} {head : BlockHead}
    (h : readHead? data i = some head) : IsHead data i head := by
  obtain ⟨name, length, hsignature, hroom, hname, hlength, rfl⟩ := readHead?_ok h
  obtain ⟨hend, hnumber⟩ := Bytes.numberAt?_eq_some_iff.mp hlength
  have hpadded := paddedName_eq name
  have hplace : i + 7 + paddedName name = i + 7 + name + (1 + name) % 2 := by omega
  have hnameLength : (Bytes.window data (i + 7) name).length = name :=
    Bytes.length_window (by omega)
  refine ⟨Bytes.toNat_window_lt (by omega), ?_, data.take i, Bytes.window data (i + 7) name,
    Bytes.window data (i + 7 + name) ((1 + name) % 2),
    data.drop (i + 7 + paddedName name + 4), ?_, ?_, ?_, ?_, ?_⟩
  · exact hnumber ▸ Bytes.toNat_window_lt hend
  · rw [List.length_take]
    omega
  · rw [hnameLength, ← hname]
    exact Bytes.toNat_window_lt (by omega)
  · rw [hnameLength]
    exact Bytes.length_window (by omega)
  · rw [List.length_drop]
    simp only
    omega
  · have hkinds : Bytes.ofNat 2 (Bytes.toNat (Bytes.window data (i + 4) 2))
        = Bytes.window data (i + 4) 2 := Bytes.ofNat_toNat_window (by omega)
    have hnames : Bytes.ofNat 1 name = Bytes.window data (i + 6) 1 :=
      hname ▸ Bytes.ofNat_toNat_window (by omega)
    -- from the last piece to the first, each stands in front of what the later ones make up
    have hlater := Bytes.window_append_drop data (i + 6) 1
    rw [hnameLength, hkinds, hnames, ← hnumber, Bytes.ofNat_toNat_window hend,
      Bytes.window_append_drop, hplace, Bytes.window_append_drop, Bytes.window_append_drop, hlater,
      Bytes.window_append_drop, ← hsignature, Bytes.window_append_drop, List.take_append_drop]

/-- A head is read exactly where it stands. -/
theorem readHead?_eq_some_iff {data : Bytes} {i : Nat} {head : BlockHead} :
    readHead? data i = some head ↔ IsHead data i head :=
  ⟨isHead_of_readHead?, readHead?_of_isHead⟩

end Recolor.Photoshop
