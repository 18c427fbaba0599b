import Recolor.Proofs.Rows.Layout
import Recolor.Table.Grid

/-!
# The order of a table's nodes

The nodes of a table are listed with the first axis slowest, and the number of a node is its place
in that list. So entries that are listed node by node stand where they are looked for.
-/

set_option autoImplicit false

namespace Recolor.Grid

/-- One more axis has as many times more nodes. -/
theorem pow_axes_succ (points n : Nat) : points.pow (n + 1) = points * points.pow n := by
  rw [Nat.pow_eq, Nat.pow_eq, Nat.pow_succ, Nat.mul_comm]

/-- There are as many choices as the power of the axis says. -/
@[simp] theorem length_tuples {β : Type} (axis : List β) (n : Nat) :
    (tuples axis n).length = axis.length.pow n := by
  induction n with
  | zero => rfl
  | succ n ih =>
    have hpieces : ∀ v ∈ axis, ((tuples axis n).map (v :: ·)).length = axis.length.pow n := by
      intro v _
      rw [List.length_map, ih]
    rw [tuples, Rows.length_flatMap_of_length hpieces, pow_axes_succ]

/-- Choices among images are the images of choices. -/
theorem tuples_map {β γ : Type} (f : β → γ) (axis : List β) (n : Nat) :
    tuples (axis.map f) n = (tuples axis n).map (List.map f) := by
  induction n with
  | zero => rfl
  | succ n ih =>
    rw [tuples, tuples, ih, List.flatMap_map, List.map_flatMap]
    simp only [List.map_map]
    rfl

/-- The choices are the lists of the right length whose members are on the axis. -/
theorem mem_tuples_iff {β : Type} {axis : List β} {n : Nat} {tuple : List β} :
    tuple ∈ tuples axis n ↔ tuple.length = n ∧ ∀ v ∈ tuple, v ∈ axis := by
  induction n generalizing tuple with
  | zero =>
    rw [tuples, List.mem_singleton]
    constructor
    · rintro rfl
      exact ⟨rfl, by simp⟩
    · intro h
      exact List.length_eq_zero_iff.mp h.1
  | succ n ih =>
    simp only [tuples, List.mem_flatMap, List.mem_map, ih]
    constructor
    · rintro ⟨v, hv, rest, ⟨hlength, hrest⟩, rfl⟩
      exact ⟨by rw [List.length_cons, hlength], List.forall_mem_cons.mpr ⟨hv, hrest⟩⟩
    · rintro ⟨hlength, htuple⟩
      obtain ⟨v, rest, rfl⟩ := List.exists_cons_of_length_eq_add_one hlength
      obtain ⟨hv, hrest⟩ := List.forall_mem_cons.mp htuple
      exact ⟨v, hv, rest, ⟨Nat.succ.inj hlength, hrest⟩, rfl⟩

/-- Entries of the right number make a table. -/
theorem ofEntries_of_size {points inputs outputs : Nat} {entries : Array UInt16}
    (h : entries.size = points.pow inputs * outputs) :
    ofEntries (shapeOf points inputs outputs) entries points inputs outputs
      = .ok { points, inputs, outputs, entries, size_eq := h } := by
  simp [ofEntries, h]

/-- The number of a node whose first coordinate is known. -/
theorem nodeNumber_cons (points i : Nat) (index : List Nat) :
    nodeNumber points ((i :: index).map Int.ofNat)
      = i * points.pow index.length + nodeNumber points (index.map Int.ofNat) := by
  -- the coordinates before a point of the fold only shift what comes after
  have hshift (index : List Nat) (start : Nat) :
      (index.map Int.ofNat).foldl (fun n i => n * points + node points i) start
        = start * points.pow index.length + nodeNumber points (index.map Int.ofNat) := by
    induction index generalizing start with
    | nil => simp [nodeNumber]
    | cons i index ih =>
      simp only [nodeNumber, List.map_cons, List.foldl_cons, List.length_cons]
      rw [ih, ih (0 * points + _), Nat.zero_mul, Nat.zero_add, Nat.add_mul, pow_axes_succ,
        Nat.mul_assoc, Nat.add_assoc]
  have hfirst : 0 * points + node points (Int.ofNat i) = i := by
    have hnonneg : ¬Int.ofNat i < 0 := Int.not_lt.mpr (Int.natCast_nonneg i)
    rw [Nat.zero_mul, Nat.zero_add, node, if_neg hnonneg]
    exact Int.toNat_natCast i
  rw [nodeNumber, List.map_cons, List.foldl_cons, hfirst, hshift]

/-- The node with a number is the one that the number is of. -/
theorem getElem?_tuples {points n : Nat} {index : List Nat} (hlength : index.length = n)
    (hindex : ∀ i ∈ index, i < points) :
    (tuples (List.range points) n)[nodeNumber points (index.map Int.ofNat)]? = some index
      ∧ nodeNumber points (index.map Int.ofNat) < points.pow n := by
  induction index generalizing n with
  | nil =>
    subst hlength
    exact ⟨rfl, by simp [nodeNumber]⟩
  | cons i index ih =>
    subst hlength
    have hi : i < points := hindex i List.mem_cons_self
    obtain ⟨hrest, hbound⟩ := ih rfl fun j hj => hindex j (List.mem_cons_of_mem _ hj)
    rw [nodeNumber_cons]
    constructor
    · have hpieces : ∀ v ∈ List.range points,
          ((tuples (List.range points) index.length).map (v :: ·)).length
            = points.pow index.length := by
        intro v _
        simp
      rw [List.length_cons, tuples, Rows.getElem?_flatMap_of_length hpieces (by simpa using hi)
        hbound, List.getElem_range, List.getElem?_map, hrest]
      rfl
    · calc i * points.pow index.length + nodeNumber points (index.map Int.ofNat)
          < i * points.pow index.length + points.pow index.length := Nat.add_lt_add_left hbound _
        _ = (i + 1) * points.pow index.length := by rw [Nat.succ_mul]
        _ ≤ points * points.pow index.length := Nat.mul_le_mul_right _ hi
        _ = points.pow (i :: index).length := by rw [List.length_cons, pow_axes_succ]

end Recolor.Grid
