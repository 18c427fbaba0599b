import Mathlib.Data.List.Basic
import Recolor.Jpeg.Writer
import Recolor.Proofs.Files.Bytes

/-!
# Markers in segments

Nothing separates the segments of several markers but the length that each one states, and a
payload may hold anything, the bytes of a segment included. Read one after another, each segment
tells where it ends. Reading is compared with writing in both directions, for one segment and then
for all: data is the segments of one list of markers, the one that is read from it, or of none. So
what the encoder is handed besides the picture says which markers the picture is to carry.
-/

set_option autoImplicit false

namespace Recolor

namespace Marker

/-- A tag that fits a byte, and a payload whose length fits two bytes together with the two. -/
structure HasSegment (m : Marker) : Prop where
  low : 0 ≤ m.tag
  high : m.tag ≤ 255
  short : m.payload.length ≤ 65533

instance (m : Marker) : Decidable m.HasSegment :=
  decidable_of_iff (0 ≤ m.tag ∧ m.tag ≤ 255 ∧ m.payload.length ≤ 65533)
    ⟨fun ⟨low, high, short⟩ => ⟨low, high, short⟩, fun h => ⟨h.low, h.high, h.short⟩⟩

/-- The bytes of a segment. -/
def segment (m : Marker) : Bytes :=
  255 :: UInt8.ofNat m.tag.toNat :: (Bytes.ofNat 2 (m.payload.length + 2) ++ m.payload)

/-- A marker is written exactly if it fits a segment, and then as that segment. -/
theorem toSegment_ok_iff {m : Marker} {data : Bytes} :
    m.toSegment = .ok data ↔ m.HasSegment ∧ data = m.segment := by
  unfold toSegment
  split
  case isTrue htag =>
    have hnone : ¬ m.HasSegment := fun h => by
      have := h.low
      have := h.high
      omega
    simp [hnone]
  case isFalse htag =>
    split
    case isTrue hlong =>
      have hnone : ¬ m.HasSegment := fun h => Nat.not_lt.mpr h.short hlong
      simp [hnone]
    case isFalse hshort =>
      have hsegment : m.HasSegment := ⟨by omega, by omega, Nat.not_lt.mp hshort⟩
      simp [hsegment, segment, eq_comm]

/-- A marker is refused exactly if it fits no segment. -/
theorem exists_toSegment_error_iff {m : Marker} :
    (∃ f, m.toSegment = .error f) ↔ ¬ m.HasSegment := by
  constructor
  · rintro ⟨f, hf⟩ h
    rw [toSegment_ok_iff.mpr ⟨h, rfl⟩] at hf
    cases hf
  · intro h
    cases hm : m.toSegment with
    | error f => exact ⟨f, rfl⟩
    | ok data => exact absurd (toSegment_ok_iff.mp hm).1 h

/-- Markers are written exactly if each fits a segment, one segment behind the other. -/
theorem toSegments_ok_iff {ms : List Marker} {data : Bytes} :
    toSegments ms = .ok data ↔ (∀ m ∈ ms, m.HasSegment) ∧ data = ms.flatMap segment := by
  induction ms generalizing data with
  | nil => simp [toSegments, eq_comm]
  | cons m ms ih =>
    rw [toSegments, List.forall_mem_cons, List.flatMap_cons]
    cases hm : m.toSegment with
    | error e =>
      have hnone : ¬ m.HasSegment := exists_toSegment_error_iff.mp ⟨e, hm⟩
      simp [hnone]
    | ok first =>
      obtain ⟨hsegment, rfl⟩ := toSegment_ok_iff.mp hm
      cases hms : toSegments ms with
      | error e =>
        have hnone : ¬ ∀ m ∈ ms, m.HasSegment := fun hall => by
          rw [ih.mpr ⟨hall, rfl⟩] at hms
          cases hms
        simp [hnone]
      | ok rest =>
        obtain ⟨hall, rfl⟩ := ih.mp hms
        simp only [Except.ok.injEq, and_iff_right (And.intro hsegment hall)]
        exact eq_comm

/-! ## Reading -/

/-- The marker of the segment that data starts with, and what stands behind the segment. The length
that the segment states counts its own two bytes. -/
def readSegment? : Bytes → Option (Marker × Bytes)
  | first :: tag :: high :: low :: rest =>
    let length := Bytes.toNat [high, low]
    if first = 255 ∧ 2 ≤ length ∧ length - 2 ≤ rest.length then
      some ({ tag := tag.toNat, payload := rest.take (length - 2) }, rest.drop (length - 2))
    else none
  | _ => none

/-- What is read from data that starts with a segment, and only from such data. -/
theorem readSegment?_eq_some_iff {data rest : Bytes} {m : Marker} :
    readSegment? data = some (m, rest) ↔ m.HasSegment ∧ data = m.segment ++ rest := by
  constructor
  · intro h
    match data with
    | [] | [_] | [_, _] | [_, _, _] => simp [readSegment?] at h
    | first :: tag :: high :: low :: behind =>
      simp only [readSegment?, Option.ite_none_right_eq_some, Option.some.injEq,
        Prod.mk.injEq] at h
      obtain ⟨⟨rfl, hcounted, hroom⟩, rfl, rfl⟩ := h
      have hlength : Bytes.toNat [high, low] < 256 ^ 2 := Bytes.toNat_lt [high, low]
      have htag := tag.toNat_lt
      have htaken : (behind.take (Bytes.toNat [high, low] - 2)).length
          = Bytes.toNat [high, low] - 2 := by
        rw [List.length_take, Nat.min_eq_left hroom]
      have hstated : Bytes.ofNat 2 (Bytes.toNat [high, low] - 2 + 2) = [high, low] := by
        rw [Nat.sub_add_cancel hcounted]
        exact Bytes.ofNat_toNat [high, low]
      refine ⟨⟨by simp, by simp; omega, by rw [htaken]; omega⟩, ?_⟩
      simp only [segment, htaken, hstated, Int.toNat_natCast, UInt8.ofNat_toNat,
        List.cons_append, List.nil_append, List.take_append_drop]
  · rintro ⟨h, rfl⟩
    have hshort := h.short
    have hdigits : Bytes.toNat (Bytes.ofNat 2 (m.payload.length + 2)) = m.payload.length + 2 :=
      Bytes.toNat_ofNat (by simp; omega)
    obtain ⟨high, low, hstated⟩ := List.length_eq_two.mp
      (Bytes.length_ofNat 2 (m.payload.length + 2))
    rw [hstated] at hdigits
    have htag : ((UInt8.ofNat m.tag.toNat).toNat : Int) = m.tag := by
      have := h.low
      have := h.high
      rw [UInt8.toNat_ofNat']
      omega
    have hread : readSegment? (m.segment ++ rest)
        = some ({ tag := (UInt8.ofNat m.tag.toNat).toNat, payload := m.payload }, rest) := by
      simp [readSegment?, segment, hstated, hdigits]
    rw [hread, htag]

/-- What stands behind a segment is shorter. -/
theorem length_of_readSegment? {data rest : Bytes} {m : Marker}
    (h : readSegment? data = some (m, rest)) : rest.length < data.length := by
  obtain ⟨-, rfl⟩ := readSegment?_eq_some_iff.mp h
  simp [segment]
  omega

/-- The markers of the segments that data consists of. -/
def readSegments? (data : Bytes) : Option (List Marker) :=
  if data.isEmpty then some []
  else
    match _hread : readSegment? data with
    | none => none
    | some (m, rest) => (readSegments? rest).map (m :: ·)
termination_by data.length
decreasing_by exact length_of_readSegment? _hread

/-- The marker of a segment is read before those of what stands behind it. -/
theorem readSegments?_segment_append {m : Marker} (h : m.HasSegment) (rest : Bytes) :
    readSegments? (m.segment ++ rest) = (readSegments? rest).map (m :: ·) := by
  have hread : readSegment? (m.segment ++ rest) = some (m, rest) :=
    readSegment?_eq_some_iff.mpr ⟨h, rfl⟩
  have hsome : (m.segment ++ rest).isEmpty = false := by simp [segment]
  rw [readSegments?, hsome]
  split
  case isTrue hnone => simp at hnone
  case isFalse =>
    split
    case h_1 hnone => simp [hread] at hnone
    case h_2 m' rest' hsome =>
      rw [hread, Option.some.injEq, Prod.mk.injEq] at hsome
      rw [hsome.1, hsome.2]

/-- Reading accepts exactly what writing produces. -/
theorem readSegments?_eq_some_iff {data : Bytes} {ms : List Marker} :
    readSegments? data = some ms ↔ toSegments ms = .ok data := by
  rw [toSegments_ok_iff]
  constructor
  · -- The data that is left to read gets shorter by a segment in each round.
    intro h
    fun_induction readSegments? data generalizing ms with
    | case1 data hempty =>
      obtain rfl : data = [] := List.isEmpty_iff.mp hempty
      simp_all
    | case2 data hsome hnone => simp at h
    | case3 data hsome m rest hread ih =>
      obtain ⟨ms, hms, rfl⟩ := Option.map_eq_some_iff.mp h
      obtain ⟨hm, rfl⟩ := readSegment?_eq_some_iff.mp hread
      obtain ⟨hall, rfl⟩ := ih hms
      exact ⟨List.forall_mem_cons.mpr ⟨hm, hall⟩, rfl⟩
  · rintro ⟨hall, rfl⟩
    induction ms with
    | nil => simp [readSegments?]
    | cons m ms ih =>
      obtain ⟨hm, hms⟩ := List.forall_mem_cons.mp hall
      rw [List.flatMap_cons, readSegments?_segment_append hm, ih hms]
      rfl

/-- Markers with the same segments are the same markers. -/
theorem toSegments_injective {ms ms' : List Marker} {segments : Bytes}
    (h : toSegments ms = .ok segments) (h' : toSegments ms' = .ok segments) : ms = ms' := by
  rw [← readSegments?_eq_some_iff] at h h'
  exact Option.some.inj (h.symm.trans h')

end Marker

/-- What a writer hands over besides the picture is the segments of its markers. -/
theorem Writer.extra_of_saveOptions {w : Writer} {options : SaveOptions}
    (h : w.saveOptions = .ok options) :
    Marker.toSegments w.markers = .ok (options.extra.getD []) := by
  unfold saveOptions at h
  split at h
  · simp at h
  · split at h
    · simp at h
    · rename_i segments hsegments
      simp only [Except.ok.injEq] at h
      subst h
      rw [hsegments]
      cases hmarkers : w.markers with
      | nil =>
        rw [hmarkers, Marker.toSegments, Except.ok.injEq] at hsegments
        simp [← hsegments]
      | cons m rest => simp

/-- Nothing extra is written exactly if there are no markers. -/
theorem Writer.extra_eq_none_iff {w : Writer} {options : SaveOptions}
    (h : w.saveOptions = .ok options) :
    options.extra = none ↔ w.markers = [] := by
  unfold saveOptions at h
  split at h
  case h_1 => cases h
  case h_2 =>
    split at h
    case h_1 => cases h
    case h_2 =>
      cases h
      simp

/-- Whether a picture that is handed to the encoder is to carry a fax marker. -/
def EncodeJob.CarriesFax (job : EncodeJob) : Prop :=
  ∃ markers segments, job.options.extra = some segments ∧ Marker.toSegments markers = .ok segments
    ∧ Marker.identifyFax markers = true

/-- The picture of a writer is to carry a fax marker exactly if the writer's markers identify a
fax image. -/
theorem Writer.carriesFax_job {w : Writer} {options : SaveOptions}
    (h : w.saveOptions = .ok options) :
    (w.job options).CarriesFax ↔ Marker.identifyFax w.markers = true := by
  have hextra := extra_of_saveOptions h
  constructor
  · rintro ⟨markers, segments, hsegments, hmarkers, hfax⟩
    have hsegments : options.extra = some segments := hsegments
    rw [hsegments, Option.getD_some] at hextra
    rwa [← Marker.toSegments_injective hmarkers hextra]
  · intro hfax
    have hsome : options.extra ≠ none := fun hnone => by
      rw [(extra_eq_none_iff h).mp hnone] at hfax
      simp [Marker.identifyFax] at hfax
    obtain ⟨segments, hsegments⟩ := Option.ne_none_iff_exists'.mp hsome
    rw [hsegments, Option.getD_some] at hextra
    exact ⟨w.markers, segments, hsegments, hextra, hfax⟩

end Recolor
