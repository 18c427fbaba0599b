import Recolor.Proofs.Marker.BlockHead

/-!
# The resolution among resources

An editor writes its resources as blocks, one behind the other, and two rules of padding decide
where a block ends: one for its name, one for its content. `Resource.block` lays a resource out by
these rules. Reading inverts that: the walk goes from block to block as they were written and ends
at the first resource that holds a resolution, whatever stands behind it.
-/

set_option autoImplicit false

namespace Recolor.Photoshop

/-- A resource, and the bytes that fill up a name and a content of an odd number of bytes. -/
structure Resource where
  kind : UInt16
  name : Bytes
  content : Bytes
  nameFill : UInt8 := 0
  contentFill : UInt8 := 0
  name_lt : name.length < 256
  content_lt : content.length < Nat.pow 256 4

/-- Data filled up to an even number of bytes. -/
def padded (fill : UInt8) (data : Bytes) : Bytes :=
  if data.length % 2 = 0 then data else data ++ [fill]

namespace Resource

/-- What stands in front of the length of the content. -/
def front (r : Resource) : Bytes :=
  blockSignature ++ (Bytes.ofNat 2 r.kind.toNat
    ++ padded r.nameFill (Bytes.ofNat 1 r.name.length ++ r.name))

/-- The block of a resource. -/
def block (r : Resource) : Bytes :=
  r.front ++ (Bytes.ofNat 4 r.content.length ++ padded r.contentFill r.content)

/-- Whether a resource holds a resolution. -/
def holdsResolution (r : Resource) : Bool :=
  r.kind.toNat == 0x03ED && 16 ≤ r.content.length

/-- The resolution that a content states: the whole parts of its two densities. -/
def resolution (r : Resource) : Resolution where
  x := Bytes.toNat (r.content.take 2)
  y := Bytes.toNat ((r.content.drop 8).take 2)
  unit := .perInch

end Resource

/-! ## Lengths of pieces -/

/-- Data is filled up to an even length by at most one byte behind it. -/
theorem padded_eq_append (fill : UInt8) (data : Bytes) :
    ∃ filler : Bytes, filler.length = data.length % 2 ∧ padded fill data = data ++ filler := by
  unfold padded
  split
  · rename_i heven
    exact ⟨[], heven.symm, (List.append_nil data).symm⟩
  · rename_i hodd
    refine ⟨[fill], ?_, rfl⟩
    rw [List.length_singleton]
    omega

/-- Data that is filled up has an even length. -/
@[simp] theorem length_padded (fill : UInt8) (data : Bytes) :
    (padded fill data).length = data.length + data.length % 2 := by
  obtain ⟨filler, hfiller, heq⟩ := padded_eq_append fill data
  rw [heq, List.length_append, hfiller]

namespace Resource

/-- A block has the bytes of its front, of its length, of its content and of the filling. -/
theorem length_block (r : Resource) :
    r.block.length = r.front.length + 4 + r.content.length + r.content.length % 2 := by
  simp only [block, List.length_append, length_padded, Bytes.length_ofNat]
  omega

/-! ## One block -/

section Block

variable (r : Resource) (before behind : Bytes)

/-- Where the content starts whose block stands behind other data. -/
def start : Nat :=
  before.length + r.front.length + 4

/-- The head of a block is laid out wherever the block stands. -/
theorem isHead_block : IsHead (before ++ (r.block ++ behind)) before.length
    ⟨r.kind.toNat, r.content.length, r.start before⟩ := by
  obtain ⟨filler, hfiller, hpadded⟩ :=
    padded_eq_append r.nameFill (Bytes.ofNat 1 r.name.length ++ r.name)
  rw [List.length_append, Bytes.length_ofNat] at hfiller
  refine ⟨r.kind.toNat_lt, r.content_lt, before, r.name, filler,
    padded r.contentFill r.content ++ behind, rfl, r.name_lt, hfiller, ?_, ?_⟩
  · simp only [start, block, List.length_append, Bytes.length_ofNat]
    omega
  · rw [block, front, hpadded]
    simp only [List.append_assoc]

/-- The head of a block is read wherever the block stands. -/
theorem readHead?_block : readHead? (before ++ (r.block ++ behind)) before.length
    = some ⟨r.kind.toNat, r.content.length, r.start before⟩ :=
  readHead?_of_isHead (r.isHead_block before behind)

/-- A content is found where it starts. -/
theorem window_content {i size : Nat} (h : i + size ≤ r.content.length) :
    Bytes.window (before ++ (r.block ++ behind)) (r.start before + i) size
      = (r.content.drop i).take size := by
  obtain ⟨filler, -, hpadded⟩ := padded_eq_append r.contentFill r.content
  have hpieces : before ++ (r.block ++ behind)
      = (before ++ r.front ++ Bytes.ofNat 4 r.content.length)
        ++ (r.content ++ (filler ++ behind)) := by
    rw [block, hpadded]
    simp only [List.append_assoc]
  have hstart : (before ++ r.front ++ Bytes.ofNat 4 r.content.length).length = r.start before := by
    simp only [start, List.length_append, Bytes.length_ofNat]
  rw [hpieces, Bytes.window, ← List.drop_drop, List.drop_left' hstart,
    List.drop_append_of_le_length (by omega),
    List.take_append_of_le_length (by rw [List.length_drop]; omega)]

/-- The resolution of a content is read where the content starts. -/
theorem readResolution?_block (h : r.holdsResolution = true) :
    readResolution? (before ++ (r.block ++ behind)) (r.start before) = some r.resolution := by
  have hlength : 16 ≤ r.content.length := by
    simp only [holdsResolution, Bool.and_eq_true, decide_eq_true_eq] at h
    exact h.2
  have hroom : r.start before + 12 ≤ (before ++ (r.block ++ behind)).length := by
    rw [List.length_append, List.length_append, length_block, start]
    omega
  have hx := r.window_content before behind (by omega : 0 + 2 ≤ r.content.length)
  have hy := r.window_content before behind (by omega : 8 + 2 ≤ r.content.length)
  rw [Nat.add_zero, List.drop_zero] at hx
  rw [readResolution?, if_pos hroom, hx, hy]
  rfl

end Block

end Resource

/-! ## All blocks -/

/-- Where a head stands, the walk reads the resolution or goes on behind the block. -/
theorem walk_of_head {data : Bytes} {i : Nat} {head : BlockHead} (hi : i < data.length)
    (h : readHead? data i = some head) : walk data i
      = if head.hasResolution then readResolution? data head.start else walk data head.next := by
  rw [walk, if_pos hi]
  split
  · rename_i hnone
    rw [h] at hnone
    cases hnone
  · rename_i other hother
    rw [h] at hother
    cases hother
    rfl

/-- Where no head stands, the walk ends without an answer. -/
theorem walk_of_no_head {data : Bytes} {i : Nat} (h : readHead? data i = none) :
    walk data i = none := by
  rw [walk]
  split
  · split
    · rfl
    · rename_i head hhead
      rw [h] at hhead
      cases hhead
  · rfl

/-- The walk over blocks finds the first resource that holds a resolution. -/
theorem walk_blocks (resources : List Resource) (before : Bytes) {rest : Bytes}
    (hrest : Bytes.startsWith rest blockSignature = false) :
    walk (before ++ (resources.flatMap Resource.block ++ rest)) before.length
      = (resources.find? Resource.holdsResolution).map Resource.resolution := by
  induction resources generalizing before with
  | nil =>
    have hwindow : Bytes.window (before ++ rest) before.length 4 = rest.take 4 := by
      rw [Bytes.window, List.drop_left]
    have hother : (rest.take 4 == blockSignature) = false := by
      rw [← hrest, Bytes.startsWith, length_blockSignature]
    have hhead : readHead? (before ++ rest) before.length = none := by
      rw [readHead?, hwindow, hother, Bool.false_and, if_neg Bool.false_ne_true]
    rw [List.flatMap_nil, List.nil_append, List.find?_nil, Option.map_none]
    exact walk_of_no_head hhead
  | cons r resources ih =>
    have hdata : before ++ ((r :: resources).flatMap Resource.block ++ rest)
        = before ++ (r.block ++ (resources.flatMap Resource.block ++ rest)) := by
      rw [List.flatMap_cons, List.append_assoc]
    have hroom : before.length
        < (before ++ (r.block ++ (resources.flatMap Resource.block ++ rest))).length := by
      rw [List.length_append, List.length_append, r.length_block]
      omega
    rw [hdata, walk_of_head hroom (r.readHead?_block before _)]
    by_cases hholds : r.holdsResolution = true
    · have hhead : (BlockHead.mk r.kind.toNat r.content.length (r.start before)).hasResolution
          = true := hholds
      rw [if_pos hhead, r.readResolution?_block before _ hholds, List.find?_cons_of_pos hholds,
        Option.map_some]
    · have hhead : ¬(BlockHead.mk r.kind.toNat r.content.length (r.start before)).hasResolution
          = true := hholds
      -- the next block starts where this one ends, so the walk goes on behind a longer front
      have hnext : (BlockHead.mk r.kind.toNat r.content.length (r.start before)).next
          = (before ++ r.block).length := by
        rw [List.length_append, r.length_block]
        simp only [BlockHead.next, Resource.start]
        omega
      rw [if_neg hhead, hnext, ← List.append_assoc, ih (before ++ r.block),
        List.find?_cons_of_neg hholds]

/-- The resolution of an image is that of the first resource, among those in the first marker with
resources, that holds one. -/
theorem resolution?_of_blocks {header rest : Bytes} {before : List Marker}
    (hlength : header.length = headerLength)
    (hsignature : Bytes.startsWith header signature = true)
    (hrest : Bytes.startsWith rest blockSignature = false)
    (hbefore : ∀ m ∈ before, holdsResources m = false)
    (resources : List Resource) (after : List Marker) :
    resolution? (before ++ { tag := Marker.app 13
                             payload := header ++ (resources.flatMap Resource.block ++ rest) }
        :: after)
      = (resources.find? Resource.holdsResolution).map Resource.resolution := by
  have hmarker : holdsResources { tag := Marker.app 13
                                  payload := header ++ (resources.flatMap Resource.block ++ rest) }
      = true := by
    have hsize : signature.length = 9 := by decide +kernel
    have hlong : signature.length
        < (header ++ (resources.flatMap Resource.block ++ rest)).length := by
      rw [hsize, List.length_append, hlength, headerLength]
      omega
    have hstarts : Bytes.startsWith (header ++ (resources.flatMap Resource.block ++ rest)) signature
        = true := by
      rw [Bytes.startsWith, List.take_append_of_le_length]
      · exact hsignature
      · rw [hsize, hlength, headerLength]
        omega
    simp only [holdsResources, Marker.startsWith, hlong, hstarts, beq_self_eq_true, decide_true,
      Bool.and_self]
  have hfind : (before ++ { tag := Marker.app 13
                            payload := header ++ (resources.flatMap Resource.block ++ rest) }
      :: after).find? holdsResources
      = some { tag := Marker.app 13
               payload := header ++ (resources.flatMap Resource.block ++ rest) } := by
    rw [List.find?_append, List.find?_eq_none.mpr fun m hm => by simp [hbefore m hm],
      Option.none_or, List.find?_cons_of_pos hmarker]
  rw [resolution?, hfind, ← hlength]
  exact walk_blocks resources header hrest

/-- A name of even and one of odd length, and a resource too short for a resolution in front of the
one that holds it. -/
theorem resolution?_three_blocks :
    let resources : List Resource :=
      [{ kind := 0x0404, name := [], content := Bytes.ofText "abcde", contentFill := 7
         name_lt := by decide, content_lt := by decide +kernel },
       { kind := 0x03ED, name := Bytes.ofText "ab", content := [0, 72, 0, 0, 0, 1, 0, 1]
         name_lt := by decide +kernel, content_lt := by decide +kernel },
       { kind := 0x03ED, name := Bytes.ofText "res"
         content := [1, 44, 128, 0, 0, 1, 0, 1, 0, 96, 255, 255, 0, 1, 0, 1]
         name_lt := by decide +kernel, content_lt := by decide +kernel }]
    resolution? ([⟨Marker.app 13, Bytes.ofText "Adobe_CM"⟩] ++
        ⟨Marker.app 13, Bytes.ofText "Photoshop 3.0" ++ [0]
          ++ (resources.flatMap Resource.block ++ Bytes.ofText "8BI")⟩ :: [])
      = some { x := 300, y := 96, unit := .perInch } := by
  intro resources
  rw [resolution?_of_blocks (by decide +kernel) (by decide +kernel) (by decide +kernel)
    (by decide +kernel) resources []]
  decide +kernel

end Recolor.Photoshop
