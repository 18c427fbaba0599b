import Recolor.Proofs.Marker.Resources

/-!
# The walk over resource blocks

Three lengths in the data move the walk from block to block, and any of them may be wrong. `pass` is
one step of the walk in which to read a number where there are not enough bytes is a fault. No pass
faults, and each ends the walk or moves it by twelve bytes at least, so the walk over data of any
kind ends, after no more passes than there are twelve bytes. Where it ends with a resolution,
`LeadsTo` says which blocks led it there.
-/

set_option autoImplicit false

namespace Recolor.Photoshop

/-! ## One pass -/

/-- The number at an offset, where its bytes must all be there. -/
def fetch (data : Bytes) (offset size : Nat) : Except Fault Nat :=
  match Bytes.numberAt? data offset size with
  | none => .error .blockCut
  | some n => .ok n

/-- What becomes of the walk in one pass. -/
inductive Pass where
  | ends (answer : Option Resolution)
  | continues (next : Nat)
  deriving DecidableEq, Repr

/-- What a pass does behind the head of a block. A density is the whole part of a number with 16
bits behind the point. -/
def passContent (data : Bytes) (head : BlockHead) : Except Fault Pass :=
  if head.kind = 0x03ED ∧ 16 ≤ head.length then
    if data.length < head.start + 12 then .ok (.ends none)
    else do
      let x ← fetch data head.start 4
      let y ← fetch data (head.start + 8) 4
      .ok (.ends (some { x := Int.ofNat (x / 65536), y := Int.ofNat (y / 65536)
                         unit := .perInch }))
  else .ok (.continues (head.start + head.length + head.length % 2))

/-- One pass of the walk, which reads the pieces of a block from its first byte on. -/
def pass (data : Bytes) (i : Nat) : Except Fault Pass :=
  if Bytes.window data i 4 ≠ blockSignature then .ok (.ends none)
  else if data.length < i + 7 then .ok (.ends none)
  else do
    let kind ← fetch data (i + 4) 2
    let name ← fetch data (i + 6) 1
    let place := i + 6 + name + (if name % 2 = 1 then 1 else 2)
    if data.length < place + 4 then .ok (.ends none)
    else do
      let length ← fetch data place 4
      passContent data { kind, length, start := place + 4 }

/-- The walk goes through so many passes from an offset on, none of which faults, and ends with an
answer. -/
inductive Runs (data : Bytes) : Nat → Nat → Option Resolution → Prop
  | leaves {i : Nat} (outside : data.length ≤ i) : Runs data i 0 none
  | ends {i : Nat} {answer : Option Resolution} (inside : i < data.length)
      (last : pass data i = .ok (.ends answer)) : Runs data i 1 answer
  | continues {i next passes : Nat} {answer : Option Resolution} (inside : i < data.length)
      (first : pass data i = .ok (.continues next)) (rest : Runs data next passes answer) :
      Runs data i (passes + 1) answer

/-- A block holds a resolution exactly if its kind says so and its stated length is great enough. -/
theorem hasResolution_iff {head : BlockHead} :
    head.hasResolution = true ↔ head.kind = 0x03ED ∧ 16 ≤ head.length := by
  simp [BlockHead.hasResolution, resolutionKind]

section Passes

variable {data : Bytes} {i : Nat}

/-- A number is fetched where all of its bytes are there. -/
theorem fetch_of_le {offset size : Nat} (h : offset + size ≤ data.length) :
    fetch data offset size = .ok (Bytes.toNat (Bytes.window data offset size)) := by
  rw [fetch, Bytes.numberAt?, if_pos h]

/-- The whole part of a number of four bytes stands in its first two. -/
theorem toNat_window_div {offset : Nat} (h : offset + 4 ≤ data.length) :
    Bytes.toNat (Bytes.window data offset 4) / 65536
      = Bytes.toNat (Bytes.window data offset 2) := by
  have hback := Bytes.toNat_window_lt (by omega : offset + 2 + 2 ≤ data.length)
  rw [← Bytes.window_append_window data offset 2 2, Bytes.toNat_append,
    Bytes.length_window (by omega)]
  omega

/-- Behind a head a pass never faults: it ends with what the resolution reads as, or goes on behind
the block. -/
theorem passContent_eq (data : Bytes) (head : BlockHead) : passContent data head
    = .ok (if head.hasResolution then .ends (readResolution? data head.start)
      else .continues head.next) := by
  rw [passContent]
  by_cases hholds : head.kind = 0x03ED ∧ 16 ≤ head.length
  · rw [if_pos hholds, if_pos (hasResolution_iff.mpr hholds), readResolution?]
    by_cases hroom : head.start + 12 ≤ data.length
    · rw [if_neg (by omega), if_pos hroom, fetch_of_le (by omega), fetch_of_le (by omega)]
      simp only [bind, Except.bind]
      rw [toNat_window_div (by omega), toNat_window_div (by omega)]
      rfl
    · rw [if_pos (by omega), if_neg hroom]
  · rw [if_neg hholds, if_neg (mt hasResolution_iff.mp hholds), BlockHead.next]

/-- Skipping a name and the filling byte leads to the same place as counting the padded name. -/
theorem skipped_eq (i name : Nat) :
    i + 6 + name + (if name % 2 = 1 then 1 else 2) = i + 7 + paddedName name := by
  rw [paddedName]
  split <;> omega

/-- A pass over a block that holds a resolution ends the walk, one over another block goes on behind
it. -/
theorem pass_of_head {head : BlockHead} (h : readHead? data i = some head) :
    pass data i = .ok (if head.hasResolution then .ends (readResolution? data head.start)
      else .continues head.next) := by
  obtain ⟨name, length, hsignature, hroom, hname, hlength, rfl⟩ := readHead?_ok h
  obtain ⟨hend, hnumber⟩ := Bytes.numberAt?_eq_some_iff.mp hlength
  rw [pass, if_neg (not_not.mpr hsignature), if_neg (by omega), fetch_of_le (by omega),
    fetch_of_le (by omega), hname]
  simp only [bind, Except.bind]
  rw [skipped_eq, if_neg (by omega), fetch_of_le hend, hnumber]
  exact passContent_eq data _

/-- A pass where no block has its head ends the walk. -/
theorem pass_of_no_head (h : readHead? data i = none) : pass data i = .ok (.ends none) := by
  rw [pass]
  by_cases hsignature : Bytes.window data i 4 = blockSignature
  · by_cases hroom : i + 7 ≤ data.length
    · have hend : data.length
          < i + 7 + paddedName (Bytes.toNat (Bytes.window data (i + 6) 1)) + 4 := by
        by_contra hlong
        have hlength := Bytes.numberAt?_eq_some_iff.mpr ⟨not_lt.mp hlong, rfl⟩
        simp [readHead?, hsignature, hroom, hlength] at h
      rw [if_neg (not_not.mpr hsignature), if_neg (by omega), fetch_of_le (by omega),
        fetch_of_le (by omega)]
      simp only [bind, Except.bind]
      rw [skipped_eq, if_pos hend]
    · rw [if_neg (not_not.mpr hsignature), if_pos (by omega)]
  · rw [if_pos hsignature]

/-- A block fills twelve bytes at least. -/
theorem add_twelve_le_next {head : BlockHead} (h : readHead? data i = some head) :
    i + 12 ≤ head.next := by
  obtain ⟨name, length, -, -, -, -, rfl⟩ := readHead?_ok h
  have hpadded := paddedName_eq name
  simp only [BlockHead.next]
  omega

/-! ## The whole walk -/

/-- The walk ends, without a fault and with twelve bytes or more for each pass. -/
theorem exists_runs (data : Bytes) (i : Nat) : ∃ passes,
    (passes = 0 ∨ i + 12 * passes < data.length + 12) ∧ Runs data i passes (walk data i) := by
  -- the last pass starts anywhere in the data, so there may be fewer than twelve bytes for it
  induction i using walk.induct data with
  | case1 i hi hhead =>
    refine ⟨1, .inr (by omega), .ends hi ?_⟩
    rw [pass_of_no_head hhead, walk_of_no_head hhead]
  | case2 i hi head hhead hholds =>
    refine ⟨1, .inr (by omega), .ends hi ?_⟩
    rw [pass_of_head hhead, walk_of_head hi hhead, if_pos hholds, if_pos hholds]
  | case3 i hi head hhead hother ih =>
    obtain ⟨passes, hcount, hruns⟩ := ih
    have hfar := add_twelve_le_next hhead
    have hpass : pass data i = .ok (.continues head.next) := by
      rw [pass_of_head hhead, if_neg hother]
    rw [walk_of_head hi hhead, if_neg hother]
    exact ⟨passes + 1, .inr (by omega), .continues hi hpass hruns⟩
  | case4 i hi =>
    refine ⟨0, .inl rfl, ?_⟩
    rw [walk, if_neg hi]
    exact .leaves (not_lt.mp hi)

end Passes

/-! ## Where a resolution stands -/

/-- Blocks stand one behind the other from an offset on, up to the first that is of the kind with a
resolution and states a length of 16 at least; its content starts at another offset. -/
inductive LeadsTo (data : Bytes) : Nat → Nat → Prop
  | here {i : Nat} {head : BlockHead} (stands : IsHead data i head) (kind : head.kind = 0x03ED)
      (length : 16 ≤ head.length) : LeadsTo data i head.start
  | behind {i place : Nat} {head : BlockHead} (stands : IsHead data i head)
      (other : ¬(head.kind = 0x03ED ∧ 16 ≤ head.length))
      (rest : LeadsTo data (head.start + head.length + head.length % 2) place) :
      LeadsTo data i place

/-- The two densities of a resolution in dots per inch stand at an offset and eight bytes behind
it, and there is room for both with their broken parts. -/
structure StatesResolution (data : Bytes) (place : Nat) (r : Resolution) : Prop where
  room : place + 12 ≤ data.length
  x_eq : r.x = Bytes.toNat (Bytes.window data place 2)
  y_eq : r.y = Bytes.toNat (Bytes.window data (place + 8) 2)
  unit_eq : r.unit = .perInch

section Places

variable {data : Bytes} {i : Nat} {head : BlockHead} {r : Resolution}

/-- A resolution is read exactly where the data states it. -/
theorem readResolution?_eq_some_iff {place : Nat} :
    readResolution? data place = some r ↔ StatesResolution data place r := by
  rw [readResolution?]
  constructor
  · intro h
    split at h
    · rename_i hroom
      cases h
      exact ⟨hroom, rfl, rfl, rfl⟩
    · cases h
  · rintro ⟨hroom, hx, hy, hunit⟩
    rw [if_pos hroom, ← hx, ← hy, ← hunit]

/-- A head stands inside the data. -/
theorem IsHead.lt_length (h : IsHead data i head) : i < data.length := by
  obtain ⟨-, -, before, name, filler, rest, rfl, -, -, -, hdata⟩ := h
  have hsize := congrArg List.length hdata
  simp only [List.length_append, length_blockSignature] at hsize
  omega

/-- The walk finds a resolution exactly if blocks lead to it. -/
theorem walk_eq_some_iff :
    walk data i = some r ↔ ∃ place, LeadsTo data i place ∧ StatesResolution data place r := by
  constructor
  · intro h
    induction i using walk.induct data with
    | case1 i hi hhead =>
      rw [walk_of_no_head hhead] at h
      cases h
    | case2 i hi head hhead hholds =>
      rw [walk_of_head hi hhead, if_pos hholds] at h
      obtain ⟨hkind, hlength⟩ := hasResolution_iff.mp hholds
      exact ⟨head.start, .here (readHead?_eq_some_iff.mp hhead) hkind hlength,
        readResolution?_eq_some_iff.mp h⟩
    | case3 i hi head hhead hother ih =>
      rw [walk_of_head hi hhead, if_neg hother] at h
      obtain ⟨place, hleads, hstates⟩ := ih h
      exact ⟨place, .behind (readHead?_eq_some_iff.mp hhead) (mt hasResolution_iff.mpr hother) hleads,
        hstates⟩
    | case4 i hi =>
      rw [walk, if_neg hi] at h
      cases h
  · -- where blocks lead is where the walk goes, by induction on the blocks that are passed
    rintro ⟨place, hleads, hstates⟩
    induction hleads with
    | here hstands hkind hlength =>
      rw [walk_of_head hstands.lt_length (readHead?_eq_some_iff.mpr hstands),
        if_pos (hasResolution_iff.mpr ⟨hkind, hlength⟩)]
      exact readResolution?_eq_some_iff.mpr hstates
    | behind hstands hother _ ih =>
      rw [walk_of_head hstands.lt_length (readHead?_eq_some_iff.mpr hstands),
        if_neg (mt hasResolution_iff.mp hother)]
      exact ih hstates

end Places

/-! ## The first marker with resources -/

/-- A marker 13 that starts with the name of the editor and has more bytes behind it. -/
structure Qualifies (m : Marker) : Prop where
  tag_eq : m.tag = 237
  long : 9 < m.payload.length
  starts : ∃ rest, m.payload = Bytes.ofText "Photoshop" ++ rest

/-- A marker is taken to hold resources exactly if it qualifies. -/
theorem holdsResources_iff {m : Marker} : holdsResources m = true ↔ Qualifies m := by
  have hsize : signature.length = 9 := by decide +kernel
  have htag : Marker.app 13 = 237 := rfl
  have hstarts : m.startsWith signature = true
      ↔ ∃ rest, m.payload = Bytes.ofText "Photoshop" ++ rest := by
    rw [Marker.startsWith, Bytes.startsWith, beq_iff_eq, eq_comm, ← List.prefix_iff_eq_take]
    exact exists_congr fun _ => eq_comm
  simp only [holdsResources, Bool.and_eq_true, beq_iff_eq, decide_eq_true_eq, hstarts, hsize, htag]
  constructor
  · rintro ⟨⟨hm, hlong⟩, hrest⟩
    exact ⟨hm, hlong, hrest⟩
  · rintro ⟨hm, hlong, hrest⟩
    exact ⟨⟨hm, hlong⟩, hrest⟩

/-- A marker is passed over exactly if it does not qualify. -/
theorem not_holdsResources_iff {m : Marker} : (!holdsResources m) = true ↔ ¬Qualifies m := by
  rw [Bool.not_eq_true', ← Bool.not_eq_true, holdsResources_iff]

/-- What the walk over a payload with resources makes of it. -/
structure IsWalked (payload : Bytes) (answer : Option Resolution) : Prop where
  ends : ∃ passes, 12 * passes ≤ payload.length ∧ Runs payload 14 passes answer
  found : ∀ r, answer = some r
    ↔ ∃ place, LeadsTo payload 14 place ∧ StatesResolution payload place r

/-- The walk over any payload ends, and with the resolution that its blocks lead to. -/
theorem isWalked_walk (payload : Bytes) : IsWalked payload (walk payload headerLength) where
  ends := by
    obtain ⟨passes, hcount, hruns⟩ := exists_runs payload headerLength
    refine ⟨passes, ?_, hruns⟩
    rw [headerLength] at hcount
    omega
  found _ := walk_eq_some_iff

/-- A marker that qualifies decides on an answer alone: the walk over its payload ends with the
answer, which other markers do not change unless one in front qualifies too. -/
structure Decides (m : Marker) (answer : Option Resolution) : Prop where
  qualifies : Qualifies m
  walked : IsWalked m.payload answer
  alone : ∀ before after : List Marker, (∀ n ∈ before, ¬Qualifies n) →
    resolution? (before ++ m :: after) = answer

/-- The first marker that qualifies decides on the answer. -/
theorem resolution?_of_first {m : Marker} (h : Qualifies m) {before : List Marker}
    (hbefore : ∀ n ∈ before, ¬Qualifies n) (after : List Marker) :
    resolution? (before ++ m :: after) = walk m.payload headerLength := by
  have hfind : (before ++ m :: after).find? holdsResources = some m :=
    List.find?_eq_some_iff_append.mpr ⟨holdsResources_iff.mpr h, before, after, rfl,
      fun n hn => not_holdsResources_iff.mpr (hbefore n hn)⟩
  rw [resolution?, hfind]

/-- The resolution of an image is decided by the first marker that qualifies, and by it alone. -/
theorem resolution?_decided (markers : List Marker) :
    ((∀ m ∈ markers, ¬Qualifies m) ∧ resolution? markers = none)
      ∨ ∃ before m after, markers = before ++ m :: after ∧ (∀ n ∈ before, ¬Qualifies n)
        ∧ Decides m (resolution? markers) := by
  cases hfind : markers.find? holdsResources with
  | none =>
    refine .inl ⟨fun m hm => ?_, by rw [resolution?, hfind]⟩
    exact mt holdsResources_iff.mpr (List.find?_eq_none.mp hfind m hm)
  | some m =>
    obtain ⟨hm, before, after, rfl, hnone⟩ := List.find?_eq_some_iff_append.mp hfind
    have hqualifies : Qualifies m := holdsResources_iff.mp hm
    have hbefore : ∀ n ∈ before, ¬Qualifies n := fun n hn =>
      not_holdsResources_iff.mp (hnone n hn)
    have hanswer := resolution?_of_first hqualifies hbefore after
    refine .inr ⟨before, m, after, rfl, hbefore, hqualifies, ?_, fun before' after' hbefore' => ?_⟩
    · rw [hanswer]
      exact isWalked_walk m.payload
    · rw [hanswer]
      exact resolution?_of_first hqualifies hbefore' after'

/-- The name of the editor alone, then a block of another kind in front of the one that counts. -/
theorem resolution?_decided_second :
    let payload : Bytes := Bytes.ofText "Photoshop 3.0" ++ (0 :: Bytes.ofText "8BIM"
      ++ ([4, 4, 0, 0, 0, 0, 0, 1, 9, 9] ++ (Bytes.ofText "8BIM"
        ++ [3, 237, 0, 0, 0, 0, 0, 16, 1, 44, 128, 0, 0, 1, 0, 1, 0, 96, 255, 255, 0, 1])))
    let markers : List Marker := [⟨237, Bytes.ofText "Photoshop"⟩, ⟨237, payload⟩]
    ∃ m ∈ markers, Decides m (some { x := 300, y := 96, unit := .perInch }) := by
  intro payload markers
  have hanswer : resolution? markers = some { x := 300, y := 96, unit := .perInch } := by
    decide +kernel
  obtain ⟨-, hnone⟩ | ⟨before, m, after, hmarkers, -, hdecides⟩ := resolution?_decided markers
  · rw [hanswer] at hnone
    cases hnone
  · rw [hanswer] at hdecides
    exact ⟨m, hmarkers ▸ List.mem_append_right before List.mem_cons_self, hdecides⟩

end Recolor.Photoshop
