import Recolor.Rows.Layout
import Recolor.Transform.Basic

/-!
# Rows, pixels and room

Where a row is cut, or rows of equal length are strung together, each piece stands where its
number says. Room is filled exactly by a row of its size; only a single sample also fills other
room. What a transform makes of a row, its image, depends on the row alone and has a length that
depends on the row's length alone. So room that images of equal rows are laid over keeps the
same rest for ever, and a row that is laid over it comes out as if the room were fresh.
-/

set_option autoImplicit false

namespace Recolor

namespace Rows

variable {α : Type}

/-- Cutting gives as many pieces as are asked for. -/
@[simp] theorem length_cut (length count : Nat) (row : List α) :
    (cut length count row).length = count := by
  induction count generalizing row with
  | zero => rfl
  | succ count ih => simp [cut, ih]

/-- The piece with a number starts behind as many pieces. -/
theorem getD_cut (length count : Nat) (row : List α) {i : Nat} (hi : i < count) :
    (cut length count row).getD i [] = (row.drop (i * length)).take length := by
  induction count generalizing row i with
  | zero => omega
  | succ count ih =>
    cases i with
    | zero => simp [cut]
    | succ i =>
      rw [cut, List.getD_cons_succ, ih (row.drop length) (by omega), List.drop_drop]
      congr 2
      rw [Nat.succ_mul, Nat.add_comm]

/-- Pieces that fit into the row are all of the same length. -/
theorem length_of_mem_cut {length count : Nat} {row piece : List α}
    (h : count * length ≤ row.length) (hp : piece ∈ cut length count row) :
    piece.length = length := by
  induction count generalizing row with
  | zero => simp [cut] at hp
  | succ count ih =>
    rw [Nat.succ_mul] at h
    rw [cut, List.mem_cons] at hp
    rcases hp with rfl | hp
    · rw [List.length_take]
      omega
    · exact ih (by rw [List.length_drop]; omega) hp

/-- Rows of equal length have that many times their number of samples in all. -/
theorem length_flatten_of_length {n : Nat} {rows : List (List α)}
    (h : ∀ row ∈ rows, row.length = n) : rows.flatten.length = rows.length * n := by
  induction rows with
  | nil => simp
  | cons row rest ih =>
    rw [List.flatten_cons, List.length_append, h row List.mem_cons_self,
      ih fun r hr => h r (List.mem_cons_of_mem _ hr), List.length_cons, Nat.succ_mul, Nat.add_comm]

/-- Of rows of equal length strung together each stands where its number says. -/
theorem take_drop_flatten {n : Nat} {rows : List (List α)} (h : ∀ row ∈ rows, row.length = n)
    {i : Nat} (hi : i < rows.length) :
    (rows.flatten.drop (i * n)).take n = rows.getD i [] := by
  induction rows generalizing i with
  | nil => simp at hi
  | cons row rest ih =>
    have hrow : row.length = n := h row List.mem_cons_self
    cases i with
    | zero => rw [Nat.zero_mul, List.drop_zero, List.flatten_cons, ← hrow, List.take_left]; simp
    | succ i =>
      rw [Nat.succ_mul, Nat.add_comm, ← List.drop_drop, List.flatten_cons, ← hrow, List.drop_left,
        hrow, List.getD_cons_succ]
      exact ih (fun r hr => h r (List.mem_cons_of_mem _ hr)) (by simpa using hi)

/-- Rows of equal length are cut out again of the row that they are strung together to. -/
theorem cut_flatten_append {n : Nat} {rows : List (List α)} (h : ∀ row ∈ rows, row.length = n)
    (rest : List α) : cut n rows.length (rows.flatten ++ rest) = rows := by
  induction rows with
  | nil => rfl
  | cons row rows ih =>
    have hrow : row.length = n := h row List.mem_cons_self
    rw [List.length_cons, cut, List.flatten_cons, List.append_assoc, List.take_left' hrow,
      List.drop_left' hrow, ih fun r hr => h r (List.mem_cons_of_mem _ hr)]

/-- Pieces of equal length have that many times their number of samples in all. -/
theorem length_flatMap_of_length {β : Type} {n : Nat} {items : List β} {piece : β → List α}
    (h : ∀ b ∈ items, (piece b).length = n) : (items.flatMap piece).length = items.length * n := by
  rw [List.flatMap, length_flatten_of_length (by simpa using h), List.length_map]

/-- Of pieces of equal length each stands where its number says. -/
theorem getElem?_flatMap_of_length {β : Type} {n : Nat} {items : List β} {piece : β → List α}
    (h : ∀ b ∈ items, (piece b).length = n) {i j : Nat} (hi : i < items.length) (hj : j < n) :
    (items.flatMap piece)[i * n + j]? = (piece items[i])[j]? := by
  induction items generalizing i with
  | nil => simp at hi
  | cons b items ih =>
    have hb : (piece b).length = n := h b List.mem_cons_self
    rw [List.flatMap_cons]
    cases i with
    | zero =>
      rw [Nat.zero_mul, Nat.zero_add, List.getElem?_append_left (by rw [hb]; exact hj)]
      rfl
    | succ i =>
      have hplace : (i + 1) * n + j - n = i * n + j := by
        rw [Nat.succ_mul]
        omega
      rw [List.getElem?_append_right (by rw [hb, Nat.succ_mul]; omega), hb, hplace,
        ih (fun c hc => h c (List.mem_cons_of_mem _ hc)) (by simpa using hi)]
      rfl

/-- A row of the size of the room fills it as it is. -/
theorem fill_of_length {row : List α} {size : Nat} (h : row.length = size) :
    fill row size = .ok row := by
  simp [fill, h]

/-- Room that is filled has its size. -/
theorem length_of_fill {row out : List α} {size : Nat} (h : fill row size = .ok out) :
    out.length = size := by
  unfold fill at h
  split at h
  · simp only [Except.ok.injEq] at h
    rwa [← h]
  · split at h
    · simp only [Except.ok.injEq] at h
      rw [← h, List.length_replicate]
    · simp at h

/-- A row that is laid over room leaves the room's size. -/
theorem length_of_overlay {row room out : List α} (h : overlay row room = .ok out) :
    out.length = room.length := by
  unfold overlay at h
  split at h
  · simp only [Except.ok.injEq] at h
    rw [← h, List.length_append, List.length_drop]
    omega
  · split at h
    · simp only [Except.ok.injEq] at h
      rw [h]
    · simp at h

/-- A row of the size of the room replaces all of it. -/
theorem overlay_of_length {row room : List α} (h : row.length = room.length) :
    overlay row room = .ok row := by
  simp [overlay, h]

/-- Behind the row that is laid over it room keeps what it held. -/
theorem drop_of_overlay {row room out : List α} (h : overlay row room = .ok out) :
    out.drop row.length = room.drop row.length := by
  unfold overlay at h
  split at h
  · simp only [Except.ok.injEq] at h
    rw [← h, List.drop_left]
  · split at h
    · simp only [Except.ok.injEq] at h
      rw [h]
    · simp at h

/-- Rooms of one size that agree behind a row take it up alike. -/
theorem overlay_congr {row room other : List α} (hlength : room.length = other.length)
    (hrest : room.drop row.length = other.drop row.length) :
    overlay row room = overlay row other := by
  unfold overlay
  rw [hlength, hrest]
  split
  · rfl
  · -- a row longer than the room leaves nothing of it
    split
    · have hroom : other.length < row.length := by omega
      rename_i hone
      rw [hone, Nat.lt_one_iff] at hroom
      rw [List.eq_nil_of_length_eq_zero hroom,
        List.eq_nil_of_length_eq_zero (hlength.trans hroom)]
    · rfl

/-- There is no room for rows of a negative number or length. -/
theorem nonneg_of_checkRoom {count length : Int} (h : checkRoom count length = .ok ()) :
    0 ≤ count ∧ 0 ≤ length := by
  unfold checkRoom at h
  split at h
  · cases h
  · rename_i hsizes
    omega

/-- The complement has as many samples as the row. -/
@[simp] theorem length_invert (row : List UInt8) : (invert row).length = row.length := by
  simp [invert]

/-- The complement of the complement is the row. -/
@[simp] theorem invert_invert (row : List UInt8) : invert (invert row) = row := by
  have twice : (fun x : UInt8 => 255 - x) ∘ (fun x => 255 - x) = id := by
    funext x
    show 255 - (255 - x) = x
    grind
  rw [invert, invert, List.map_map, twice, List.map_id]

/-- A piece of the complement is the complement of the piece. -/
theorem take_drop_invert (row : List UInt8) (i n : Nat) :
    ((invert row).drop i).take n = invert ((row.drop i).take n) := by
  simp [invert, List.map_drop, List.map_take]

/-- The pixels of a row are of the given width and make up the row. -/
theorem pixels_ok {width : Int} {row : List α} {b : Block α} (h : pixels width row = .ok b) :
    0 < width ∧ row.length = row.length / width.toNat * width.toNat
      ∧ b = ⟨width.toNat, cut width.toNat (row.length / width.toNat) row⟩ := by
  unfold pixels at h
  split at h
  · simp at h
  · rename_i hneg
    split at h
    · simp at h
    · rename_i hwhole
      rw [not_or, Classical.not_not] at hwhole
      simp only [Except.ok.injEq] at h
      refine ⟨by omega, ?_, h.symm⟩
      exact (Nat.div_mul_cancel (Nat.dvd_of_mod_eq_zero hwhole.2)).symm

/-- The pixel in a column and a row of a picture, of which all samples are given. -/
def pixelAt (bands width : Nat) (samples : List α) (x y : Nat) : List α :=
  (samples.drop ((y * width + x) * bands)).take bands

/-- A pixel of a picture is a pixel of a row of the picture. -/
theorem pixelAt_eq (bands : Nat) {width x : Nat} (samples : List α) (y : Nat) (hx : x < width) :
    pixelAt bands width samples x y
      = (((samples.drop (y * (width * bands))).take (width * bands)).drop (x * bands)).take
        bands := by
  have hfits : (x + 1) * bands ≤ width * bands := Nat.mul_le_mul_right _ hx
  rw [Nat.succ_mul] at hfits
  have hplace : (y * width + x) * bands = y * (width * bands) + x * bands := by
    rw [Nat.add_mul, Nat.mul_assoc]
  rw [pixelAt, hplace, List.drop_take, List.drop_drop, List.take_take]
  congr 1
  omega

/-- A pixel of a picture that is strung together of rows is a pixel of its row. -/
theorem pixelAt_flatten {bands width x y : Nat} {rows : List (List α)}
    (hrows : ∀ row ∈ rows, row.length = width * bands) (hx : x < width) (hy : y < rows.length) :
    pixelAt bands width rows.flatten x y = ((rows.getD y []).drop (x * bands)).take bands := by
  rw [pixelAt_eq bands rows.flatten y hx, take_drop_flatten hrows hy]

end Rows

namespace Transform

/-- What a transform makes of a row of samples: its pixels, converted and strung together. -/
def image (t : Transform) (row : List UInt8) : Except Failure (List UInt8) :=
  match Rows.pixels t.inputFormat.samplesPerPixel row with
  | .error e => .error e
  | .ok b =>
    match t.applyPixels b with
    | .error e => .error e
    | .ok result => .ok result.rows.flatten

/-- A transform whose conversion gives every pixel of the input format as many samples as the
output format has. -/
def IsExact (t : Transform) : Prop :=
  ∀ b result, (b.width : Int) = t.inputFormat.samplesPerPixel →
    (∀ pixel ∈ b.rows, pixel.length = b.width) → t.convert b = .ok result →
      result.rows.length = b.rows.length
        ∧ ∀ pixel ∈ result.rows, (pixel.length : Int) = t.outputFormat.samplesPerPixel

/-- The samples in the image of a row of the given length. -/
def imageLength (t : Transform) (length : Nat) : Nat :=
  length / t.inputFormat.samplesPerPixel.toNat * t.outputFormat.samplesPerPixel.toNat

/-- Settling keeps the number of pixels. -/
theorem length_settle (f : FormatFields) (b : Block UInt8) :
    (settle f b).rows.length = b.rows.length := by
  unfold settle
  split <;> simp

/-- Settling keeps the width. -/
theorem width_settle (f : FormatFields) (b : Block UInt8) : (settle f b).width = b.width := by
  unfold settle
  split <;> rfl

/-- Complementing leaves the lengths of pixels. -/
theorem length_of_mem_settle {f : FormatFields} {b : Block UInt8} {n : Nat}
    (h : ∀ pixel ∈ b.rows, pixel.length = n) :
    ∀ pixel ∈ (settle f b).rows, pixel.length = n := by
  unfold settle
  split
  · intro pixel hp
    obtain ⟨q, hq, rfl⟩ := List.mem_map.mp hp
    rw [Rows.length_invert]
    exact h q hq
  · exact h

/-- A row is converted into room by laying its image over the room. -/
theorem applyRow_eq (t : Transform) (row room : List UInt8) :
    t.applyRow row room = match t.image row with
      | .error e => .error e
      | .ok result =>
        match Rows.overlay result room with
        | .error e => .error e
        | .ok filled => .ok filled := by
  unfold applyRow image
  cases Rows.pixels t.inputFormat.samplesPerPixel row with
  | error e => rfl
  | ok b =>
    cases h : t.applyPixels b with
    | error e => simp only [h]
    | ok result =>
      cases hroom : Rows.overlay result.rows.flatten room with
      | error e => simp only [h, hroom]
      | ok filled => simp only [h, hroom]

/-- Room keeps its size, whatever the transform makes of a row. -/
theorem length_of_applyRow {t : Transform} {row room out : List UInt8}
    (h : t.applyRow row room = .ok out) : out.length = room.length := by
  rw [applyRow_eq] at h
  split at h
  · simp at h
  · split at h
    · simp at h
    · rename_i filled hfilled
      simp only [Except.ok.injEq] at h
      rw [← h]
      exact Rows.length_of_overlay hfilled

/-- The image of a row is the pixels that its pixels are converted to, each of the output format's
samples, strung together. -/
theorem image_ok {t : Transform} (ht : t.IsExact) {row out : List UInt8}
    (h : t.image row = .ok out) :
    let k := t.inputFormat.samplesPerPixel.toNat
    ∃ result : Block UInt8,
      t.convert (settle t.inputFormat ⟨k, Rows.cut k (row.length / k) row⟩) = .ok result
      ∧ result.rows.length = row.length / k
      ∧ (∀ pixel ∈ (settle t.outputFormat result).rows,
        pixel.length = t.outputFormat.samplesPerPixel.toNat)
      ∧ out = (settle t.outputFormat result).rows.flatten := by
  unfold image at h
  split at h
  · simp at h
  · rename_i b hb
    obtain ⟨hpositive, hwhole, rfl⟩ := Rows.pixels_ok hb
    unfold applyPixels at h
    split at h
    · simp at h
    · rename_i settled hsettled
      split at hsettled
      · simp at hsettled
      · rename_i result hresult
        simp only [Except.ok.injEq] at h hsettled
        subst h hsettled
        have hcut : ∀ pixel ∈ Rows.cut t.inputFormat.samplesPerPixel.toNat
            (row.length / t.inputFormat.samplesPerPixel.toNat) row,
            pixel.length = t.inputFormat.samplesPerPixel.toNat := fun pixel =>
          Rows.length_of_mem_cut (Nat.le_of_eq hwhole.symm)
        obtain ⟨hcount, hwidth⟩ := ht _ _ (by rw [width_settle]; simp only; omega)
          (by rw [width_settle]; exact length_of_mem_settle hcut) hresult
        have hlength : ∀ pixel ∈ result.rows,
            pixel.length = t.outputFormat.samplesPerPixel.toNat := by
          intro pixel hp
          have := hwidth pixel hp
          omega
        refine ⟨result, hresult, ?_, length_of_mem_settle hlength, rfl⟩
        rw [hcount, length_settle, Rows.length_cut]

/-- The image of a row has as many samples as the row's length tells. -/
theorem length_image {t : Transform} (ht : t.IsExact) {row result : List UInt8}
    (h : t.image row = .ok result) : result.length = t.imageLength row.length := by
  obtain ⟨converted, -, hcount, hlength, rfl⟩ := image_ok ht h
  rw [Rows.length_flatten_of_length hlength, length_settle, hcount, imageLength]

/-- Rooms of one size that agree behind the image of a row take it up alike. -/
theorem applyRow_congr {t : Transform} (ht : t.IsExact) {row room other : List UInt8}
    (hlength : room.length = other.length)
    (hrest : room.drop (t.imageLength row.length) = other.drop (t.imageLength row.length)) :
    t.applyRow row room = t.applyRow row other := by
  rw [applyRow_eq, applyRow_eq]
  cases h : t.image row with
  | error e => rfl
  | ok result =>
    rw [← length_image ht h] at hrest
    simp only [Rows.overlay_congr hlength hrest]

/-- Room into which a row is converted keeps its size and what is behind the image. -/
theorem room_of_applyRow {t : Transform} (ht : t.IsExact) {row room out : List UInt8}
    (h : t.applyRow row room = .ok out) : out.length = room.length
      ∧ out.drop (t.imageLength row.length) = room.drop (t.imageLength row.length) := by
  refine ⟨length_of_applyRow h, ?_⟩
  rw [applyRow_eq] at h
  split at h
  · simp at h
  · rename_i result hresult
    split at h
    · simp at h
    · rename_i filled hfilled
      simp only [Except.ok.injEq] at h
      subst h
      rw [← length_image ht hresult]
      exact Rows.drop_of_overlay hfilled

/-- Room of the size of the image is replaced by it. -/
theorem applyRow_of_length {t : Transform} (ht : t.IsExact) {row room out : List UInt8}
    (hroom : room.length = t.imageLength row.length) (h : t.applyRow row room = .ok out) :
    t.image row = .ok out := by
  rw [applyRow_eq] at h
  split at h
  · simp at h
  · rename_i result hresult
    rw [Rows.overlay_of_length ((length_image ht hresult).trans hroom.symm)] at h
    simp only [Except.ok.injEq] at h
    rw [hresult, h]

end Transform

end Recolor
