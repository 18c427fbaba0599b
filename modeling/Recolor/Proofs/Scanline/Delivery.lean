import Recolor.Cms.Arithmetic
import Recolor.Proofs.Files.Tree
import Recolor.Proofs.Rows.Layout
import Recolor.Proofs.Scanline.Calls

/-!
# Rows that arrive

Whatever calls a run has been given, and wherever its steps failed, the rows that were written
are counted, and no more rows were converted than read. A row that is read and then lost leaves
the two counts apart for ever, and such a run does not finish. While the counts agree every row
of the source has passed on its own: the room that all rows are converted into leaves no trace
of the rows before. `delivers_after` puts this together for every sequence of calls.
-/

set_option autoImplicit false

namespace Recolor

namespace Transform

/-- The size of a row that is read for a transform. -/
def sizeIn (t : Transform) (width : Int) : Nat :=
  (t.inputFormat.rowBytes width).toNat

/-- The room for a converted row before any row is converted. -/
def freshRoom (t : Transform) (width : Int) : List UInt8 :=
  List.replicate (t.outputFormat.rowBytes width).toNat 0

/-- What becomes of a row of the source on its own: it is fitted into the room for a row that is
read, converted into fresh room, and fitted into the room for a row of the destination. -/
def passage (t : Transform) (width : Int) (length : Nat) (row : List UInt8) :
    Except Failure (List UInt8) :=
  match Rows.fill row (t.sizeIn width) with
  | .error f => .error f
  | .ok input =>
    match t.applyRow input (t.freshRoom width) with
    | .error e => .error e
    | .ok output =>
      match Rows.fill output length with
      | .error f => .error f
      | .ok out => .ok out

/-- Room in which the images of rows lie as in fresh room. -/
structure IsRoom (t : Transform) (width : Int) (room : List UInt8) : Prop where
  length : room.length = (t.freshRoom width).length
  rest : room.drop (t.imageLength (t.sizeIn width))
    = (t.freshRoom width).drop (t.imageLength (t.sizeIn width))

/-- A row is converted into used room as into fresh room, and the room is good for the next. -/
theorem IsRoom.applyRow {t : Transform} {width : Int} {room row out : List UInt8}
    (hroom : t.IsRoom width room) (ht : t.IsExact) (hrow : row.length = t.sizeIn width)
    (h : t.applyRow row room = .ok out) :
    t.IsRoom width out ∧ t.applyRow row (t.freshRoom width) = .ok out := by
  obtain ⟨hlength, hrest⟩ := room_of_applyRow ht h
  rw [hrow] at hrest
  refine ⟨⟨hlength.trans hroom.length, hrest.trans hroom.rest⟩, ?_⟩
  rw [← h]
  exact (applyRow_congr ht hroom.length (by rw [hrow]; exact hroom.rest)).symm

/-- A row passes if it is fitted, converted and fitted again. -/
theorem passage_eq_ok {t : Transform} {width : Int} {length : Nat}
    {row input output out : List UInt8}
    (hinput : Rows.fill row (t.sizeIn width) = .ok input)
    (houtput : t.applyRow input (t.freshRoom width) = .ok output)
    (hout : Rows.fill output length = .ok out) : t.passage width length row = .ok out := by
  simp [passage, hinput, houtput, hout]

/-- Where no row has to be fitted, what becomes of a row is its image. -/
theorem image_of_passage {t : Transform} (ht : t.IsExact) {width : Int} {length : Nat}
    {row out : List UInt8} (hrow : row.length = t.sizeIn width)
    (himage : (t.freshRoom width).length = t.imageLength (t.sizeIn width))
    (hlength : length = (t.freshRoom width).length) (h : t.passage width length row = .ok out) :
    t.image row = .ok out := by
  unfold passage at h
  rw [Rows.fill_of_length hrow] at h
  cases houtput : t.applyRow row (t.freshRoom width) with
  | error e => simp [houtput] at h
  | ok output =>
    have hout : output.length = length := by rw [hlength, (room_of_applyRow ht houtput).1]
    simp only [houtput, Rows.fill_of_length hout, Except.ok.injEq] at h
    subst h
    exact applyRow_of_length ht (by rw [himage, hrow]) houtput

end Transform

namespace Scanline

/-! ## What calls keep -/

/-- A run that was started with a transform. While no row is lost, all rows have passed. -/
structure Running (r₀ : Reader) (w₀ : Writer) (t : Transform) (s : Scanline) : Prop where
  transform : s.transform = some t
  isExact : t.IsExact
  rowSize : s.rowSize = t.sizeIn r₀.width
  room : t.IsRoom r₀.width s.rowOut
  delivered : s.rowsProcessed = s.reader.rowsRead → ∀ i, i < s.rowsProcessed →
    ∃ row, r₀.sourceRow i = .ok row
      ∧ t.passage r₀.width w₀.rowLength.toNat row = .ok (s.writer.rows.getD i [])

/-- What holds of a run from a reader to a writer, whatever calls it was given. -/
structure Invariant (r₀ : Reader) (w₀ : Writer) (s : Scanline) : Prop where
  reader : r₀.Continues s.reader
  writer : s.writer.facts = w₀.facts
  written : s.writer.rowsWritten = s.rowsProcessed
  processed : s.rowsProcessed ≤ s.reader.rowsRead
  read : (s.reader.rowsRead : Int) ≤ r₀.height
  idle : s.phase = .idle → s.reader.rowsRead = 0
  running : s.phase ≠ .idle → ∃ t, Running r₀ w₀ t s
  finished : s.phase = .finished → (s.rowsProcessed : Int) = r₀.height

/-- Describing the output leaves what a writer was created with. -/
theorem facts_describeOutput (w : Writer) (r : Resolution) (setup : Setup) :
    (describeOutput w r setup).facts = w.facts := by
  unfold describeOutput
  dsimp only
  split
  · split <;> rfl
  · split <;> split <;> rfl

/-- Describing the output leaves the rows of a writer. -/
theorem rows_describeOutput (w : Writer) (r : Resolution) (setup : Setup) :
    (describeOutput w r setup).rows = w.rows := by
  unfold describeOutput
  dsimp only
  split
  · split <;> rfl
  · split <;> split <;> rfl

section Preservation

variable {r₀ : Reader} {w₀ : Writer} {s : Scanline}

/-- A run that has not been started. -/
theorem Invariant.initial (hr : r₀.rows = none) (hread : r₀.rowsRead = 0) (hheight : 0 ≤ r₀.height)
    (hw : w₀.rows = []) : Invariant r₀ w₀ { reader := r₀, writer := w₀ } where
  reader := .refl hr
  writer := rfl
  written := by simp [Writer.rowsWritten, hw]
  processed := Nat.zero_le _
  read := by simpa [hread] using hheight
  idle _ := hread
  running h := absurd rfl h
  finished h := by simp at h

/-- Reading on without counting a row. -/
theorem Invariant.setReader (hi : s.Invariant r₀ w₀) {reader : Reader}
    (hr : r₀.Continues reader) (hcount : reader.rowsRead = s.reader.rowsRead) :
    Invariant r₀ w₀ { s with reader } where
  reader := hr
  writer := hi.writer
  written := hi.written
  processed := by rw [hcount]; exact hi.processed
  read := by rw [hcount]; exact hi.read
  idle h := by rw [hcount]; exact hi.idle h
  running h := by
    obtain ⟨t, ht⟩ := hi.running h
    exact ⟨t, ht.transform, ht.isExact, ht.rowSize, ht.room,
      fun hall => ht.delivered (hall.trans hcount)⟩
  finished := hi.finished

/-- A row that is read and not written: from then on the counts differ. -/
theorem Invariant.lose (hi : s.Invariant r₀ w₀) (hphase : s.phase = .streaming) {reader : Reader}
    {room : List UInt8} (hr : r₀.Continues reader)
    (hcount : reader.rowsRead = s.reader.rowsRead + 1)
    (hleft : (s.reader.rowsRead : Int) < r₀.height)
    (hroom : ∀ t, Running r₀ w₀ t s → t.IsRoom r₀.width room) :
    Invariant r₀ w₀ { s with reader, rowOut := room } where
  reader := hr
  writer := hi.writer
  written := hi.written
  processed := by
    have := hi.processed
    simp only [hcount]
    omega
  read := by
    simp only [hcount]
    omega
  idle h := by simp [hphase] at h
  running h := by
    obtain ⟨t, ht⟩ := hi.running h
    refine ⟨t, ht.transform, ht.isExact, ht.rowSize, hroom t ht, fun hall => ?_⟩
    have := hi.processed
    simp only [hcount] at hall
    omega
  finished h := by simp [hphase] at h

/-- Starting settles the transform and the room, and touches no row. -/
theorem Invariant.start (hi : s.Invariant r₀ w₀) {setup : Setup}
    (ht : setup.transform.IsExact) : Invariant r₀ w₀ (s.start setup).2 := by
  by_cases hphase : s.phase = .idle
  · have hread : s.reader.rowsRead = 0 := hi.idle hphase
    have hprocessed : s.rowsProcessed = 0 := by
      have := hi.processed
      omega
    -- the run before the room for rows is there
    have hdescribed : Invariant r₀ w₀ { s with
        resolution := some (sourceResolution s.reader)
        writer := describeOutput s.writer (sourceResolution s.reader) setup
        transform := some setup.transform } :=
      { reader := hi.reader
        writer := by rw [facts_describeOutput]; exact hi.writer
        written := by rw [Writer.rowsWritten, rows_describeOutput]; exact hi.written
        processed := hi.processed
        read := hi.read
        idle := hi.idle
        running := fun h => absurd hphase h
        finished := fun h => by simp [hphase] at h }
    -- the run once the room is there
    have hstreaming : Invariant r₀ w₀ { s with
        resolution := some (sourceResolution s.reader)
        writer := describeOutput s.writer (sourceResolution s.reader) setup
        transform := some setup.transform
        phase := .streaming
        rowSize := (setup.transform.inputFormat.rowBytes s.reader.width).toNat
        rowOut := List.replicate (setup.transform.outputFormat.rowBytes s.reader.width).toNat 0 } :=
      { reader := hi.reader
        writer := hdescribed.writer
        written := hdescribed.written
        processed := hi.processed
        read := hi.read
        idle := fun h => by simp at h
        running := fun _ => ⟨setup.transform, rfl, ht, by rw [hi.reader.width]; rfl,
          by rw [hi.reader.width]; exact ⟨rfl, rfl⟩, fun _ i h => by simp [hprocessed] at h⟩
        finished := fun h => by simp at h }
    unfold Scanline.start
    rw [if_neg (by simp [hphase])]
    dsimp only
    split
    · exact hdescribed
    · exact hdescribed
    · split
      · exact hstreaming
      · exact hstreaming
  · unfold Scanline.start
    rw [if_pos hphase]
    exact hi

/-- A row that was read and converted. -/
theorem Running.convertRow {t : Transform} (ht : Running r₀ w₀ t s) {reader : Reader}
    {row converted : List UInt8} (hrow : row.length = s.rowSize)
    (h : ({ s with reader } : Scanline).convertRow row = .ok converted) :
    t.IsRoom r₀.width converted ∧ t.applyRow row (t.freshRoom r₀.width) = .ok converted := by
  simp only [Scanline.convertRow, ht.transform] at h
  exact ht.room.applyRow ht.isExact (hrow.trans ht.rowSize) h

/-- A row that is read, converted and written: if no row was lost before it, it is the next one
that is delivered. -/
theorem Invariant.deliver (hi : s.Invariant r₀ w₀) (hphase : s.phase = .streaming)
    {reader : Reader} {row source converted out : List UInt8} (hr : r₀.Continues reader)
    (hcount : reader.rowsRead = s.reader.rowsRead + 1)
    (hleft : (s.reader.rowsRead : Int) < r₀.height)
    (hsource : r₀.sourceRow s.reader.rowsRead = .ok source)
    (hfill : Rows.fill source s.rowSize = .ok row)
    (hconvert : ({ s with reader } : Scanline).convertRow row = .ok converted)
    (hout : Rows.fill converted s.writer.rowLength.toNat = .ok out) :
    Invariant r₀ w₀ { s with
      reader, rowOut := converted, writer := { s.writer with rows := s.writer.rows ++ [out] }
      rowsProcessed := s.rowsProcessed + 1 } := by
  have hprocessed := hi.processed
  have hwritten : s.writer.rows.length = s.rowsProcessed := hi.written
  exact
    { reader := hr
      writer := hi.writer
      written := by simp [Writer.rowsWritten, hwritten]
      processed := by simp only [hcount]; omega
      read := by simp only [hcount]; omega
      idle := fun h => by simp [hphase] at h
      running := fun _ => by
        obtain ⟨t, ht⟩ := hi.running (by simp [hphase])
        obtain ⟨hroom, happly⟩ := ht.convertRow (Rows.length_of_fill hfill) hconvert
        refine ⟨t, ht.transform, ht.isExact, ht.rowSize, hroom, fun hall i hlt => ?_⟩
        simp only [hcount] at hall hlt
        have hagree : s.rowsProcessed = s.reader.rowsRead := by omega
        by_cases hlast : i = s.rowsProcessed
        · -- the row of this step
          subst hlast
          refine ⟨source, by rw [hagree]; exact hsource, ?_⟩
          rw [ht.rowSize] at hfill
          rw [Writer.rowLength_eq_of_facts hi.writer] at hout
          rw [← hwritten]
          simpa using Transform.passage_eq_ok hfill happly hout
        · -- the rows before
          obtain ⟨row, hsource, hpassage⟩ := ht.delivered hagree i (by omega)
          refine ⟨row, hsource, ?_⟩
          have hshorter : i < s.writer.rows.length := by omega
          rw [hpassage]
          simp [List.getElem?_append_left hshorter]
      finished := fun h => by simp [hphase] at h }

/-- A step delivers the next row, loses it, or leaves the rows as they are. -/
theorem Invariant.step (hi : s.Invariant r₀ w₀) (h₀ : r₀.rows = none) :
    Invariant r₀ w₀ s.step.2 := by
  unfold Scanline.step
  by_cases hphase : s.phase = .streaming
  · rw [if_neg (by simp [hphase])]
    split
    · exact hi
    · split
      · rename_i e reader hread
        obtain ⟨hr, hcount⟩ := hi.reader.readRow_error h₀ hread
        exact hi.setReader hr hcount
      · rename_i row reader hread
        obtain ⟨hr, hcount, hleft, source, hsource, hfill⟩ := hi.reader.readRow_ok h₀ hread
        have hrow : row.length = s.rowSize := Rows.length_of_fill hfill
        unfold passRow
        cases hconvert : ({ s with reader } : Scanline).convertRow row with
        | error e =>
          exact hi.lose hphase hr hcount hleft fun t ht => ht.room
        | ok converted =>
          cases hwrite : s.writer.writeRow converted with
          | error e =>
            simp only [hwrite]
            exact hi.lose hphase hr hcount hleft fun t ht => (ht.convertRow hrow hconvert).1
          | ok writer =>
            obtain ⟨out, hout, rfl⟩ := Writer.writeRow_ok hwrite
            simp only [hwrite]
            exact hi.deliver hphase hr hcount hleft hsource hfill hconvert hout
  · rw [if_pos hphase]
    exact hi

/-- Closing the source and handing markers on touch no row. -/
theorem Invariant.close (hi : s.Invariant r₀ w₀) (markers : List Marker) :
    Invariant r₀ w₀
      { s with reader := s.reader.closed, writer := s.writer.addMarkers markers } where
  reader := hi.reader.closed
  writer := hi.writer
  written := hi.written
  processed := hi.processed
  read := hi.read
  idle := hi.idle
  running h := by
    obtain ⟨t, ht⟩ := hi.running h
    exact ⟨t, ht.transform, ht.isExact, ht.rowSize, ht.room, ht.delivered⟩
  finished := hi.finished

/-- A run finishes only when all rows are written. -/
theorem Invariant.finish (hi : s.Invariant r₀ w₀) (hheight : w₀.height = r₀.height)
    {v : Services} {w w' : World} {outcome : Except Failure Unit} {s' : Scanline}
    (h : s.finish.run v w = (.ok (outcome, s'), w')) : Invariant r₀ w₀ s' := by
  cases outcome with
  | error e =>
    rcases finish_error h with rfl | ⟨markers, rfl⟩
    · exact hi
    · exact hi.close markers
  | ok _ =>
    obtain ⟨hphase, -, markers, -, hfinish, rfl⟩ := finish_ok_iff.mp h
    obtain ⟨hcount, -⟩ := Writer.finish_ok_iff.mp hfinish
    have hclosed := hi.close markers
    have hwritten := hi.written
    exact
      { reader := hclosed.reader
        writer := hclosed.writer
        written := hclosed.written
        processed := hclosed.processed
        read := hclosed.read
        idle := fun h => by simp at h
        running := fun _ => by
          obtain ⟨t, ht⟩ := hi.running (by simp [hphase])
          exact ⟨t, ht.transform, ht.isExact, ht.rowSize, ht.room, ht.delivered⟩
        finished := fun _ => by
          rw [← hheight, ← Writer.height_eq_of_facts hi.writer, ← hwritten]
          exact hcount }

/-- A step that is broken off reads on or loses a row. -/
theorem Invariant.breakOff (hi : s.Invariant r₀ w₀) (h₀ : r₀.rows = none)
    (hphase : s.phase = .streaming) (point : Interruption) :
    Invariant r₀ w₀ (s.breakOff point) := by
  cases point with
  | decoding => exact hi.setReader hi.reader.ready (Reader.rowsRead_ready _)
  | reading =>
    simp only [Scanline.breakOff, hi.reader.decode h₀]
    split
    · exact hi.setReader hi.reader.ready (Reader.rowsRead_ready _)
    · rename_i rows hrows
      exact hi.setReader (hi.reader.ready.keep hrows _) (Reader.rowsRead_ready _)
  | converting =>
    unfold Scanline.breakOff
    cases hread : s.reader.readRow s.rowSize with
    | mk result reader =>
      cases result with
      | error e =>
        obtain ⟨hr, hcount⟩ := hi.reader.readRow_error h₀ hread
        exact hi.setReader hr hcount
      | ok row =>
        obtain ⟨hr, hcount, hleft, -⟩ := hi.reader.readRow_ok h₀ hread
        exact hi.lose hphase hr hcount hleft fun t ht => ht.room
  | writing =>
    unfold Scanline.breakOff
    cases hread : s.reader.readRow s.rowSize with
    | mk result reader =>
      cases result with
      | error e =>
        obtain ⟨hr, hcount⟩ := hi.reader.readRow_error h₀ hread
        exact hi.setReader hr hcount
      | ok row =>
        obtain ⟨hr, hcount, hleft, source, -, hfill⟩ := hi.reader.readRow_ok h₀ hread
        cases hconvert : ({ s with reader } : Scanline).convertRow row with
        | error e =>
          simp only [hconvert]
          exact hi.lose hphase hr hcount hleft fun t ht => ht.room
        | ok converted =>
          simp only [hconvert]
          exact hi.lose hphase hr hcount hleft fun t ht =>
            (ht.convertRow (Rows.length_of_fill hfill) hconvert).1

/-- Every call keeps the invariant, whatever becomes of the call. -/
theorem Invariant.perform (hi : s.Invariant r₀ w₀) (h₀ : r₀.rows = none)
    (hheight : w₀.height = r₀.height) {c : Call}
    (hc : ∀ setup, c = .start setup → setup.transform.IsExact) :
    Invariant r₀ w₀ (s.perform c) := by
  cases c with
  | start setup => exact hi.start (hc setup rfl)
  | step => exact hi.step h₀
  | brokenStep point =>
    by_cases hready : s.phase = .streaming ∧ ¬s.isDone
    · rw [Scanline.perform, if_pos hready]
      exact hi.breakOff h₀ hready.1 point
    · rw [Scanline.perform, if_neg hready]
      exact hi
  | finish v w =>
    obtain ⟨outcome, s', w', h⟩ := exists_finish s v w
    simp only [Scanline.perform, h]
    exact hi.finish hheight h

/-- Whatever calls a run is given, the invariant holds of it. -/
theorem Invariant.after (hi : s.Invariant r₀ w₀) (h₀ : r₀.rows = none)
    (hheight : w₀.height = r₀.height) {calls : List Call}
    (hcalls : ∀ setup, .start setup ∈ calls → setup.transform.IsExact) :
    Invariant r₀ w₀ (s.after calls) := by
  induction calls generalizing s with
  | nil => exact hi
  | cons c rest ih =>
    refine ih (hi.perform h₀ hheight ?_) fun setup h => hcalls setup (List.mem_cons_of_mem _ h)
    rintro setup rfl
    exact hcalls setup List.mem_cons_self

end Preservation

end Scanline

/-- Pixels of every layout have samples. -/
theorem Mode.bands_pos (mode : Mode) : 0 < mode.bands := by
  cases mode <;> decide

/-- A transform whose rows are those of a reader and a writer, one byte for each sample. -/
structure Transform.Suits (t : Transform) (r : Reader) (w : Writer) : Prop where
  width : w.width = r.width
  inputBytes : t.inputFormat.bytesPerSample = 1
  outputBytes : t.outputFormat.bytesPerSample = 1
  input : t.inputFormat.samplesPerPixel = r.components
  output : t.outputFormat.samplesPerPixel = w.components

namespace Transform.Suits

variable {t : Transform} {r : Reader} {w : Writer}

/-- The rows that are read are those of the source. -/
theorem sizeIn_eq (h : t.Suits r w) : t.sizeIn r.width = r.rowSamples := by
  simp [sizeIn, FormatFields.rowBytes, h.inputBytes, h.input, Reader.rowSamples]

/-- The rows that are written are those of the destination. -/
theorem length_freshRoom (h : t.Suits r w) :
    (t.freshRoom r.width).length = w.rowLength.toNat := by
  simp [freshRoom, FormatFields.rowBytes, h.outputBytes, h.output, Writer.rowLength, h.width]

/-- The image of a row of the source is a row of the destination. -/
theorem imageLength_eq (h : t.Suits r w) (hwidth : 0 ≤ r.width) :
    t.imageLength r.rowSamples = w.rowLength.toNat := by
  have hpositive : 0 < r.components := Mode.bands_pos _
  rw [imageLength, h.input, h.output, Int.toNat_natCast, Int.toNat_natCast,
    Reader.rowSamples_eq hwidth, Nat.mul_div_cancel _ hpositive,
    Writer.toNat_rowLength (h.width ▸ hwidth), h.width]

/-- What becomes of a row of the source is its image. -/
theorem image_of_passage (h : t.Suits r w) (hwidth : 0 ≤ r.width) (ht : t.IsExact)
    {row out : List UInt8}
    (hrow : row.length = r.rowSamples)
    (hpassage : t.passage r.width w.rowLength.toNat row = .ok out) : t.image row = .ok out := by
  refine Transform.image_of_passage ht (hrow.trans h.sizeIn_eq.symm) ?_ h.length_freshRoom.symm
    hpassage
  rw [h.length_freshRoom, h.sizeIn_eq, h.imageLength_eq hwidth]

end Transform.Suits

/-- Whatever calls a fresh run is given, in any order and with steps that fail anywhere, its rows
are counted as they are written, no more are converted than read and no more read than there are.
A run that has finished has written every row, and each is what becomes of the row of the source
with its number when it passes on its own: fitted into the room for a row that is read, converted
into fresh room and fitted into the room for a row that is written, where a single sample fills
any room. If the rows of the source and of the destination are those of the transform, that is the
transform of the row. -/
theorem Scanline.delivers_after (path : Path) (p : Picture) (markers : List Marker)
    (resolution : Resolution) {out : Path} {width : Int} {space : Space} {quality : Value}
    {writer : Writer} (hwriter : Writer.create out width p.height space quality = .ok writer)
    {calls : List Call} (hcalls : ∀ setup, .start setup ∈ calls → setup.transform.IsExact) :
    let source := Reader.ofPicture path p markers resolution
    let s := ({ reader := source, writer } : Scanline).after calls
    s.writer.rowsWritten = s.rowsProcessed ∧ s.rowsProcessed ≤ s.reader.rowsRead
      ∧ (s.reader.rowsRead : Int) ≤ p.height
      ∧ (s.phase = .finished → (s.rowsProcessed : Int) = p.height
        ∧ (s.writer.rowsWritten : Int) = p.height
        ∧ ∃ t, s.transform = some t ∧ ∀ r : Nat, (r : Int) < p.height →
          ∃ row, source.sourceRow r = .ok row
            ∧ t.passage p.width writer.rowLength.toNat row = .ok (s.writer.rows.getD r [])
            ∧ (t.Suits source writer → t.image row = .ok (s.writer.rows.getD r []))) := by
  intro source s
  obtain ⟨-, hwidth, hheight, hrows, -, hnonneg, hcolumns⟩ := Writer.create_ok hwriter
  have hfresh : Scanline.Invariant source writer { reader := source, writer } :=
    .initial rfl rfl hnonneg hrows
  have hi : s.Invariant source writer := hfresh.after rfl hheight hcalls
  refine ⟨hi.written, hi.processed, hi.read, ?_⟩
  intro hphase
  have hall : (s.rowsProcessed : Int) = p.height := hi.finished hphase
  refine ⟨hall, by rw [hi.written, hall], ?_⟩
  obtain ⟨t, ht⟩ := hi.running (by simp [hphase])
  refine ⟨t, ht.transform, ?_⟩
  intro r hr
  have hread : (s.reader.rowsRead : Int) ≤ p.height := hi.read
  have hprocessed := hi.processed
  obtain ⟨row, hsource, hpassage⟩ := ht.delivered (by omega) r (by omega)
  refine ⟨row, hsource, hpassage, ?_⟩
  intro hsuits
  have hsourceWidth : 0 ≤ source.width := by rw [← hsuits.width, hwidth]; exact hcolumns
  exact hsuits.image_of_passage hsourceWidth ht.isExact
    (Reader.length_of_sourceRow rfl hsourceWidth hr hsource) hpassage

/-! ## A column of gray samples -/

/-- A gray picture of one column. -/
def grayColumn (samples : Bytes) : Picture :=
  { mode := .gray, width := 1, height := samples.length, samples }

/-- The transform that keeps the first sample of each gray pixel. -/
def firstSample : Transform where
  inputFormat := PixelFormat.fields { space := .gray, channels := 1 }
  outputFormat := PixelFormat.fields { space := .gray, channels := 1 }
  convert b := .ok { width := 1, rows := b.rows.map fun pixel => [pixel.headD 0] }

/-- The transform that keeps the first sample is exact. -/
theorem firstSample_isExact : firstSample.IsExact := by
  intro b result _ _ h
  simp only [firstSample, Except.ok.injEq] at h
  subst h
  refine ⟨by simp, ?_⟩
  intro pixel hp
  obtain ⟨p, -, rfl⟩ := List.mem_map.mp hp
  rfl

/-- The file that the small pictures are written to can be put into the working folder. -/
theorem isPlain_out : FileTree.IsPlain "out.jpg" := by decide +kernel

/-- The file that they are read from can stand in the working folder. -/
theorem isPlain_in : FileTree.IsPlain "in.jpg" := by decide +kernel

/-- A writer of a picture of one column. -/
def columnWriter (height : Int) (mode : Mode) : Writer :=
  { path := { parts := ["out.jpg"] }, width := 1, height, mode, quality := .int 75 }

/-- A run from a gray column to a column in another layout. -/
def columnRun (samples : Bytes) (mode : Mode) : Scanline :=
  { reader := Reader.ofPicture { parts := ["in.jpg"] } (grayColumn samples) [] {}
    writer := columnWriter samples.length mode }

/-- An engine of plain arithmetic and an encoder that writes samples as they are. -/
def columnServices : Services :=
  { engine := ArithmeticEngine.engine, codec := Codec.ofPictures [] none }

/-- Calls that convert up to two rows: one comes too early, one comes twice, one is broken off. -/
def columnCalls : List Call :=
  [.step, .start { transform := firstSample, space := some .gray },
    .start { transform := firstSample, space := some .gray }, .brokenStep .decoding, .step, .step]

/-- All transforms in these calls are exact. -/
theorem columnCalls_isExact : ∀ setup,
    Call.start setup ∈ columnCalls ++ [.finish columnServices {}] → setup.transform.IsExact := by
  intro setup h
  simp only [columnCalls, List.cons_append, List.nil_append, List.mem_cons, Call.start.injEq,
    reduceCtorEq, List.not_mem_nil, false_or, or_false, or_self] at h
  rw [h]
  exact firstSample_isExact

/-- A run to a column whose rows are all written finishes, and leaves them. -/
theorem Scanline.finish_column (s : Scanline) (rows : List (List UInt8)) (mode : Mode)
    (hphase : s.phase = .streaming) (hdone : s.isDone = true)
    (hmarkers : ({ s with reader := s.reader.closed } : Scanline).survivingMarkers = .ok [])
    (hwriter : s.writer = { columnWriter rows.length mode with rows, resolution := some {} }) :
    let s' := s.perform (.finish columnServices {})
    s'.phase = .finished ∧ s'.transform = s.transform ∧ s'.writer.rows = rows := by
  have hoptions : (s.writer.addMarkers []).saveOptions
      = .ok { quality := .int 75, fullChroma := true } := by
    rw [hwriter]
    cases mode <;> rfl
  have hpath : (s.writer.addMarkers []).path = { parts := ["out.jpg"] } := by
    rw [hwriter]
    rfl
  have hwrite (content : Bytes) :
      (({} : World).note (.closed s.reader.path)).files.write (s.writer.addMarkers []).path content
        = .ok (FileTree.put {} ["out.jpg"] (.file content)) := by
    rw [hpath]
    exact FileTree.write_name isPlain_out content (by simp [World.note])
  have hencode (options : SaveOptions) :
      ∃ w', (Work.encode ((s.writer.addMarkers []).job options)).run columnServices
        (({} : World).note (.closed s.reader.path)) = (.ok (), w') :=
    ⟨_, Work.run_encode_ok_iff.mpr ⟨_, _, rfl, hwrite _, rfl⟩⟩
  obtain ⟨w', hencode⟩ := hencode _
  have hcount : ((s.writer.addMarkers []).rowsWritten : Int) = (s.writer.addMarkers []).height := by
    rw [hwriter]
    rfl
  have hfinish := Scanline.finish_ok_iff.mpr ⟨hphase, hdone, [], hmarkers,
    Writer.finish_ok_iff.mpr ⟨hcount, _, hoptions, hencode⟩, rfl⟩
  simp only [Scanline.perform, hfinish, true_and]
  rw [hwriter]
  rfl

/-- A run of two gray rows finishes, and its rows are the transforms of the rows of the source. -/
theorem Scanline.delivers_two_rows :
    let s := (columnRun [7, 8] .gray).after (columnCalls ++ [.finish columnServices {}])
    s.phase = .finished ∧ (s.rowsProcessed : Int) = 2 ∧ ∃ t, s.transform = some t
      ∧ ∀ r : Nat, (r : Int) < 2 → ∃ row, (columnRun [7, 8] .gray).reader.sourceRow r = .ok row
        ∧ t.image row = .ok (s.writer.rows.getD r []) := by
  intro s
  have hcreate : Writer.create { parts := ["out.jpg"] } 1 2 .gray
      = .ok (columnWriter 2 .gray) := by rfl
  obtain ⟨hphase, htransform, -⟩ := Scanline.finish_column
    ((columnRun [7, 8] .gray).after columnCalls) [[7], [8]] .gray rfl rfl rfl rfl
  rw [← Scanline.after_concat] at hphase htransform
  obtain ⟨-, -, -, h⟩ := Scanline.delivers_after { parts := ["in.jpg"] } (grayColumn [7, 8]) [] {}
    hcreate columnCalls_isExact
  obtain ⟨hall, -, t, ht, hrows⟩ := h hphase
  have hsuits : t.Suits (columnRun [7, 8] .gray).reader (columnWriter 2 .gray) := by
    have hsame : t = firstSample := Option.some.inj (ht.symm.trans htransform)
    rw [hsame]
    exact ⟨rfl, rfl, rfl, rfl, rfl⟩
  refine ⟨hphase, hall, t, ht, fun r hr => ?_⟩
  obtain ⟨row, hsource, -, himage⟩ := hrows r hr
  exact ⟨row, hsource, himage hsuits⟩

/-- A single sample fills any row of the destination, so that a row that is written need not be
the transform of the row of the source. -/
theorem Scanline.single_sample_repeated :
    ¬∀ (path out : Path) (p : Picture) (markers : List Marker) (resolution : Resolution)
      (width : Int) (space : Space) (quality : Value) (writer : Writer) (calls : List Call),
      Writer.create out width p.height space quality = .ok writer →
      (∀ setup, .start setup ∈ calls → setup.transform.IsExact) →
      let source := Reader.ofPicture path p markers resolution
      let s := ({ reader := source, writer } : Scanline).after calls
      s.phase = .finished → ∃ t, s.transform = some t ∧ ∀ r : Nat, (r : Int) < p.height →
        ∃ row, source.sourceRow r = .ok row ∧ t.image row = .ok (s.writer.rows.getD r []) := by
  intro h
  have hcreate : Writer.create { parts := ["out.jpg"] } 1 1 .rgb
      = .ok (columnWriter 1 .rgb) := by rfl
  obtain ⟨hphase, htransform, hrows⟩ := Scanline.finish_column
    ((columnRun [7] .rgb).after columnCalls) [[7, 7, 7]] .rgb rfl rfl rfl rfl
  rw [← Scanline.after_concat] at hphase htransform hrows
  obtain ⟨t, ht, hall⟩ := h { parts := ["in.jpg"] } { parts := ["out.jpg"] } (grayColumn [7]) [] {}
    1 .rgb _ _ _ hcreate columnCalls_isExact hphase
  obtain ⟨row, hsource, himage⟩ := hall 0 (by decide)
  have hrow : row = [7] :=
    Except.ok.inj (hsource.symm.trans (show (columnRun [7] .rgb).reader.sourceRow 0 = _ from rfl))
  have hsame : t = firstSample := Option.some.inj (ht.symm.trans htransform)
  have hkept : firstSample.image [7] = .ok [7] := rfl
  rw [hrow, hsame, hkept, Except.ok.injEq] at himage
  have hwritten : ([7] : List UInt8) = [7, 7, 7] := himage.trans (congrArg (List.getD · 0 []) hrows)
  simp at hwritten

end Recolor
