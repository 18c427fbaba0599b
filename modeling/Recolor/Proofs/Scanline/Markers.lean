import Recolor.Proofs.Scanline.Destination
import Recolor.Proofs.Scanline.WholeRun

/-!
# The markers of the destination

Starting a run settles whether the destination is labelled as a fax image, and finishing hands
over the markers of the source that survive; no step in between touches a marker. So the markers
of a destination are known from the source's markers, from the space of the output, and from which
markers the encoder emits itself when the run asks for them (`settled_of_run`), and the label says
what the space is.
-/

set_option autoImplicit false

namespace Recolor

namespace Marker

/-- The markers that describe an output in the given space. -/
def label (space : Option Space) : List Marker :=
  if space = some .lab then [fax] else []

/-- What the markers of a destination are, by the space of the output, the markers of the source,
and whether the encoder emits a density marker and a colour transform marker. -/
structure AreSettled (space : Option Space) (source : List Marker) (jfif adobe : Bool)
    (markers : List Marker) : Prop where
  /-- The label, and the markers of the source in their order without those that are dropped. -/
  list : markers = (if space = some .lab then [fax] else [])
    ++ source.filter fun m => !m.isFax && !(jfif && m.isJfif) && !(adobe && m.isAdobe)
  /-- They identify a fax image exactly if the space is Lab. -/
  identify : identifyFax markers = true ↔ space = some .lab
  /-- No marker says so twice. -/
  once : space = some .lab → markers.countP isFax = 1

/-- The fax marker is one. -/
theorem isFax_fax : fax.isFax = true := by decide +kernel

/-- What survives of the source's markers identifies no fax image. -/
theorem countP_isFax_carried (source : List Marker) (jfif adobe : Bool) :
    (carried (source.filter fun m => !m.isFax) jfif adobe).countP isFax = 0 := by
  rw [List.countP_eq_zero]
  intro m hm
  obtain ⟨hm, -⟩ := List.mem_filter.mp hm
  obtain ⟨-, hnot⟩ := List.mem_filter.mp hm
  simpa using hnot

/-- The label holds one fax marker for Lab colours, and none otherwise. -/
theorem countP_isFax_label (space : Option Space) :
    (label space).countP isFax = if space = some .lab then 1 else 0 := by
  unfold label
  split
  · simp [isFax_fax]
  · rfl

/-- A label and what survives of the source's markers are settled markers. -/
theorem areSettled (space : Option Space) (source : List Marker) (jfif adobe : Bool) :
    AreSettled space source jfif adobe
      (label space ++ carried (source.filter fun m => !m.isFax) jfif adobe) := by
  have hcount : (label space ++ carried (source.filter fun m => !m.isFax) jfif adobe).countP isFax
      = if space = some .lab then 1 else 0 := by
    rw [List.countP_append, countP_isFax_label, countP_isFax_carried, Nat.add_zero]
  refine ⟨?_, ?_, ?_⟩
  · rw [carried, List.filter_filter]
    unfold label
    congr 2
    funext m
    cases m.isFax <;> simp
  · rw [identifyFax, List.any_eq_true, ← List.countP_pos_iff, hcount]
    split <;> simp_all
  · intro hlab
    rw [hcount, if_pos hlab]

end Marker

/-- Reading a row leaves the markers. -/
theorem Reader.markers_readRow (r : Reader) (size : Nat) :
    (r.readRow size).2.markers = r.markers :=
  markers_eq_of_facts (r.facts_readRow size)

namespace ScanlineTo

variable {σ : Type} {D : Destination σ} {s s' : ScanlineTo σ} {setup : Setup} {v : Services}
  {w w' : World}

/-- What describes the output of a destination is its label. -/
theorem markers_describeOutput (d : σ) (r : Resolution) (setup : Setup) :
    D.markers (describeOutput D d r setup) = D.markers d ++ Marker.label setup.space := by
  have hlabelled : D.markers (if setup.space = some .lab then
      D.addMarker (D.setResolution d r) Marker.fax else D.setResolution d r)
        = D.markers d ++ Marker.label setup.space := by
    unfold Marker.label
    split
    · rw [D.markers_addMarker, D.markers_setResolution]
    · rw [D.markers_setResolution, List.append_nil]
  unfold describeOutput
  dsimp only
  split
  · exact hlabelled
  · split
    · exact hlabelled
    · rw [D.markers_embed, hlabelled]

/-- Adding markers one after another puts them behind those that are there. -/
theorem markers_foldl_addMarker (d : σ) (ms : List Marker) :
    D.markers (ms.foldl D.addMarker d) = D.markers d ++ ms := by
  induction ms generalizing d with
  | nil => simp
  | cons m ms ih => rw [List.foldl_cons, ih, D.markers_addMarker, List.append_assoc]; rfl

/-- A run whose markers are those of another. -/
structure KeepsMarkers (D : Destination σ) (s s' : ScanlineTo σ) : Prop where
  source : s'.reader.markers = s.reader.markers
  sink : D.markers s'.sink = D.markers s.sink

/-- A run that starts labels its destination. -/
theorem start_ok (h : s.start D setup = (.ok (), s')) :
    s'.reader = s.reader ∧ D.markers s'.sink = D.markers s.sink ++ Marker.label setup.space := by
  unfold start at h
  split at h
  · simp at h
  · dsimp only at h
    split at h
    · simp at h
    · simp at h
    · split at h
      · simp at h
      · simp only [Prod.mk.injEq, true_and] at h
        subst h
        exact ⟨rfl, markers_describeOutput _ _ _⟩

/-- Passing a row on leaves all markers. -/
theorem keepsMarkers_passRow (s : ScanlineTo σ) (row : List UInt8) :
    KeepsMarkers D s (s.passRow D row).2 := by
  unfold passRow
  split
  · exact ⟨rfl, rfl⟩
  · rename_i converted hconvert
    have hwrite := D.markers_writeRow s.sink converted
    split
    · rename_i e sink hsink
      rw [hsink] at hwrite
      exact ⟨rfl, hwrite⟩
    · rename_i sink hsink
      rw [hsink] at hwrite
      exact ⟨rfl, hwrite⟩

/-- A step leaves all markers, whatever becomes of it. -/
theorem keepsMarkers_step (s : ScanlineTo σ) : KeepsMarkers D s (s.step D).2 := by
  unfold step
  split
  · exact ⟨rfl, rfl⟩
  · split
    · exact ⟨rfl, rfl⟩
    · have hread := s.reader.markers_readRow s.rowSize
      split
      · rename_i e reader hreader
        rw [hreader] at hread
        exact ⟨hread, rfl⟩
      · rename_i row reader hreader
        rw [hreader] at hread
        have hpass := keepsMarkers_passRow (D := D) { s with reader } row
        split
        · rename_i hrow
          rw [hrow] at hpass
          exact ⟨hpass.source.trans hread, hpass.sink⟩
        · rename_i hrow
          rw [hrow] at hpass
          exact ⟨hpass.source.trans hread, hpass.sink⟩

/-- Steps change no marker of a run to a destination. -/
theorem keepsMarkers_steps (s : ScanlineTo σ) (count : Nat) :
    KeepsMarkers D s (s.steps D count).2 := by
  induction count generalizing s with
  | zero => exact ⟨rfl, rfl⟩
  | succ count ih =>
    unfold steps
    have hstep := keepsMarkers_step (D := D) s
    cases h : s.step D with
    | mk outcome s₁ =>
      rw [h] at hstep
      cases outcome with
      | error e => exact hstep
      | ok more =>
        cases more with
        | false => exact hstep
        | true =>
          have hrest := ih s₁
          exact ⟨hrest.source.trans hstep.source, hrest.sink.trans hstep.sink⟩

/-- Before it finishes, a run has labelled its destination and touched no other marker. -/
theorem stream_ok (h : s.stream D setup = (.ok (), s')) :
    s'.reader.markers = s.reader.markers
      ∧ D.markers s'.sink = D.markers s.sink ++ Marker.label setup.space := by
  unfold stream at h
  cases hstart : s.start D setup with
  | mk outcome s₁ =>
    cases outcome with
    | error e => simp [hstart] at h
    | ok _ =>
      simp only [hstart] at h
      obtain ⟨hreader, hsink⟩ := start_ok hstart
      have hsteps := keepsMarkers_steps (D := D) s₁ (s₁.reader.height.toNat + 1)
      rw [h] at hsteps
      exact ⟨hsteps.source.trans (by rw [hreader]), hsteps.sink.trans hsink⟩

/-- A run that finishes has handed over what survives of the source's markers, by what the
destination said before. -/
theorem finish_ok (h : (s.finish D).run v w = (.ok (.ok (), s'), w')) : ∃ jfif adobe,
    D.writesJfif s.sink = .ok jfif ∧ D.writesAdobe s.sink = .ok adobe
      ∧ (D.finish ((Marker.carried (s.reader.markers.filter fun m => !m.isFax) jfif adobe).foldl
          D.addMarker s.sink)).run v (w.note (.closed s.reader.path))
        = (.ok (.ok (), s'.sink), w') := by
  unfold finish at h
  split at h
  · simp at h
  · split at h
    · simp at h
    · rw [Work.run_bind_of_ok (s.reader.run_close v w)] at h
      unfold survivingMarkers at h
      dsimp only at h
      cases hjfif : D.writesJfif s.sink with
      | error f => simp [hjfif] at h
      | ok jfif =>
        cases hadobe : D.writesAdobe s.sink with
        | error f => simp [hjfif, hadobe] at h
        | ok adobe =>
          simp only [hjfif, hadobe, Work.run_bind_ok_iff] at h
          obtain ⟨⟨outcome, sink⟩, w₁, hfinish, h⟩ := h
          cases outcome with
          | error e => simp at h
          | ok _ =>
            simp only [Work.run_pure, Prod.mk.injEq, Except.ok.injEq, true_and] at h
            obtain ⟨rfl, rfl⟩ := h
            exact ⟨jfif, adobe, rfl, rfl, hfinish⟩

/-- A run that succeeds has taken all of its steps, and finishes. -/
theorem run_ok {n : Nat} (h : (s.run D setup).run v w = (.ok (.ok n, s'), w')) : ∃ s₁,
    s.stream D setup = (.ok (), s₁) ∧ (s₁.finish D).run v w = (.ok (.ok (), s'), w') := by
  unfold run at h
  cases hstream : s.stream D setup with
  | mk outcome s₁ =>
    cases outcome with
    | error e => simp [hstream] at h
    | ok _ =>
      simp only [hstream, Work.run_bind_ok_iff] at h
      obtain ⟨⟨outcome, s₂⟩, w₁, hfinish, h⟩ := h
      cases outcome with
      | error e => simp at h
      | ok _ =>
        simp only [Work.run_pure, Prod.mk.injEq, Except.ok.injEq] at h
        obtain ⟨⟨-, rfl⟩, rfl⟩ := h
        exact ⟨s₁, rfl, hfinish⟩

/-- The markers of a destination after a run, behind those that it had before. -/
theorem markers_of_run {n : Nat} (h : (s.run D setup).run v w = (.ok (.ok n, s'), w')) :
    ∃ s₁ jfif adobe, s.stream D setup = (.ok (), s₁)
      ∧ D.writesJfif s₁.sink = .ok jfif ∧ D.writesAdobe s₁.sink = .ok adobe
      ∧ D.markers s'.sink = D.markers s.sink ++ (Marker.label setup.space
        ++ Marker.carried (s.reader.markers.filter fun m => !m.isFax) jfif adobe) := by
  obtain ⟨s₁, hstream, hfinish⟩ := run_ok h
  obtain ⟨jfif, adobe, hjfif, hadobe, hsink⟩ := finish_ok hfinish
  obtain ⟨hsource, hlabel⟩ := stream_ok hstream
  refine ⟨s₁, jfif, adobe, hstream, hjfif, hadobe, ?_⟩
  rw [D.markers_finish _ _ _ _ _ _ hsink, markers_foldl_addMarker, hlabel, hsource,
    List.append_assoc]

end ScanlineTo

/-- Finishing hands a writer back as it was. -/
theorem Writer.eq_of_finish {d d' : Writer} {outcome : Except Failure Unit} {v : Services}
    {w w' : World} (h : (Writer.destination.finish d).run v w = (.ok (outcome, d'), w')) :
    d' = d := by
  simp only [Writer.destination, Work.run_bind_of_ok (Work.run_outcome _), Work.run_pure,
    Prod.mk.injEq, Except.ok.injEq] at h
  exact h.1.2.symm

namespace Scanline

variable {s s' : Scanline} {setup : Setup} {v : Services} {w w' : World}

/-- The markers of a writer after a run, behind those that it had before. -/
theorem markers_of_run {n : Nat} (h : (s.run setup).run v w = (.ok (.ok n, s'), w')) :
    ∃ jfif, s'.writer.writesJfif = .ok jfif
      ∧ s'.writer.markers = s.writer.markers ++ (Marker.label setup.space
        ++ Marker.carried (s.reader.markers.filter fun m => !m.isFax) jfif
          s'.writer.writesAdobe) := by
  have hrun : ((ScanlineTo.ofScanline s).run Writer.destination setup).run v w
      = (.ok (.ok n, ScanlineTo.ofScanline s'), w') := by
    rw [ScanlineTo.run_ofScanline, Work.run_bind_of_ok h]
    rfl
  obtain ⟨s₁, hstream, hfinish⟩ := ScanlineTo.run_ok hrun
  obtain ⟨jfif, adobe, hjfif, hadobe, hsink⟩ := ScanlineTo.finish_ok hfinish
  obtain ⟨hsource, hlabel⟩ := ScanlineTo.stream_ok hstream
  rw [Writer.foldl_addMarker] at hsink
  have hwriter : s'.writer = s₁.sink.addMarkers
      (Marker.carried (s₁.reader.markers.filter fun m => !m.isFax) jfif adobe) :=
    Writer.eq_of_finish hsink
  -- what a writer says of its encoder does not depend on its markers
  have hjfif' : s'.writer.writesJfif = .ok jfif := by rw [hwriter]; exact hjfif
  have hadobe' : s'.writer.writesAdobe = adobe := by
    rw [hwriter]
    exact Except.ok.inj hadobe
  refine ⟨jfif, hjfif', ?_⟩
  have hbefore : s₁.sink.markers = s.writer.markers ++ Marker.label setup.space := hlabel
  have hreader : s₁.reader.markers = s.reader.markers := hsource
  rw [hadobe', hwriter, Writer.addMarkers, hbefore, hreader, List.append_assoc]

end Scanline

/-- Whatever the markers of the source and the space of the output are, after a run that succeeds
the markers of a destination that had none are settled, by what it said of its encoder when all
rows were written: for every destination, and for the library's writer. -/
theorem Scanline.settled_of_run :
    (∀ (σ : Type) (D : Destination σ) (s s' : ScanlineTo σ) (setup : Setup) (v : Services)
      (w w' : World) (n : Nat), D.markers s.sink = [] →
      (s.run D setup).run v w = (.ok (.ok n, s'), w') →
        ∃ s₁ jfif adobe, s.stream D setup = (.ok (), s₁)
          ∧ D.writesJfif s₁.sink = .ok jfif ∧ D.writesAdobe s₁.sink = .ok adobe
          ∧ Marker.AreSettled setup.space s.reader.markers jfif adobe (D.markers s'.sink))
    ∧ ∀ (s s' : Scanline) (setup : Setup) (v : Services) (w w' : World) (n : Nat),
      s.writer.markers = [] → (s.run setup).run v w = (.ok (.ok n, s'), w') →
        ∃ jfif, s'.writer.writesJfif = .ok jfif
          ∧ Marker.AreSettled setup.space s.reader.markers jfif s'.writer.writesAdobe
            s'.writer.markers := by
  constructor
  · intro σ D s s' setup v w w' n hfresh hrun
    obtain ⟨s₁, jfif, adobe, hstream, hjfif, hadobe, hmarkers⟩ := ScanlineTo.markers_of_run hrun
    rw [hfresh, List.nil_append] at hmarkers
    refine ⟨s₁, jfif, adobe, hstream, hjfif, hadobe, ?_⟩
    rw [hmarkers]
    exact Marker.areSettled _ _ _ _
  · intro s s' setup v w w' n hfresh hrun
    obtain ⟨jfif, hjfif, hmarkers⟩ := Scanline.markers_of_run hrun
    rw [hfresh, List.nil_append] at hmarkers
    refine ⟨jfif, hjfif, ?_⟩
    rw [hmarkers]
    exact Marker.areSettled _ _ _ _

/-- A destination that takes everything and keeps the markers, for an encoder with the given
markers of its own. -/
def Destination.recorder (jfif adobe : Bool) : Destination (List Marker) where
  markers := id
  setResolution d _ := d
  addMarker d m := d ++ [m]
  embed d _ := d
  writeRow d _ := (.ok (), d)
  writesJfif _ := .ok jfif
  writesAdobe _ := .ok adobe
  finish d := pure (.ok (), d)
  markers_setResolution _ _ := rfl
  markers_addMarker _ _ := rfl
  markers_embed _ _ := rfl
  markers_writeRow _ _ := rfl
  markers_finish d v w outcome d' w' h := by
    cases h
    rfl

/-- Markers of all kinds that are treated on their own: of a fax image, of density, of a colour
transform, and another one. -/
def mixedMarkers : List Marker :=
  [Marker.fax, { tag := Marker.app 0, payload := Marker.jfifSignature },
    { tag := Marker.app 14, payload := Marker.adobeSignature }, { tag := Marker.app 1, payload := [] }]

/-- A run from one gray sample with these markers to a picture of its size. -/
def mixedRun : Scanline :=
  { reader := Reader.ofPicture { parts := ["in.jpg"] } (grayColumn [7]) mixedMarkers {}
    writer := columnWriter 1 .gray }

/-- What a run is started with that labels its output. -/
def labelledSetup : Setup :=
  { transform := firstSample, space := some .lab }

/-- That run when all steps are taken. -/
def mixedStream : Scanline :=
  (((mixedRun.start labelledSetup).2).steps 2).2

/-- That run when it has finished: of the source's markers the last two are left. -/
def mixedResult : Scanline :=
  { mixedStream with
    reader := mixedStream.reader.closed
    writer := mixedStream.writer.addMarkers (mixedMarkers.drop 2)
    phase := .finished }

/-- The run over these markers succeeds and leaves that result. -/
theorem Scanline.exists_run_mixed : ∃ w',
    (mixedRun.run labelledSetup).run columnServices {} = (.ok (.ok 1, mixedResult), w') := by
  obtain ⟨w', hencode⟩ : ∃ w', (Work.encode (mixedResult.writer.job
      { quality := .int 75, fullChroma := true
        extra := (Marker.toSegments mixedResult.writer.markers).toOption })).run columnServices
      (({} : World).note (.closed mixedStream.reader.path)) = (.ok (), w') :=
    ⟨_, Work.run_encode_ok_iff.mpr ⟨_, _, rfl, FileTree.write_name isPlain_out [7]
      (by simp [World.note]), rfl⟩⟩
  have hsteps : ((mixedRun.start labelledSetup).2).steps 2 = (.ok (), mixedStream) := rfl
  exact ⟨w', Scanline.run_of_encode rfl hsteps rfl rfl rfl rfl rfl hencode⟩

/-- A run to a recorder keeps one label and the markers that its encoder does not emit, and so does
a run to a writer, whose encoder emits the density marker of gray pictures. -/
theorem Scanline.settled_mixed :
    (∃ n t w', (ScanlineTo.run (Destination.recorder false true)
        { reader := mixedRun.reader, sink := [] } labelledSetup).run columnServices {}
          = (.ok (.ok n, t), w')
      ∧ Marker.AreSettled (some .lab) mixedMarkers false true t.sink)
    ∧ ∃ n t w', (mixedRun.run labelledSetup).run columnServices {} = (.ok (.ok n, t), w')
      ∧ Marker.AreSettled (some .lab) mixedMarkers true false t.writer.markers := by
  constructor
  · obtain ⟨n, t, w', hrun⟩ : ∃ n t w', (ScanlineTo.run (Destination.recorder false true)
        { reader := mixedRun.reader, sink := [] } labelledSetup).run columnServices {}
          = (.ok (.ok n, t), w') := ⟨1, _, _, rfl⟩
    obtain ⟨s₁, jfif, adobe, -, hjfif, hadobe, hsettled⟩ :=
      Scanline.settled_of_run.1 _ _ _ _ _ _ _ _ _ rfl hrun
    cases hjfif
    cases hadobe
    exact ⟨n, t, w', hrun, hsettled⟩
  · obtain ⟨w', hrun⟩ := Scanline.exists_run_mixed
    obtain ⟨jfif, hjfif, hsettled⟩ := Scanline.settled_of_run.2 _ _ _ _ _ _ _ rfl hrun
    cases hjfif
    exact ⟨1, mixedResult, w', hrun, hsettled⟩

end Recolor
