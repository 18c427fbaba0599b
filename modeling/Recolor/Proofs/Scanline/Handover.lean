import Recolor.Proofs.Marker.Segments
import Recolor.Proofs.Scanline.Markers

/-!
# Finishing more than once

Finishing hands the surviving markers of the source to the writer before it encodes, and nothing
takes them back: a run that fails to encode is given up. If it is finished again all the same, its
markers are handed over again. So the markers of a writer are known from how often a run was
finished with no row left: every such call adds the surviving markers once, and no other call
does. A picture that is written carries each as often as the source does if no such call failed
before, and `k + 1` times as often after `k` that failed (`Scanline.repeats_after`).
-/

set_option autoImplicit false

namespace Recolor

namespace Scanline

/-- The markers that finishing hands over, if it can tell which. -/
def survivors (s : Scanline) : List Marker :=
  s.survivingMarkers.toOption.getD []

/-- Whether finishing gets as far as handing markers over. -/
def isExhausted (s : Scanline) : Bool :=
  s.phase == .streaming && s.isDone

/-- Whether a call is one to finish that hands markers over and fails all the same. -/
def failsLate (s : Scanline) : Call → Bool
  | .finish services world =>
    s.isExhausted && match (s.finish.run services world).1 with
      | .ok (.error _, _) => true
      | _ => false
  | _ => false

/-- How many of several calls hand markers over and fail. -/
def lateFailures (s : Scanline) : List Call → Nat
  | [] => 0
  | c :: rest => (s.failsLate c).toNat + (s.perform c).lateFailures rest

/-- A run that differs from another in its rows and in what was read, and in no marker. -/
structure KeepsMarkers (s s' : Scanline) : Prop where
  source : s'.reader.markers = s.reader.markers
  writer : ∃ rows, s'.writer = { s.writer with rows }
  phase : s'.phase = s.phase

namespace KeepsMarkers

variable {s s' : Scanline}

/-- A run that differs in no marker has the writer's markers. -/
theorem markers (h : KeepsMarkers s s') : s'.writer.markers = s.writer.markers := by
  obtain ⟨rows, hwriter⟩ := h.writer
  rw [hwriter]

/-- Which markers survive is a matter of the source's and of what the writer says of its encoder. -/
theorem survivors (h : KeepsMarkers s s') : s'.survivors = s.survivors := by
  obtain ⟨rows, hwriter⟩ := h.writer
  unfold Scanline.survivors survivingMarkers
  rw [h.source, hwriter]
  rfl

end KeepsMarkers

variable {s s' : Scanline} {v : Services} {w w' : World}

/-- A step changes no marker. -/
theorem keepsMarkers_step (s : Scanline) : KeepsMarkers s s.step.2 := by
  obtain ⟨reader, rowOut, hfacts, -, hstep⟩ := s.step_cases
  have hsource := Reader.markers_eq_of_facts hfacts
  rcases hstep with hstep | ⟨out, -, hstep⟩
  · rw [hstep]
    exact ⟨hsource, ⟨s.writer.rows, rfl⟩, rfl⟩
  · rw [hstep]
    exact ⟨hsource, ⟨_, rfl⟩, rfl⟩

/-- A step that is broken off changes no marker. -/
theorem keepsMarkers_breakOff (s : Scanline) (point : Interruption) :
    KeepsMarkers s (s.breakOff point) := by
  obtain ⟨reader, rowOut, hfacts, hbroken⟩ := s.breakOff_cases point
  rw [hbroken]
  exact ⟨Reader.markers_eq_of_facts hfacts, ⟨s.writer.rows, rfl⟩, rfl⟩

/-- Starting labels the output, or does nothing. -/
theorem markers_start (s : Scanline) (setup : Setup) :
    (s.start setup).2.reader = s.reader
      ∧ (s.phase ≠ .idle → (s.start setup).2 = s)
      ∧ ∃ labels, (∀ m ∈ labels, m = Marker.fax)
        ∧ (s.start setup).2.writer.markers = s.writer.markers ++ labels := by
  have hlabel : ∀ m ∈ Marker.label setup.space, m = Marker.fax := by
    intro m hm
    unfold Marker.label at hm
    split at hm
    · exact List.mem_singleton.mp hm
    · exact absurd hm List.not_mem_nil
  have hdescribed : (describeOutput s.writer (sourceResolution s.reader) setup).markers
      = s.writer.markers ++ Marker.label setup.space :=
    ScanlineTo.markers_describeOutput (D := Writer.destination) _ _ _
  unfold start
  split
  · rename_i hphase
    exact ⟨rfl, fun _ => rfl, [], by simp, by simp⟩
  · rename_i hphase
    have hidle : s.phase = .idle := Classical.not_not.mp hphase
    dsimp only
    split
    · exact ⟨rfl, fun h => absurd hidle h, _, hlabel, hdescribed⟩
    · exact ⟨rfl, fun h => absurd hidle h, _, hlabel, hdescribed⟩
    · split
      · exact ⟨rfl, fun h => absurd hidle h, _, hlabel, hdescribed⟩
      · exact ⟨rfl, fun h => absurd hidle h, _, hlabel, hdescribed⟩

/-- Finishing hands the surviving markers over if no row is left, whether it then fails or not. -/
theorem markers_of_finish {outcome : Except Failure Unit}
    (h : s.finish.run v w = (.ok (outcome, s'), w')) :
    s'.reader.markers = s.reader.markers
      ∧ s'.survivors = s.survivors
      ∧ (∀ e, outcome = .error e → s'.phase = s.phase)
      ∧ s'.writer.markers
        = s.writer.markers ++ (List.replicate s.isExhausted.toNat s.survivors).flatten := by
  have hclosed : ({ s with reader := s.reader.closed } : Scanline).survivingMarkers
      = s.survivingMarkers := rfl
  unfold finish at h
  split at h
  · rename_i hphase
    have hnot : s.isExhausted = false := by simp [isExhausted, hphase]
    simp only [Work.run_pure, Prod.mk.injEq, Except.ok.injEq] at h
    obtain ⟨⟨-, rfl⟩, -⟩ := h
    simp [hnot]
  · rename_i hphase
    have hstreaming : s.phase = .streaming := Classical.not_not.mp hphase
    split at h
    · rename_i hleft
      have hnot : s.isExhausted = false := by
        simpa [isExhausted, hstreaming] using hleft
      simp only [Work.run_pure, Prod.mk.injEq, Except.ok.injEq] at h
      obtain ⟨⟨-, rfl⟩, -⟩ := h
      simp [hnot]
    · rename_i hdone
      have hexhausted : s.isExhausted = true := by
        simpa [isExhausted, hstreaming] using hdone
      rw [Work.run_bind_of_ok (s.reader.run_close v w)] at h
      cases hmarkers : ({ s with reader := s.reader.closed } : Scanline).survivingMarkers with
      | error f =>
        have hnone : s.survivors = [] := by
          rw [survivors, ← hclosed, hmarkers]
          rfl
        simp only [hmarkers, Work.run_pure, Prod.mk.injEq, Except.ok.injEq] at h
        obtain ⟨⟨-, rfl⟩, -⟩ := h
        exact ⟨rfl, rfl, fun _ _ => rfl, by simp [hnone]⟩
      | ok markers =>
        have hsome : s.survivors = markers := by
          rw [survivors, ← hclosed, hmarkers]
          rfl
        simp only [hmarkers, Work.run_bind_of_ok (Work.run_outcome _)] at h
        split at h
        · simp only [Work.run_pure, Prod.mk.injEq, Except.ok.injEq] at h
          obtain ⟨⟨-, rfl⟩, -⟩ := h
          exact ⟨rfl, rfl, fun _ _ => rfl, by simp [hexhausted, hsome, Writer.addMarkers]⟩
        · simp only [Work.run_pure, Prod.mk.injEq, Except.ok.injEq] at h
          obtain ⟨⟨rfl, rfl⟩, -⟩ := h
          refine ⟨rfl, rfl, ?_, by simp [hexhausted, hsome, Writer.addMarkers]⟩
          intro e he
          cases he

/-- What several calls have made of the markers: those of the source are as they were, and the
writer has, behind the labels, the surviving ones as often as finishing failed with no row left. A
run that has finished is past further calls. -/
structure HasHanded (source : List Marker) (k : Nat) (s : Scanline) : Prop where
  source : s.reader.markers = source
  idle : s.phase = .idle → k = 0
  markers : s.phase ≠ .finished → ∃ labels, (∀ m ∈ labels, m = Marker.fax)
    ∧ s.writer.markers = labels ++ (List.replicate k s.survivors).flatten

namespace HasHanded

variable {source : List Marker} {k : Nat}

/-- What changes no marker leaves what was handed over. -/
theorem of_keepsMarkers (h : s.HasHanded source k) (hkeeps : KeepsMarkers s s') :
    s'.HasHanded source k where
  source := hkeeps.source.trans h.source
  idle hidle := h.idle (hkeeps.phase ▸ hidle)
  markers hphase := by
    rw [hkeeps.phase] at hphase
    obtain ⟨labels, hlabels, hmarkers⟩ := h.markers hphase
    exact ⟨labels, hlabels, by rw [hkeeps.markers, hkeeps.survivors, hmarkers]⟩

/-- Starting hands nothing over. -/
theorem start (h : s.HasHanded source k) (setup : Setup) :
    (s.start setup).2.HasHanded source k := by
  obtain ⟨hreader, hrefused, labels', hlabels', hmarkers'⟩ := s.markers_start setup
  by_cases hidle : s.phase = .idle
  · -- an idle run has handed nothing over, so what survives does not matter yet
    have hk : k = 0 := h.idle hidle
    subst hk
    obtain ⟨labels, hlabels, hmarkers⟩ := h.markers (by simp [hidle])
    refine ⟨by rw [hreader, h.source], fun _ => rfl, fun _ => ⟨labels ++ labels', ?_, ?_⟩⟩
    · intro m hm
      exact (List.mem_append.mp hm).elim (hlabels m) (hlabels' m)
    · simpa [hmarkers] using hmarkers'
  · rw [hrefused hidle]
    exact h

/-- Finishing hands the surviving markers over once more if it fails late. -/
theorem finish (h : s.HasHanded source k) (v : Services) (w : World) :
    (s.perform (.finish v w)).HasHanded source (k + (s.failsLate (.finish v w)).toNat) := by
  obtain ⟨outcome, s', w', hfinish⟩ := s.exists_finish v w
  obtain ⟨hsource, hsurvivors, hphase, hmarkers⟩ := markers_of_finish hfinish
  have hperform : s.perform (.finish v w) = s' := by simp [perform, hfinish]
  rw [hperform]
  cases outcome with
  | ok _ =>
    obtain ⟨-, -, markers, -, -, hend⟩ := finish_ok_iff.mp hfinish
    exact ⟨hsource.trans h.source, by simp [hend], by simp [hend]⟩
  | error e =>
    have hlate : s.failsLate (.finish v w) = s.isExhausted := by simp [failsLate, hfinish]
    have hsame : s'.phase = s.phase := hphase e rfl
    rw [hlate]
    refine ⟨hsource.trans h.source, ?_, ?_⟩
    · intro hidle
      rw [hsame] at hidle
      simp [h.idle hidle, isExhausted, hidle]
    · intro hfinished
      rw [hsame] at hfinished
      obtain ⟨labels, hlabels, hbefore⟩ := h.markers hfinished
      refine ⟨labels, hlabels, ?_⟩
      rw [hmarkers, hsurvivors, hbefore, List.append_assoc, ← List.flatten_append,
        List.replicate_append_replicate]

/-- A call hands the surviving markers over once more if it is one to finish that fails late. -/
theorem perform (h : s.HasHanded source k) (c : Call) :
    (s.perform c).HasHanded source (k + (s.failsLate c).toNat) := by
  cases c with
  | start setup => exact h.start setup
  | step => exact h.of_keepsMarkers s.keepsMarkers_step
  | brokenStep point =>
    unfold Scanline.perform
    dsimp only
    split
    · exact h.of_keepsMarkers (s.keepsMarkers_breakOff point)
    · exact h
  | finish services world => exact h.finish services world

/-- Several calls hand the surviving markers over as often as finishing fails late among them. -/
theorem after (h : s.HasHanded source k) (calls : List Call) :
    (s.after calls).HasHanded source (k + s.lateFailures calls) := by
  -- the run and what it has handed over so far change with each call
  induction calls generalizing s k with
  | nil => exact h
  | cons c rest ih =>
    have hrest := ih (h.perform c)
    rw [Nat.add_assoc] at hrest
    exact hrest

end HasHanded

/-- What survives stands among the source's markers, as often as there, and is no label. -/
theorem count_of_mem_survivors {m : Marker} (hm : m ∈ s.survivors) :
    s.survivors.count m = s.reader.markers.count m ∧ m ≠ Marker.fax := by
  unfold survivors survivingMarkers at hm ⊢
  cases hjfif : s.writer.writesJfif with
  | error f => simp [hjfif, Except.toOption] at hm
  | ok jfif =>
    simp only [hjfif, Except.toOption, Option.getD_some] at hm ⊢
    obtain ⟨hm, hcarried⟩ := List.mem_filter.mp hm
    obtain ⟨-, hnot⟩ := List.mem_filter.mp hm
    have hkept : (s.reader.markers.filter fun m => !m.isFax).count m = s.reader.markers.count m :=
      List.count_filter (p := fun m : Marker => !m.isFax) hnot
    constructor
    · exact (List.count_filter (p := fun m : Marker => !(jfif && m.isJfif)
        && !(s.writer.writesAdobe && m.isAdobe)) hcarried).trans hkept
    · rintro rfl
      simp [Marker.isFax_fax] at hnot

/-- After any calls to a fresh run, finishing that fails leaves the markers of the writer if a row
is left, and hands the surviving ones over otherwise. So a picture that is written carries each
surviving marker of the source as often as the source does, once for the call that wrote it and
once for each earlier one that failed with no row left. -/
theorem repeats_after (reader : Reader) (writer : Writer) (hfresh : writer.markers = [])
    (calls : List Call) (v : Services) (w w' : World) (outcome : Except Failure Unit)
    (s' : Scanline) :
    let r : Scanline := { reader, writer }
    let s := r.after calls
    s.finish.run v w = (.ok (outcome, s'), w') →
      match outcome with
      | .error _ =>
        s'.writer.markers = s.writer.markers ++ if s.isExhausted then s.survivors else []
      | .ok () => ∃ options labels, w'.jobs = w.jobs ++ [s'.writer.job options]
        ∧ Marker.toSegments s'.writer.markers = .ok (options.extra.getD [])
        ∧ s'.writer.markers
          = labels ++ (List.replicate (r.lateFailures calls + 1) s.survivors).flatten
        ∧ (∀ m ∈ labels, m = Marker.fax)
        ∧ ∀ m ∈ s.survivors, s'.writer.markers.count m
          = (r.lateFailures calls + 1) * reader.markers.count m := by
  intro r s hfinish
  obtain ⟨-, -, -, hmarkers⟩ := markers_of_finish hfinish
  cases outcome with
  | error e =>
    dsimp only
    rw [hmarkers]
    cases s.isExhausted <;> simp
  | ok _ =>
    have hfreshly : r.HasHanded reader.markers 0 :=
      ⟨rfl, fun _ => rfl, fun _ => ⟨[], by simp, by simp [r, hfresh]⟩⟩
    have hafter : s.HasHanded reader.markers (r.lateFailures calls) := by
      simpa using hfreshly.after calls
    obtain ⟨hphase, hdone, -⟩ := finish_ok_iff.mp hfinish
    obtain ⟨-, options, hoptions, hjobs⟩ := jobs_of_finish hfinish
    obtain ⟨labels, hlabels, hbefore⟩ := hafter.markers (by simp [hphase])
    have hexhausted : s.isExhausted = true := by simp [isExhausted, hphase, hdone]
    have hall : s'.writer.markers
        = labels ++ (List.replicate (r.lateFailures calls + 1) s.survivors).flatten := by
      rw [hmarkers, hbefore, hexhausted, List.append_assoc, ← List.flatten_append,
        List.replicate_append_replicate]
      rfl
    refine ⟨options, labels, hjobs, Writer.extra_of_saveOptions hoptions, hall, hlabels, ?_⟩
    intro m hm
    obtain ⟨hcount, hfax⟩ := count_of_mem_survivors hm
    have hlabel : labels.count m = 0 :=
      List.count_eq_zero_of_not_mem fun hin => hfax (hlabels m hin)
    rw [hall, List.count_append, hlabel, List.count_flatten, List.map_replicate,
      List.sum_replicate_nat, hcount, hafter.source, Nat.zero_add]

end Scanline

/-- An encoder with no room to write to. -/
def fullDisk : Services :=
  { columnServices with codec := Codec.ofPictures [] (some (.raised .system "disk full")) }

/-- Calls that take all steps, and fail to finish because there is no room. -/
def retryCalls : List Call :=
  [.start labelledSetup, .step, .finish fullDisk {}]

/-- What these calls leave: the markers are handed over, and the run has not finished. -/
def retriedRun : Scanline :=
  { mixedStream with
    reader := mixedStream.reader.closed
    writer := mixedStream.writer.addMarkers (mixedMarkers.drop 2) }

/-- What is left once there is room: the markers are handed over again. -/
def retriedResult : Scanline :=
  { retriedRun with
    reader := retriedRun.reader.closed
    writer := retriedRun.writer.addMarkers (mixedMarkers.drop 2)
    phase := .finished }

namespace Scanline

/-- Finishing again succeeds once there is room. -/
theorem exists_finish_retried : ∃ w',
    retriedRun.finish.run columnServices {} = (.ok (.ok (), retriedResult), w') := by
  obtain ⟨w', hencode⟩ : ∃ w', (Work.encode (retriedResult.writer.job
      { quality := .int 75, fullChroma := true
        extra := (Marker.toSegments retriedResult.writer.markers).toOption })).run columnServices
      (({} : World).note (.closed retriedRun.reader.path)) = (.ok (), w') :=
    ⟨_, Work.run_encode_ok_iff.mpr ⟨_, _, rfl, FileTree.write_name isPlain_out [7]
      (by simp [World.note]), rfl⟩⟩
  exact ⟨w', finish_ok_iff.mpr ⟨rfl, rfl, _, rfl,
    Writer.finish_ok_iff.mpr ⟨rfl, _, rfl, hencode⟩, rfl⟩⟩

/-- Of a run that failed to finish once for want of room, each surviving marker is written twice
as often as the source has it. -/
theorem repeats_retried : ∃ w', retriedRun.finish.run columnServices {}
      = (.ok (.ok (), retriedResult), w')
    ∧ ∀ m ∈ mixedMarkers.drop 2,
      retriedResult.writer.markers.count m = 2 * mixedMarkers.count m := by
  obtain ⟨w', hfinish⟩ := exists_finish_retried
  have hrepeats := repeats_after mixedRun.reader mixedRun.writer rfl retryCalls columnServices {} w'
    (.ok ()) retriedResult hfinish
  obtain ⟨options, labels, -, -, -, -, hcount⟩ := hrepeats
  exact ⟨w', hfinish, hcount⟩

/-- Finishing that fails does not leave the markers of every writer, and not every picture that is
written carries the surviving markers as often as its source. -/
theorem not_forall_finish_keeps_markers :
    (¬∀ (reader : Reader) (writer : Writer) (calls : List Call) (v : Services) (w w' : World)
      (e : Failure) (s' : Scanline), writer.markers = [] →
      (({ reader, writer } : Scanline).after calls).finish.run v w = (.ok (.error e, s'), w') →
        s'.writer.markers = (({ reader, writer } : Scanline).after calls).writer.markers)
    ∧ ¬∀ (reader : Reader) (writer : Writer) (calls : List Call) (v : Services) (w w' : World)
      (s' : Scanline), writer.markers = [] →
      (({ reader, writer } : Scanline).after calls).finish.run v w = (.ok (.ok (), s'), w') →
        ∀ m ∈ (({ reader, writer } : Scanline).after calls).survivors,
          s'.writer.markers.count m = reader.markers.count m := by
  constructor
  · intro hkeeps
    have hsame := hkeeps mixedRun.reader mixedRun.writer [.start labelledSetup, .step] fullDisk {} _
      _ retriedRun rfl rfl
    exact absurd hsame (by decide +kernel)
  · intro hcarries
    obtain ⟨w', hfinish⟩ := exists_finish_retried
    have hcount := hcarries mixedRun.reader mixedRun.writer retryCalls columnServices {} w'
      retriedResult rfl hfinish { tag := Marker.app 1, payload := [] } (by decide +kernel)
    exact absurd hcount (by decide +kernel)

end Scanline

end Recolor
