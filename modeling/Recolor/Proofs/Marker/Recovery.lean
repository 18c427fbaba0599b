import Recolor.Proofs.Marker.Segments

/-!
# Recovering the markers of a picture

The encoder is handed the segments of a writer's markers in one piece. Reading that piece gives the
markers back, whatever their payloads hold (`Writer.recovers_markers`).
-/

set_option autoImplicit false

namespace Recolor.Writer

/-- The options to save a picture with can be told if the resolution is one of floating-point
numbers and every marker has a segment. -/
theorem exists_saveOptions_iff {w : Writer} :
    (∃ options, w.saveOptions = .ok options)
      ↔ (∃ density, w.dotsPerInch = .ok density)
        ∧ ∃ data, Marker.toSegments w.markers = .ok data := by
  unfold saveOptions
  cases w.dotsPerInch with
  | error f => simp
  | ok density =>
    cases Marker.toSegments w.markers with
    | error f => simp
    | ok data => simp

/-- The segments that a writer hands to the encoder, read one after another, are exactly its
markers in order, and those of no other list of markers; without markers no segments are handed
over. A marker is refused a segment exactly if its tag or the length of its payload is out of
bounds. -/
theorem recovers_markers {w : Writer} (hmarkers : ∀ m ∈ w.markers, m.HasSegment) :
    ((∃ options, w.saveOptions = .ok options) ↔ ∃ density, w.dotsPerInch = .ok density)
      ∧ (∀ options, w.saveOptions = .ok options →
        (options.extra = none ↔ w.markers = [])
          ∧ Marker.readSegments? (options.extra.getD []) = some w.markers
          ∧ ∀ (w' : Writer) (options' : SaveOptions), w'.saveOptions = .ok options' →
            options'.extra = options.extra → w'.markers = w.markers)
      ∧ ∀ m : Marker, (∃ f, m.toSegment = .error f) ↔ ¬ m.HasSegment := by
  have hdata : ∃ data, Marker.toSegments w.markers = .ok data :=
    ⟨_, Marker.toSegments_ok_iff.mpr ⟨hmarkers, rfl⟩⟩
  refine ⟨?_, ?_, fun m => Marker.exists_toSegment_error_iff⟩
  · rw [exists_saveOptions_iff, and_iff_left hdata]
  · intro options hoptions
    have hread : Marker.readSegments? (options.extra.getD []) = some w.markers :=
      Marker.readSegments?_eq_some_iff.mpr (extra_of_saveOptions hoptions)
    refine ⟨extra_eq_none_iff hoptions, hread, ?_⟩
    intro w' options' hoptions' hsame
    have hread' : Marker.readSegments? (options'.extra.getD []) = some w'.markers :=
      Marker.readSegments?_eq_some_iff.mpr (extra_of_saveOptions hoptions')
    rw [hsame, hread] at hread'
    exact (Option.some.inj hread').symm

/-- A writer of two markers; the payload of the first looks like a segment itself. -/
def nestedMarkers : Writer where
  path := Path.ofString "out.jpg"
  width := 1
  height := 1
  mode := .gray
  quality := Quality.standard
  markers := [{ tag := 225, payload := [255, 224, 0, 2] }, { tag := 0, payload := [] }]

/-- Markers are recovered whose payloads look like segments themselves. -/
theorem recovers_markers_nested :
    (∀ m ∈ nestedMarkers.markers, m.HasSegment)
      ∧ Marker.readSegments? [255, 225, 0, 6, 255, 224, 0, 2, 255, 0, 0, 2]
        = some nestedMarkers.markers := by
  have hmarkers : ∀ m ∈ nestedMarkers.markers, m.HasSegment := by decide
  have hdensity : ∃ density, nestedMarkers.dotsPerInch = .ok density := ⟨none, rfl⟩
  obtain ⟨hsaves, hextra, -⟩ := recovers_markers hmarkers
  obtain ⟨options, hoptions⟩ := hsaves.mpr hdensity
  obtain ⟨-, hread, -⟩ := hextra options hoptions
  cases hoptions
  exact ⟨hmarkers, hread⟩

end Recolor.Writer
