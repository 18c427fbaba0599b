import Recolor.Profile.Link

/-!
# What loading a device link takes

A device link is loaded exactly if its header can be read and states usable spaces, its tags can
be read, there is a tag for the intent, and that tag's tables can be read with the channels of the
two spaces. The profile is then made of these tables, and nothing else of the file enters it.
-/

set_option autoImplicit false

namespace Recolor.Link

/-- The steps of loading a device link. -/
theorem load_ok_iff {data : Bytes} {name : String} {intent : Int} {p : SampledProfile} :
    load data name intent = .ok p ↔ ∃ header source target tags tag tables,
      Header.parse data = .ok header ∧ readSpaces header name = .ok (source, target)
      ∧ readTags data = .ok tags ∧ chooseTag? tags intent = some tag
      ∧ readTables (Bytes.window data tag.offset tag.size) (source.channels?.getD 0)
          (target.channels?.getD 0) = .ok tables
      ∧ p = profile name source target tables := by
  constructor
  · intro h
    unfold load at h
    cases hheader : Header.parse data with
    | error e => simp [hheader] at h
    | ok header =>
      cases hspaces : readSpaces header name with
      | error e => simp [hheader, hspaces] at h
      | ok spaces =>
        cases htags : readTags data with
        | error e => simp [hheader, hspaces, htags] at h
        | ok tags =>
          cases htag : chooseTag? tags intent with
          | none => simp [hheader, hspaces, htags, htag] at h
          | some tag =>
            simp only [hheader, hspaces, htags, htag] at h
            split at h
            · simp at h
            · rename_i tables htables
              simp only [Except.ok.injEq] at h
              exact ⟨header, spaces.1, spaces.2, tags, tag, tables, rfl, hspaces, rfl, htag,
                htables, h.symm⟩
  · rintro ⟨header, source, target, tags, tag, tables, hheader, hspaces, htags, htag, htables, rfl⟩
    simp only [load, hheader, hspaces, htags, htag, htables]

/-- What is loaded is a device link. -/
theorem isLink_of_load {data : Bytes} {name : String} {intent : Int} {p : SampledProfile}
    (h : load data name intent = .ok p) : p.deviceClass = .link ∧ p.direction = .deviceLink := by
  obtain ⟨-, source, target, -, -, tables, -, -, -, -, -, rfl⟩ := load_ok_iff.mp h
  exact ⟨rfl, rfl⟩

end Recolor.Link
