import Recolor.Profile.Search
import Recolor.Proofs.Files.Bytes
import Recolor.Proofs.Files.Tree

/-!
# Installed profiles and their headers

The header of an installed file is read twice: when folders are searched, which only asks for its
length, its mark, its space and that it is no device link, and when the file is opened, which also
wants the letters of a known device class. So the search may come upon a file that cannot be
opened. `isProfileOf_iff_of_scanned` says that this is the only disagreement: what is found opens as
a profile of the space that was searched for exactly if its class is a known one.
-/

set_option autoImplicit false

namespace Recolor

namespace Header

/-- The magic letters are found in the header alone. -/
theorem hasMagic_take (data : Bytes) : hasMagic (data.take length) = hasMagic data := by
  rw [hasMagic, hasMagic, Bytes.window_take (by decide)]

/-- The letters of the class are found in the header alone. -/
theorem classSignature_take (data : Bytes) :
    classSignature (data.take length) = classSignature data := by
  rw [classSignature, classSignature, Bytes.window_take (by decide)]

/-- The letters of the space are found in the header alone. -/
theorem spaceLetters_take (data : Bytes) : spaceLetters (data.take length) = spaceLetters data := by
  rw [spaceLetters, spaceLetters, Bytes.window_take (by decide)]

/-- Whether the letters of the device class are those of a known one. -/
def HasKnownClass (data : Bytes) : Prop :=
  (DeviceClass.ofSignature? (classSignature data)).isSome

end Header

namespace Installed

/-- Data that opens as a profile of a space and is no device link. -/
def IsProfileOf (space : Space) (data : Bytes) : Prop :=
  ∃ header, Header.parse data = .ok header ∧ header.space = some space
    ∧ header.deviceClass ≠ .link

variable {files : FileTree} {space : Space} {data : Bytes}

/-- What the search takes a file to be by its first bytes. -/
theorem headerSpace?_eq_some_iff : headerSpace? data = some space ↔
    Header.length ≤ data.length ∧ Header.hasMagic data = true
      ∧ Header.classSignature data ≠ DeviceClass.link.signature
      ∧ Space.ofSignature? (Header.spaceLetters data) = some space := by
  unfold headerSpace?
  split
  · rename_i h
    simp only [Bool.or_eq_true, Bool.not_eq_true', decide_eq_true_eq, beq_iff_eq] at h
    refine ⟨fun h => by simp at h, fun ⟨hlength, hmagic, hclass, _⟩ => ?_⟩
    rcases h with (hshort | hnone) | hlink
    · omega
    · simp [hnone] at hmagic
    · exact absurd hlink hclass
  · rename_i h
    simp only [Bool.or_eq_true, Bool.not_eq_true', decide_eq_true_eq, beq_iff_eq, not_or,
      Nat.not_lt, Bool.not_eq_false] at h
    obtain ⟨⟨hlength, hmagic⟩, hclass⟩ := h
    exact ⟨fun hspace => ⟨hlength, hmagic, hclass, hspace⟩, fun h => h.2.2.2⟩

/-- Data with the mark of a profile and an unknown class does not open, for that reason. -/
theorem parse_of_not_hasKnownClass (hlength : Header.length ≤ data.length)
    (hmagic : Header.hasMagic data = true) (hclass : ¬Header.HasKnownClass data) :
    Header.parse data = .error (.unknownClass (Header.classSignature data)) := by
  have hnone : DeviceClass.ofSignature? (Header.classSignature data) = none := by
    simpa [Header.HasKnownClass] using hclass
  simp only [Header.parse, if_neg (Nat.not_lt.mpr hlength), hmagic, hnone]
  rfl

/-- A class that is known by other letters than those of device links is none. -/
theorem ne_link_of_ofSignature? {letters : String} {deviceClass : DeviceClass}
    (h : DeviceClass.ofSignature? letters = some deviceClass)
    (hletters : letters ≠ DeviceClass.link.signature) : deviceClass ≠ .link := by
  rintro rfl
  have hsame := List.find?_some h
  rw [beq_iff_eq] at hsame
  exact hletters hsame.symm

/-- What the search takes for a profile of a space opens as one if its class is a known one, and
fails to open for its class otherwise. -/
theorem isProfileOf_iff_of_scanned (h : headerSpace? (data.take Header.length) = some space) :
    (IsProfileOf space data ↔ Header.HasKnownClass data)
      ∧ (¬Header.HasKnownClass data →
        Header.parse data = .error (.unknownClass (Header.classSignature data))) := by
  obtain ⟨hlength, hmagic, hclass, hspace⟩ := headerSpace?_eq_some_iff.mp h
  rw [Header.hasMagic_take] at hmagic
  rw [Header.classSignature_take] at hclass
  rw [Header.spaceLetters_take] at hspace
  have hlong : Header.length ≤ data.length := by
    rw [List.length_take] at hlength
    omega
  have hunknown := parse_of_not_hasKnownClass hlong hmagic
  refine ⟨⟨?_, ?_⟩, hunknown⟩
  · rintro ⟨header, hheader, -, -⟩
    refine Classical.byContradiction fun hnot => ?_
    rw [hunknown hnot] at hheader
    simp at hheader
  · intro hknown
    obtain ⟨deviceClass, hdevice⟩ := Option.isSome_iff_exists.mp hknown
    simp only [IsProfileOf, Header.parse, if_neg (Nat.not_lt.mpr hlong), hmagic, hdevice]
    exact ⟨_, rfl, hspace, ne_link_of_ofSignature? hdevice hclass⟩

/-- What is found in some folder has an extension of profiles and a header of the space. -/
theorem qualifies_of_find {folders : List Path} {p : Path}
    (h : find files (some space) folders = .ok (some p)) :
    qualifies files (some space) p = true := by
  induction folders with
  | nil => simp [find] at h
  | cons folder rest ih =>
    simp only [find] at h
    split at h
    · simp at h
    · split at h
      · rename_i found hfound
        simp only [Except.ok.injEq, Option.some.injEq] at h
        subst h
        exact List.find?_some hfound
      · exact ih h

/-- A file that is found can be read, and its first bytes state the space. -/
theorem read_of_find {folders : List Path} {p : Path}
    (h : find files (some space) folders = .ok (some p)) :
    ∃ data, files.read p = .ok data ∧ headerSpace? (data.take Header.length) = some space := by
  have hqualifies := qualifies_of_find h
  simp only [qualifies, fileSpace?, Bool.and_eq_true, beq_iff_eq] at hqualifies
  obtain ⟨-, hspace⟩ := hqualifies
  split at hspace
  · simp at hspace
  · rename_i data hdata
    exact ⟨data, hdata, hspace⟩

end Installed

/-- A profile's data that is nothing but a header with the letters of class and spaces. -/
def headerOf (letters : String) : Bytes :=
  List.replicate 12 0 ++ Bytes.ofText letters ++ List.replicate 12 0 ++ Bytes.ofText "acsp"
    ++ List.replicate 88 0

end Recolor
