import Recolor.World

/-!
# Files in the working folder

A path of one plain name leads to the place of that name. A file can be put there unless a
folder stands there, and what was put there is read back.
-/

set_option autoImplicit false

namespace Recolor.FileTree

/-- A name that the system takes for an entry of a folder. -/
structure IsPlain (name : String) : Prop where
  encodable : Text.Surrogate.isEncodable name = true
  noNul : '\x00' ∉ name.toList
  short : name.utf8ByteSize ≤ longestName
  notEmpty : name ≠ ""
  notDots : name ≠ ".."

instance (name : String) : Decidable (IsPlain name) :=
  decidable_of_iff (Text.Surrogate.isEncodable name = true ∧ '\x00' ∉ name.toList
      ∧ name.utf8ByteSize ≤ longestName ∧ name ≠ "" ∧ name ≠ "..")
    ⟨fun ⟨hencodable, hnul, hshort, hempty, hdots⟩ => ⟨hencodable, hnul, hshort, hempty, hdots⟩,
      fun h => ⟨h.encodable, h.noNul, h.short, h.notEmpty, h.notDots⟩⟩

/-- The text of a relative path with one component is that component. -/
theorem toString_single {name : String} (h : name ≠ "") :
    Path.toString { parts := [name] } = name := by
  have hne : name.toList ≠ [] := by
    intro hnil
    exact h (String.toList_eq_nil_iff.mp hnil)
  cases hchars : name.toList with
  | nil => exact absurd hchars hne
  | cons c rest =>
    simp only [Path.toString, Path.rootText, List.map, Path.joinSlash, List.nil_append, hchars]
    rw [← hchars, String.ofList_toList]

/-- The text of a path of one name is that name. -/
theorem toString_name {name : String} (h : IsPlain name) :
    Path.toString { parts := [name] } = name :=
  toString_single h.notEmpty

/-- A path is handed to the system if its text is short, can be encoded and holds no NUL
character. -/
theorem checkText_ok {p : Path} (hencodable : Text.Surrogate.isEncodable p.toString = true)
    (hnul : '\x00' ∉ p.toString.toList) (hshort : p.toString.utf8ByteSize ≤ longestPath) :
    checkText p = .ok () := by
  have hlength : ¬longestPath < p.toString.utf8ByteSize := Nat.not_lt.mpr hshort
  simp [checkText, hencodable, hnul, hlength]

/-- A path that holds a NUL character is refused for it. -/
theorem checkText_of_nul {p : Path} (hencodable : Text.Surrogate.isEncodable p.toString = true)
    (hnul : '\x00' ∈ p.toString.toList) : checkText p = .error .holdsNul := by
  simp [checkText, hencodable, hnul]

/-- A plain name leads to an entry of the working folder, whatever stands there. -/
theorem place_name {name : String} (h : IsPlain name) (t : FileTree) :
    t.place { parts := [name] } = .ok [name] := by
  have hlength : name.utf8ByteSize ≤ longestPath := by
    have := h.short
    simp only [longestName, longestPath] at *
    omega
  have hname : ¬longestName < name.utf8ByteSize := Nat.not_lt.mpr h.short
  have htext : checkText { parts := [name] } = .ok () := by
    refine checkText_ok ?_ ?_ ?_ <;> rw [toString_name h]
    · exact h.encodable
    · exact h.noNul
    · exact hlength
  simp [place, htext, walk, at?, isAbove, h.notDots, hname]

/-- A name that is too long leads nowhere, also if a path may be as long. -/
theorem node_of_overlong {name : String} (hencodable : Text.Surrogate.isEncodable name = true)
    (hnul : '\x00' ∉ name.toList) (hdots : name ≠ "..") (hlong : longestName < name.utf8ByteSize)
    (hpath : name.utf8ByteSize ≤ longestPath) (t : FileTree) :
    t.node { parts := [name] } = .error .tooLong := by
  have hempty : name ≠ "" := by
    rintro rfl
    simp at hlong
  have htext : checkText { parts := [name] } = .ok () := by
    refine checkText_ok ?_ ?_ ?_ <;> rw [toString_single hempty]
    · exact hencodable
    · exact hnul
    · exact hpath
  simp [node, place, htext, walk, at?, isAbove, hdots, hlong]

/-- A file is put at a plain name unless a folder stands there. -/
theorem write_name {name : String} (h : IsPlain name) {t : FileTree} (content : Bytes)
    (hfree : t.nodes.lookup [name] ≠ some .folder) :
    t.write { parts := [name] } content = .ok (t.put [name] (.file content)) := by
  have habove : isAbove [name] = false := by simp [isAbove, h.notDots]
  simp only [write, writable, place_name h, at?, habove]
  cases hnode : t.nodes.lookup [name] with
  | none => simp
  | some node =>
    cases node with
    | folder => exact absurd hnode hfree
    | file c => simp

/-- A plain name leads to what stands in its place. -/
theorem node_name {name : String} (h : IsPlain name) {t : FileTree} {n : FileNode}
    (hnode : t.nodes.lookup [name] = some n) : t.node { parts := [name] } = .ok n := by
  have habove : isAbove [name] = false := by simp [isAbove, h.notDots]
  simp [node, place_name h, at?, habove, hnode]

/-- What stands at a plain name is read. -/
theorem read_name {name : String} (h : IsPlain name) {t : FileTree} {content : Bytes}
    (hfile : t.nodes.lookup [name] = some (.file content)) :
    t.read { parts := [name] } = .ok content := by
  simp [read, node_name h hfile]

/-- Two plain names lead to an entry of a folder that is there. -/
theorem place_entry {folder name : String} (hfolder : IsPlain folder) (hname : IsPlain name)
    {t : FileTree} (hthere : t.nodes.lookup [folder] = some .folder)
    (htext : checkText { parts := [folder, name] } = .ok ()) :
    t.place { parts := [folder, name] } = .ok [folder, name] := by
  have hshort : ¬longestName < folder.utf8ByteSize := Nat.not_lt.mpr hfolder.short
  have hshort' : ¬longestName < name.utf8ByteSize := Nat.not_lt.mpr hname.short
  simp [place, htext, walk, at?, isAbove, hfolder.notDots, hname.notDots, hshort, hshort', hthere]

/-- The file that stands under a name in a folder is read there. -/
theorem read_entry {folder name : String} (hfolder : IsPlain folder) (hname : IsPlain name)
    {t : FileTree} (hthere : t.nodes.lookup [folder] = some .folder)
    (htext : checkText { parts := [folder, name] } = .ok ()) {content : Bytes}
    (hfile : t.nodes.lookup [folder, name] = some (.file content)) :
    t.read { parts := [folder, name] } = .ok content := by
  have hplace := place_entry hfolder hname hthere htext
  simp [read, node, hplace, at?, isAbove, hfolder.notDots, hfile]

/-- The entries of a folder with a plain name are listed. -/
theorem list_name {name : String} (h : IsPlain name) {t : FileTree}
    (hthere : t.nodes.lookup [name] = some .folder) :
    t.list { parts := [name] } = .ok (t.entries [name]) := by
  simp only [list, node_name h hthere, place_name h]

/-- A file that can be read is there. -/
theorem hasPath_of_read {t : FileTree} {p : Path} {content : Bytes} (h : t.read p = .ok content) :
    t.hasPath p = .ok true := by
  unfold read at h
  unfold hasPath leadsTo
  cases hnode : t.node p with
  | error e => simp [hnode] at h
  | ok n => rfl

/-! ## Refusals -/

section Refusals

variable {t : FileTree} {p : Path} {e : FileFault}

/-- A walk ends in front of nothing, at a file, or at a name that is too long. -/
theorem refusal_of_walk {start parts : List String} (h : t.walk start parts = .error e) :
    e = .missing ∨ e = .notFolder ∨ e = .tooLong := by
  induction parts generalizing start with
  | nil => simp [walk] at h
  | cons part rest ih =>
    unfold walk at h
    split at h
    · cases h
      exact .inl rfl
    · cases h
      exact .inr (.inl rfl)
    · split at h
      · exact ih h
      · split at h
        · cases h
          exact .inr (.inr rfl)
        · exact ih h

/-- A path is refused before it is followed for a half of a pair, for a NUL character or for its
length. -/
theorem refusal_of_checkText (h : checkText p = .error e) :
    e = .holdsHalf ∨ e = .holdsNul ∨ e = .tooLong := by
  unfold checkText at h
  dsimp only at h
  split at h
  · cases h
    exact .inl rfl
  · split at h
    · cases h
      exact .inr (.inl rfl)
    · split at h
      · cases h
        exact .inr (.inr rfl)
      · cases h

/-- A path is refused by its text, or on the way to its place. -/
theorem refusal_of_place (h : t.place p = .error e) :
    checkText p = .error e ∨ e = .missing ∨ e = .notFolder ∨ e = .tooLong := by
  unfold place at h
  split at h
  · rename_i e' htext
    cases h
    exact .inl htext
  · right
    split at h
    · exact refusal_of_walk h
    · cases h
      exact .inl rfl

/-- A path leads nowhere because nothing is there, or because it is too long to be asked about. -/
theorem refusal_of_node (h : t.node p = .error e) : e.isAbsence = true ∨ e = .tooLong := by
  unfold node at h
  split at h
  · cases h
  · split at h
    · rename_i e' hplace
      cases h
      rcases refusal_of_place hplace with htext | rfl | rfl | rfl
      · rcases refusal_of_checkText htext with rfl | rfl | rfl
        · exact .inl rfl
        · exact .inl rfl
        · exact .inr rfl
      · exact .inl rfl
      · exact .inl rfl
      · exact .inr rfl
    · split at h
      · cases h
      · cases h
        exact .inl rfl

/-- Only a path that is too long makes it a failure to ask what it leads to. -/
theorem refusal_of_leadsTo {isIt : FileNode → Bool} (h : t.leadsTo isIt p = .error e) :
    e = .tooLong := by
  unfold leadsTo at h
  split at h
  · cases h
  · rename_i e' hnode
    split at h
    · cases h
    · rename_i hthere
      cases h
      exact (refusal_of_node hnode).resolve_left hthere

/-- A path that is handed to the system, which may find it too long. -/
def IsHandedOn (p : Path) : Prop :=
  ∀ e, checkText p = .error e → e = .tooLong

/-- A path is handed to the system exactly if it can be encoded and holds no NUL character. -/
theorem isHandedOn_iff :
    IsHandedOn p ↔ Text.Surrogate.isEncodable p.toString = true ∧ '\x00' ∉ p.toString.toList := by
  unfold IsHandedOn checkText
  by_cases hencodable : Text.Surrogate.isEncodable p.toString = true
  · by_cases hnul : '\x00' ∈ p.toString.toList
    · simp [hencodable, hnul]
    · by_cases hlong : longestPath < p.toString.utf8ByteSize
      · simp [hencodable, hnul, hlong]
      · simp [hencodable, hnul, hlong]
  · simp [hencodable]

/-- Of a path that is handed on only the system refuses to make a file. -/
theorem isSystem_of_writable (hp : IsHandedOn p) (h : t.writable p = .error e) :
    (Fault.file e p).isSystem = true := by
  unfold writable at h
  split at h
  · cases h
    rfl
  · split at h
    · rename_i e' hplace
      cases h
      rcases refusal_of_place hplace with htext | rfl | rfl | rfl
      · rw [hp e htext]
        rfl
      · rfl
      · rfl
      · rfl
    · split at h
      · cases h
        rfl
      · cases h

/-- A path that is not handed on is refused for its text, whatever files there are. -/
theorem writable_of_checkText (h : checkText p = .error e) : t.writable p = .error e := by
  have hparts : ¬(p.root ≠ .relative ∧ p.parts.isEmpty = true) := by
    rintro ⟨-, hempty⟩
    obtain ⟨root, parts⟩ := p
    cases List.isEmpty_iff.mp hempty
    have htext : checkText { root, parts := [] } = .ok () := by
      refine checkText_ok ?_ ?_ ?_ <;> cases root <;> decide +kernel
    rw [htext] at h
    cases h
  have hplace : t.place p = .error e := by simp [place, h]
  simp only [writable, if_neg hparts, hplace]

end Refusals

end Recolor.FileTree
