import Recolor.Proofs.Files.Tree

/-!
# Files elsewhere

A file that is written changes what stands at one place, where no folder stood. So it changes no
folder, every path leads where it led before, and what is seen at the end of a path stays the same
unless it leads to that place (`sight_of_elsewhere`). Only which of the refusals that say that nothing
is there the system gives may change, as a file may now stand in the way.
-/

set_option autoImplicit false

namespace Recolor.FileTree

variable {t t' : FileTree} {p q : Path} {place : List String} {content : Bytes}

/-! ## One file that is put -/

/-- Replacing a node that is there changes what is found at its place and nowhere else. -/
theorem lookup_replace (nodes : List (List String × FileNode)) (place other : List String)
    (node : FileNode) :
    (nodes.map fun e => if e.1 = place then (place, node) else e).lookup other
      = if other = place then (nodes.lookup other).map fun _ => node else nodes.lookup other := by
  induction nodes with
  | nil => simp
  | cons e rest ih =>
    obtain ⟨key, value⟩ := e
    by_cases hkey : key = place
    · subst hkey
      by_cases hother : other = key
      · simp [hother]
      · have hne : (other == key) = false := by simpa using hother
        simp only [List.map_cons, if_true, List.lookup_cons, hne, ih, hother, if_false]
    · by_cases hsame : other = key
      · subst hsame
        simp [hkey]
      · have hne : (other == key) = false := by simpa using hsame
        simp only [List.map_cons, hkey, if_false, List.lookup_cons, hne, ih]

/-- What is put at a place stands there, and elsewhere stands what stood there. -/
theorem at?_put (t : FileTree) (hplace : isAbove place = false) (node : FileNode)
    (other : List String) :
    (t.put place node).at? other = if other = place then some node else t.at? other := by
  unfold at?
  by_cases habove : isAbove other = true
  · have hne : other ≠ place := by
      rintro rfl
      simp [hplace] at habove
    simp [habove, hne]
  · simp only [habove, Bool.false_eq_true, if_false]
    unfold put
    split
    · rename_i hthere
      rw [lookup_replace]
      split
      · rename_i hsame
        obtain ⟨found, hfound⟩ := Option.isSome_iff_exists.mp hthere
        rw [hsame, hfound]
        rfl
      · rfl
    · rename_i hfree
      have hnone : t.nodes.lookup place = none := Option.not_isSome_iff_eq_none.mp hfree
      rw [List.lookup_append]
      by_cases hsame : other = place
      · subst hsame
        simp [hnone]
      · have hne : (other == place) = false := by simpa using hsame
        simp [List.lookup_cons, hne, hsame]

/-- A file can be put exactly where a path leads to no folder. -/
theorem writable_ok_iff : t.writable p = .ok place ↔
    ¬(p.root ≠ .relative ∧ p.parts.isEmpty = true) ∧ t.place p = .ok place
      ∧ t.at? place ≠ some .folder := by
  unfold writable
  split
  · rename_i hroot
    simp [hroot]
  · rename_i hroot
    cases hplace : t.place p with
    | error e => simp
    | ok found =>
      simp only [Except.ok.injEq]
      split
      · rename_i hfolder
        constructor
        · intro h
          cases h
        · rintro ⟨-, rfl, h⟩
          exact absurd hfolder h
      · rename_i hfree
        constructor
        · intro h
          cases h
          exact ⟨hroot, rfl, hfree⟩
        · rintro ⟨-, rfl, -⟩
          rfl

/-- A place that can be written to is neither the working folder nor above it. -/
theorem isAbove_of_writable (h : t.writable p = .ok place) : isAbove place = false := by
  obtain ⟨-, -, hfree⟩ := writable_ok_iff.mp h
  unfold at? at hfree
  split at hfree
  · exact absurd rfl hfree
  · simp_all

/-! ## What is seen of a file -/

/-- What is found, if anything. All refusals that say that nothing is there count alike. -/
def seen {α : Type} : Except FileFault α → Except FileFault (Option α)
  | .ok a => .ok (some a)
  | .error e => if e.isAbsence then .ok none else .error e

/-- Something is seen exactly if it is there. -/
theorem seen_eq_some_iff {α : Type} {r : Except FileFault α} {a : α} :
    seen r = .ok (some a) ↔ r = .ok a := by
  cases r with
  | ok b => simp [seen]
  | error e => cases habsent : e.isAbsence <;> simp [seen, habsent]

/-- Whether a refusal is seen as one does not depend on what was asked for. -/
theorem seen_error_congr {α β : Type} {e e' : FileFault}
    (h : seen (.error e : Except FileFault α) = seen (.error e')) :
    seen (.error e : Except FileFault β) = seen (.error e') := by
  simp only [seen] at h ⊢
  cases habsent : e.isAbsence <;> cases habsent' : e'.isAbsence <;> simp_all

/-- What is seen alike is the same if it is there. -/
theorem toOption_eq_of_seen {α : Type} {r r' : Except FileFault α} (h : seen r = seen r') :
    r.toOption = r'.toOption := by
  cases r' with
  | ok a => rw [seen_eq_some_iff.mp h]
  | error e =>
    cases r with
    | error e' => rfl
    | ok a => cases seen_eq_some_iff.mp h.symm

/-- What is seen at the end of a path. -/
def sight (t : FileTree) (p : Path) : Except FileFault (Option FileNode) :=
  seen (t.node p)

/-! ## The same folders -/

/-- Two trees with the same folders. -/
def SameFolders (t t' : FileTree) : Prop :=
  ∀ place, t'.at? place = some .folder ↔ t.at? place = some .folder

/-- Only folders are walked through, and whether nothing or a file is in the way is not seen. -/
theorem SameFolders.walk (h : SameFolders t t') (start parts : List String) :
    seen (t'.walk start parts) = seen (t.walk start parts) := by
  induction parts generalizing start with
  | nil => rfl
  | cons part rest ih =>
    unfold FileTree.walk
    by_cases hfolder : t.at? start = some .folder
    · rw [hfolder, (h start).mpr hfolder]
      dsimp only
      split
      · exact ih _
      · split
        · rfl
        · exact ih _
    · have stuck (u : FileTree) (hu : u.at? start ≠ some .folder) :
          seen (u.walk start (part :: rest)) = .ok none := by
        unfold FileTree.walk
        split
        · rfl
        · rfl
        · rename_i hthere
          exact absurd hthere hu
      have hfolder' : t'.at? start ≠ some .folder := fun h' => hfolder ((h start).mp h')
      exact (stuck t' hfolder').trans (stuck t hfolder).symm

/-- Every path leads to the same place in trees with the same folders. -/
theorem SameFolders.seen_place (h : SameFolders t t') (p : Path) :
    seen (t'.place p) = seen (t.place p) := by
  unfold FileTree.place
  split
  · rfl
  · split
    · exact h.walk _ _
    · rfl

/-- Where the folders are the same, a path leads to the same place. -/
theorem SameFolders.place_ok_iff (h : SameFolders t t') :
    t'.place p = .ok place ↔ t.place p = .ok place := by
  rw [← seen_eq_some_iff, h.seen_place, seen_eq_some_iff]

/-- Where the folders are the same, the same place can be written to. -/
theorem SameFolders.writable_ok_iff (h : SameFolders t t') :
    t'.writable p = .ok place ↔ t.writable p = .ok place := by
  rw [FileTree.writable_ok_iff, FileTree.writable_ok_iff, h.place_ok_iff, Ne, Ne, h place]

/-! ## The files but for one -/

/-- What stands at a place, unless a path leads there and could be written to. -/
def elsewhere (t : FileTree) (p : Path) (place : List String) : Option FileNode :=
  if (t.writable p).toOption = some place then none else t.at? place

/-- At the place that a path leads to nothing stands elsewhere, and at all others what stands
there. -/
theorem elsewhere_eq (t : FileTree) (p : Path) (place : List String) :
    (t.writable p = .ok place ∧ t.elsewhere p place = none)
      ∨ (t.writable p ≠ .ok place ∧ t.elsewhere p place = t.at? place) := by
  unfold elsewhere
  cases t.writable p with
  | error e => simp [Except.toOption]
  | ok found =>
    by_cases hsame : found = place
    · simp [Except.toOption, hsame]
    · simp [Except.toOption, hsame]

/-- No folder can be written to, so the folders are among the other files. -/
theorem elsewhere_eq_folder_iff : t.elsewhere p place = some .folder ↔ t.at? place = some .folder := by
  rcases t.elsewhere_eq p place with ⟨hwritable, hnone⟩ | ⟨-, hsame⟩
  · obtain ⟨-, -, hfree⟩ := FileTree.writable_ok_iff.mp hwritable
    simp [hnone, hfree]
  · rw [hsame]

/-- Trees in which the same stands elsewhere have the same folders. -/
theorem sameFolders_of_elsewhere (h : t'.elsewhere p = t.elsewhere p) : SameFolders t t' := by
  intro place
  rw [← elsewhere_eq_folder_iff (p := p), h, elsewhere_eq_folder_iff]

/-- The same is seen in trees that agree on all files but one, unless a path leads to the place of
that file. -/
theorem sight_of_elsewhere (h : t'.elsewhere p = t.elsewhere p)
    (hapart : ∀ place, t.writable p = .ok place → t.place q ≠ .ok place) :
    t'.sight q = t.sight q := by
  have hfolders := sameFolders_of_elsewhere h
  have at_eq {place : List String} (hplace : t.place q = .ok place) :
      t'.at? place = t.at? place := by
    have hnot : t.writable p ≠ .ok place := fun hwritable => hapart place hwritable hplace
    have hnot' : t'.writable p ≠ .ok place := fun h' => hnot (hfolders.writable_ok_iff.mp h')
    have hbefore := (t.elsewhere_eq p place).resolve_left fun h => hnot h.1
    have hafter := (t'.elsewhere_eq p place).resolve_left fun h => hnot' h.1
    rw [← hafter.2, h, hbefore.2]
  unfold sight node
  split
  · rfl
  · cases hplace : t.place q with
    | error e =>
      have hsame := hfolders.seen_place q
      cases hplace' : t'.place q with
      | error e' =>
        rw [hplace, hplace'] at hsame
        exact seen_error_congr hsame
      | ok place =>
        rw [hfolders.place_ok_iff.mp hplace'] at hplace
        cases hplace
    | ok place =>
      rw [hfolders.place_ok_iff.mpr hplace]
      dsimp only
      rw [at_eq hplace]

/-- A file that is written leaves all others. -/
theorem elsewhere_of_write (h : t.write p content = .ok t') : t'.elsewhere p = t.elsewhere p := by
  unfold write at h
  cases hwritable : t.writable p with
  | error e => simp [hwritable] at h
  | ok spot =>
    simp only [hwritable, Except.ok.injEq] at h
    have hat := t.at?_put (isAbove_of_writable hwritable) (.file content)
    obtain ⟨hroot, hplace, hfree⟩ := FileTree.writable_ok_iff.mp hwritable
    have hfolders : SameFolders t t' := by
      intro place
      rw [← h, hat]
      split
      · rename_i hspot
        rw [hspot]
        simp [hfree]
      · rfl
    have hwritable' : t'.writable p = .ok spot := hfolders.writable_ok_iff.mpr hwritable
    funext place
    unfold elsewhere
    rw [hwritable', hwritable]
    split
    · rfl
    · rename_i hspot
      have hne : place ≠ spot := by
        rintro rfl
        exact hspot rfl
      rw [← h, hat, if_neg hne]

/-- What is written to a file is read from it. -/
theorem read_of_write (h : t.write p content = .ok t') : t'.read p = .ok content := by
  have hsame := elsewhere_of_write h
  unfold write at h
  cases hwritable : t.writable p with
  | error e => simp [hwritable] at h
  | ok place =>
    simp only [hwritable, Except.ok.injEq] at h
    obtain ⟨hroot, hplace, -⟩ := FileTree.writable_ok_iff.mp hwritable
    have hplace' := (sameFolders_of_elsewhere hsame).place_ok_iff.mpr hplace
    have hat : t'.at? place = some (.file content) := by
      rw [← h, t.at?_put (isAbove_of_writable hwritable), if_pos rfl]
    simp only [read, node, if_neg hroot, hplace', hat]

end Recolor.FileTree
