import Mathlib.Data.List.Basic
import Recolor.Files.Path

/-!
# Normal paths

A path is normal if each of its components is one that reading keeps: neither empty nor a single
dot, and without a slash. Reading makes normal paths only, and the text of a normal path reads
back as the path (`ofString_toString`), whatever its root.
-/

set_option autoImplicit false

namespace Recolor.Path

/-- Components as reading a path leaves them. -/
structure IsNormal (p : Path) : Prop where
  components : ∀ part ∈ p.parts, isComponent part.toList = true
  noSlash : ∀ part ∈ p.parts, '/' ∉ part.toList

/-! ## Pieces between slashes -/

/-- A piece without a slash is split into itself. -/
theorem splitSlash_of_not_mem {piece : List Char} (h : '/' ∉ piece) :
    splitSlash piece = [piece] := by
  induction piece with
  | nil => rfl
  | cons c rest ih =>
    obtain ⟨hc, hrest⟩ := not_or.mp (mt List.mem_cons.mpr h)
    rw [splitSlash, if_neg (Ne.symm hc), ih hrest]

/-- A piece without a slash is split off in front of one. -/
theorem splitSlash_append {piece : List Char} (h : '/' ∉ piece) (rest : List Char) :
    splitSlash (piece ++ '/' :: rest) = piece :: splitSlash rest := by
  induction piece with
  | nil => rfl
  | cons c piece ih =>
    obtain ⟨hc, hpiece⟩ := not_or.mp (mt List.mem_cons.mpr h)
    rw [List.cons_append, splitSlash, if_neg (Ne.symm hc), ih hpiece]

/-- Joined pieces are taken apart again. -/
theorem splitSlash_joinSlash {pieces : List (List Char)} (hsome : pieces ≠ [])
    (h : ∀ piece ∈ pieces, '/' ∉ piece) : splitSlash (joinSlash pieces) = pieces := by
  induction pieces with
  | nil => exact absurd rfl hsome
  | cons piece rest ih =>
    obtain ⟨hpiece, hrest⟩ := List.forall_mem_cons.mp h
    cases rest with
    | nil => exact splitSlash_of_not_mem hpiece
    | cons next rest => rw [joinSlash, splitSlash_append hpiece, ih (by simp) hrest]

/-- The pieces between slashes hold no slash. -/
theorem not_mem_of_mem_splitSlash {cs piece : List Char} (h : piece ∈ splitSlash cs) :
    '/' ∉ piece := by
  induction cs generalizing piece with
  | nil => simp_all [splitSlash]
  | cons c rest ih =>
    rw [splitSlash] at h
    split at h
    case isTrue =>
      rcases List.mem_cons.mp h with rfl | h
      · simp
      · exact ih h
    case isFalse hc =>
      split at h
      case h_1 first others hsplit =>
        rcases List.mem_cons.mp h with rfl | h
        · rw [List.mem_cons, not_or]
          exact ⟨Ne.symm hc, ih (hsplit ▸ List.mem_cons_self)⟩
        · exact ih (hsplit ▸ List.mem_cons_of_mem first h)
      case h_2 hsplit =>
        obtain rfl := List.mem_singleton.mp h
        simpa using Ne.symm hc

/-! ## Reading and writing -/

/-- A path that is read from a text is in normal form. -/
theorem isNormal_ofString (s : String) : (ofString s).IsNormal := by
  constructor <;>
  · intro part hpart
    obtain ⟨piece, hpiece, rfl⟩ := List.mem_map.mp hpart
    obtain ⟨hsplit, hcomponent⟩ := List.mem_filter.mp hpiece
    rw [String.toList_ofList]
    first | exact hcomponent | exact not_mem_of_mem_splitSlash hsplit

/-- The root is told by what stands before the first component. -/
theorem rootOf_append (root : PathRoot) {cs : List Char} (h : cs.head? ≠ some '/') :
    rootOf (rootText root ++ cs) = root := by
  cases cs with
  | nil => cases root <;> rfl
  | cons c rest =>
    have hc : c ≠ '/' := fun heq => h (by rw [heq]; rfl)
    cases root <;> simp [rootText, rootOf, hc]

/-- The slashes of a root leave no components. -/
theorem filter_splitSlash_append (root : PathRoot) (cs : List Char) :
    (splitSlash (rootText root ++ cs)).filter isComponent = (splitSlash cs).filter isComponent := by
  cases root <;> rfl

/-- Joined components do not start with a slash. -/
theorem head?_joinSlash_ne {pieces : List (List Char)}
    (hcomponents : ∀ piece ∈ pieces, isComponent piece = true)
    (hnoSlash : ∀ piece ∈ pieces, '/' ∉ piece) : (joinSlash pieces).head? ≠ some '/' := by
  cases pieces with
  | nil => simp [joinSlash]
  | cons piece rest =>
    have hfirst : '/' ∉ piece := hnoSlash piece List.mem_cons_self
    cases piece with
    | nil => exact absurd (hcomponents [] List.mem_cons_self) (by decide)
    | cons c cs =>
      have hc : c ≠ '/' := fun heq => hfirst (heq ▸ List.mem_cons_self)
      cases rest <;> simpa [joinSlash] using hc

/-- Joined components are split into themselves. -/
theorem filter_splitSlash_joinSlash {pieces : List (List Char)}
    (hcomponents : ∀ piece ∈ pieces, isComponent piece = true)
    (hnoSlash : ∀ piece ∈ pieces, '/' ∉ piece) :
    (splitSlash (joinSlash pieces)).filter isComponent = pieces := by
  cases pieces with
  | nil => rfl
  | cons piece rest =>
    rw [splitSlash_joinSlash (List.cons_ne_nil piece rest) hnoSlash]
    exact List.filter_eq_self.mpr hcomponents

/-- The text of a normal path reads back as the path. -/
theorem ofString_toString {p : Path} (h : p.IsNormal) : ofString p.toString = p := by
  obtain ⟨root, parts⟩ := p
  have hcomponents : ∀ piece ∈ parts.map String.toList, isComponent piece = true :=
    List.forall_mem_map.mpr h.components
  have hnoSlash : ∀ piece ∈ parts.map String.toList, '/' ∉ piece :=
    List.forall_mem_map.mpr h.noSlash
  unfold toString
  split
  case h_1 hnone =>
    -- only the path without root and components is written as a dot
    obtain ⟨hroot, hpieces⟩ := List.append_eq_nil_iff.mp hnone
    have hparts : parts.map String.toList = [] := by
      rw [← filter_splitSlash_joinSlash hcomponents hnoSlash, hpieces]
      rfl
    rw [List.map_eq_nil_iff.mp hparts]
    cases root with
    | relative => rfl
    | slash => cases hroot
    | twoSlashes => cases hroot
  case h_2 cs _ =>
    have hroot := rootOf_append root (head?_joinSlash_ne hcomponents hnoSlash)
    have hparts := filter_splitSlash_append root (joinSlash (parts.map String.toList))
    rw [filter_splitSlash_joinSlash hcomponents hnoSlash] at hparts
    rw [ofString, String.toList_ofList, hroot, hparts]
    simp

end Recolor.Path
