import Mathlib.Data.List.Nodup
import Recolor.Proofs.Config.Layers
import Recolor.Proofs.Files.Path
import Recolor.Proofs.Yaml.Documents

/-!
# Writing a configuration and reading it back

A configuration is written as a mapping in which every path is text, and reading makes paths of
the text of three settings only. What was loaded from a document survives this in any environment
(`Config.ofValue_toValue`): a document holds no paths, so the other settings never do; the paths
that reading makes are normal; and every setting is written, so no default of the second
environment shows.
-/

set_option autoImplicit false

namespace Recolor

namespace Value

/-- What is found in a mapping that a document can hold is itself such a value. -/
theorem isDocument_of_find? {key v : Value} {entries : List (Value × Value)}
    (hentries : (map entries).isDocument = true) (h : find? key entries = some v) :
    v.isDocument = true := by
  induction entries with
  | nil => cases h
  | cons e rest ih =>
    obtain ⟨k, w⟩ := e
    simp only [isDocument, entriesAreDocuments, Bool.and_eq_true] at hentries
    obtain ⟨⟨-, hw⟩, hrest⟩ := hentries
    rw [find?] at h
    split at h
    case isTrue => exact Option.some.inj h ▸ hw
    case isFalse => exact ih (by rwa [isDocument]) h

/-- The members of a value of a document are such values too. -/
theorem isDocument_of_mem_members {v item : Value} {items : List Value} (hv : v.isDocument = true)
    (hitems : v.members = .ok items) (hitem : item ∈ items) : item.isDocument = true := by
  cases v with
  | text s =>
    cases hitems
    obtain ⟨c, -, rfl⟩ := List.mem_map.mp hitem
    rfl
  | list all => cases hitems; exact areDocuments_iff.mp hv item hitem
  | tuple all => cases hitems; exact areDocuments_iff.mp hv item hitem
  | set all => cases hitems; exact areDocuments_iff.mp hv item hitem
  | map entries =>
    cases hitems
    obtain ⟨e, he, rfl⟩ := List.mem_map.mp hitem
    exact (entriesAreDocuments_iff.mp hv e he).1
  | _ => cases hitems

/-- A path that a document's value names is in normal form. -/
theorem isNormal_of_toPath {v : Value} {p : Path} (hv : v.isDocument = true)
    (h : v.toPath = .ok p) : p.IsNormal := by
  cases v with
  | text s =>
    cases h
    exact Path.isNormal_ofString s
  | path q => cases hv
  | _ => cases h

/-- The folders that a document's value stands for are at paths in normal form. -/
theorem StandsFor.isNormal {v : Value} {folders : List Path} (h : v.StandsFor folders)
    (hv : v.isDocument = true) : ∀ p ∈ folders, p.IsNormal := by
  cases h with
  | unset => simp
  | members _ hitems hfolders =>
    have hdocuments : ∀ item : Value, item ∈ _ → item.isDocument = true :=
      fun _ => isDocument_of_mem_members hv hitems
    clear hitems
    induction hfolders with
    | nil => simp
    | cons hpath _ ih =>
      obtain ⟨hfirst, hrest⟩ := List.forall_mem_cons.mp hdocuments
      exact List.forall_mem_cons.mpr ⟨isNormal_of_toPath hfirst hpath, ih hrest⟩

end Value

namespace Setting

/-- The value that a document's mapping has for a setting is one that a document can hold. -/
theorem isDocument_of_filed? {entries : List (Value × Value)} {f : Setting} {v : Value}
    (hentries : (Value.map entries).isDocument = true) (h : f.filed? entries = some v) :
    v.isDocument = true := by
  rw [filed?, Section.fieldsOf] at h
  split at h
  case h_1 fields hfields =>
    exact Value.isDocument_of_find? (Value.isDocument_of_find? hentries hfields) h
  case h_2 => cases h

/-- How the value of a setting is written: as text where it is a path. -/
def written : Setting → Value → Value
  | .folders, .list items => .list (items.map Value.pathText)
  | _, v => v.pathText

/-- All settings but the folders to search are written with a path as its text. -/
theorem written_of_ne {f : Setting} (hf : f ≠ .folders) (v : Value) : f.written v = v.pathText := by
  cases f with
  | folders => exact absurd rfl hf
  | _ => rfl

/-! ## A setting written and read back -/

/-- Folders at paths in normal form are taken again as they were written. -/
theorem takes_written_folders {folders : List Path} (h : ∀ p ∈ folders, p.IsNormal) :
    Setting.folders.Takes (Setting.folders.written (.list (folders.map .path)))
      (.list (folders.map .path)) := by
  refine ⟨folders, Value.standsFor_list ?_, rfl⟩
  rw [List.map_map, List.forall₂_map_left_iff, List.forall₂_same]
  intro p hp
  exact congrArg Except.ok (Path.ofString_toString (h p hp))

/-- A value that a setting keeps is kept again when it is read back from what was written. -/
theorem kept_written_kept {f : Setting} (hf : f ≠ .folders) {v : Value}
    (hv : v.isDocument = true) : f.kept (f.written (f.kept v)) = f.kept v := by
  have hplain : v.pathText = v := by
    cases v with
    | path p => cases hv
    | _ => rfl
  have hpath : v.asPath.pathText.asPath = v.asPath := by
    cases v with
    | text s => exact congrArg Value.path (Path.ofString_toString (Path.isNormal_ofString s))
    | path p => cases hv
    | _ => rfl
  cases f with
  | folders => exact absurd rfl hf
  | saveEmbedded => exact hpath
  | logFile => exact hpath
  | _ => exact hplain

/-- What a setting took from a document it takes again once it is written. -/
theorem takes_written_of_document {f : Setting} {v w : Value} (hv : v.isDocument = true)
    (h : f.Takes v w) : f.Takes (f.written w) w := by
  by_cases hf : f = .folders
  · subst hf
    obtain ⟨folders, hfolders, rfl⟩ := h
    exact takes_written_folders (hfolders.isNormal hv)
  · rw [Takes, if_neg hf] at h ⊢
    rw [h, kept_written_kept hf hv]

/-- The defaults of all settings but the folders to search are values that a document can hold. -/
theorem isDocument_standard (s : Services) {f : Setting} (hf : f ≠ .folders) :
    ((Config.standard s).value f).isDocument = true := by
  have hnamed (name : Option String) : ((name.map Value.text).getD .null).isDocument = true := by
    cases name <;> rfl
  cases f with
  | folders => exact absurd rfl hf
  | input => exact hnamed _
  | output => exact hnamed _
  | _ => rfl

/-- The folders to search by default are at paths in normal form. -/
theorem isNormal_standard {s : Services} {p : Path}
    (h : p ∈ (Config.standard s).profiles.folders) : p.IsNormal := by
  simp only [Config.standard] at h
  cases hdirs : s.setting? "JCT_PROFILE_DIRS" with
  | none => simp [hdirs] at h
  | some dirs =>
    simp only [hdirs, Option.map_some, Option.getD_some] at h
    obtain ⟨part, -, rfl⟩ := List.mem_map.mp h
    exact Path.isNormal_ofString part

/-- Every default is taken again as it was written. -/
theorem takes_written_standard (s : Services) (f : Setting) :
    f.Takes (f.written ((Config.standard s).value f)) ((Config.standard s).value f) := by
  by_cases hf : f = .folders
  · subst hf
    exact takes_written_folders fun p hp => isNormal_standard hp
  · have hkept : f.kept ((Config.standard s).value f) = (Config.standard s).value f := by
      cases f <;> rfl
    exact takes_written_of_document (isDocument_standard s hf) (by rw [Takes, if_neg hf, hkept])

/-! ## Sections as they are written -/

/-- The settings of the section that declares a setting. -/
def siblings : Setting → List Setting
  | .input | .output | .proofing | .link | .folders => ofProfiles
  | .intent | .proofIntent | .blackPoint | .gamutCheck | .precalc => ofRendering
  | .quality | .embedProfile | .ignoreEmbedded | .saveEmbedded => ofOutput
  | .level | .logFile | .console => ofLogging

/-- A section declares each of its settings once. -/
theorem nodup_siblings (f : Setting) : f.siblings.Nodup := by
  cases f <;> decide

/-- A setting is among those of its section. -/
theorem mem_siblings (f : Setting) : f ∈ f.siblings := by
  cases f <;> decide

/-- A map over the values of a section is the section of the mapped values. -/
theorem map_listed (fs : List Setting) (v : Setting → Value) (g : Value → Value) :
    ((listed fs v).map fun (key, w) => (key, g w)) = listed fs fun f => g (v f) := by
  simp [listed]

/-- A section that lists each setting once is ordinary. -/
theorem isOrdinary_listed {fs : List Setting} (hfs : fs.Nodup) (v : Setting → Value) :
    Section.IsOrdinary (listed fs v) := by
  constructor
  · intro e he
    obtain ⟨f, -, rfl⟩ := List.mem_map.mp he
    refine ⟨f.key, rfl, ?_⟩
    cases f <;> decide
  · rw [listed, List.map_map]
    exact List.Nodup.map (fun _ _ h => key_injective (Value.text.inj h)) hfs

end Setting

namespace Config

/-- What a plain configuration is written as: the mapping of its sections, each the list of its
settings. -/
def writtenEntries (c : Config) : List (Value × Value) :=
  let written (fs : List Setting) : Value := .map (Setting.listed fs fun f => f.written (c.value f))
  [(.text "profiles", written Setting.ofProfiles), (.text "rendering", written Setting.ofRendering),
    (.text "output", written Setting.ofOutput), (.text "logging", written Setting.ofLogging)]

/-- The section on profiles of a plain configuration is written as the list of its settings. -/
theorem writtenProfiles_of_plain {c : Config} (h : c.IsPlain) :
    writtenProfiles c.profiles
      = .map (Setting.listed Setting.ofProfiles fun f => f.written (c.value f)) := by
  have hfolders : ∃ f ∈ Setting.ofProfiles, f.key = "search_dirs" :=
    ⟨.folders, by decide, rfl⟩
  rw [writtenProfiles, entries_profiles h, Setting.map_listed,
    Setting.insert_listed (by decide) hfolders]
  congr 1
  refine Setting.listed_congr fun f _ => ?_
  split
  case isTrue hkey =>
    obtain rfl : f = .folders := Setting.key_injective hkey
    simp [Setting.written, value, Value.pathText]
  case isFalse hkey =>
    have hf : f ≠ .folders := fun hf => hkey (by rw [hf]; rfl)
    exact (Setting.written_of_ne hf _).symm

/-- A section without folders to search is written as the list of its settings. -/
theorem written_of_plain {c : Config} {held : List (Value × Value)} {fs : List Setting}
    (hheld : held = Setting.listed fs c.value) (hfs : .folders ∉ fs) :
    written held = .map (Setting.listed fs fun f => f.written (c.value f)) := by
  rw [written, hheld, Setting.map_listed]
  congr 1
  exact Setting.listed_congr fun f hf => (Setting.written_of_ne (fun h => hfs (h ▸ hf)) _).symm

/-- A plain configuration is written as its four sections. -/
theorem toValue_of_plain {c : Config} (h : c.IsPlain) : c.toValue = .map c.writtenEntries := by
  rw [toValue, writtenProfiles_of_plain h, written_of_plain (entries_rendering h) (by decide),
    written_of_plain (entries_output h) (by decide),
    written_of_plain (entries_logging h) (by decide)]
  rfl

/-- The section in which a setting is written holds the settings of that section. -/
theorem fieldsOf_written (c : Config) (f : Setting) :
    Section.fieldsOf c.writtenEntries f.group
      = Setting.listed f.siblings fun f => f.written (c.value f) := by
  cases f <;>
    simp [Section.fieldsOf, writtenEntries, Setting.group, Setting.siblings, Value.find?_text_cons]

/-- What is written of a configuration has ordinary sections. -/
theorem hasOrdinarySections_written (c : Config) : HasOrdinarySections c.writtenEntries := by
  intro f
  rw [fieldsOf_written]
  exact Setting.isOrdinary_listed f.nodup_siblings _

/-- What is written of a configuration has for each setting its value as it is written. -/
theorem filed?_written (c : Config) (f : Setting) :
    f.filed? c.writtenEntries = some (f.written (c.value f)) := by
  rw [Setting.filed?, fieldsOf_written, Setting.find?_listed f.mem_siblings]

/-- A configuration that is loaded from a document with ordinary sections is, once it is written,
loaded again as the same configuration, in whatever environment. -/
theorem ofValue_toValue {s s' : Services} {entries : List (Value × Value)} {c : Config}
    (hdocument : (Value.map entries).isDocument = true) (hentries : HasOrdinarySections entries)
    (hload : ofValue (standard s) (.map entries) = .ok c) :
    ofValue (standard s') c.toValue = .ok c := by
  obtain ⟨hplain, htakes⟩ := (ofValue_map_ok_iff (isPlain_standard s) hentries).mp hload
  rw [toValue_of_plain hplain,
    ofValue_map_ok_iff (isPlain_standard s') (hasOrdinarySections_written c)]
  refine ⟨hplain, fun f => ?_⟩
  rw [layered, filed?_written, Option.getD_some]
  have htaken := htakes f
  cases hfiled : f.filed? entries with
  | some v =>
    rw [layered, hfiled] at htaken
    exact Setting.takes_written_of_document (Setting.isDocument_of_filed? hdocument hfiled) htaken
  | none =>
    rw [layered, hfiled] at htaken
    rw [eq_of_takes_standard htaken]
    exact Setting.takes_written_standard s f

/-- An environment that names folders to search, and no input profile. -/
def archiveServices : Services :=
  { scannerServices with environment := [("JCT_PROFILE_DIRS", "/opt/icc:/usr/icc")] }

/-- The input profile that the first environment names is kept in the second one. -/
theorem ofValue_toValue_press :
    (Value.map pressEntries).isDocument = true ∧ HasOrdinarySections pressEntries
      ∧ ∃ c, ofValue (standard scannerServices) (.map pressEntries) = .ok c
        ∧ ofValue (standard archiveServices) c.toValue = .ok c
        ∧ c.value .input = .text "scanner.icc"
        ∧ c.value .input ≠ (standard archiveServices).value .input := by
  obtain ⟨v, hload⟩ := exists_ofValue_press
  have hinput : (ofValues v [Path.ofString "icc"]).value .input = .text "scanner.icc" := by
    obtain ⟨-, htakes⟩ :=
      (ofValue_map_ok_iff (isPlain_standard _) hasOrdinarySections_press).mp hload
    have hfiled : Setting.input.filed? pressEntries = none := by
      simp [pressEntries, Setting.filed?, Section.fieldsOf, Setting.group, Setting.key,
        Value.find?_text_cons]
    have htaken := htakes .input
    rw [layered, hfiled] at htaken
    exact eq_of_takes_standard htaken
  refine ⟨rfl, hasOrdinarySections_press, _, hload,
    ofValue_toValue rfl hasOrdinarySections_press hload, hinput, ?_⟩
  rw [hinput]
  exact fun h => Value.noConfusion h

end Config

end Recolor
