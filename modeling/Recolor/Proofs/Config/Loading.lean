import Mathlib.Data.List.Forall2
import Recolor.Proofs.Config.Settings

/-!
# Loading a configuration

A mapping whose sections are ordinary, which means that no name in them starts with an underscore,
is loaded setting by setting: each takes the value under its name in its section, or else keeps its
default, and what the mapping holds besides is of no consequence (`Config.ofValue_map`). The only
thing that can go wrong is that the folders to search are no collection of paths.
-/

set_option autoImplicit false

namespace Recolor

namespace Section

/-- Whether a name is an ordinary one. -/
def IsOrdinaryName (name : String) : Prop :=
  name.toList.head? ≠ some '_'

instance (name : String) : Decidable (IsOrdinaryName name) :=
  inferInstanceAs (Decidable (_ ≠ _))

/-- The entries of a section that holds each name once, and only ordinary ones. -/
structure IsOrdinary (fields : List (Value × Value)) : Prop where
  named : ∀ e ∈ fields, ∃ name, e.1 = .text name ∧ IsOrdinaryName name
  distinct : (fields.map Prod.fst).Nodup

/-- An ordinary section stays ordinary without its first entry. -/
theorem IsOrdinary.tail {e : Value × Value} {rest : List (Value × Value)}
    (h : IsOrdinary (e :: rest)) : IsOrdinary rest :=
  ⟨fun e' he' => h.named e' (List.mem_cons_of_mem e he'), (List.nodup_cons.mp h.distinct).2⟩

/-- The names that every section has anyway are not ordinary. -/
theorem not_isOrdinaryName_of_common {name : String} (h : name ∈ commonNames) :
    ¬ IsOrdinaryName name := by
  obtain ⟨inner, -, rfl⟩ := List.mem_map.mp h
  simp [IsOrdinaryName]

variable {fs : List Setting} {fixed : List String} {v : Setting → Value}

/-- What an ordinary name does to a section that holds its settings: the setting of that name takes
the value, if there is one. -/
theorem give_listed (hfs : fs.Nodup) (hfixed : ∀ name ∈ fixed, ∃ f ∈ fs, f.key = name)
    {name : String} (hname : IsOrdinaryName name) (value : Value) :
    give fixed (Setting.listed fs v) (.text name) value
      = .ok (Setting.listed fs fun f => if f.key = name then value else v f) := by
  unfold give
  split
  case h_1 hdict => cases hdict; exact absurd rfl hname
  case h_2 hclass => cases hclass; exact absurd rfl hname
  case h_3 hweak => cases hweak; exact absurd rfl hname
  case h_5 hkey => exact absurd rfl (hkey name)
  case h_4 name' _ _ _ htext =>
    cases htext
    have hcommon : commonNames.contains name = false := by
      rw [List.contains_eq_mem, decide_eq_false_iff_not]
      exact fun h => not_isOrdinaryName_of_common h hname
    by_cases hknown : ∃ f ∈ fs, f.key = name
    · rw [Setting.isSome_find?_listed.mpr hknown, Setting.insert_listed hfs hknown]
      rfl
    · have hunfixed : fixed.contains name = false := by
        rw [List.contains_eq_mem, decide_eq_false_iff_not]
        exact fun h => hknown (hfixed name h)
      have hunheld : (Value.find? (.text name) (Setting.listed fs v)).isSome = false := by
        rw [← Bool.not_eq_true]
        exact fun h => hknown (Setting.isSome_find?_listed.mp h)
      have hkept : (Setting.listed fs fun f => if f.key = name then value else v f)
          = Setting.listed fs v :=
        Setting.listed_congr fun f hf => if_neg fun h => hknown ⟨f, hf, h⟩
      rw [hunheld, hunfixed, hcommon, hkept]
      rfl

/-- Under a name that a section does not hold nothing is found. -/
theorem find?_of_not_mem {name : String} {fields : List (Value × Value)}
    (hfields : IsOrdinary fields) (h : Value.text name ∉ fields.map Prod.fst) :
    Value.find? (.text name) fields = none := by
  induction fields with
  | nil => rfl
  | cons e rest ih =>
    obtain ⟨other, hkey, -⟩ := hfields.named e List.mem_cons_self
    obtain ⟨key, value⟩ := e
    cases hkey
    rw [List.map_cons, List.mem_cons, not_or] at h
    rw [Value.find?_text_cons, if_neg fun heq => h.1 (by rw [heq])]
    exact ih hfields.tail h.2

/-- An ordinary section gives each setting the value under its name, if it has one. -/
theorem giveAll_listed (hfs : fs.Nodup) (hfixed : ∀ name ∈ fixed, ∃ f ∈ fs, f.key = name)
    {fields : List (Value × Value)} (hfields : IsOrdinary fields) :
    giveAll fixed (Setting.listed fs v) fields
      = .ok (Setting.listed fs fun f => (Value.find? (.text f.key) fields).getD (v f)) := by
  induction fields generalizing v with
  | nil => rfl
  | cons e rest ih =>
    obtain ⟨name, hkey, hname⟩ := hfields.named e List.mem_cons_self
    obtain ⟨key, value⟩ := e
    cases hkey
    have hlast : Value.find? (.text name) rest = none :=
      find?_of_not_mem hfields.tail (List.nodup_cons.mp hfields.distinct).1
    rw [giveAll, give_listed hfs hfixed hname]
    simp only
    rw [ih hfields.tail]
    congr 1
    refine Setting.listed_congr fun f _ => ?_
    rw [Value.find?_text_cons]
    by_cases hsame : f.key = name
    · rw [if_pos hsame, if_pos hsame.symm, hsame, hlast]
      rfl
    · rw [if_neg hsame, if_neg (Ne.symm hsame)]

end Section

/-- The entries of a section of a mapping. There are none if it is absent or no mapping. -/
def Section.fieldsOf (entries : List (Value × Value)) (name : String) : List (Value × Value) :=
  match Value.find? (.text name) entries with
  | some (.map fields) => fields
  | _ => []

/-- The value that a mapping has for a setting. -/
def Setting.filed? (entries : List (Value × Value)) (f : Setting) : Option Value :=
  Value.find? (.text f.key) (Section.fieldsOf entries f.group)

/-- The sections that settings are declared in hold ordinary names. -/
def HasOrdinarySections (entries : List (Value × Value)) : Prop :=
  ∀ f : Setting, Section.IsOrdinary (Section.fieldsOf entries f.group)

/-- The section of a mapping under a name is the list of its entries there. -/
theorem Value.section?_map (entries : List (Value × Value)) (name : String) :
    (Value.map entries).section? name = .ok (Section.fieldsOf entries name) := by
  simp only [section?, Section.fieldsOf]
  cases find? (.text name) entries with
  | none => rfl
  | some v => cases v <;> rfl

namespace Config

/-- A section with ordinary names is read setting by setting: each takes the value under its name,
or else keeps its default. -/
theorem readSection_map {entries : List (Value × Value)} {fs : List Setting} {fixed : List String}
    {name : String} (v : Setting → Value) (hfs : fs.Nodup) (hgroup : ∀ f ∈ fs, f.group = name)
    (hfixed : ∀ name ∈ fixed, ∃ f ∈ fs, f.key = name)
    (hentries : Section.IsOrdinary (Section.fieldsOf entries name)) :
    readSection (.map entries) name fixed (Setting.listed fs v)
      = .ok (Setting.listed fs fun f => (f.filed? entries).getD (v f)) := by
  rw [readSection, Value.section?_map]
  simp only
  rw [Section.giveAll_listed hfs hfixed hentries]
  congr 1
  exact Setting.listed_congr fun f hf => by rw [Setting.filed?, hgroup f hf]

/-- The values of the settings by a mapping, over those of a configuration of defaults. -/
def layered (d : Config) (entries : List (Value × Value)) (f : Setting) : Value :=
  (f.filed? entries).getD (d.value f)

end Config

/-! ## Settings read from the list of them -/

section Listed

variable (v : Setting → Value)

/-- The section on profiles is made of the values of its settings, if the folders to search are
paths. -/
theorem ProfileSettings.ofEntries_listed :
    ProfileSettings.ofEntries (Setting.listed Setting.ofProfiles v)
      = (v .folders).toPaths.map fun folders =>
          { input := v .input
            output := v .output
            proofing := v .proofing
            link := v .link
            folders } := by
  have hcontent : Section.contentOf names (Setting.listed Setting.ofProfiles v) = {} :=
    Setting.contentOf_listed Setting.ofProfiles v
  rw [ofEntries, hcontent]
  simp [Setting.listed, Setting.ofProfiles, Setting.key, Value.setting, Value.find?_text_cons]

/-- The section on rendering is made of the values of its settings. -/
theorem RenderingSettings.ofEntries_listed :
    RenderingSettings.ofEntries (Setting.listed Setting.ofRendering v)
      = { intent := v .intent
          proofIntent := v .proofIntent
          blackPoint := v .blackPoint
          gamutCheck := v .gamutCheck
          precalc := v .precalc } := by
  have hcontent : Section.contentOf names (Setting.listed Setting.ofRendering v) = {} :=
    Setting.contentOf_listed Setting.ofRendering v
  rw [ofEntries, hcontent]
  simp [Setting.listed, Setting.ofRendering, Setting.key, Value.setting, Value.find?_text_cons]

/-- The section on the destination is made of the values of its settings. -/
theorem OutputSettings.ofEntries_listed :
    OutputSettings.ofEntries (Setting.listed Setting.ofOutput v)
      = { quality := v .quality
          embedProfile := v .embedProfile
          ignoreEmbedded := v .ignoreEmbedded
          saveEmbedded := (v .saveEmbedded).asPath } := by
  have hcontent : Section.contentOf names (Setting.listed Setting.ofOutput v) = {} :=
    Setting.contentOf_listed Setting.ofOutput v
  rw [ofEntries, hcontent]
  simp [Setting.listed, Setting.ofOutput, Setting.key, Value.setting, Value.find?_text_cons]

/-- The section on logging is made of the values of its settings. -/
theorem LoggingSettings.ofEntries_listed :
    LoggingSettings.ofEntries (Setting.listed Setting.ofLogging v)
      = { level := v .level
          file := (v .logFile).asPath
          console := v .console } := by
  have hcontent : Section.contentOf names (Setting.listed Setting.ofLogging v) = {} :=
    Setting.contentOf_listed Setting.ofLogging v
  rw [ofEntries, hcontent]
  simp [Setting.listed, Setting.ofLogging, Setting.key, Value.setting, Value.find?_text_cons]

end Listed

/-- How a setting keeps a value from a mapping: text becomes a path where a path is meant. -/
def Setting.kept : Setting → Value → Value
  | .saveEmbedded, v => v.asPath
  | .logFile, v => v.asPath
  | _, v => v

namespace Config

/-- A mapping with ordinary sections is loaded setting by setting, if the folders to search can be
read. -/
theorem ofValue_map {d : Config} (hd : d.IsPlain) {entries : List (Value × Value)}
    (hentries : HasOrdinarySections entries) :
    ofValue d (.map entries)
      = (layered d entries .folders).toPaths.map
          (ofValues fun f => f.kept (layered d entries f)) := by
  have hprofiles : readSection (.map entries) "profiles" ProfileSettings.fixedNames
        (Setting.listed Setting.ofProfiles d.value)
      = .ok (Setting.listed Setting.ofProfiles (layered d entries)) :=
    readSection_map d.value (by decide) (by decide) (by decide) (hentries .input)
  have hrendering : readSection (.map entries) "rendering" RenderingSettings.names
        (Setting.listed Setting.ofRendering d.value)
      = .ok (Setting.listed Setting.ofRendering (layered d entries)) :=
    readSection_map d.value (by decide) (by decide) (by decide) (hentries .intent)
  have houtput : readSection (.map entries) "output" OutputSettings.names
        (Setting.listed Setting.ofOutput d.value)
      = .ok (Setting.listed Setting.ofOutput (layered d entries)) :=
    readSection_map d.value (by decide) (by decide) (by decide) (hentries .quality)
  have hlogging : readSection (.map entries) "logging" LoggingSettings.names
        (Setting.listed Setting.ofLogging d.value)
      = .ok (Setting.listed Setting.ofLogging (layered d entries)) :=
    readSection_map d.value (by decide) (by decide) (by decide) (hentries .level)
  unfold ofValue
  rw [entries_profiles hd, entries_rendering hd, entries_output hd, entries_logging hd,
    hprofiles, hrendering, houtput, hlogging]
  simp only [bind, Except.bind, ProfileSettings.ofEntries_listed,
    RenderingSettings.ofEntries_listed, OutputSettings.ofEntries_listed,
    LoggingSettings.ofEntries_listed]
  cases (layered d entries .folders).toPaths with
  | error f => rfl
  | ok folders => rfl

/-- What a mapping holds besides the settings is of no consequence. -/
theorem ofValue_congr {d : Config} (hd : d.IsPlain) {entries entries' : List (Value × Value)}
    (hentries : HasOrdinarySections entries) (hentries' : HasOrdinarySections entries')
    (h : ∀ f : Setting, f.filed? entries' = f.filed? entries) :
    ofValue d (.map entries') = ofValue d (.map entries) := by
  have hlayered : layered d entries' = layered d entries :=
    funext fun f => by rw [layered, layered, h f]
  rw [ofValue_map hd hentries, ofValue_map hd hentries', hlayered]

end Config

/-! ## What a setting takes from a mapping -/

/-- The folders that a value stands for: none if it counts as unset, else those that its members
name, in order. -/
inductive Value.StandsFor : Value → List Path → Prop where
  | unset {v : Value} (hunset : v.isSet = false) : StandsFor v []
  | members {v : Value} {items : List Value} {folders : List Path} (hset : v.isSet = true)
      (hitems : v.members = .ok items)
      (hfolders : List.Forall₂ (fun item p => item.toPath = .ok p) items folders) :
      StandsFor v folders

/-- A list is mapped without a failure exactly if each of its members is. -/
theorem mapM_ok_iff {α β ε : Type} {f : α → Except ε β} {xs : List α} {ys : List β} :
    xs.mapM f = .ok ys ↔ List.Forall₂ (fun x y => f x = .ok y) xs ys := by
  induction xs generalizing ys with
  | nil => cases ys <;> simp [pure, Except.pure]
  | cons x xs ih =>
    rw [List.mapM_cons]
    simp only [bind, Except.bind, pure, Except.pure]
    cases hx : f x with
    | error e => cases ys <;> simp [hx]
    | ok y =>
      cases hxs : xs.mapM f with
      | error e => cases ys <;> simp [← ih, hx, hxs]
      | ok zs => cases ys <;> simp [← ih, hx, hxs]

/-- A value is read as folders exactly if it stands for them. -/
theorem Value.toPaths_ok_iff {v : Value} {folders : List Path} :
    v.toPaths = .ok folders ↔ v.StandsFor folders := by
  unfold toPaths
  constructor
  · intro h
    split at h
    case isTrue hset =>
      split at h
      case h_1 => cases h
      case h_2 items hitems => exact .members hset hitems (mapM_ok_iff.mp h)
    case isFalse hunset =>
      cases h
      exact .unset (Bool.eq_false_iff.mpr hunset)
  · intro h
    cases h with
    | unset hunset => rw [hunset]; rfl
    | members hset hitems hfolders =>
      rw [if_pos hset, hitems]
      exact mapM_ok_iff.mpr hfolders

/-- A list whose members name folders stands for these folders, in order. -/
theorem Value.standsFor_list {items : List Value} {folders : List Path}
    (h : List.Forall₂ (fun item p => item.toPath = .ok p) items folders) :
    (Value.list items).StandsFor folders := by
  cases h with
  | nil => exact .unset rfl
  | cons hfirst hrest => exact .members rfl rfl (.cons hfirst hrest)

/-- A list of paths stands for the folders at these paths. -/
theorem Value.standsFor_paths (folders : List Path) :
    (Value.list (folders.map .path)).StandsFor folders := by
  refine standsFor_list ?_
  rw [List.forall₂_map_left_iff, List.forall₂_same]
  exact fun p _ => rfl

/-- A value stands for one list of folders at most. -/
theorem Value.StandsFor.unique {v : Value} {folders folders' : List Path}
    (h : v.StandsFor folders) (h' : v.StandsFor folders') : folders = folders' := by
  rw [← toPaths_ok_iff] at h h'
  exact Except.ok.inj (h.symm.trans h')

/-- How a setting takes a value from a mapping: the folders to search become paths, and so does text
where a path is meant; all other values are taken as they are. -/
def Setting.Takes (f : Setting) (v w : Value) : Prop :=
  if f = .folders then ∃ folders, v.StandsFor folders ∧ w = .list (folders.map .path)
  else w = f.kept v

namespace Config

/-- What is loaded from a mapping, and when. -/
theorem ofValue_map_ok_iff {d c : Config} (hd : d.IsPlain) {entries : List (Value × Value)}
    (hentries : HasOrdinarySections entries) :
    ofValue d (.map entries) = .ok c
      ↔ c.IsPlain ∧ ∀ f : Setting, f.Takes (layered d entries f) (c.value f) := by
  rw [ofValue_map hd hentries]
  constructor
  · intro h
    cases hfolders : (layered d entries .folders).toPaths with
    | error e => simp [hfolders, Except.map] at h
    | ok folders =>
      simp only [hfolders, Except.map, Except.ok.injEq] at h
      subst h
      refine ⟨isPlain_ofValues _ _, fun f => ?_⟩
      rw [Setting.Takes, value_ofValues]
      split
      case isTrue hf =>
        subst hf
        exact ⟨folders, Value.toPaths_ok_iff.mp hfolders, rfl⟩
      case isFalse => rfl
  · rintro ⟨hplain, htakes⟩
    obtain ⟨folders, hfolders, hvalue⟩ := htakes .folders
    rw [Value.toPaths_ok_iff.mpr hfolders, Except.map]
    congr 1
    refine ext_value (isPlain_ofValues _ _) hplain fun f => ?_
    rw [value_ofValues]
    split
    case isTrue hf => rw [hf, hvalue]
    case isFalse hf =>
      have hkept := htakes f
      rw [Setting.Takes, if_neg hf] at hkept
      exact hkept.symm

/-- Of a default a setting takes the default. -/
theorem eq_of_takes_standard {s : Services} {f : Setting} {w : Value}
    (h : f.Takes ((standard s).value f) w) : w = (standard s).value f := by
  unfold Setting.Takes at h
  split at h
  case isTrue hf =>
    subst hf
    obtain ⟨folders, hfolders, rfl⟩ := h
    rw [hfolders.unique (Value.standsFor_paths _)]
    rfl
  case isFalse hf =>
    rw [h]
    cases f <;> rfl

end Config

end Recolor
