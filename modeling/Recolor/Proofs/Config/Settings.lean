import Mathlib.Data.List.Basic
import Recolor.Config.Override
import Recolor.Config.Sections

/-!
# Declared settings

A configuration declares seventeen settings in four sections. What a configuration is made of is
stated for all of them at once: a plain one, whose sections hold their settings and nothing else, is
known from the values of the settings (`Config.ext_value`), and each section is the list of its
settings by name (`entries_profiles` and its siblings), from which the section is read back.
-/

set_option autoImplicit false

namespace Recolor

/-- The settings that a configuration declares. -/
inductive Setting where
  | input
  | output
  | proofing
  | link
  | folders
  | intent
  | proofIntent
  | blackPoint
  | gamutCheck
  | precalc
  | quality
  | embedProfile
  | ignoreEmbedded
  | saveEmbedded
  | level
  | logFile
  | console
  deriving DecidableEq, Repr

namespace Setting

/-- The section that declares a setting. -/
def group : Setting → String
  | .input | .output | .proofing | .link | .folders => "profiles"
  | .intent | .proofIntent | .blackPoint | .gamutCheck | .precalc => "rendering"
  | .quality | .embedProfile | .ignoreEmbedded | .saveEmbedded => "output"
  | .level | .logFile | .console => "logging"

/-- The name of a setting in its section. -/
def key : Setting → String
  | .input => "input"
  | .output => "output"
  | .proofing => "proofing"
  | .link => "device_link"
  | .folders => "search_dirs"
  | .intent => "intent"
  | .proofIntent => "proofing_intent"
  | .blackPoint => "black_point_compensation"
  | .gamutCheck => "gamut_check"
  | .precalc => "precalc"
  | .quality => "quality"
  | .embedProfile => "embed_profile"
  | .ignoreEmbedded => "ignore_embedded"
  | .saveEmbedded => "save_embedded"
  | .level => "level"
  | .logFile => "file"
  | .console => "console"

/-- Different settings have different names. -/
theorem key_injective {f g : Setting} (h : f.key = g.key) : f = g := by
  cases f <;> cases g <;> first | rfl | simp [key] at h

/-- The settings of the section on profiles. -/
def ofProfiles : List Setting := [.input, .output, .proofing, .link, .folders]

/-- The settings of the section on rendering. -/
def ofRendering : List Setting := [.intent, .proofIntent, .blackPoint, .gamutCheck, .precalc]

/-- The settings of the section on the destination. -/
def ofOutput : List Setting := [.quality, .embedProfile, .ignoreEmbedded, .saveEmbedded]

/-- The settings of the section on logging. -/
def ofLogging : List Setting := [.level, .logFile, .console]

/-- A section that holds some settings with their values. -/
def listed (fs : List Setting) (v : Setting → Value) : List (Value × Value) :=
  fs.map fun f => (.text f.key, v f)

end Setting

namespace Value

/-- Texts are the same value exactly if they are equal. -/
theorem same_text (s t : String) : (text s).same (.text t) = (s == t) := by
  rw [same]

/-- In an empty mapping nothing is found. -/
@[simp] theorem find?_nil (key : Value) : find? key [] = none := rfl

/-- Under a name the first entry with that name is found. -/
theorem find?_text_cons (name other : String) (v : Value) (rest : List (Value × Value)) :
    find? (.text name) ((.text other, v) :: rest)
      = if other = name then some v else find? (.text name) rest := by
  simp [find?, same_text]

/-- Under a name a value takes the place of the first entry with that name. -/
theorem insert_text_cons (name other : String) (value v : Value) (rest : List (Value × Value)) :
    insert (.text name) value ((.text other, v) :: rest)
      = if other = name then (.text other, value) :: rest
        else (.text other, v) :: insert (.text name) value rest := by
  simp [insert, same_text]

end Value

namespace Setting

/-! ## Sections as lists of settings -/

variable {fs : List Setting} {v : Setting → Value}

/-- A listed section depends on the values of its own settings only. -/
theorem listed_congr {w : Setting → Value} (h : ∀ f ∈ fs, v f = w f) : listed fs v = listed fs w :=
  List.map_congr_left fun f hf => by rw [h f hf]

/-- In a listed section each setting is found under its name. -/
theorem find?_listed {f : Setting} (hf : f ∈ fs) :
    Value.find? (.text f.key) (listed fs v) = some (v f) := by
  induction fs with
  | nil => cases hf
  | cons g rest ih =>
    rw [listed, List.map_cons, Value.find?_text_cons]
    split
    case isTrue hkey => rw [key_injective hkey]
    case isFalse hkey =>
      have hne : f ≠ g := fun heq => hkey (by rw [heq])
      exact ih ((List.mem_cons.mp hf).resolve_left hne)

/-- A listed section holds the names of its settings and no others. -/
theorem isSome_find?_listed {name : String} :
    (Value.find? (.text name) (listed fs v)).isSome = true ↔ ∃ f ∈ fs, f.key = name := by
  constructor
  · intro h
    induction fs with
    | nil => simp [listed] at h
    | cons g rest ih =>
      rw [listed, List.map_cons, Value.find?_text_cons] at h
      split at h
      case isTrue hkey => exact ⟨g, List.mem_cons_self, hkey⟩
      case isFalse =>
        obtain ⟨f, hf, hname⟩ := ih h
        exact ⟨f, List.mem_cons_of_mem g hf, hname⟩
  · rintro ⟨f, hf, rfl⟩
    rw [find?_listed hf]
    rfl

/-- A value that is put under the name of a setting replaces that of the setting, and no other. -/
theorem insert_listed (hfs : fs.Nodup) {name : String} {value : Value}
    (hname : ∃ f ∈ fs, f.key = name) :
    Value.insert (.text name) value (listed fs v)
      = listed fs fun f => if f.key = name then value else v f := by
  induction fs with
  | nil => simp at hname
  | cons g rest ih =>
    obtain ⟨hnew, hrest⟩ := List.nodup_cons.mp hfs
    rw [listed, List.map_cons, Value.insert_text_cons, listed, List.map_cons]
    split
    case isTrue hkey =>
      have hothers : ∀ f ∈ rest, ¬ f.key = name := by
        intro f hf hsame
        exact hnew (key_injective (hkey.trans hsame.symm) ▸ hf)
      congr 1
      exact listed_congr fun f hf => (if_neg (hothers f hf)).symm
    case isFalse hkey =>
      obtain ⟨f, hf, hname⟩ := hname
      have hmem : f ∈ rest := (List.mem_cons.mp hf).resolve_left fun h => hkey (h ▸ hname)
      congr 1
      exact ih hrest ⟨f, hmem, hname⟩

/-- A section that is the list of its settings differs from them in nothing. -/
theorem contentOf_listed (fs : List Setting) (v : Setting → Value) :
    Section.contentOf (fs.map key) (listed fs v) = {} := by
  simp only [Section.contentOf, SectionContent.mk.injEq, List.filter_eq_nil_iff]
  refine ⟨fun e he => ?_, fun name hname => ?_⟩
  · obtain ⟨f, hf, rfl⟩ := List.mem_map.mp he
    have hknown : Section.isSetting (fs.map key) (.text f.key) = true :=
      List.any_eq_true.mpr ⟨f.key, List.mem_map_of_mem hf, by simp [Value.same_text]⟩
    simp [hknown]
  · obtain ⟨f, hf, rfl⟩ := List.mem_map.mp hname
    rw [find?_listed hf]
    simp

end Setting

namespace Config

/-- The value of a setting. -/
def value (c : Config) : Setting → Value
  | .input => c.profiles.input
  | .output => c.profiles.output
  | .proofing => c.profiles.proofing
  | .link => c.profiles.link
  | .folders => .list (c.profiles.folders.map .path)
  | .intent => c.rendering.intent
  | .proofIntent => c.rendering.proofIntent
  | .blackPoint => c.rendering.blackPoint
  | .gamutCheck => c.rendering.gamutCheck
  | .precalc => c.rendering.precalc
  | .quality => c.output.quality
  | .embedProfile => c.output.embedProfile
  | .ignoreEmbedded => c.output.ignoreEmbedded
  | .saveEmbedded => c.output.saveEmbedded
  | .level => c.logging.level
  | .logFile => c.logging.file
  | .console => c.logging.console

/-- A configuration whose sections hold their settings and nothing else. -/
structure IsPlain (c : Config) : Prop where
  profiles : c.profiles.content = {}
  rendering : c.rendering.content = {}
  output : c.output.content = {}
  logging : c.logging.content = {}

/-- The plain configuration with some values. -/
def ofValues (v : Setting → Value) (folders : List Path) : Config where
  profiles :=
    { input := v .input
      output := v .output
      proofing := v .proofing
      link := v .link
      folders }
  rendering :=
    { intent := v .intent
      proofIntent := v .proofIntent
      blackPoint := v .blackPoint
      gamutCheck := v .gamutCheck
      precalc := v .precalc }
  output :=
    { quality := v .quality
      embedProfile := v .embedProfile
      ignoreEmbedded := v .ignoreEmbedded
      saveEmbedded := v .saveEmbedded }
  logging :=
    { level := v .level
      file := v .logFile
      console := v .console }

/-- A configuration that is made of values is plain. -/
theorem isPlain_ofValues (v : Setting → Value) (folders : List Path) :
    (ofValues v folders).IsPlain :=
  ⟨rfl, rfl, rfl, rfl⟩

/-- A configuration that is made of values and folders has these. -/
theorem value_ofValues (v : Setting → Value) (folders : List Path) (f : Setting) :
    (ofValues v folders).value f = if f = .folders then .list (folders.map .path) else v f := by
  cases f <;> rfl

/-- The configuration of defaults is plain. -/
theorem isPlain_standard (s : Services) : (standard s).IsPlain :=
  ⟨rfl, rfl, rfl, rfl⟩

/-- A plain configuration is made of the values of its settings. -/
theorem eq_ofValues {c : Config} (h : c.IsPlain) : c = ofValues c.value c.profiles.folders := by
  obtain ⟨⟨_, _, _, _, _, _⟩, ⟨_, _, _, _, _, _⟩, ⟨_, _, _, _, _⟩, ⟨_, _, _, _⟩⟩ := c
  obtain ⟨hprofiles, hrendering, houtput, hlogging⟩ := h
  cases hprofiles
  cases hrendering
  cases houtput
  cases hlogging
  rfl

/-- Plain configurations are the same if all their settings are. -/
theorem ext_value {c d : Config} (hc : c.IsPlain) (hd : d.IsPlain)
    (h : ∀ f, c.value f = d.value f) : c = d := by
  have hfolders : c.profiles.folders = d.profiles.folders :=
    List.map_injective_iff.mpr (fun _ _ => Value.path.inj) (Value.list.inj (h .folders))
  rw [eq_ofValues hc, eq_ofValues hd, funext h, hfolders]

/-! ## What the sections of a plain configuration hold -/

variable {c : Config}

/-- The section on profiles of a plain configuration lists its settings. -/
theorem entries_profiles (h : c.IsPlain) :
    c.profiles.entries = Setting.listed Setting.ofProfiles c.value := by
  rw [ProfileSettings.entries, h.profiles]
  rfl

/-- The section on rendering of a plain configuration lists its settings. -/
theorem entries_rendering (h : c.IsPlain) :
    c.rendering.entries = Setting.listed Setting.ofRendering c.value := by
  rw [RenderingSettings.entries, h.rendering]
  rfl

/-- The section on the destination of a plain configuration lists its settings. -/
theorem entries_output (h : c.IsPlain) :
    c.output.entries = Setting.listed Setting.ofOutput c.value := by
  rw [OutputSettings.entries, h.output]
  rfl

/-- The section on logging of a plain configuration lists its settings. -/
theorem entries_logging (h : c.IsPlain) :
    c.logging.entries = Setting.listed Setting.ofLogging c.value := by
  rw [LoggingSettings.entries, h.logging]
  rfl

end Config

end Recolor
