import Recolor.Cms.Arithmetic
import Recolor.Proofs.Config.Loading

/-!
# Layers of a configuration

Three layers decide on a setting: what is given from outside wins over the mapping that is loaded,
and the mapping over the defaults. Every layer has a notion of its own of what counts as there. A
device link that is given cuts through them: input and output profiles that are not given with it
are unset. `Config.settled_of_load` says what each setting ends as.
-/

set_option autoImplicit false

namespace Recolor

namespace Setting

/-- The name under which a setting can be given from outside. -/
def override? : Setting → Option Override
  | .input => some .inputProfile
  | .output => some .outputProfile
  | .proofing => some .proofProfile
  | .link => some .deviceLink
  | .intent => some .intent
  | .proofIntent => some .proofIntent
  | .blackPoint => some .blackPoint
  | .gamutCheck => some .gamutCheck
  | .precalc => some .precalc
  | .quality => some .quality
  | .embedProfile => some .embedProfile
  | .ignoreEmbedded => some .ignoreEmbedded
  | .saveEmbedded => some .saveEmbedded
  | .folders | .level | .logFile | .console => none

/-- The value that is given for a setting. -/
def given? (given : List (String × Value)) (f : Setting) : Option Value :=
  (f.override?.bind fun o => given.lookup o.name).filter Override.isGiven

/-- Whether a setting yields to a device link that is given: an input or output profile does that is
not given too. -/
def yields (given : List (String × Value)) : Setting → Bool
  | .input => Config.isSetIn given .deviceLink && !Config.isSetIn given .inputProfile
  | .output => Config.isSetIn given .deviceLink && !Config.isSetIn given .outputProfile
  | _ => false

end Setting

namespace Setting

variable {f : Setting} {given : List (String × Value)} {name : String} {v : Value}

/-- A setting is given no value if its name is not among the names that are given. -/
theorem given?_of_not_mem {o : Override} (hf : f.override? = some o)
    (hnew : o.name ∉ given.map Prod.fst) : f.given? given = none := by
  have hnone : given.lookup o.name = none := by
    rw [List.lookup_eq_none_iff]
    intro e he
    rw [bne_iff_ne]
    exact fun heq => hnew (heq ▸ List.mem_map_of_mem he)
  rw [given?, hf, Option.bind_some, hnone]
  rfl

/-- The first value under the name of a setting is the one that is given for it, unless it counts as
not given. -/
theorem given?_cons_same {o : Override} (hf : f.override? = some o) :
    f.given? ((o.name, v) :: given) = (some v).filter Override.isGiven := by
  rw [given?, hf, Option.bind_some, List.lookup_cons_self]

/-- A value under another name is not given for a setting. -/
theorem given?_cons_other (hf : ∀ o, f.override? = some o → o.name ≠ name) :
    f.given? ((name, v) :: given) = f.given? given := by
  cases hoverride : f.override? with
  | none => rw [given?, given?, hoverride]; rfl
  | some o =>
    have hne : (o.name == name) = false := beq_eq_false_iff_ne.mpr (hf o hoverride)
    rw [given?, given?, hoverride, Option.bind_some, Option.bind_some, List.lookup_cons, hne]

end Setting

namespace Override

/-- What is found under a name has that name. -/
theorem name_ofName? {name : String} {o : Override} (h : ofName? name = some o) :
    o.name = name := by
  have hname := List.find?_some h
  exact beq_iff_eq.mp hname

/-- Different settings are given from outside under different names. -/
theorem name_injective {o o' : Override} (h : o.name = o'.name) : o = o' := by
  cases o <;> cases o' <;> first | rfl | simp [name] at h

end Override

namespace Config

/-- Giving a value changes the setting of its name and no other. -/
theorem value_set (c : Config) (v : Value) (o : Override) (f : Setting) :
    (o.set c v).value f = if f.override? = some o then v else c.value f := by
  cases o <;> cases f <;> rfl

/-- A plain configuration stays plain when a value is given. -/
theorem IsPlain.set {c : Config} (h : c.IsPlain) (v : Value) (o : Override) :
    (o.set c v).IsPlain := by
  obtain ⟨hprofiles, hrendering, houtput, hlogging⟩ := h
  cases o <;> constructor <;>
    simp [Override.set, ProfileSettings.setInput, ProfileSettings.setOutput,
      SectionContent.giving, *]

/-- When a configuration yields to a device link, the settings that yield are cleared and all others
kept. -/
theorem value_yieldToLink (c : Config) (given : List (String × Value)) (f : Setting) :
    (c.yieldToLink given).value f = if f.yields given then .null else c.value f := by
  unfold yieldToLink yieldProfiles
  cases hlink : isSetIn given .deviceLink <;> cases hinput : isSetIn given .inputProfile <;>
    cases houtput : isSetIn given .outputProfile <;> cases f <;>
    simp [Setting.yields, value, ProfileSettings.setInput, ProfileSettings.setOutput, *]

/-- One setting after another is replaced; in the end each has the value that is given for it, if
there is one. -/
theorem value_setAll {given : List (String × Value)} (hgiven : (given.map Prod.fst).Nodup)
    {c d : Config} (h : c.setAll given = .ok d) (f : Setting) :
    d.value f = (f.given? given).getD (c.value f) := by
  induction given generalizing c with
  | nil =>
    cases h
    cases f <;> rfl
  | cons e rest ih =>
    obtain ⟨name, v⟩ := e
    obtain ⟨hnew, hrest⟩ := List.nodup_cons.mp hgiven
    rw [setAll] at h
    split at h
    case isTrue hv =>
      cases hname : Override.ofName? name with
      | none => simp [hname] at h
      | some o =>
        simp only [hname] at h
        obtain rfl := Override.name_ofName? hname
        rw [ih hrest h, value_set]
        split
        case isTrue hf =>
          rw [Setting.given?_of_not_mem hf hnew, Setting.given?_cons_same hf,
            Option.filter_some, hv]
          rfl
        case isFalse hf =>
          rw [Setting.given?_cons_other fun o' ho' hsame =>
            hf (by rw [ho', Override.name_injective hsame])]
    case isFalse hv =>
      rw [ih hrest h]
      by_cases hf : ∃ o, f.override? = some o ∧ o.name = name
      · obtain ⟨o, ho, rfl⟩ := hf
        rw [Setting.given?_of_not_mem ho hnew, Setting.given?_cons_same ho, Option.filter_some,
          if_neg hv]
      · rw [Setting.given?_cons_other fun o ho hsame => hf ⟨o, ho, hsame⟩]

/-- A plain configuration stays plain when several values are given. -/
theorem IsPlain.setAll {given : List (String × Value)} {c d : Config} (hc : c.IsPlain)
    (h : c.setAll given = .ok d) : d.IsPlain := by
  induction given generalizing c with
  | nil =>
    cases h
    exact hc
  | cons e rest ih =>
    obtain ⟨name, v⟩ := e
    rw [Config.setAll] at h
    split at h
    case isTrue =>
      split at h
      case h_1 => cases h
      case h_2 o _ => exact ih (hc.set v o) h
    case isFalse => exact ih hc h

/-- A plain configuration stays plain when it yields to a device link. -/
theorem IsPlain.yieldToLink {c : Config} (h : c.IsPlain) (given : List (String × Value)) :
    (c.yieldToLink given).IsPlain := by
  unfold Config.yieldToLink yieldProfiles
  split
  case isTrue =>
    refine ⟨?_, h.rendering, h.output, h.logging⟩
    have hcontent := h.profiles
    split <;> split <;>
      simp [ProfileSettings.setInput, ProfileSettings.setOutput, SectionContent.giving, hcontent]
  case isFalse => exact h

/-- An override that succeeds gives the values first and then yields to a device link. -/
theorem override_ok {given : List (String × Value)} {c d : Config} (h : c.override given = .ok d) :
    ∃ e, c.setAll given = .ok e ∧ d = e.yieldToLink given := by
  unfold override at h
  cases hset : c.setAll given with
  | error f => simp [hset] at h
  | ok e =>
    simp only [hset, Except.ok.injEq] at h
    exact ⟨e, rfl, h.symm⟩

/-- A plain configuration stays plain when it is overridden. -/
theorem IsPlain.override {given : List (String × Value)} {c d : Config} (hc : c.IsPlain)
    (h : c.override given = .ok d) : d.IsPlain := by
  obtain ⟨e, hset, rfl⟩ := override_ok h
  exact (hc.setAll hset).yieldToLink given

/-- What a setting is under the settings that are given. -/
theorem value_override {given : List (String × Value)} (hgiven : (given.map Prod.fst).Nodup)
    {c d : Config} (h : c.override given = .ok d) (f : Setting) :
    d.value f = if f.yields given then .null else (f.given? given).getD (c.value f) := by
  obtain ⟨e, hset, rfl⟩ := override_ok h
  rw [value_yieldToLink, value_setAll hgiven hset]

end Config

/-- What a setting ends as: nothing if it yields to a device link; else the value that is given;
else what it takes from the mapping; else its default. -/
inductive Setting.Settles (s : Services) (entries : List (Value × Value))
    (given : List (String × Value)) (f : Setting) : Value → Prop where
  | yielded (hyields : f.yields given = true) : Settles s entries given f .null
  | given {v : Value} (hkeeps : f.yields given = false) (hgiven : f.given? given = some v) :
      Settles s entries given f v
  | filed {v w : Value} (hkeeps : f.yields given = false) (hgiven : f.given? given = none)
      (hfiled : f.filed? entries = some v) (htakes : f.Takes v w) : Settles s entries given f w
  | default (hkeeps : f.yields given = false) (hgiven : f.given? given = none)
      (hfiled : f.filed? entries = none) : Settles s entries given f ((Config.standard s).value f)

namespace Config

/-- Once a mapping with ordinary sections is loaded and settings are given over it, every setting
has settled, no section holds anything else, and whatever the mapping holds besides the settings
has had no consequence. -/
theorem settled_of_load {s : Services} {entries : List (Value × Value)}
    {given : List (String × Value)} {c d : Config} (hentries : HasOrdinarySections entries)
    (hdistinct : (given.map Prod.fst).Nodup) (hload : ofValue (standard s) (.map entries) = .ok c)
    (hgiven : c.override given = .ok d) :
    (∀ f : Setting, f.Settles s entries given (d.value f))
      ∧ d.IsPlain
      ∧ ∀ entries', HasOrdinarySections entries' →
        (∀ f : Setting, f.filed? entries' = f.filed? entries) →
          ofValue (standard s) (.map entries') = .ok c := by
  have hstandard := isPlain_standard s
  obtain ⟨hplain, htakes⟩ := (ofValue_map_ok_iff hstandard hentries).mp hload
  refine ⟨fun f => ?_, hplain.override hgiven, ?_⟩
  · rw [value_override hdistinct hgiven]
    cases hyields : f.yields given with
    | true => exact .yielded hyields
    | false =>
      cases hvalue : f.given? given with
      | some v => exact .given hyields hvalue
      | none =>
        have htaken := htakes f
        cases hfiled : f.filed? entries with
        | some v =>
          rw [layered, hfiled] at htaken
          exact .filed hyields hvalue hfiled htaken
        | none =>
          rw [layered, hfiled] at htaken
          rw [eq_of_takes_standard htaken]
          exact .default hyields hvalue hfiled
  · intro entries' hentries' hsame
    rw [ofValue_congr hstandard hentries hentries' hsame, hload]

/-- An environment that names an input profile. -/
def scannerServices : Services :=
  { engine := ArithmeticEngine.engine
    codec := Codec.ofPictures [] none
    environment := [("JCT_INPUT_PROFILE", "scanner.icc")] }

/-- A mapping of two sections with settings, in one of them an unknown name, and of an unknown
section. -/
def pressEntries : List (Value × Value) :=
  [(.text "profiles", .map [(.text "output", .text "press.icc"),
      (.text "search_dirs", .list [.text "icc"]), (.text "colour", .text "blue")]),
    (.text "rendering", .map [(.text "intent", .int 2), (.text "precalc", .null)]),
    (.text "paper", .map [(.text "intent", .int 1)])]

/-- A device link, an intent that counts as unset, and a switch that counts as not given. -/
def linkGiven : List (String × Value) :=
  [("device_link", .text "link.icc"), ("intent", .int 0), ("gamut_check", .bool false)]

/-- The sections of that mapping hold ordinary names, each once. -/
theorem hasOrdinarySections_press : HasOrdinarySections pressEntries := by
  intro f
  cases f <;>
    simp only [pressEntries, Section.fieldsOf, Setting.group, Value.find?_text_cons,
      Value.find?_nil, reduceIte, String.reduceEq] <;>
    exact ⟨by simp [Section.IsOrdinaryName], by simp⟩

/-- That mapping is loaded as a plain configuration with one folder to search. -/
theorem exists_ofValue_press :
    ∃ v, ofValue (standard scannerServices) (.map pressEntries)
      = .ok (ofValues v [Path.ofString "icc"]) := by
  have hfiled : Setting.folders.filed? pressEntries = some (.list [.text "icc"]) := by
    simp [pressEntries, Setting.filed?, Section.fieldsOf, Setting.group, Setting.key,
      Value.find?_text_cons]
  rw [ofValue_map (isPlain_standard _) hasOrdinarySections_press, layered, hfiled]
  exact ⟨_, rfl⟩

/-- Values from the environment, the mapping and outside settle together: the link that is given
clears the input profile of the environment and the output profile of the mapping, and the intent
that is given takes the place of the mapping's. -/
theorem settled_of_load_press :
    HasOrdinarySections pressEntries ∧ (linkGiven.map Prod.fst).Nodup
      ∧ ∃ c d, ofValue (standard scannerServices) (.map pressEntries) = .ok c
        ∧ c.override linkGiven = .ok d
        ∧ (∀ f : Setting, f.Settles scannerServices pressEntries linkGiven (d.value f))
        ∧ d.value .input = .null ∧ d.value .output = .null ∧ d.value .intent = .int 0 := by
  have hdistinct : (linkGiven.map Prod.fst).Nodup := by decide
  obtain ⟨v, hload⟩ := exists_ofValue_press
  obtain ⟨d, hgiven⟩ : ∃ d, (ofValues v [Path.ofString "icc"]).override linkGiven = .ok d :=
    ⟨_, rfl⟩
  obtain ⟨hsettles, -, -⟩ :=
    settled_of_load hasOrdinarySections_press hdistinct hload hgiven
  refine ⟨hasOrdinarySections_press, hdistinct, _, d, hload, hgiven, hsettles, ?_⟩
  cases hgiven
  exact ⟨rfl, rfl, rfl⟩

end Config

end Recolor
