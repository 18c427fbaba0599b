import Recolor.Config.Request
import Recolor.Config.Validation
import Recolor.Proofs.Config.Layers

/-!
# Valid configurations

A configuration is checked by what its values are equal to and whether they count as set, and it
is used by looking values up, by arithmetic and by the same test of being set. The checks are
written out as `Config.IsValid`, and the two sides meet: a plain configuration without problems
has a request with the values that were configured, a quality that a writer accepts, and no other
profile beside a device link (`Config.request_of_no_problems`).
-/

set_option autoImplicit false

namespace Recolor

/-- The text of a path is never empty. -/
theorem Path.toString_ne_empty (p : Path) : p.toString ≠ "" := by
  unfold Path.toString
  split
  case h_1 => decide
  case h_2 cs hsome => exact fun h => hsome (String.ofList_eq_empty_iff.mp h)

namespace Reference

/-- Whether a reference counts as set, as its value does. -/
def isSet : Reference → Bool
  | .unset => false
  | .named name => !name.isEmpty
  | .invalid v => v.isSet

/-- A reference counts as set exactly if the value does that it stands for. -/
theorem isSet_ofValue (v : Value) : (ofValue v).isSet = v.isSet := by
  cases v with
  | path p => simp [ofValue, isSet, Value.isSet, Path.toString_ne_empty]
  | _ => rfl

/-- A reference from a setting counts as set exactly if the setting's value does. -/
theorem isSet_ofSetting (v : Value) : (ofSetting v).isSet = v.isSet := by
  unfold ofSetting
  split
  case isTrue => exact isSet_ofValue v
  case isFalse hunset => rw [Bool.eq_false_iff.mpr hunset]; rfl

end Reference

/-! ## Choices and qualities -/

/-- A value is the same as an integer exactly if it is that number. -/
theorem Value.same_int (n : Int) (v : Value) : (Value.int n).same v = v.isNumber n := by
  rw [same]

/-- A value that is one of the numbers from 0 to 3 is that of one of four things numbered so. -/
theorem Value.exists_of_isChoice {α : Type} {all : List α} {code : α → Nat}
    (hall : all.map code = [0, 1, 2, 3]) {v : Value} (h : v.isChoice = true) :
    ∃ a, all.find? (fun a => v.isNumber (code a)) = some a
      ∧ (Value.int (code a)).same v = true := by
  have hsome : (all.find? fun a => v.isNumber (code a)).isSome = true := by
    rw [List.find?_isSome]
    have hnumbers : ∃ n ∈ all.map code, v.isNumber n = true := by
      rw [hall]
      simpa [isChoice] using h
    simpa using hnumbers
  obtain ⟨a, ha⟩ := Option.isSome_iff_exists.mp hsome
  have hnumber := List.find?_some ha
  exact ⟨a, ha, by rw [same_int]; exact hnumber⟩

/-- A value that is one of the choices is the code of an intent. -/
theorem Intent.exists_ofValue {v : Value} (h : v.isChoice = true) :
    ∃ i, Intent.ofValue v = .ok i ∧ (Value.int i.code).same v = true := by
  obtain ⟨i, hi, hsame⟩ := Value.exists_of_isChoice (by rfl : Intent.all.map code = _) h
  exact ⟨i, by rw [ofValue, hi], hsame⟩

/-- A value that is one of the choices is the code of a mode of precalculation. -/
theorem Precalc.exists_ofValue {v : Value} (h : v.isChoice = true) :
    ∃ m, Precalc.ofValue v = .ok m ∧ (Value.int m.code).same v = true := by
  obtain ⟨m, hm, hsame⟩ := Value.exists_of_isChoice (by rfl : Precalc.all.map code = _) h
  exact ⟨m, by rw [ofValue, hm], hsame⟩

/-- A whole number is confined to the qualities from 0 to 100, moved as little as possible. -/
theorem Quality.exists_clamp {v : Value} (h : v.isWhole = true) :
    ∃ q n, Quality.clamp v = .ok q ∧ v.isNumber n = true
      ∧ q.isNumber (max 0 (min 100 n)) = true := by
  cases v with
  | int n =>
    by_cases hhigh : n < 100
    · by_cases hlow : 1 ≤ n
      · refine ⟨.int n, n, ?_, ?_, ?_⟩
        · simp [clamp, below?, atLeast?, hhigh, hlow]
        · simp [Value.isNumber]
        · simp [Value.isNumber]
          omega
      · refine ⟨.int 0, n, ?_, ?_, ?_⟩
        · simp [clamp, below?, atLeast?, hhigh, hlow]
        · simp [Value.isNumber]
        · simp [Value.isNumber]
          omega
    · refine ⟨.int 100, n, ?_, ?_, ?_⟩
      · simp [clamp, below?, hhigh]
      · simp [Value.isNumber]
      · simp [Value.isNumber]
        omega
  | bool b =>
    cases b with
    | false => exact ⟨.int 0, 0, rfl, rfl, rfl⟩
    | true => exact ⟨.bool true, 1, rfl, rfl, rfl⟩
  | _ => simp [Value.isWhole] at h

/-- The quality of a writer is the clamped one that it was created with. -/
theorem Writer.quality_of_create {path : Path} {width height : Int} {space : Space}
    {quality : Value} {w : Writer} (h : Writer.create path width height space quality = .ok w) :
    Quality.clamp quality = .ok w.quality := by
  unfold create at h
  split at h
  case h_1 => cases h
  case h_2 =>
    split at h
    case h_1 => cases h
    case h_2 q hq =>
      split at h
      case h_1 => cases h
      case h_2 =>
        cases h
        exact hq

namespace Config

/-- What a valid configuration is. -/
structure IsValid (c : Config) : Prop where
  intent : c.rendering.intent.isChoice = true
  proofIntent : c.rendering.proofIntent.isChoice = true
  precalc : c.rendering.precalc.isChoice = true
  quality : c.output.quality.isWhole = true
  alone : c.profiles.link.isSet = true →
    c.profiles.input.isSet = false ∧ c.profiles.output.isSet = false
      ∧ c.profiles.proofing.isSet = false

/-- A plain section names a profile exactly if its input or output profile is set. -/
theorem hasProfile_of_plain {p : ProfileSettings} (h : p.content = {}) :
    hasProfile p = .ok (p.input.isSet || p.output.isSet) := by
  unfold hasProfile
  rw [h]
  cases p.input.isSet <;> rfl

/-- A plain section has a device link beside other profiles exactly if the link is set and the input
or output profile is too. -/
theorem linksProfiles_of_plain {p : ProfileSettings} (h : p.content = {}) :
    linksProfiles p = .ok (p.link.isSet && (p.input.isSet || p.output.isSet)) := by
  unfold linksProfiles
  rw [hasProfile_of_plain h]
  cases p.link.isSet <;> rfl

/-- A check finds nothing exactly if there is nothing to tell. -/
theorem tell_eq_nil_iff {found : List ConfigProblem} {f : Fault} :
    (if found.all ConfigProblem.isTellable then Except.ok found else .error f) = .ok []
      ↔ found = [] := by
  constructor
  · intro h
    split at h
    case isTrue => exact Except.ok.inj h
    case isFalse => cases h
  · rintro rfl
    rfl

/-- There is no problem with the values of a configuration exactly if its choices are choices and
its quality is a whole number. -/
theorem valueProblems_eq_nil_iff {c : Config} :
    c.valueProblems = [] ↔ c.rendering.intent.isChoice = true
      ∧ c.rendering.proofIntent.isChoice = true ∧ c.rendering.precalc.isChoice = true
      ∧ c.output.quality.isWhole = true := by
  simp [valueProblems]

/-- A plain configuration has no problems exactly if it is valid. -/
theorem problems_eq_nil_iff {c : Config} (h : c.IsPlain) : c.problems = .ok [] ↔ c.IsValid := by
  rw [problems, linksProfiles_of_plain h.profiles]
  refine tell_eq_nil_iff.trans ?_
  rw [List.append_eq_nil_iff, List.append_eq_nil_iff, valueProblems_eq_nil_iff]
  constructor
  · rintro ⟨⟨hprofiles, hproof⟩, hintent, hproofIntent, hprecalc, hquality⟩
    refine ⟨hintent, hproofIntent, hprecalc, hquality, fun hlink => ?_⟩
    simp [hlink] at hprofiles hproof
    exact ⟨hprofiles.1, hprofiles.2, hproof⟩
  · intro hvalid
    refine ⟨?_, hvalid.intent, hvalid.proofIntent, hvalid.precalc, hvalid.quality⟩
    cases hlink : c.profiles.link.isSet with
    | false => exact ⟨rfl, rfl⟩
    | true =>
      obtain ⟨hinput, houtput, hproof⟩ := hvalid.alone hlink
      rw [hinput, houtput, hproof]
      exact ⟨rfl, rfl⟩

/-- The request of a plain and valid configuration. -/
theorem exists_request {c : Config} (h : c.IsPlain) (hvalid : c.IsValid) :
    ∃ r, c.request = .ok r
      ∧ (Value.int r.rendering.intent.code).same c.rendering.intent = true
      ∧ (Value.int r.rendering.proofIntent.code).same c.rendering.proofIntent = true
      ∧ (Value.int r.rendering.flags.precalc.code).same c.rendering.precalc = true
      ∧ r.rendering.flags.softProofing = isProofed c.profiles
      ∧ r.input = .ofValue c.profiles.input ∧ r.output = .ofValue c.profiles.output
      ∧ r.proof = .ofSetting c.profiles.proofing ∧ r.link = .ofSetting c.profiles.link := by
  obtain ⟨intent, hintent, hsameIntent⟩ := Intent.exists_ofValue hvalid.intent
  obtain ⟨proofIntent, hproofIntent, hsameProof⟩ := Intent.exists_ofValue hvalid.proofIntent
  obtain ⟨precalc, hprecalc, hsamePrecalc⟩ := Precalc.exists_ofValue hvalid.precalc
  have hchecked : checkProfiles c.profiles = .ok () := by
    rw [checkProfiles, h.profiles]
    rfl
  have hrendering : c.renderingAsked = .ok
      { intent, proofIntent, flags :=
        { blackPoint := c.rendering.blackPoint.isSet
          gamutCheck := c.rendering.gamutCheck.isSet
          precalc
          softProofing := isProofed c.profiles } } := by
    rw [renderingAsked, hintent, hproofIntent, hprecalc]
    rfl
  have hrequest := request.eq_def c
  rw [hchecked, hrendering] at hrequest
  exact ⟨_, hrequest, hsameIntent, hsameProof, hsamePrecalc, rfl, rfl, rfl, rfl, rfl⟩

/-- A configuration that is loaded from a mapping with ordinary sections, with or without settings
given over it, and in which a check finds no problem, can be used: its request has the intents and
the mode that are configured, writers take its quality as one from 0 to 100, and where a device
link is set the request refers to no other profile and asks for no proof. -/
theorem request_of_no_problems {s : Services} {entries : List (Value × Value)} {c d : Config}
    (hentries : HasOrdinarySections entries) (hload : ofValue (standard s) (.map entries) = .ok c)
    (hgiven : d = c ∨ ∃ given, c.override given = .ok d) (hchecked : d.problems = .ok []) :
    ∃ r, d.request = .ok r
      ∧ (Value.int r.rendering.intent.code).same d.rendering.intent = true
      ∧ (Value.int r.rendering.proofIntent.code).same d.rendering.proofIntent = true
      ∧ (Value.int r.rendering.flags.precalc.code).same d.rendering.precalc = true
      ∧ (∃ q n, Quality.clamp d.output.quality = .ok q ∧ q.isNumber n = true ∧ 0 ≤ n ∧ n ≤ 100
        ∧ ∀ path width height space w,
          Writer.create path width height space d.output.quality = .ok w → w.quality = q)
      ∧ (d.profiles.link.isSet = true → r.link.isSet = true ∧ r.input.isSet = false
        ∧ r.output.isSet = false ∧ r.proof.isSet = false
        ∧ r.rendering.flags.softProofing = false) := by
  have hplain : d.IsPlain := by
    have hplain := ((ofValue_map_ok_iff (isPlain_standard s) hentries).mp hload).1
    rcases hgiven with rfl | ⟨given, hgiven⟩
    · exact hplain
    · exact hplain.override hgiven
  have hvalid : d.IsValid := (problems_eq_nil_iff hplain).mp hchecked
  obtain ⟨r, hrequest, hintent, hproofIntent, hprecalc, hsoft, hinput, houtput, hproof, hlink⟩ :=
    exists_request hplain hvalid
  refine ⟨r, hrequest, hintent, hproofIntent, hprecalc, ?_, fun hset => ?_⟩
  · obtain ⟨q, n, hq, -, hnumber⟩ := Quality.exists_clamp hvalid.quality
    refine ⟨q, _, hq, hnumber, by omega, by omega, fun path width height space w hw => ?_⟩
    have hquality := Writer.quality_of_create hw
    rw [hq] at hquality
    exact (Except.ok.inj hquality).symm
  · obtain ⟨hnoInput, hnoOutput, hnoProof⟩ := hvalid.alone hset
    refine ⟨?_, ?_, ?_, ?_, ?_⟩
    · rw [hlink, Reference.isSet_ofSetting, hset]
    · rw [hinput, Reference.isSet_ofValue, hnoInput]
    · rw [houtput, Reference.isSet_ofValue, hnoOutput]
    · rw [hproof, Reference.isSet_ofSetting, hnoProof]
    · rw [hsoft, isProofed, hnoProof]
      rfl

/-- A mapping with an intent that is a truth value and a quality out of range. -/
def looseEntries : List (Value × Value) :=
  [(.text "rendering", .map [(.text "intent", .bool true)]),
    (.text "output", .map [(.text "quality", .int 250)])]

/-- The sections of that mapping hold ordinary names, each once. -/
theorem hasOrdinarySections_loose : HasOrdinarySections looseEntries := by
  intro f
  cases f <;>
    simp only [looseEntries, Section.fieldsOf, Setting.group, Value.find?_text_cons,
      Value.find?_nil, reduceIte, String.reduceEq] <;>
    exact ⟨by simp [Section.IsOrdinaryName], by simp⟩

/-- What is loaded from the mapping where the environment names an input profile. -/
def looseConfig : Config where
  profiles := { input := .text "scanner.icc" }
  rendering := { intent := .bool true }
  output := { quality := .int 250 }

/-- That mapping is loaded as that configuration. -/
theorem ofValue_loose :
    ofValue (standard scannerServices) (.map looseEntries) = .ok looseConfig := by
  rw [ofValue_map_ok_iff (isPlain_standard _) hasOrdinarySections_loose]
  refine ⟨⟨rfl, rfl, rfl, rfl⟩, fun f => ?_⟩
  have hfiled : f.filed? looseEntries
      = match f with
        | .intent => some (.bool true)
        | .quality => some (.int 250)
        | _ => none := by
    cases f <;>
      simp [looseEntries, Setting.filed?, Section.fieldsOf, Setting.group, Setting.key,
        Value.find?_text_cons]
  rw [layered, hfiled]
  cases f with
  | folders => exact ⟨[], Value.standsFor_paths [], rfl⟩
  | _ => rfl

/-- A device link that is given takes the place of the input profile, so that the check finds no
problem. -/
theorem request_of_no_problems_loose :
    HasOrdinarySections looseEntries
      ∧ ofValue (standard scannerServices) (.map looseEntries) = .ok looseConfig
      ∧ ∃ d r, looseConfig.override [("device_link", .text "link.icc")] = .ok d
        ∧ d.problems = .ok [] ∧ d.request = .ok r
        ∧ r.link.isSet = true ∧ r.input.isSet = false := by
  obtain ⟨d, hgiven⟩ :
      ∃ d, looseConfig.override [("device_link", .text "link.icc")] = .ok d := ⟨_, rfl⟩
  have hchecked : d.problems = .ok [] := by
    cases hgiven
    rfl
  have hlink : d.profiles.link.isSet = true := by
    cases hgiven
    rfl
  obtain ⟨r, hrequest, -, -, -, -, halone⟩ :=
    request_of_no_problems hasOrdinarySections_loose ofValue_loose (.inr ⟨_, hgiven⟩) hchecked
  obtain ⟨hset, hinput, -⟩ := halone hlink
  exact ⟨hasOrdinarySections_loose, ofValue_loose, d, r, hgiven, hchecked, hrequest, hset, hinput⟩

end Config

end Recolor
