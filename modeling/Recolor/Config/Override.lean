import Recolor.Config.Settings

/-!
# Overrides

Single settings may be given from outside, such as on a command line; they win over the
configuration. A value of nothing or false counts as not given. A device link that is
given takes the place of the configured input and output profiles.
-/

set_option autoImplicit false

namespace Recolor

namespace ProfileSettings

/-- The settings with an input profile. -/
def setInput (p : ProfileSettings) (v : Value) : ProfileSettings :=
  { p with input := v, content := p.content.giving "input" }

/-- The settings with an output profile. -/
def setOutput (p : ProfileSettings) (v : Value) : ProfileSettings :=
  { p with output := v, content := p.content.giving "output" }

end ProfileSettings

/-- The settings that can be given from outside. -/
inductive Override where
  | inputProfile
  | outputProfile
  | proofProfile
  | deviceLink
  | intent
  | proofIntent
  | blackPoint
  | gamutCheck
  | precalc
  | quality
  | embedProfile
  | ignoreEmbedded
  | saveEmbedded
  deriving DecidableEq, Repr, Inhabited

namespace Override

/-- All of them. -/
def all : List Override :=
  [.inputProfile, .outputProfile, .proofProfile, .deviceLink, .intent, .proofIntent, .blackPoint,
    .gamutCheck, .precalc, .quality, .embedProfile, .ignoreEmbedded, .saveEmbedded]

/-- The name under which a setting is given. -/
def name : Override → String
  | .inputProfile => "input_profile"
  | .outputProfile => "output_profile"
  | .proofProfile => "proof_profile"
  | .deviceLink => "device_link"
  | .intent => "intent"
  | .proofIntent => "proof_intent"
  | .blackPoint => "bpc"
  | .gamutCheck => "gamut_check"
  | .precalc => "precalc"
  | .quality => "quality"
  | .embedProfile => "embed_profile"
  | .ignoreEmbedded => "ignore_embedded"
  | .saveEmbedded => "save_embedded"

/-- The setting with a given name. -/
def ofName? (s : String) : Option Override :=
  all.find? fun o => o.name == s

/-- The configuration with one setting replaced. -/
def set (c : Config) (v : Value) : Override → Config
  | .inputProfile => { c with profiles := c.profiles.setInput v }
  | .outputProfile => { c with profiles := c.profiles.setOutput v }
  | .proofProfile => { c with profiles :=
      { c.profiles with proofing := v, content := c.profiles.content.giving "proofing" } }
  | .deviceLink => { c with profiles :=
      { c.profiles with link := v, content := c.profiles.content.giving "device_link" } }
  | .intent => { c with rendering :=
      { c.rendering with intent := v, content := c.rendering.content.giving "intent" } }
  | .proofIntent => { c with rendering :=
      { c.rendering with
        proofIntent := v, content := c.rendering.content.giving "proofing_intent" } }
  | .blackPoint => { c with rendering :=
      { c.rendering with
        blackPoint := v, content := c.rendering.content.giving "black_point_compensation" } }
  | .gamutCheck => { c with rendering :=
      { c.rendering with gamutCheck := v, content := c.rendering.content.giving "gamut_check" } }
  | .precalc => { c with rendering :=
      { c.rendering with precalc := v, content := c.rendering.content.giving "precalc" } }
  | .quality => { c with output :=
      { c.output with quality := v, content := c.output.content.giving "quality" } }
  | .embedProfile => { c with output :=
      { c.output with embedProfile := v, content := c.output.content.giving "embed_profile" } }
  | .ignoreEmbedded => { c with output :=
      { c.output with ignoreEmbedded := v, content := c.output.content.giving "ignore_embedded" } }
  | .saveEmbedded => { c with output :=
      { c.output with saveEmbedded := v, content := c.output.content.giving "save_embedded" } }

/-- Whether a value counts as given. -/
def isGiven : Value → Bool
  | .null => false
  | .bool b => b
  | _ => true

end Override

namespace Config

/-- The configuration with the given settings replaced, one after another. -/
def setAll (c : Config) : List (String × Value) → Except Fault Config
  | [] => .ok c
  | (name, v) :: rest =>
    if Override.isGiven v then
      match Override.ofName? name with
      | none => .error (.unknownOverride name)
      | some o => (o.set c v).setAll rest
    else c.setAll rest

/-- Whether a setting is given and counts as set. -/
def isSetIn (given : List (String × Value)) (o : Override) : Bool :=
  ((given.lookup o.name).getD .null).isSet

/-- The profiles among which a given device link has replaced those that are not given. -/
def yieldProfiles (p : ProfileSettings) (given : List (String × Value)) : ProfileSettings :=
  let p := if isSetIn given .inputProfile then p else p.setInput .null
  if isSetIn given .outputProfile then p else p.setOutput .null

/-- The configuration in which the profiles that a given device link replaces are unset. -/
def yieldToLink (c : Config) (given : List (String × Value)) : Config :=
  if isSetIn given .deviceLink then { c with profiles := yieldProfiles c.profiles given }
  else c

/-- The configuration under the given settings. -/
def override (c : Config) (given : List (String × Value)) : Except Fault Config :=
  match c.setAll given with
  | .error e => .error e
  | .ok c => .ok (c.yieldToLink given)

end Config

end Recolor
