import Recolor.Config.Settings

/-!
# Valid configurations

A configuration is valid if a device link is not combined with other profiles, intents
and the precalculation mode are numbers from 0 to 3, and the quality is a whole number.
Each way to be invalid is a problem with a text of its own.

A check fails where the profiles that a device link would replace are missing, and where
the text of a problem would need an integer that cannot be written.
-/

set_option autoImplicit false

namespace Recolor

/-- What is wrong with a configuration. -/
inductive ConfigProblem where
  | linkWithProfiles
  | linkWithProof
  | intent (value : Value)
  | proofIntent (value : Value)
  | precalc (value : Value)
  | quality (value : Value)
  deriving Repr, Inhabited

namespace ConfigProblem

/-- The text of a problem. -/
def message : ConfigProblem → String
  | .linkWithProfiles => "device_link cannot be combined with input or output profiles"
  | .linkWithProof => "device_link cannot be combined with a proofing profile"
  | .intent v => "Unknown intent '" ++ v.plain ++ "' (0..3)"
  | .proofIntent v => "Unknown proofing intent '" ++ v.plain ++ "' (0..3)"
  | .precalc v => "Unknown precalc mode '" ++ v.plain ++ "' (0..3)"
  | .quality v => "quality must be an integer, got " ++ v.shown

/-- The value that the text of a problem shows. -/
def value? : ConfigProblem → Option Value
  | .linkWithProfiles => none
  | .linkWithProof => none
  | .intent v => some v
  | .proofIntent v => some v
  | .precalc v => some v
  | .quality v => some v

/-- Whether the text of a problem can be written. -/
def isTellable (p : ConfigProblem) : Bool :=
  p.value?.all Value.isShowable

end ConfigProblem

namespace Value

/-- Whether a value is one of the numbers from 0 to 3. -/
def isChoice (v : Value) : Bool :=
  [0, 1, 2, 3].any v.isNumber

/-- Whether a value is a whole number; truth values count as such. -/
def isWhole : Value → Bool
  | .int _ => true
  | .bool _ => true
  | _ => false

end Value

namespace Config

/-- Whether an input or an output profile is set. The one that is asked for must be there. -/
def hasProfile (p : ProfileSettings) : Except Fault Bool :=
  if p.content.lacks "input" then .error (.raised .attribute "there is no input profile")
  else if p.input.isSet then .ok true
  else if p.content.lacks "output" then .error (.raised .attribute "there is no output profile")
  else .ok p.output.isSet

/-- Whether a device link is combined with an input or an output profile. -/
def linksProfiles (p : ProfileSettings) : Except Fault Bool :=
  if p.link.isSet then hasProfile p else .ok false

/-- The problems of the values of a configuration. -/
def valueProblems (c : Config) : List ConfigProblem :=
  let r := c.rendering
  (if r.intent.isChoice then [] else [.intent r.intent])
    ++ (if r.proofIntent.isChoice then [] else [.proofIntent r.proofIntent])
    ++ (if r.precalc.isChoice then [] else [.precalc r.precalc])
    ++ (if c.output.quality.isWhole then [] else [.quality c.output.quality])

/-- The problems of a configuration. -/
def problems (c : Config) : Except Fault (List ConfigProblem) :=
  match linksProfiles c.profiles with
  | .error f => .error f
  | .ok linksProfiles =>
    let found := (if linksProfiles then [.linkWithProfiles] else [])
      ++ (if c.profiles.link.isSet && c.profiles.proofing.isSet then [.linkWithProof] else [])
      ++ c.valueProblems
    if found.all ConfigProblem.isTellable then .ok found
    else .error (.raised .value "an integer has too many digits")

end Config

end Recolor
