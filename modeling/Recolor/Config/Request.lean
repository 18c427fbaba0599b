import Recolor.Config.Settings
import Recolor.Pipeline.Request

/-!
# The request of a configuration

Configured values are turned into a request. Intents and the precalculation mode must be
numbers of known ones; switches are on if their values count as set. Proofing is on if a
profile to proof against is configured and no device link is.
-/

set_option autoImplicit false

namespace Recolor

/-- The intent whose number a value is. -/
def Intent.ofValue (v : Value) : Except Fault Intent :=
  match Intent.all.find? fun i => v.isNumber i.code with
  | some i => .ok i
  | none => .error (.notAMember v "Intent")

/-- The precalculation mode whose number a value is. -/
def Precalc.ofValue (v : Value) : Except Fault Precalc :=
  match Precalc.all.find? fun m => v.isNumber m.code with
  | some m => .ok m
  | none => .error (.notAMember v "PrecalcMode")

namespace Config

/-- Whether a conversion is to be proofed. -/
def isProofed (p : ProfileSettings) : Bool :=
  p.proofing.isSet && !p.link.isSet

/-- The rendering a configuration asks for. -/
def renderingAsked (c : Config) : Except Fault Rendering := do
  let intent ← Intent.ofValue c.rendering.intent
  let proofIntent ← Intent.ofValue c.rendering.proofIntent
  let precalc ← Precalc.ofValue c.rendering.precalc
  return { intent, proofIntent, flags :=
    { blackPoint := c.rendering.blackPoint.isSet
      gamutCheck := c.rendering.gamutCheck.isSet
      precalc
      softProofing := isProofed c.profiles } }

/-- Refuses profile settings that lack the input or the output profile. -/
def checkProfiles (p : ProfileSettings) : Except Fault Unit :=
  if p.content.lacks "input" || p.content.lacks "output" then
    .error (.raised .attribute "there is no input or output profile")
  else .ok ()

/-- The request of a configuration. -/
def request (c : Config) : Except Fault Request := do
  checkProfiles c.profiles
  let rendering ← c.renderingAsked
  return { input := .ofValue c.profiles.input
           output := .ofValue c.profiles.output
           proof := .ofSetting c.profiles.proofing
           link := .ofSetting c.profiles.link
           rendering
           ignoreEmbedded := c.output.ignoreEmbedded.isSet
           embedProfile := c.output.embedProfile.isSet
           saveEmbedded := .ofValue c.output.saveEmbedded
           folders := c.profiles.folders }

end Config

end Recolor
