import Recolor.Jpeg.Encoding
import Recolor.Pipeline.Request
import Recolor.Profile.Link

/-!
# Resolving a request

What is known of a source and what is asked for are turned into a transform. The
input profile is the requested device link; else the embedded profile, unless it is
to be ignored; else the virtual fax profile if its stock name is asked for or the
image is a fax image without another request; else, for gray and four-component
images without a request, the first installed profile of that space; else the
requested profile or the built-in one.

A device link stands for all profiles at once. Without one the output profile and
the profile to proof against follow. The input profile must work in the space of the
source's pixels before anything is asked of the colour engine.
-/

set_option autoImplicit false

namespace Recolor

/-- A transform and the decisions that led to it. -/
structure Resolved where
  plan : Plan
  inputFormat : PixelFormat
  outputFormat : PixelFormat
  inputProfile : Profile
  outputProfile : Option Profile := none
  proofProfile : Option Profile := none
  usedEmbedded : Bool := false
  /-- The profile to embed in the destination. -/
  embedData : Option Bytes := none

namespace Resolved

/-- The transform to run. -/
def transform (r : Resolved) : Transform :=
  r.plan.transform r.inputFormat.fields r.outputFormat.fields

/-- The colour space of the destination's pixels. -/
def outputSpace (r : Resolved) : Space :=
  r.outputFormat.space

end Resolved

namespace Request

/-- The requested device link, loaded for the requested intent. -/
def loadLink (r : Request) (path : Path) : Work Profile := do
  if ← Work.hasPath path then
    let data ← Work.readFile path
    let p ← Work.ofExcept (Link.load data path.name r.rendering.intent.code)
    return .sampled p
  else Work.fail (ProfileError.linkNotFound path)

/-- Saves an embedded profile where it is asked for. A refusal of the file system is no
reason to give up. -/
def saveProfile (r : Request) (data : Bytes) : Work Unit :=
  match r.saveEmbedded with
  | .unset => pure ()
  | .invalid v => Work.fail (Fault.notAPath v)
  | .named name => do
    match ← Work.outcome (Work.writeFile (Path.ofString name) data) with
    | .ok () => return ()
    | .error (.fault f) => if f.isSystem then return () else Work.fail f
    | .error e => Work.fail e

/-- The embedded profile, opened and saved. -/
def openEmbedded (r : Request) (data : Bytes) : Work Profile := do
  let s ← Work.services
  let p ← Work.ofExcept (IccProfile.ofBytes s.engine data)
  r.saveProfile data
  return .icc p

/-- The virtual profile that decodes fax colours. -/
def faxInput : Work Profile := do
  let p ← Work.ofExcept Virtual.faxDecode
  return .sampled p

/-- The first installed profile of a space. -/
def installedInput (r : Request) (space : Space) : Work Profile := do
  match ← Profile.findInstalled space r.folders with
  | none => Work.fail (ProfileError.noneInstalled space)
  | some path =>
    let p ← Profile.ofFile path
    return .icc p

/-- Whether a space's profile is searched for among the installed ones. -/
def isSearched (space : Space) : Bool :=
  space == .gray || space == .cmyk

/-- The input profile without link or embedded profile. -/
def chosenInput (r : Request) (format : PixelFormat) : Work Profile :=
  if r.input.isStock Stock.lab || (r.input.isUnset && format.space == .lab) then faxInput
  else if r.input.isUnset && isSearched format.space then r.installedInput format.space
  else do
    let p ← r.input.openProfile
    return .icc p

/-- The embedded profile to use, if there is one and it is not to be ignored. -/
def embeddedData? (r : Request) (source : SourceColor) : Option Bytes :=
  if r.ignoreEmbedded then none
  else source.embedded.filter fun data => !data.isEmpty

/-- The input profile, and whether it was embedded in the source. -/
def resolveInput (r : Request) (source : SourceColor) (format : PixelFormat) :
    Work (Profile × Bool) :=
  match r.link with
  | .invalid v => Work.fail (Fault.notAPath v)
  | .named name => do
    let p ← r.loadLink (Path.ofString name)
    return (p, false)
  | .unset =>
    match r.embeddedData? source with
    | some data => do
      let p ← r.openEmbedded data
      return (p, true)
    | none => do
      let p ← r.chosenInput format
      return (p, false)

/-- The output profile. -/
def resolveOutput (r : Request) : Work Profile :=
  if r.output.isStock Stock.lab then do
    let p ← Work.ofExcept Virtual.faxEncode
    return .sampled p
  else do
    let p ← r.output.openProfile
    return .icc p

/-- The profile to proof against, if one is asked for. -/
def resolveProof (r : Request) : Work (Option Profile) :=
  if r.proof.isUnset then pure none
  else do
    let p ← r.proof.openProfile
    return some (.icc p)

/-- The output profile and the profile to proof against, of which a device link needs
neither. -/
def resolveOthers (r : Request) (input : Profile) : Work (Option Profile × Option Profile) :=
  if input.isLink then pure (none, none)
  else do
    let output ← r.resolveOutput
    let proof ← r.resolveProof
    return (some output, proof)

/-- The colour space that profiles lead to. -/
def targetSpace (input : Profile) : Option Profile → Option Space
  | none => input.pcs
  | some output => output.space

/-- The profile to embed: the output profile, if it came from a file. -/
def dataToEmbed (r : Request) (output : Option Profile) : Option Bytes :=
  match output with
  | some (.icc p) => if r.embedProfile && p.path.isSome then p.data? else none
  | _ => none

/-- The transform for a source. -/
def resolve (r : Request) (source : SourceColor) (invertsCmyk : Bool := true) : Work Resolved := do
  let inputFormat ← Work.lift source.inputFormat
  let (input, usedEmbedded) ← r.resolveInput source inputFormat
  let (output, proof) ← r.resolveOthers input
  if input.space ≠ some inputFormat.space then
    Work.fail (.conversion (.mismatch input.space inputFormat.space))
  else
    let outputFormat ← Work.lift
      (Recolor.outputFormat (targetSpace input output) inputFormat.planar invertsCmyk)
    let plan ← Plan.build inputFormat.fields outputFormat.fields input output proof r.rendering
    return { plan, inputFormat, outputFormat, inputProfile := input, outputProfile := output
             proofProfile := proof, usedEmbedded, embedData := r.dataToEmbed output }

end Request

end Recolor
