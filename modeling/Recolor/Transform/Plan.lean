import Recolor.Profile.Basic
import Recolor.Transform.Basic
import Recolor.World

/-!
# Plans

Profiles are combined into one of three plans. A device link alone maps device
samples to device samples. If all profiles are ICC profiles the colour engine does
the whole work in one transform. Otherwise the plan is a chain that meets in Lab
colours: one half leads there, through a table or through the engine, one half leads
away, and between them an engine transform may show the colours as another device
would reproduce them.

Proofing is done once, in the middle, so that the halves neither proof nor check the
gamut.
-/

set_option autoImplicit false

namespace Recolor

/-- The layout in which the colour engine takes pixels of a format. -/
def FormatFields.engineMode (f : FormatFields) : Except Failure Mode :=
  match f.space.space with
  | .error e => .error e
  | .ok s =>
    match s.engineMode with
    | .error e => .error e
    | .ok mode => .ok mode

/-- A transform of the colour engine and what was asked for. -/
structure Built where
  request : BuildRequest
  map : PixelMap

namespace Built

/-- The pixels as the engine takes them. Lab pixels may have further columns, which are
ignored; pixels of other layouts must have the right number. -/
def pack (mode : Mode) (b : Block UInt8) : Except Fault (Block UInt8) :=
  if mode = .lab then
    if b.width < 3 then .error .tooFewColumns
    else .ok { width := 3, rows := b.rows.map (·.take 3) }
  else if b.rows.isEmpty ∨ b.width = mode.bands then .ok b
  else .error .imageDataSize

/-- The engine's pixels as pixels with a number of channels. -/
def unpack (mode : Mode) (channels : Int) (b : Block UInt8) : Except Fault (Block UInt8) :=
  if mode = .lab then .ok b else Rows.rewidth b channels

/-- Runs a transform of the engine on pixels. -/
def run (t : Built) (channels : Int) (b : Block UInt8) : Except Fault (Block UInt8) :=
  match pack t.request.inputMode b with
  | .error e => .error e
  | .ok packed =>
    unpack t.request.outputMode channels
      { width := t.map.width, rows := packed.rows.map t.map.run }

end Built

/-- The half of a chain that leads to Lab colours. -/
inductive InputHalf where
  | table (p : SampledProfile)
  | engine (t : Built)

/-- The half of a chain that leads from Lab colours. -/
inductive OutputHalf where
  | table (p : SampledProfile)
  | engine (t : Built)

/-- How profiles are combined. -/
inductive Plan where
  /-- One transform of the engine. -/
  | direct (t : Built)
  /-- A device link. -/
  | link (p : SampledProfile)
  /-- A chain that meets in Lab colours. -/
  | chain (input : InputHalf) (proof : Option Built) (output : OutputHalf)

/-- The intents and switches a transform is built with. -/
structure Rendering where
  intent : Intent := .perceptual
  proofIntent : Intent := .perceptual
  flags : TransformFlags := {}
  deriving DecidableEq, Repr, Inhabited

namespace Plan

/-- Asks the engine for a transform; a refusal ends the building. -/
def request (r : BuildRequest) : Work Built :=
  fun s w =>
    match Work.build r s w with
    | (.ok map, w') => (.ok ⟨r, map⟩, w')
    | (.error (.fault f), w') =>
      (.error (if f.kind = .engine then BuildError.engine f else f), w')
    | (.error e, w') => (.error e, w')

/-- The half that leads to Lab colours. -/
def inputHalf (format : FormatFields) (intent : Intent) (flags : TransformFlags) :
    Profile → Work InputHalf
  | .sampled p =>
    if p.direction = .deviceToPcs then pure (.table p)
    else Work.fail (BuildError.direction p.name p.direction.name Direction.deviceToPcs.name)
  | .icc p => do
    let mode ← Work.ofExcept format.engineMode
    let t ← request { input := p.source, output := .labD50, inputMode := mode, outputMode := .lab
                      intent, flags := flags.engineFlags }
    return .engine t

/-- The half that leads from Lab colours. -/
def outputHalf (format : FormatFields) (intent : Intent) (flags : TransformFlags) :
    Profile → Work OutputHalf
  | .sampled p =>
    if p.direction = .pcsToDevice then pure (.table p)
    else Work.fail (BuildError.direction p.name p.direction.name Direction.pcsToDevice.name)
  | .icc p => do
    let mode ← Work.ofExcept format.engineMode
    let t ← request { input := .labD50, output := p.source, inputMode := .lab, outputMode := mode
                      intent, flags := flags.engineFlags }
    return .engine t

/-- The middle of a chain with a profile to proof against. -/
def proofStage (r : Rendering) (flags : TransformFlags) : Option Profile → Work (Option Built)
  | none => pure none
  | some (.sampled _) => Work.fail BuildError.sampledProof
  | some (.icc p) => do
    let t ← request { input := .labD50, output := .labD50, inputMode := .lab, outputMode := .lab
                      intent := r.intent, flags := flags.engineFlags
                      proof := some (p.source, r.proofIntent) }
    return some t

/-- The engine transform for profiles that are all ICC profiles. -/
def directRequest (inputFormat outputFormat : FormatFields) (input output : IccProfile)
    (proof : Option IccProfile) (r : Rendering) (flags : TransformFlags) :
    Except Failure BuildRequest :=
  match inputFormat.engineMode with
  | .error e => .error e
  | .ok inputMode =>
    match outputFormat.engineMode with
    | .error e => .error e
    | .ok outputMode =>
      .ok { input := input.source, output := output.source, inputMode, outputMode
            intent := r.intent, flags := flags.engineFlags
            proof := proof.map fun p => (p.source, r.proofIntent) }

/-- The switches in force: a profile to proof against turns proofing on. -/
def flagsFor (r : Rendering) (proof : Option Profile) : TransformFlags :=
  if proof.isSome then r.flags.proofing else r.flags

/-- A chain through Lab colours. -/
def chainOf (inputFormat outputFormat : FormatFields) (input output : Profile)
    (proof : Option Profile) (r : Rendering) (flags : TransformFlags) : Work Plan := do
  let first ← inputHalf inputFormat r.intent flags.half input
  let middle ← proofStage r flags proof
  let last ← outputHalf outputFormat r.intent flags.half output
  return .chain first middle last

/-- Combines profiles into a plan, asking for no more of the formats than the engine needs. -/
def combine (inputFormat outputFormat : FormatFields) (input : Profile) (output proof : Option Profile)
    (r : Rendering) : Work Plan :=
  let flags := flagsFor r proof
  if input.isLink then
    match input with
    | .sampled p =>
      if p.direction = .deviceLink then pure (.link p)
      else Work.fail (BuildError.linkNotLoaded p.name)
    | .icc p => Work.fail (BuildError.linkNotLoaded p.name)
  else
    match output with
    | none => Work.fail BuildError.noOutputProfile
    | some output =>
      match input, output, proof with
      | .icc a, .icc b, none => do
        let wanted ← Work.ofExcept (directRequest inputFormat outputFormat a b none r flags)
        let t ← request wanted
        return .direct t
      | .icc a, .icc b, some (.icc c) => do
        let wanted ← Work.ofExcept (directRequest inputFormat outputFormat a b (some c) r flags)
        let t ← request wanted
        return .direct t
      | _, _, _ => chainOf inputFormat outputFormat input output proof r flags

/-- Combines profiles into a plan between two formats, whose colour spaces must have names. -/
def build (inputFormat outputFormat : FormatFields) (input : Profile) (output proof : Option Profile)
    (r : Rendering) : Work Plan := do
  let plan ← combine inputFormat outputFormat input output proof r
  Work.lift inputFormat.checkNamed
  Work.lift outputFormat.checkNamed
  return plan

/-- The number of stages of a chain, none if the engine does the whole work. -/
def stageCount? : Plan → Option Nat
  | .direct _ => none
  | .link _ => some 1
  | .chain _ none _ => some 2
  | .chain _ (some _) _ => some 3

/-- From device samples to Lab colours. -/
def toLab (half : InputHalf) (b : Block UInt8) : Except Fault (Block Float) :=
  match half with
  | .table p => p.deviceToLab.onBlock b
  | .engine t =>
    match t.run 3 b with
    | .error e => .error e
    | .ok lab => ((RowOp.samples Scalar.ofSample8).andThen Connection.decodeRows8).onBlock lab

/-- Lab colours as another device would reproduce them. -/
def simulate (t : Built) (b : Block Float) : Except Fault (Block Float) :=
  match Connection.encodeRows8.onBlock b with
  | .error e => .error e
  | .ok lab =>
    match t.run 3 lab with
    | .error e => .error e
    | .ok shown => ((RowOp.samples Scalar.ofSample8).andThen Connection.decodeRows8).onBlock shown

/-- From Lab colours to device samples. -/
def fromLab (half : OutputHalf) (channels : Int) (b : Block Float) : Except Fault (Block UInt8) :=
  match half with
  | .table p => p.labToDevice.onBlock b
  | .engine t =>
    match Connection.encodeRows8.onBlock b with
    | .error e => .error e
    | .ok lab => t.run channels lab

/-- What a plan does to natural samples. -/
def convert (plan : Plan) (channels : Int) (b : Block UInt8) : Except Fault (Block UInt8) :=
  match plan with
  | .direct t => t.run channels b
  | .link p => (p.deviceToDevice Float).onBlock b
  | .chain first middle last =>
    match toLab first b with
    | .error e => .error e
    | .ok lab =>
      match middle with
      | none => fromLab last channels lab
      | some t =>
        match simulate t lab with
        | .error e => .error e
        | .ok shown => fromLab last channels shown

/-- The transform that carries out a plan between two formats. -/
def transform (plan : Plan) (inputFormat outputFormat : FormatFields) : Transform where
  inputFormat := inputFormat
  outputFormat := outputFormat
  convert b :=
    match plan.convert outputFormat.channels b with
    | .error e => .error e
    | .ok result => .ok result

end Plan

end Recolor
