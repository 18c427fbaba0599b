import Recolor.Table.Grid

/-!
# Sampling a table

A table is filled by asking a sampler once for all nodes. The sampler answers with
an array, of numbers or of integers, whose shape has to be one row of outputs per
node. Numbers have to be finite and are rounded to the nearest integer, halves
upwards; integers are taken as they are. Both are saturated to 16 bits.

Where a table of any size may be asked for, the number of its nodes is checked first.
-/

set_option autoImplicit false

namespace Recolor

/-- The values of a sampler's answer. -/
inductive Samples (α : Type) where
  | numbers (rows : List (List α))
  | integers (rows : List (List Int))
  deriving Repr, Inhabited

/-- A sampler's answer: an array and its shape. -/
structure SampleArray (α : Type) where
  shape : List Int
  samples : Samples α
  deriving Repr, Inhabited

/-- Why a sampler gave no answer. -/
inductive SamplerFault where
  | outOfMemory
  | fault (f : Fault)
  deriving Repr, Inhabited

/-- A function asked once for the values at all nodes. -/
abbrev Sampler (α : Type) := List (List UInt16) → Except SamplerFault (SampleArray α)

namespace Sampler

variable {α : Type}

/-- The sampler that treats each node by itself, giving rows of integers. -/
def ofCodes (inputs : Nat) (f : RowOp α UInt16) (number : UInt16 → α) : Sampler α :=
  fun nodes =>
    match f.width inputs with
    | .error e => .error (.fault e)
    | .ok width =>
      .ok { shape := [nodes.length, width]
            samples := .integers (nodes.map fun row =>
              (f.run (row.map number)).map fun c => Int.ofNat c.toNat) }

end Sampler

namespace Grid

variable {α : Type} [Scalar α]

/-- The 16-bit codes of a sampler's values, or `none` if one is not finite. -/
@[specialize] def codes? : Samples α → Option (List UInt16)
  | .numbers rows =>
    if rows.all (·.all Scalar.isFinite) then
      some (rows.flatMap fun row => row.map fun x => (Scalar.round x).toCode16)
    else none
  | .integers rows =>
    some (rows.flatMap fun row => row.map fun n => (Whole.int n).toCode16)

/-- Fills a table by asking a sampler for all its nodes. -/
@[specialize] def sample (sampler : Sampler α) (points inputs outputs : Int) :
    Except Failure Grid :=
  if points < 2 then .error (TableError.gridTooSmall points)
  else if inputs ≤ 0 then .error (Fault.raised .value "need at least one array to stack")
  else
    let count : Int := points.pow inputs.toNat
    match sampler (nodes points.toNat inputs.toNat) with
    | .error .outOfMemory => .error (TableError.outOfMemory points inputs)
    | .error (.fault f) => .error f
    | .ok answer =>
      if answer.shape ≠ [count, outputs] then
        .error (TableError.samplerShape answer.shape [count, outputs])
      else
        match codes? answer.samples with
        | none => .error TableError.notFinite
        | some codes => ofEntries (shapeOf points inputs outputs) codes.toArray points inputs outputs

/-- The number of nodes for which there is no memory. -/
def tooManyNodes : Int := 0x80000000

/-- The most axes that the nodes of a table can have. -/
def mostInputs : Int := 64

/-- Refuses a number of nodes for which there is no memory. A number that no array can have is
a fault of its own. The nodes of an axis take eight bytes each, those of the table two. -/
def checkRoom (points inputs : Int) : Except Failure Unit :=
  if points < 2 ∨ inputs ≤ 0 then .ok ()
  else if Rows.mostBytes < 8 * points then .error (Fault.raised .value "too many nodes")
  else if tooManyNodes ≤ points then .error (TableError.outOfMemory points inputs)
  else if mostInputs < inputs ∨ Rows.mostBytes < 2 * points.pow inputs.toNat then
    .error (Fault.raised .value "too many nodes")
  else if tooManyNodes ≤ points.pow inputs.toNat then
    .error (TableError.outOfMemory points inputs)
  else .ok ()

/-- Fills a table for whose nodes there is memory. -/
@[specialize] def sampleInRoom (sampler : Sampler α) (points inputs outputs : Int) :
    Except Failure Grid :=
  match checkRoom points inputs with
  | .error e => .error e
  | .ok () => sample sampler points inputs outputs

end Grid

end Recolor
