import Recolor.Lab.Fax
import Recolor.Profile.Sampled
import Recolor.Table.Sampler

/-!
# Virtual profiles of fax images

Fax colours have no profile of their own. Two are made by sampling: one that decodes
fax codes into the connection space, and one that brings the colours of the
connection space into the fax envelope and encodes them.
-/

set_option autoImplicit false

namespace Recolor.Virtual

/-- Nodes along each axis, unless another number is asked for. -/
def gridPoints : Int := 33

/-- The profile that decodes fax colours. -/
def decodeProfile (table : Grid) : SampledProfile where
  name := "*Lab (ITU fax decode)"
  table := table
  direction := .deviceToPcs
  space := some .lab
  pcs := some .lab
  deviceClass := .colorSpace
  stated := "ITU T.42 fax CIELab to PCS"

/-- The profile that encodes fax colours. -/
def encodeProfile (table : Grid) : SampledProfile where
  name := "*Lab (ITU fax encode)"
  table := table
  direction := .pcsToDevice
  space := some .lab
  pcs := some .lab
  deviceClass := .colorSpace
  stated := "PCS to ITU T.42 fax CIELab"

section Sampling

variable (α : Type) [Scalar α]

/-- The table from fax codes to connection space codes. -/
def faxDecodeTable (points : Int) : Except Failure Grid :=
  Grid.sample (Sampler.ofCodes 3 Fax.rowsToConnection Scalar.ofCode16 : Sampler α) points 3 3

/-- The table from connection space codes to fax codes. -/
def faxEncodeTable (points : Int) : Except Failure Grid :=
  Grid.sample (Sampler.ofCodes 3 Fax.rowsOfConnection Scalar.ofCode16 : Sampler α) points 3 3

/-- The profile that decodes fax colours, sampled at any number of nodes. -/
def faxDecoder (points : Int) : Except Failure SampledProfile :=
  match faxDecodeTable α points with
  | .error e => .error e
  | .ok table => .ok (decodeProfile table)

/-- The profile that encodes fax colours, sampled at any number of nodes. -/
def faxEncoder (points : Int) : Except Failure SampledProfile :=
  match faxEncodeTable α points with
  | .error e => .error e
  | .ok table => .ok (encodeProfile table)

end Sampling

/-- The profile that decodes fax colours, sampled at a number of nodes for which there is
memory. -/
def faxDecode (points : Int := gridPoints) (α : Type := Float) [Scalar α] :
    Except Failure SampledProfile :=
  match Grid.checkRoom points 3 with
  | .error e => .error e
  | .ok () => faxDecoder α points

/-- The profile that encodes fax colours, sampled at a number of nodes for which there is
memory. -/
def faxEncode (points : Int := gridPoints) (α : Type := Float) [Scalar α] :
    Except Failure SampledProfile :=
  match Grid.checkRoom points 3 with
  | .error e => .error e
  | .ok () => faxEncoder α points

end Recolor.Virtual
