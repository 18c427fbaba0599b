import Recolor.Profile.Sampled
import Recolor.Rows.Layout

/-!
# Device links

A device link holds its whole map in one tag: curves, a table and curves. Two
layouts are understood. Both start with four letters, eight bytes further the
numbers of input channels, output channels and nodes; `mft2` then has the lengths of
the curves at offset 48 and 16-bit values from offset 52 on, `mft1` has 8-bit values
from offset 48 on and curves of 256 entries.

The tag for a rendering intent is used if there is one, else that for the first
intent. Of several tags with one name the last counts.
-/

set_option autoImplicit false

namespace Recolor.Link

/-- A tag: its name, and where its data lies in the profile. -/
structure TagEntry where
  signature : String
  offset : Nat
  size : Nat
  deriving DecidableEq, Repr, Inhabited

/-- Reads `count` tags from an offset on. Each must lie within the profile. -/
def readEntries (data : Bytes) (position : Nat) : Nat → Except ProfileError (List TagEntry)
  | 0 => .ok []
  | count + 1 =>
    match Bytes.numberAt? data (position + 8) 4 with
    | none => .error .truncatedTagTable
    | some size =>
      let signature := Bytes.latin1 (Bytes.window data position 4)
      let offset := Bytes.toNat (Bytes.window data (position + 4) 4)
      if data.length < offset + size then .error (.tagBeyondEnd signature)
      else
        match readEntries data (position + 12) count with
        | .error e => .error e
        | .ok rest => .ok (⟨signature, offset, size⟩ :: rest)

/-- The tags of a profile. -/
def readTags (data : Bytes) : Except ProfileError (List TagEntry) :=
  match Bytes.numberAt? data Header.length 4 with
  | none => .error .noTagTable
  | some count => readEntries data (Header.length + 4) count

/-- The tag with a name; of several the last. -/
def findTag? (tags : List TagEntry) (signature : String) : Option TagEntry :=
  tags.reverse.find? fun t => t.signature == signature

/-- The name of the tag for an intent. -/
def tagName (intent : Int) : String :=
  "A2B" ++ toString intent

/-- The tag to use for an intent. -/
def chooseTag? (tags : List TagEntry) (intent : Int) : Option TagEntry :=
  match findTag? tags (tagName intent) with
  | some t => some t
  | none => findTag? tags (tagName 0)

/-- How the values of a layout are kept. -/
structure Layout where
  /-- Bytes of a value. -/
  width : Nat
  /-- Entries of an input curve. -/
  inputEntries : Nat
  /-- Entries of an output curve. -/
  outputEntries : Nat
  /-- Where the values start. -/
  start : Nat
  deriving DecidableEq, Repr, Inhabited

/-- The layout of 8-bit values. -/
def byteLayout : Layout :=
  { width := 1, inputEntries := 256, outputEntries := 256, start := 48 }

/-- The layout of 16-bit values with curves of the given lengths. -/
def wordLayout (inputEntries outputEntries : Nat) : Layout :=
  { width := 2, inputEntries, outputEntries, start := 52 }

/-- The values in bytes: 8-bit values are widened to fill 16 bits. -/
def readValues (width : Nat) (data : Bytes) : List UInt16 :=
  if width = 2 then Bytes.words16 data else data.map fun b => UInt16.ofNat (257 * b.toNat)

/-- The map of a device link. -/
structure Tables where
  inputCurves : List Curve
  table : Grid
  outputCurves : List Curve

/-- The values of a layout as curves, table and curves. -/
def assemble (layout : Layout) (inputs outputs points : Nat) (values : List UInt16) :
    Except Failure Tables :=
  let inputValues := inputs * layout.inputEntries
  let tableValues := points.pow inputs * outputs
  let inputCurves := Rows.cut layout.inputEntries inputs values
  let entries := ((values.drop inputValues).take tableValues).toArray
  let outputCurves := Rows.cut layout.outputEntries outputs (values.drop (inputValues + tableValues))
  match Grid.ofEntries (Grid.shapeOf points inputs outputs) entries points inputs outputs with
  | .error e => .error e
  | .ok table => .ok { inputCurves, table, outputCurves }

/-- Bytes that a layout fills. -/
def neededBytes (layout : Layout) (inputs outputs points : Nat) : Nat :=
  layout.start
    + (inputs * layout.inputEntries + points.pow inputs * outputs + outputs * layout.outputEntries)
      * layout.width

/-- The layout of a tag's data, by the letters that the data starts with. -/
def readLayout (tag : Bytes) (kind : String) : Except Failure Layout :=
  if kind = "mft2" then
    match Bytes.numberAt? tag 50 2 with
    | none => .error Fault.blockCut
    | some outputEntries =>
      .ok (wordLayout (Bytes.toNat (Bytes.window tag 48 2)) outputEntries)
  else .ok byteLayout

/-- Reads a tag that must have the given numbers of channels. -/
def readTables (tag : Bytes) (headerInputs headerOutputs : Nat) : Except Failure Tables :=
  let kind := Bytes.latin1 (Bytes.window tag 0 4)
  if kind ≠ "mft1" ∧ kind ≠ "mft2" then .error (ProfileError.unsupportedTable kind)
  else
    match Bytes.numberAt? tag 10 1 with
    | none => .error Fault.tagCut
    | some points =>
      let inputs := Bytes.toNat (Bytes.window tag 8 1)
      let outputs := Bytes.toNat (Bytes.window tag 9 1)
      if inputs ≠ headerInputs ∨ outputs ≠ headerOutputs then
        .error (ProfileError.channelsDiffer inputs outputs headerInputs headerOutputs)
      else if points < 2 then .error (ProfileError.gridPoints points)
      else
        match readLayout tag kind with
        | .error e => .error e
        | .ok layout =>
          let needed := neededBytes layout inputs outputs points
          if tag.length < needed then .error (ProfileError.truncatedTable tag.length needed)
          else assemble layout inputs outputs points (readValues layout.width (tag.drop layout.start))

/-- The profile of a device link with the given spaces. -/
def profile (name : String) (source target : Space) (t : Tables) : SampledProfile where
  name := name
  table := t.table
  direction := .deviceLink
  space := some source
  pcs := some target
  deviceClass := .link
  inputCurves := some t.inputCurves
  outputCurves := some t.outputCurves

/-- The source and target spaces that a device link's header states. -/
def readSpaces (header : Header) (name : String) : Except ProfileError (Space × Space) :=
  if header.deviceClass ≠ .link then .error (.notALink name header.deviceClass.signature)
  else
    match header.space, header.pcs with
    | some source, some target =>
      if source = .xyz then .error (.xyzInput name) else .ok (source, target)
    | _, _ => .error (.unsupportedSpaces name header.spaceSignature header.pcsSignature)

/-- Loads a device link. -/
def load (data : Bytes) (name : String := "device-link") (intent : Int := 0) :
    Except Failure SampledProfile :=
  match Header.parse data with
  | .error e => .error e
  | .ok header =>
    match readSpaces header name with
    | .error e => .error e
    | .ok (source, target) =>
      match readTags data with
      | .error e => .error e
      | .ok tags =>
        match chooseTag? tags intent with
        | none => .error (ProfileError.noTable name)
        | some tag =>
          match readTables (Bytes.window data tag.offset tag.size)
              (source.channels?.getD 0) (target.channels?.getD 0) with
          | .error e => .error e
          | .ok tables => .ok (profile name source target tables)

end Recolor.Link
