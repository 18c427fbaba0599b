import Recolor.Failure
import Recolor.Files.Bytes

/-!
# Headers of ICC profiles

Of the 128 bytes of a header five facts matter here: the size it states, the
version, the device class, the colour space of the data and that of the connection
space. The signature `acsp` at offset 36 marks a profile.
-/

set_option autoImplicit false

namespace Recolor

/-- What kind of device, or of map, a profile describes. -/
inductive DeviceClass where
  | input
  | display
  | output
  | link
  | abstract
  | colorSpace
  | namedColor
  deriving DecidableEq, Repr, Inhabited

namespace DeviceClass

/-- All device classes. -/
def all : List DeviceClass :=
  [.input, .display, .output, .link, .abstract, .colorSpace, .namedColor]

/-- The four letters of a device class. -/
def signature : DeviceClass → String
  | .input => "scnr"
  | .display => "mntr"
  | .output => "prtr"
  | .link => "link"
  | .abstract => "abst"
  | .colorSpace => "spac"
  | .namedColor => "nmcl"

/-- The device class with the given letters. -/
def ofSignature? (s : String) : Option DeviceClass :=
  all.find? fun c => c.signature == s

end DeviceClass

namespace Space

/-- The four letters of a colour space in a profile. -/
def signature : Space → String
  | .gray => "GRAY"
  | .rgb => "RGB "
  | .cmy => "CMY "
  | .cmyk => "CMYK"
  | .ycbcr => "YCbr"
  | .yuv => "Luv "
  | .xyz => "XYZ "
  | .lab => "Lab "

/-- The colour space with the given letters. -/
def ofSignature? (s : String) : Option Space :=
  all.find? fun space => space.signature == s

/-- A space is found by its signature. -/
theorem ofSignature?_signature (s : Space) : ofSignature? s.signature = some s := by
  cases s <;> decide +kernel

end Space

/-- The facts of a profile's header. -/
structure Header where
  size : Nat
  version : Nat × Nat
  deviceClass : DeviceClass
  space : Option Space
  spaceSignature : String
  pcs : Option Space
  pcsSignature : String
  deriving Repr, Inhabited

namespace Header

/-- The bytes of a header. -/
def length : Nat := 128

/-- Whether data carries the mark of a profile. -/
def hasMagic (data : Bytes) : Bool :=
  Bytes.window data 36 4 == Bytes.ofText "acsp"

/-- The letters that name the device class. -/
def classSignature (data : Bytes) : String :=
  Bytes.latin1 (Bytes.window data 12 4)

/-- The letters that name the colour space of the data. -/
def spaceLetters (data : Bytes) : String :=
  Bytes.latin1 (Bytes.window data 16 4)

/-- The letters that name the connection space. -/
def pcsLetters (data : Bytes) : String :=
  Bytes.latin1 (Bytes.window data 20 4)

/-- Reads a header off the beginning of profile data. -/
def parse (data : Bytes) : Except ProfileError Header :=
  if data.length < length then .error (.tooShort data.length)
  else if !hasMagic data then .error .noMagic
  else
    match DeviceClass.ofSignature? (classSignature data) with
    | none => .error (.unknownClass (classSignature data))
    | some deviceClass =>
      .ok { size := Bytes.toNat (Bytes.window data 0 4)
            version := (Bytes.toNat (Bytes.window data 8 1), Bytes.toNat (Bytes.window data 9 1) / 16)
            deviceClass
            space := Space.ofSignature? (spaceLetters data)
            spaceSignature := spaceLetters data
            pcs := Space.ofSignature? (pcsLetters data)
            pcsSignature := pcsLetters data }

end Header

end Recolor
