import Recolor.Config.Value
import Recolor.Files.Tree
import Recolor.Pixel.Space

/-!
# Failures

Two sorts of failure are told apart. A conversion error is one the library raises
itself when it gives a conversion up; it is reported once, by its message. A fault
comes from below or from misuse: data of the wrong size, a refusal of the file
system, of the colour engine or of the codec, a configured value of the wrong kind.

Each cause is a constructor that carries what the cause is about, and the wording is
fixed in one function per family.
-/

set_option autoImplicit false

namespace Recolor

/-- The kind of a fault, by which callers decide whether to wrap it or to pass it on. -/
inductive FaultKind where
  | value
  | type
  | key
  | index
  | overflow
  | memory
  | attribute
  | system
  | missingFile
  | isFolder
  | notFolder
  | fileExists
  | engine
  | layout
  | document
  | encoding
  | unencodable
  | depth
  | runtime
  deriving DecidableEq, Repr, Inhabited

/-- A fault of the machinery below the library, or of its use. -/
inductive Fault where
  /-- Rows have fewer columns than an operation reads. -/
  | tooFewColumns
  /-- A curve without entries was evaluated. -/
  | emptyCurve
  /-- Samples of one count do not fill room for another. -/
  | sizesDiffer (size room : Nat)
  /-- Samples of one count cannot be laid out in a shape. -/
  | notReshapable (size : Nat) (shape : List Int)
  /-- Samples cannot be laid out in a shape of which more than one length is left open. -/
  | openLengths
  /-- Nested rows have different lengths. -/
  | ragged
  /-- Rows are nested more deeply than an array can be. -/
  | tooManyAxes
  /-- A sample does not fit its word. -/
  | sampleRange
  /-- A size is negative. -/
  | negativeSize
  /-- The colour engine was given pixels that do not fill its image. -/
  | imageDataSize
  /-- A value that is not a number was to be encoded. -/
  | notANumber
  /-- An infinite or far too large value was to be encoded. -/
  | tooLarge
  /-- The file system refused. -/
  | file (fault : FileFault) (path : Path)
  /-- The codec does not know a file's format. -/
  | unidentified (path : Path)
  /-- The colour engine refused. -/
  | engineRefused (text : String)
  /-- A profile's data could not be read by the colour engine. -/
  | profileUnreadable
  /-- A fault handed over by the codec or by a stage of a transform. -/
  | raised (kind : FaultKind) (text : String)
  /-- A marker's length does not fit its two bytes. -/
  | segmentTooLong
  /-- A marker's tag does not fit its byte. -/
  | tagRange
  /-- A data block ends before its fixed part does. -/
  | blockCut
  /-- A table's tag ends before its channel counts. -/
  | tagCut
  /-- A configured value cannot name a file. -/
  | notAPath (value : Value)
  /-- A configured value cannot be searched for sections or split into entries. -/
  | notACollection (value : Value)
  /-- A key of a section is not text. -/
  | keyNotText (value : Value)
  /-- A collection without keys was asked for a section. -/
  | notAMapping (value : Value)
  /-- An override names no setting. -/
  | unknownOverride (name : String)
  /-- A value is no rendering intent or precalculation mode. -/
  | notAMember (value : Value) (kind : String)
  /-- A logging level names something that is no level. -/
  | badLevel (ofWrongKind : Bool)
  /-- A numeral is too long or not made of decimal digits. -/
  | badNumeral (text : String)
  /-- A configuration document is malformed. -/
  | badDocument (text : String)
  /-- A date is not in the calendar. -/
  | badDate
  /-- A text said to be a date is none. -/
  | notADate (text : String)
  /-- A text said to be a truth value is none. -/
  | badTruth (text : String)
  /-- A text said to be a number is empty. -/
  | emptyNumeral
  /-- The bytes of a file are no text. -/
  | notText (path : Path)
  /-- Something is nested too deeply. -/
  | tooDeep
  /-- The user's folder is not known. -/
  | noHome
  deriving Repr, Inhabited

namespace Fault

/-- The kind of a fault. -/
def kind : Fault → FaultKind
  | .tooFewColumns => .index
  | .emptyCurve => .value
  | .sizesDiffer .. => .value
  | .notReshapable .. => .value
  | .openLengths => .value
  | .ragged => .value
  | .tooManyAxes => .value
  | .sampleRange => .overflow
  | .negativeSize => .value
  | .imageDataSize => .value
  | .notANumber => .value
  | .tooLarge => .overflow
  | .file .missing _ => .missingFile
  | .file .notFolder _ => .notFolder
  | .file .isFolder _ => .isFolder
  | .file .alreadyExists _ => .fileExists
  | .file .tooLong _ => .system
  | .file .holdsNul _ => .value
  | .file .holdsHalf _ => .unencodable
  | .unidentified _ => .system
  | .engineRefused _ => .engine
  | .profileUnreadable => .system
  | .raised kind _ => kind
  | .segmentTooLong => .layout
  | .tagRange => .value
  | .blockCut => .layout
  | .tagCut => .index
  | .notAPath _ => .type
  | .notACollection _ => .type
  | .keyNotText _ => .type
  | .notAMapping _ => .type
  | .unknownOverride _ => .key
  | .notAMember .. => .value
  | .badLevel ofWrongKind => if ofWrongKind then .type else .value
  | .badNumeral _ => .value
  | .badDocument _ => .document
  | .badDate => .value
  | .notADate _ => .attribute
  | .badTruth _ => .key
  | .emptyNumeral => .index
  | .notText _ => .encoding
  | .tooDeep => .depth
  | .noHome => .runtime

/-- Whether a fault is a refusal of the operating system or of a reader of files. -/
def isSystem (f : Fault) : Bool :=
  match f.kind with
  | .system | .missingFile | .isFolder | .notFolder | .fileExists => true
  | _ => false

/-- Whether a fault comes from data of a wrong size or value. -/
def isValue (f : Fault) : Bool :=
  match f.kind with
  | .value | .encoding | .unencodable => true
  | _ => false

/-- Sizes between round brackets; a single one is followed by a comma. -/
def shapeText (separator : String) : List Int → String
  | [] => "()"
  | [n] => "(" ++ toString n ++ ",)"
  | ns => "(" ++ String.intercalate separator (ns.map toString) ++ ")"

/-- A shape that data was to be laid out in. An axis whose length was left open, written
as a negative number, is not named in front. -/
def openShapeText (shape : List Int) : String :=
  let axis (n : Int) : String := if n < 0 then "newaxis" else toString n
  match shape.dropWhile (· < 0) with
  | [] => "()"
  | known =>
    if shape.length = 1 then shapeText "," known
    else "(" ++ String.intercalate "," (known.map axis) ++ ")"

/-- The text of a fault. -/
def message : Fault → String
  | .tooFewColumns => "too few columns"
  | .emptyCurve => "array of sample points is empty"
  | .sizesDiffer n m =>
    "could not broadcast input array from shape " ++ shapeText "," [n] ++ " into shape "
      ++ shapeText "," [m]
  | .notReshapable size shape =>
    "cannot reshape array of size " ++ toString size ++ " into shape " ++ openShapeText shape
  | .openLengths => "can only specify one unknown dimension"
  | .ragged => "rows have different lengths"
  | .tooManyAxes => "rows are nested too deeply"
  | .sampleRange => "sample out of bounds"
  | .negativeSize => "negative dimensions are not allowed"
  | .imageDataSize => "not enough image data"
  | .notANumber => "cannot convert float NaN to integer"
  | .tooLarge => "cannot convert float infinity to integer"
  | .file fault path => fault.message path
  | .unidentified path => "cannot identify image file '" ++ path.toString ++ "'"
  | .engineRefused text => text
  | .profileUnreadable => "unreadable profile"
  | .raised _ text => text
  | .segmentTooLong => "'H' format requires 0 <= number <= 65535"
  | .tagRange => "bytes must be in range(0, 256)"
  | .blockCut => "block too short"
  | .tagCut => "index out of range"
  | .notAPath value => value.shown ++ " names no file"
  | .notACollection value => value.shown ++ " is not a collection"
  | .keyNotText value => value.shown ++ " is not the name of a setting"
  | .notAMapping value => value.shown ++ " has no sections"
  | .unknownOverride name => Text.quoted name
  | .notAMember value kind => value.shown ++ " is not a valid " ++ kind
  | .badLevel _ => "unknown level"
  | .badNumeral text => "invalid numeral: " ++ Text.quoted text
  | .badDocument text => text
  | .badDate => "no such date"
  | .notADate text => Text.quoted text ++ " is no date"
  | .badTruth text => Text.quoted text
  | .emptyNumeral => "a number has no digits"
  | .notText path => Text.quoted path.toString ++ " is not encoded as text"
  | .tooDeep => "nested too deeply"
  | .noHome => "Could not determine home directory."

end Fault

/-- Why a pixel format has no descriptor word, or a word no format. -/
inductive FormatError where
  | unknownSpace (value : Value)
  | unknownFlavor (value : Value)
  | bytesRange (n : Int)
  | channelsRange (n : Int)
  | extraRange (n : Int)
  | unknownCode (code : Nat) (word : Int)
  deriving Repr, Inhabited

namespace FormatError

/-- The text of a format error. -/
def message : FormatError → String
  | .unknownSpace v => "Unknown color space: " ++ v.shown
  | .unknownFlavor v => "Unknown flavor: " ++ v.shown
  | .bytesRange n => "bytes_per_sample out of range: " ++ toString n
  | .channelsRange n => "channels out of range: " ++ toString n
  | .extraRange n => "extra channels out of range: " ++ toString n
  | .unknownCode code word =>
    "Unknown color space code " ++ toString code ++ " in format 0x" ++ Text.hexPadded 8 word

end FormatError

/-- Why a colour space cannot be read, written or transformed. -/
inductive SpaceError where
  | noChannels (space : Space)
  | noEngineMode (space : Space)
  | unreadable (encoding : String)
  | components (space : Space) (needed found : Int)
  | unknownOutput
  | notWritable (space : Space)
  deriving Repr, Inhabited

namespace SpaceError

/-- The text of a colour space error. -/
def message : SpaceError → String
  | .noChannels space => "Unsupported output color space: " ++ space.name
  | .noEngineMode space => "little-cms path cannot handle " ++ space.name ++ " pixels"
  | .unreadable encoding => "Unsupported color space (" ++ encoding ++ ")"
  | .components space needed found =>
    space.name ++ " needs " ++ toString needed ++ " components, image has " ++ toString found
  | .unknownOutput => "Unsupported output color space"
  | .notWritable space => "Cannot write " ++ space.name ++ " JPEG files"

end SpaceError

/-- Why a profile could not be opened, parsed or found. -/
inductive ProfileError where
  | tooShort (size : Nat)
  | noMagic
  | unknownClass (signature : String)
  | cannotOpen (name : String) (cause : Fault)
  | notFound (path : Path)
  | noTagTable
  | truncatedTagTable
  | tagBeyondEnd (signature : String)
  | unsupportedTable (kind : String)
  | channelsDiffer (inputs outputs headerInputs headerOutputs : Nat)
  | gridPoints (points : Nat)
  | truncatedTable (size needed : Nat)
  | notALink (name deviceClass : String)
  | unsupportedSpaces (name source target : String)
  | xyzInput (name : String)
  | noTable (name : String)
  | virtualLab
  | linkNotFound (path : Path)
  | noneInstalled (space : Space)
  deriving Repr, Inhabited

namespace ProfileError

/-- The text of a profile error. -/
def message : ProfileError → String
  | .tooShort size => "ICC data too short (" ++ toString size ++ " bytes)"
  | .noMagic => "Not an ICC profile (missing 'acsp' signature)"
  | .unknownClass signature => "Unknown ICC device class '" ++ signature ++ "'"
  | .cannotOpen name cause => "Cannot open profile '" ++ name ++ "': " ++ cause.message
  | .notFound path => "Profile not found: " ++ path.toString
  | .noTagTable => "ICC profile has no tag table"
  | .truncatedTagTable => "Truncated ICC tag table"
  | .tagBeyondEnd signature => "ICC tag '" ++ signature ++ "' extends past end of profile"
  | .unsupportedTable kind =>
    "Unsupported device-link tag type '" ++ kind ++ "' (need lut8 or lut16)"
  | .channelsDiffer inputs outputs headerInputs headerOutputs =>
    "Device-link table is " ++ toString inputs ++ "->" ++ toString outputs
      ++ " channels, header says " ++ toString headerInputs ++ "->" ++ toString headerOutputs
  | .gridPoints points => "Device-link table has " ++ toString points ++ " grid points"
  | .truncatedTable size needed =>
    "Device-link table truncated (" ++ toString size ++ " of " ++ toString needed ++ " bytes)"
  | .notALink name deviceClass =>
    "'" ++ name ++ "' is not a device-link profile (class '" ++ deviceClass ++ "')"
  | .unsupportedSpaces name source target =>
    "Device link '" ++ name ++ "' uses unsupported spaces " ++ source ++ "->" ++ target
  | .xyzInput name => "Device link '" ++ name ++ "' takes XYZ input, which is not supported"
  | .noTable name => "Device link '" ++ name ++ "' has no A2B0 tag"
  | .virtualLab => "'*Lab' is a virtual profile and cannot be opened directly"
  | .linkNotFound path => "Device link not found: " ++ path.toString
  | .noneInstalled space =>
    "No input profile given and no installed " ++ space.name ++ " profile found"

end ProfileError

/-- Why a lookup table could not be made. -/
inductive TableError where
  | shape (found expected : List Int)
  | gridTooSmall (points : Int)
  | outOfMemory (points inputs : Int)
  | samplerShape (found expected : List Int)
  | notFinite
  deriving Repr, Inhabited

namespace TableError

/-- The text of a table error. -/
def message : TableError → String
  | .shape found expected =>
    "CLUT shape " ++ Fault.shapeText ", " found ++ " does not match "
      ++ Fault.shapeText ", " expected
  | .gridTooSmall points => "CLUT needs at least 2 grid points, got " ++ toString points
  | .outOfMemory points inputs =>
    "Out of memory sampling " ++ toString points ++ "^" ++ toString inputs ++ " CLUT"
  | .samplerShape found expected =>
    "Sampler returned shape " ++ Fault.shapeText ", " found ++ ", expected "
      ++ Fault.shapeText ", " expected
  | .notFinite => "Sampler returned non-finite values"

end TableError

/-- Why a transform could not be built from resolved profiles. -/
inductive BuildError where
  | engine (cause : Fault)
  | direction (name found needed : String)
  | linkNotLoaded (name : String)
  | noOutputProfile
  | sampledProof
  deriving Repr, Inhabited

namespace BuildError

/-- The text of a build error. -/
def message : BuildError → String
  | .engine cause => "Cannot transform by using the profiles: " ++ cause.message
  | .direction name found needed =>
    "Profile " ++ name ++ " maps " ++ found ++ ", needed " ++ needed
  | .linkNotLoaded name => "Device link " ++ name ++ " was not loaded as a sampled link table"
  | .noOutputProfile => "No output profile for a non device-link transform"
  | .sampledProof => "Proofing against a sampled profile is not supported"

end BuildError

/-- Why rows could not be read, converted or written. -/
inductive CodecError where
  | cannotOpen (path : Path) (cause : Fault)
  | notJpeg (path : Path) (format : String)
  | cannotDecode (path : Path) (cause : Fault)
  | readPastEnd (path : Path)
  | writePastEnd (path : Path)
  | cannotWrite (path : Path) (cause : Fault)
  | rowsMissing (written height : Int) (path : Path)
  | calledIn (call state : String)
  | rowsLeft (count : Int)
  | scanline (row : Nat) (cause : Fault)
  deriving Repr, Inhabited

namespace CodecError

/-- The text of a codec error. -/
def message : CodecError → String
  | .cannotOpen path cause => "Cannot open '" ++ path.toString ++ "': " ++ cause.message
  | .notJpeg path format => "'" ++ path.toString ++ "' is not a JPEG file (" ++ format ++ ")"
  | .cannotDecode path cause => "Cannot decode '" ++ path.toString ++ "': " ++ cause.message
  | .readPastEnd path => "Read past last scanline of '" ++ path.toString ++ "'"
  | .writePastEnd path => "Write past last scanline of '" ++ path.toString ++ "'"
  | .cannotWrite path cause => "Cannot write '" ++ path.toString ++ "': " ++ cause.message
  | .rowsMissing written height path =>
    "Only " ++ toString written ++ " of " ++ toString height ++ " scanlines written to '"
      ++ path.toString ++ "'"
  | .calledIn call state => call ++ "() called in state " ++ state
  | .rowsLeft count => "finish() with " ++ toString count ++ " rows left"
  | .scanline row cause => "Scanline " ++ toString row ++ " failed: " ++ cause.message

end CodecError

/-- An error with which the library gives a conversion up. -/
inductive ConversionError where
  | format (e : FormatError)
  | mismatch (profile : Option Space) (image : Space)
  | space (e : SpaceError)
  | profile (e : ProfileError)
  | table (e : TableError)
  | build (e : BuildError)
  | codec (e : CodecError)
  /-- A stage of a transform gave the conversion up for a reason of its own. -/
  | stated (text : String)
  deriving Repr, Inhabited

namespace ConversionError

/-- The text of a conversion error. -/
def message : ConversionError → String
  | .format e => e.message
  | .mismatch found image =>
    "Input profile is not operating in proper color space (profile: "
      ++ (match found with
        | some s => s.name
        | none => "None")
      ++ ", image: " ++ image.name ++ ")"
  | .space e => e.message
  | .profile e => e.message
  | .table e => e.message
  | .build e => e.message
  | .codec e => e.message
  | .stated text => text

end ConversionError

/-- Anything that can go wrong in a conversion. -/
inductive Failure where
  | conversion (e : ConversionError)
  | fault (f : Fault)
  deriving Repr, Inhabited

namespace Failure

/-- The text of a failure. -/
def message : Failure → String
  | .conversion e => e.message
  | .fault f => f.message

end Failure

instance : Coe FormatError Failure := ⟨fun e => .conversion (.format e)⟩
instance : Coe SpaceError Failure := ⟨fun e => .conversion (.space e)⟩
instance : Coe ProfileError Failure := ⟨fun e => .conversion (.profile e)⟩
instance : Coe TableError Failure := ⟨fun e => .conversion (.table e)⟩
instance : Coe BuildError Failure := ⟨fun e => .conversion (.build e)⟩
instance : Coe CodecError Failure := ⟨fun e => .conversion (.codec e)⟩
instance : Coe Fault Failure := ⟨.fault⟩

end Recolor
