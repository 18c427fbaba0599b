import Recolor.CommandLine.Options
import Recolor.Config.Override
import Recolor.Failure
import Recolor.Text.Alphanumeric
import Recolor.Text.Digits

/-!
# What a command line asks for

The first argument that is no option names a command; the arguments after it are the
command's own. Files that are read must exist, and folders are not taken for files.
Numbers must be whole and in range, but the quality is confined to its range instead.
Whatever does not fit is a misuse. Help and version are asked for before anything else
is looked at.

Options are looked at in the order in which they were given, and then the arguments. A
path with a NUL character or half of a pair of surrogates cannot be looked at, which is a
fault unless something in front of it is a misuse.
-/

set_option autoImplicit false

namespace Recolor

/-- A conversion that is asked for. -/
structure ConvertOrder where
  input : Path
  output : Path
  /-- The settings that were given, by name. -/
  overrides : List (String × Value)
  verbose : Bool := false
  config : Option Path := none
  deriving Repr, Inhabited

/-- What a command line asks for. -/
inductive Invocation where
  | help
  | version
  | misuse
  /-- Completion is asked for, which needs a shell that is known. -/
  | completion
  | convert (order : ConvertOrder)
  | info (file : Path)
  | intents
  deriving Repr, Inhabited

namespace Invocation

/-- What a written path leads to. One that ends with a slash or a dot after one leads to a
folder or nowhere. -/
def nodeAt (t : FileTree) (s : String) : Option FileNode :=
  let wantsFolder := "/".toList.isSuffixOf s.toList || "/.".toList.isSuffixOf s.toList
  if s.isEmpty then none
  else
    match t.node (Path.ofString s) with
    | .error _ => none
    | .ok .folder => some .folder
    | .ok (.file content) => if wantsFolder then none else some (.file content)

/-- A file to read. -/
def existingFile? (t : FileTree) (s : String) : Option Path :=
  match nodeAt t s with
  | some (.file _) => some (Path.ofString s)
  | _ => none

/-- A file to write, which need not exist. -/
def newFile? (t : FileTree) (s : String) : Option Path :=
  match nodeAt t s with
  | some .folder => none
  | _ => some (Path.ofString s)

/-- The option that asks for help. -/
def helpForm : OptionForm := { name := "help" }

/-- The options that have to do with completion in shells. -/
def completionForms : List OptionForm :=
  [{ name := "install-completion" }, { name := "show-completion" }]

/-- The options in front of a command. -/
def leadingForms : List OptionForm :=
  { name := "version" } :: helpForm :: completionForms

/-- The options of a conversion. -/
def convertForms : List OptionForm :=
  [{ name := "input-profile", letter := 'i', takesValue := true },
    { name := "output-profile", letter := 'o', takesValue := true },
    { name := "device-link", letter := 'l', takesValue := true },
    { name := "proof-profile", letter := 'p', takesValue := true },
    { name := "intent", letter := 't', takesValue := true },
    { name := "proof-intent", letter := 'm', takesValue := true },
    { name := "bpc", letter := 'b' },
    { name := "gamut-check", letter := 'g' },
    { name := "precalc", letter := 'c', takesValue := true },
    { name := "ignore-embedded", letter := 'n' },
    { name := "embed-profile", letter := 'e' },
    { name := "save-embedded", letter := 's', takesValue := true },
    { name := "quality", letter := 'q', takesValue := true },
    { name := "verbose", letter := 'v' },
    { name := "config", takesValue := true },
    helpForm]

/-- A setting that was given as text, or none. -/
def textSetting (g : Given) (name : String) : Value :=
  ((g.value? name).map Value.text).getD .null

/-- A setting that must be a number from 0 to 3 if it was given; `none` if it is not. -/
def choiceSetting? (g : Given) (name : String) : Option Value :=
  match g.value? name with
  | none => some .null
  | some s =>
    match Text.readInteger? s with
    | none => none
    | some n => if 0 ≤ n ∧ n ≤ 3 then some (.int n) else none

/-- The quality if one was given, confined to 0 to 100; `none` if it is no number. -/
def qualitySetting? (g : Given) : Option Value :=
  match g.value? "quality" with
  | none => some .null
  | some s => (Text.readInteger? s).map fun n => .int (max 0 (min n 100))

/-- A file that may have been given; the outer `none` if it cannot be one. -/
def fileSetting? (g : Given) (name : String) (find : String → Option Path) : Option (Option Path) :=
  match g.value? name with
  | none => some none
  | some s => (find s).map some

/-- The conversion that options and arguments ask for. -/
def convertOrder? (t : FileTree) (g : Given) : Option ConvertOrder := do
  let [input, output] := g.arguments | none
  let input ← existingFile? t input
  let output ← newFile? t output
  let intent ← choiceSetting? g "intent"
  let proofIntent ← choiceSetting? g "proof-intent"
  let precalc ← choiceSetting? g "precalc"
  let saveEmbedded ← fileSetting? g "save-embedded" (newFile? t)
  let quality ← qualitySetting? g
  let config ← fileSetting? g "config" (existingFile? t)
  return {
    input, output, config
    verbose := g.has "verbose"
    overrides := [
      (Override.inputProfile.name, textSetting g "input-profile"),
      (Override.outputProfile.name, textSetting g "output-profile"),
      (Override.proofProfile.name, textSetting g "proof-profile"),
      (Override.deviceLink.name, textSetting g "device-link"),
      (Override.intent.name, intent),
      (Override.proofIntent.name, proofIntent),
      (Override.blackPoint.name, .bool (g.has "bpc")),
      (Override.gamutCheck.name, .bool (g.has "gamut-check")),
      (Override.precalc.name, precalc),
      (Override.quality.name, quality),
      (Override.embedProfile.name, .bool (g.has "embed-profile")),
      (Override.ignoreEmbedded.name, .bool (g.has "ignore-embedded")),
      (Override.saveEmbedded.name, (saveEmbedded.map Value.path).getD .null)] }

/-- Why a path cannot be looked at, if it cannot. -/
def blindness? (s : String) : Option FileFault :=
  match FileTree.checkText (Path.ofString s) with
  | .error .tooLong => none
  | .error e => some e
  | .ok () => none

/-- Whether an option has a value that fits. -/
def optionFits (t : FileTree) (g : Given) (name : String) : Bool :=
  match name with
  | "intent" | "proof-intent" | "precalc" => (choiceSetting? g name).isSome
  | "quality" => (qualitySetting? g).isSome
  | "save-embedded" => (fileSetting? g name (newFile? t)).isSome
  | "config" => (fileSetting? g name (existingFile? t)).isSome
  | _ => true

/-- Whether an option takes a path. -/
def takesPath (name : String) : Bool :=
  name == "save-embedded" || name == "config"

/-- What is looked at, in order: why it cannot be, if it is such a path, and whether it fits. -/
def looks (t : FileTree) (g : Given) (argumentsFit : List (String → Option Path)) :
    List (Option FileFault × Bool) :=
  (g.options.map fun (name, _) =>
      (if takesPath name then (g.value? name).bind blindness? else none, optionFits t g name))
    ++ (g.arguments.zip argumentsFit).map fun (s, find) => (blindness? s, (find s).isSome)

/-- Why the first thing that does not fit cannot be looked at, if it is such a path. -/
def blocked? (looks : List (Option FileFault × Bool)) : Option FileFault :=
  (looks.find? fun (blind, fits) => blind.isSome || !fits).bind Prod.fst

/-- Reads a command's own arguments, of which those that are paths are looked at. -/
def ofOwn (t : FileTree) (forms : List OptionForm) (own : List String)
    (argumentsFit : List (String → Option Path)) (order? : Given → Option Invocation) :
    Except Fault Invocation :=
  match Given.read forms own with
  | none => .ok .misuse
  | some g =>
    if g.has helpForm.name then .ok .help
    else
      match blocked? (looks t g argumentsFit) with
      | some e => .error (.file e {})
      | none => .ok ((order? g).getD .misuse)

/-- Reads the arguments from the command on. A name that does not start with a letter or a
digit is answered with help. -/
def ofCommand (t : FileTree) : List String → Except Fault Invocation
  | [] => .ok .misuse
  | "convert" :: own =>
    ofOwn t convertForms own [existingFile? t, newFile? t] fun g =>
      (convertOrder? t g).map .convert
  | "info" :: own =>
    ofOwn t [helpForm] own [existingFile? t] fun g =>
      match g.arguments with
      | [file] => (existingFile? t file).map .info
      | _ => none
  | "intents" :: own =>
    ofOwn t [helpForm] own [] fun g => if g.arguments.isEmpty then some .intents else none
  | name :: _ =>
    match name.toList with
    | c :: _ => .ok (if Text.isAlphanumeric c then .misuse else .help)
    | [] => .ok .misuse

/-- Reads a command line. -/
def ofArguments (t : FileTree) (arguments : List String) : Except Fault Invocation :=
  if arguments.isEmpty then .ok .help
  else
    match Given.readLeading leadingForms arguments with
    | none => .ok .misuse
    | some g =>
      match (g.options.map (·.1)).filter fun name => name == "version" || name == helpForm.name with
      | "version" :: _ => .ok .version
      | _ :: _ => .ok .help
      | [] => if g.options.isEmpty then ofCommand t g.arguments else .ok .completion

end Invocation

end Recolor
