import Recolor.Cms.Arithmetic
import Recolor.CommandLine.Run

/-!
# The program

The files and folders that the arguments and the environment speak of are read first, together
with the configuration files; the command is then run on what was found, as a pure
computation. What it prints goes to the output, the files that it changed are written, and a
failure that nobody expected is told on the error output.

Only paths below the working folder are looked at. Pictures are left to the stand-in codec
and colours to the engine of plain arithmetic.
-/

set_option autoImplicit false

namespace Recolor.Program

/-- The environment's variables that a command looks at. -/
def variableNames : List String :=
  ["HOME", "XDG_CONFIG_HOME", "JCT_CONFIG_DIR", "JCT_INPUT_PROFILE", "JCT_OUTPUT_PROFILE",
    "JCT_PROFILE_DIRS"]

/-- The texts in an argument that may be paths: all of it, what follows a letter option, and
what follows an equals sign. -/
def pathsIn (argument : String) : List String :=
  let letters := argument.toList
  [letters, letters.drop 2, (letters.dropWhile (· != '=')).drop 1].map String.ofList

/-- The paths that a run may read or write. -/
def mentioned (s : Services) (arguments : List String) : List Path :=
  ((Config.folder s).toOption.map Config.places).getD []
    ++ ((arguments ++ s.environment.map Prod.snd).flatMap pathsIn).map Path.ofString

/-- Adds what stands at a path to a tree of files. -/
def examine (t : FileTree) (p : Path) : IO FileTree := do
  let within (folder : Path) : FileTree := (t.makeFolders folder).toOption.getD t
  try
    let content ← IO.FS.readBinFile p.toString
    let t := within p.parent
    return (t.write p content.toList).toOption.getD t
  catch _ =>
    try
      let _ ← IO.FS.realPath p.toString
      return within p
    catch _ => return t

/-- Writes the files of a tree that are new or differ from those of an older one. -/
def store (old new : FileTree) : IO Unit := do
  for (place, node) in new.nodes do
    if old.at? place != some node then
      let path := String.intercalate "/" place
      match node with
      | .folder => IO.FS.createDirAll path
      | .file content => IO.FS.writeBinFile path (ByteArray.mk content.toArray)

/-- Runs a command line and tells the code it ends with. -/
def run (arguments : List String) : IO Nat := do
  let mut environment : List (String × String) := []
  for name in variableNames do
    if let some value ← IO.getEnv name then
      environment := environment ++ [(name, value)]
  let services : Services :=
    { engine := ArithmeticEngine.engine, codec := Codec.ofPictures [] none, environment }
  let mut files : FileTree := {}
  for p in mentioned services arguments do
    files ← examine (← examine files p.parent) p
  let (result, world) := (Command.run arguments).run services { files }
  store files world.files
  match result with
  | .error e =>
    IO.eprintln e.message
    return 1
  | .ok ending =>
    for printed in ending.printed do
      for line in printed.plainLines do
        IO.println line
    if let some e := ending.failure then IO.eprintln e.message
    return ending.code

end Recolor.Program

/-- Runs the command line that the program was called with. -/
def main (arguments : List String) : IO UInt32 := do
  return UInt32.ofNat (← Recolor.Program.run arguments)
