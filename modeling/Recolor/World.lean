import Recolor.Files.Tree
import Recolor.Jpeg.Picture

/-!
# What a conversion works in

A conversion reads and writes files and asks a colour engine and a codec for their
services. The services, the environment's variables and the system's folders stay
the same throughout; the files change, and every use of a file, of the engine or of
the codec is noted down in order.

A piece of work is a computation in this world that may fail. What it did before it failed
is not undone.
-/

set_option autoImplicit false

namespace Recolor

/-- The parts of the world that a conversion uses but does not change. -/
structure Services where
  engine : ColorEngine
  codec : Codec
  /-- The environment's variables. -/
  environment : List (String × String) := []
  /-- Where the system keeps installed profiles. -/
  systemFolders : List Path := []
  /-- The time on the clock, in seconds, after a number of noted events. -/
  clock : Nat → Float := fun _ => 0.0

/-- One thing a conversion did. -/
inductive Event where
  /-- A file's content was read. -/
  | read (path : Path)
  /-- A file was written. -/
  | wrote (path : Path)
  /-- The files of a folder were examined. -/
  | searched (path : Path)
  /-- The colour engine was asked for a transform. -/
  | requested (request : BuildRequest)
  /-- A picture was opened. -/
  | opened (path : Path)
  /-- A picture was closed. -/
  | closed (path : Path)
  /-- A picture was handed to the encoder. -/
  | encoded (job : EncodeJob)
  deriving Repr, Inhabited

/-- The parts of the world that a conversion changes. -/
structure World where
  files : FileTree := {}
  events : List Event := []
  deriving Repr, Inhabited

namespace Services

/-- The value of an environment variable, if it is set to some text. -/
def setting? (s : Services) (name : String) : Option String :=
  match s.environment.lookup name with
  | some "" => none
  | other => other

/-- The text without the slashes at its end. -/
def trimSlashes (s : String) : String :=
  String.ofList (s.toList.reverse.dropWhile (· == '/')).reverse

/-- The user's folder. One that is itself written relative to a user's folder is not known. -/
def home (s : Services) : Except Fault Path :=
  match trimSlashes ((s.environment.lookup "HOME").getD "") with
  | "" => .ok (Path.ofString "/")
  | folder => if folder.toList.head? = some '~' then .error .noHome else .ok (Path.ofString folder)

end Services

namespace World

/-- Notes something down. -/
def note (w : World) (e : Event) : World :=
  { w with events := w.events ++ [e] }

/-- The requests to the colour engine, in order. -/
def requests (w : World) : List BuildRequest :=
  w.events.filterMap fun
    | .requested r => some r
    | _ => none

/-- The pictures handed to the encoder, in order. -/
def jobs (w : World) : List EncodeJob :=
  w.events.filterMap fun
    | .encoded j => some j
    | _ => none

end World

/-- A computation in the world that may fail. -/
def Work (α : Type) : Type :=
  Services → World → Except Failure α × World

namespace Work

variable {α β : Type}

/-- Runs a piece of work. -/
def run (t : Work α) (s : Services) (w : World) : Except Failure α × World :=
  t s w

instance : Monad Work where
  pure a := fun _ w => (.ok a, w)
  bind t f := fun s w =>
    match t s w with
    | (.error e, w') => (.error e, w')
    | (.ok a, w') => f a s w'

/-- A value that is returned leaves the world as it is. -/
@[simp] theorem run_pure (a : α) (s : Services) (w : World) :
    (pure a : Work α).run s w = (.ok a, w) := rfl

/-- Work that goes on is run from the world that the first part leaves, unless that fails. -/
theorem run_bind (t : Work α) (f : α → Work β) (s : Services) (w : World) :
    (t >>= f).run s w
      = match t.run s w with
        | (.error e, w') => (.error e, w')
        | (.ok a, w') => (f a).run s w' := rfl

/-- Fails. -/
def fail (e : Failure) : Work α :=
  fun _ w => (.error e, w)

/-- A result that is there already. -/
def ofExcept (r : Except Failure α) : Work α :=
  fun _ w => (r, w)

/-- A result of one family of errors. -/
def lift {ε : Type} [Coe ε Failure] (r : Except ε α) : Work α :=
  match r with
  | .ok a => pure a
  | .error e => fail (Coe.coe e)

/-- The services. -/
def services : Work Services :=
  fun s w => (.ok s, w)

/-- The files as they stand. -/
def files : Work FileTree :=
  fun _ w => (.ok w.files, w)

/-- Notes something down. -/
def note (e : Event) : Work Unit :=
  fun _ w => (.ok (), w.note e)

/-- The outcome of a piece of work, which itself does not fail. -/
def outcome (t : Work α) : Work (Except Failure α) :=
  fun s w =>
    match t s w with
    | (r, w') => (.ok r, w')

/-- Whether a path leads to a file or a folder. -/
def hasPath (p : Path) : Work Bool :=
  fun _ w =>
    match w.files.hasPath p with
    | .error e => (.error (Fault.file e p), w)
    | .ok b => (.ok b, w)

/-- The number of bytes in a file. -/
def fileSize (p : Path) : Work Nat :=
  fun _ w =>
    match w.files.read p with
    | .error e => (.error (Fault.file e p), w)
    | .ok content => (.ok content.length, w)

/-- The time on the clock, in seconds. -/
def now : Work Float :=
  fun s w => (.ok (s.clock w.events.length), w)

/-- Changes the files, or fails with a refusal that names the path. -/
def changeFiles (p : Path) (change : FileTree → Path → Except FileFault FileTree) : Work Unit :=
  fun _ w =>
    match change w.files p with
    | .error e => (.error (Fault.file e p), w)
    | .ok files => (.ok (), { w with files })

/-- The content of a file. -/
def readFile (p : Path) : Work Bytes :=
  fun _ w =>
    match w.files.read p with
    | .error e => (.error (Fault.file e p), w.note (.read p))
    | .ok content => (.ok content, w.note (.read p))

/-- Puts content into a file. -/
def writeFile (p : Path) (content : Bytes) : Work Unit :=
  fun _ w =>
    match w.files.write p content with
    | .error e => (.error (Fault.file e p), w)
    | .ok files => (.ok (), { w with files }.note (.wrote p))

/-- Asks the colour engine for a transform. -/
def build (request : BuildRequest) : Work PixelMap :=
  fun s w =>
    match s.engine.build request with
    | .error e => (.error e, w.note (.requested request))
    | .ok map => (.ok map, w.note (.requested request))

/-- Hands a picture to the encoder and writes what it makes of it. -/
def encode (job : EncodeJob) : Work Unit :=
  fun s w =>
    match s.codec.encode job with
    | .error e => (.error e, w.note (.encoded job))
    | .ok content => writeFile job.path content s (w.note (.encoded job))

end Work

end Recolor
