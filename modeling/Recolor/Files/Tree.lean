import Recolor.Files.Path
import Recolor.Text.Quoted

/-!
# A tree of files

The part of the file system a conversion can see: folders and files below the
working folder, each known by the list of its components. A path is walked
component by component, so that double dots leave a folder only if it exists and a
file in the middle of a path is noticed. Of what lies outside the working folder only
the folders above it and the root are known to exist.

The system takes paths and components of limited length, and none with a NUL character
or half of a pair of surrogates.
-/

set_option autoImplicit false

namespace Recolor

/-- File contents and other raw data. -/
abbrev Bytes := List UInt8

/-- Why the file system refused. -/
inductive FileFault where
  | missing
  | notFolder
  | isFolder
  | alreadyExists
  | tooLong
  /-- The path holds a NUL character, so that it was not even handed to the system. -/
  | holdsNul
  /-- The path holds a half of a pair, and was not handed on either. -/
  | holdsHalf
  deriving DecidableEq, Repr, Inhabited

namespace FileFault

/-- The system's text for a refusal. -/
def reason : FileFault → String
  | .missing => "[Errno 2] No such file or directory"
  | .notFolder => "[Errno 20] Not a directory"
  | .isFolder => "[Errno 21] Is a directory"
  | .alreadyExists => "[Errno 17] File exists"
  | .tooLong => "[Errno 36] File name too long"
  | .holdsNul => "embedded null byte"
  | .holdsHalf => "surrogates not allowed"

/-- The text of a refusal; the system's name the path. -/
def message (f : FileFault) (p : Path) : String :=
  match f with
  | .holdsNul | .holdsHalf => f.reason
  | _ => f.reason ++ ": " ++ Text.quoted p.toString

/-- Whether a refusal only says that nothing is there. -/
def isAbsence : FileFault → Bool
  | .missing | .notFolder | .holdsNul | .holdsHalf => true
  | _ => false

end FileFault

/-- A file or a folder. -/
inductive FileNode where
  | folder
  | file (content : Bytes)
  deriving DecidableEq, Repr, Inhabited

/-- Folders and files by their components below the working folder. -/
structure FileTree where
  nodes : List (List String × FileNode) := []
  deriving Repr, Inhabited

namespace FileTree

/-- The most bytes a path may have. -/
def longestPath : Nat := 4095

/-- The most bytes a component may have. -/
def longestName : Nat := 255

/-- Whether a place is the working folder or one above it. Places above are written as double
dots. -/
def isAbove (place : List String) : Bool :=
  place.all (· == "..")

/-- What stands at a place. -/
def at? (t : FileTree) (place : List String) : Option FileNode :=
  if isAbove place then some .folder else t.nodes.lookup place

/-- Puts a node at a place, in place of what stood there. -/
def put (t : FileTree) (place : List String) (node : FileNode) : FileTree :=
  if (t.nodes.lookup place).isSome then
    { nodes := t.nodes.map fun e => if e.1 = place then (place, node) else e }
  else { nodes := t.nodes ++ [(place, node)] }

/-- Follows components from a folder to a place, which itself need not exist. -/
def walk (t : FileTree) (place : List String) : List String → Except FileFault (List String)
  | [] => .ok place
  | part :: rest =>
    match t.at? place with
    | none => .error .missing
    | some (.file _) => .error .notFolder
    | some .folder =>
      if part = ".." then
        t.walk (if isAbove place then place ++ [part] else place.dropLast) rest
      else if longestName < part.utf8ByteSize then .error .tooLong
      else t.walk (place ++ [part]) rest

/-- Refuses paths that the system does not take. -/
def checkText (p : Path) : Except FileFault Unit :=
  let s := p.toString
  if !Text.Surrogate.isEncodable s then .error .holdsHalf
  else if s.contains '\x00' then .error .holdsNul
  else if longestPath < s.utf8ByteSize then .error .tooLong
  else .ok ()

/-- The place a path leads to. -/
def place (t : FileTree) (p : Path) : Except FileFault (List String) :=
  match checkText p with
  | .error e => .error e
  | .ok () =>
    match p.root with
    | .relative => t.walk [] p.parts
    | _ => .error .missing

/-- What a path leads to. -/
def node (t : FileTree) (p : Path) : Except FileFault FileNode :=
  if p.root ≠ .relative ∧ p.parts.isEmpty then .ok .folder
  else
    match t.place p with
    | .error e => .error e
    | .ok place =>
      match t.at? place with
      | some n => .ok n
      | none => .error .missing

/-- Whether a path leads to something of a kind. It is no failure that it leads nowhere, but
other refusals are. -/
def leadsTo (t : FileTree) (isIt : FileNode → Bool) (p : Path) : Except FileFault Bool :=
  match t.node p with
  | .ok n => .ok (isIt n)
  | .error e => if e.isAbsence then .ok false else .error e

/-- Whether a path leads to a file or a folder. -/
def hasPath (t : FileTree) (p : Path) : Except FileFault Bool :=
  t.leadsTo (fun _ => true) p

/-- Whether a path leads to a folder. -/
def isFolder (t : FileTree) (p : Path) : Except FileFault Bool :=
  t.leadsTo (· == .folder) p

/-- The content of a file. -/
def read (t : FileTree) (p : Path) : Except FileFault Bytes :=
  match t.node p with
  | .error e => .error e
  | .ok .folder => .error .isFolder
  | .ok (.file content) => .ok content

/-- Whether a file could be put where a path leads, and the place. -/
def writable (t : FileTree) (p : Path) : Except FileFault (List String) :=
  if p.root ≠ .relative ∧ p.parts.isEmpty then .error .isFolder
  else
    match t.place p with
    | .error e => .error e
    | .ok place =>
      match t.at? place with
      | some .folder => .error .isFolder
      | _ => .ok place

/-- Puts a file with the given content where a path leads. -/
def write (t : FileTree) (p : Path) (content : Bytes) : Except FileFault FileTree :=
  match t.writable p with
  | .error e => .error e
  | .ok place => .ok (t.put place (.file content))

/-- Opens a file for adding to it, which creates it if it is absent. -/
def openForAppending (t : FileTree) (p : Path) : Except FileFault FileTree :=
  match t.writable p with
  | .error e => .error e
  | .ok place =>
    match t.at? place with
    | some _ => .ok t
    | none => .ok (t.put place (.file []))

/-- The names of the entries of a folder, in the order of the tree. -/
def entries (t : FileTree) (place : List String) : List String :=
  t.nodes.filterMap fun e =>
    if e.1.length = place.length + 1 ∧ e.1.dropLast = place then e.1.getLast? else none

/-- The names of the entries of the folder a path leads to. -/
def list (t : FileTree) (p : Path) : Except FileFault (List String) :=
  match t.node p with
  | .error e => .error e
  | .ok (.file _) => .error .notFolder
  | .ok .folder =>
    match t.place p with
    | .error _ => .ok []
    | .ok place => .ok (t.entries place)

/-- Makes one folder; one that exists already is left alone. -/
def makeFolder (t : FileTree) (p : Path) : Except FileFault FileTree :=
  match t.place p with
  | .error e =>
    match t.isFolder p with
    | .ok true => .ok t
    | _ => .error e
  | .ok place =>
    match t.at? place with
    | some .folder => .ok t
    | some (.file _) => .error .alreadyExists
    | none => .ok (t.put place .folder)

/-- Makes the folders of the first components one after another, then that of the path. -/
def makeFoldersFrom (t : FileTree) (root : PathRoot) (done : List String) :
    List String → Except FileFault FileTree
  | [] => .ok t
  | part :: rest =>
    match t.makeFolder { root := root, parts := done ++ [part] } with
    | .error e => .error e
    | .ok t' => t'.makeFoldersFrom root (done ++ [part]) rest

/-- Makes the folder a path names and the folders above it. -/
def makeFolders (t : FileTree) (p : Path) : Except FileFault FileTree :=
  match t.makeFolder p with
  | .ok t' => .ok t'
  | .error .missing => t.makeFoldersFrom p.root [] p.parts
  | .error e => .error e

end FileTree

end Recolor
