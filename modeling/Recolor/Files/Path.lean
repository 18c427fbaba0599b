/-!
# Paths

A path is a root and a list of components. Reading drops empty components and
single dots, keeps double dots, and knows three roots: none, one slash, and
exactly two slashes, which is a root of its own. The written form of a path reads
back as the same path.
-/

set_option autoImplicit false

namespace Recolor

/-- Where a path starts. -/
inductive PathRoot where
  | relative
  | slash
  | twoSlashes
  deriving DecidableEq, Repr, Inhabited

/-- A path as a root and its components, none of which is empty or a single dot. -/
structure Path where
  root : PathRoot := .relative
  parts : List String := []
  deriving DecidableEq, Repr, Inhabited

namespace Path

/-- The pieces of a text between its slashes. -/
def splitSlash : List Char → List (List Char)
  | [] => [[]]
  | c :: rest =>
    if c = '/' then [] :: splitSlash rest
    else match splitSlash rest with
      | piece :: pieces => (c :: piece) :: pieces
      | [] => [[c]]

/-- Pieces joined with slashes between them. -/
def joinSlash : List (List Char) → List Char
  | [] => []
  | [piece] => piece
  | piece :: next :: pieces => piece ++ '/' :: joinSlash (next :: pieces)

/-- The root that a text starts with. -/
def rootOf : List Char → PathRoot
  | ['/', '/'] => .twoSlashes
  | '/' :: '/' :: '/' :: _ => .slash
  | '/' :: '/' :: _ :: _ => .twoSlashes
  | '/' :: _ => .slash
  | _ => .relative

/-- Whether a piece between slashes is a component of the path. -/
def isComponent (piece : List Char) : Bool :=
  !piece.isEmpty && piece != ['.']

/-- Reads a path. -/
def ofString (s : String) : Path :=
  { root := rootOf s.toList
    parts := ((splitSlash s.toList).filter isComponent).map String.ofList }

/-- The written form of a root. -/
def rootText : PathRoot → List Char
  | .relative => []
  | .slash => ['/']
  | .twoSlashes => ['/', '/']

/-- Writes a path; one without root and components is a single dot. -/
def toString (p : Path) : String :=
  match rootText p.root ++ joinSlash (p.parts.map String.toList) with
  | [] => "."
  | cs => String.ofList cs

instance : ToString Path := ⟨Path.toString⟩

/-- The last component, empty if there is none. -/
def name (p : Path) : String :=
  p.parts.getLast?.getD ""

/-- The part of a name from its last dot on, if something stands on both sides of it. -/
def extensionOf (name : List Char) : List Char :=
  let ending := name.reverse.takeWhile (· != '.')
  let before := name.take (name.length - ending.length - 1)
  if before.isEmpty || ending.isEmpty || !name.contains '.' then []
  else '.' :: ending.reverse

/-- The extension of the last component, with its dot. -/
def extension (p : Path) : String :=
  String.ofList (extensionOf p.name.toList)

/-- The path without its last component. -/
def parent (p : Path) : Path :=
  { p with parts := p.parts.dropLast }

/-- The path of an entry of a folder. -/
def entry (p : Path) (name : String) : Path :=
  { p with parts := p.parts ++ [name] }

end Path

end Recolor
