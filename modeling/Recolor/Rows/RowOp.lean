import Recolor.Failure

/-!
# Operations on rows of columns

Pixels travel as rows: a block of them has one width, the number of samples of each
pixel. An operation on rows says which widths it accepts and what it does to one
row; whether it fails depends on the width alone, so it fails on an empty block of
a wrong width too. The same operations act on arrays nested to any depth, whose
innermost lists are the rows.
-/

set_option autoImplicit false

namespace Recolor

/-- Pixels of one width. -/
structure Block (α : Type) where
  width : Nat
  rows : List (List α)
  deriving Repr, Inhabited, DecidableEq

/-- An operation on rows: the width of its result for each width it accepts, and what
it makes of one row. -/
structure RowOp (α β : Type) where
  width : Nat → Except Fault Nat
  run : List α → List β

namespace RowOp

variable {α β γ : Type}

/-- One operation after another. -/
def andThen (f : RowOp α β) (g : RowOp β γ) : RowOp α γ where
  width n := match f.width n with
    | .error e => .error e
    | .ok m => g.width m
  run row := g.run (f.run row)

/-- The operation that treats every sample alike. -/
def samples (f : α → β) : RowOp α β where
  width n := .ok n
  run row := row.map f

/-- The width that a row must at least have, and the width of the result. -/
def atLeast (needed result n : Nat) : Except Fault Nat :=
  if n < needed then .error .tooFewColumns else .ok result

/-- Applies an operation to a block of pixels. -/
def onBlock (f : RowOp α β) (b : Block α) : Except Fault (Block β) :=
  match f.width b.width with
  | .error e => .error e
  | .ok width => .ok { width, rows := b.rows.map f.run }

end RowOp

/-- An array nested to any depth, down to a bare value. -/
inductive Nested (α : Type) where
  | leaf (a : α)
  | node (items : List (Nested α))
  deriving Repr, Inhabited

namespace Nested

variable {α β : Type}

/-- The values of a list without further nesting. -/
def leaves? : List (Nested α) → Option (List α)
  | [] => some []
  | .leaf a :: rest => (leaves? rest).map (a :: ·)
  | .node _ :: _ => none

/-- A row as an array of one axis. -/
def ofRow (row : List α) : Nested α :=
  .node (row.map .leaf)

mutual

/-- Applies a function to every row; a bare value counts as a row without columns. -/
def mapRows (f : List α → List β) : Nested α → Nested β
  | .leaf _ => ofRow (f [])
  | .node items =>
    match leaves? items with
    | some row => ofRow (f row)
    | none => .node (mapRowsAll f items)

/-- Applies a function to every row of several arrays. -/
def mapRowsAll (f : List α → List β) : List (Nested α) → List (Nested β)
  | [] => []
  | a :: rest => mapRows f a :: mapRowsAll f rest

end

mutual

/-- Applies a function to every value. -/
def map (f : α → β) : Nested α → Nested β
  | .leaf a => .leaf (f a)
  | .node items => .node (mapAll f items)

/-- Applies a function to every value of several arrays. -/
def mapAll (f : α → β) : List (Nested α) → List (Nested β)
  | [] => []
  | a :: rest => map f a :: mapAll f rest

end

mutual

/-- The lengths of the axes, if the array has the same length everywhere along each. -/
def shape? : Nested α → Option (List Nat)
  | .leaf _ => some []
  | .node items =>
    match shapeAll? items with
    | none => none
    | some inner => some (items.length :: inner)

/-- The shape that several arrays have in common; that of none is empty. -/
def shapeAll? : List (Nested α) → Option (List Nat)
  | [] => some []
  | [a] => shape? a
  | a :: rest =>
    match shape? a, shapeAll? rest with
    | some s, some t => if s = t then some s else none
    | _, _ => none

end

/-- The most axes that an array can have. -/
def mostAxes : Nat := 64

/-- The lengths of the axes, or why there are none. -/
def axes (a : Nested α) : Except Fault (List Nat) :=
  match a.shape? with
  | none => .error .ragged
  | some shape => if mostAxes < shape.length then .error .tooManyAxes else .ok shape

/-- The length of the last axis; a bare value has none of it. -/
def lastAxis (shape : List Nat) : Nat :=
  shape.getLast?.getD 0

end Nested

namespace RowOp

variable {α β : Type}

/-- Applies an operation to every row of a nested array. -/
def onNested (f : RowOp α β) (a : Nested α) : Except Fault (Nested β) :=
  match a.axes with
  | .error e => .error e
  | .ok shape =>
    match f.width (Nested.lastAxis shape) with
    | .error e => .error e
    | .ok _ => .ok (a.mapRows f.run)

/-- Applies a function to every value of a nested array. -/
def onValues (f : α → β) (a : Nested α) : Except Fault (Nested β) :=
  match a.axes with
  | .error e => .error e
  | .ok _ => .ok (a.map f)

end RowOp

end Recolor
