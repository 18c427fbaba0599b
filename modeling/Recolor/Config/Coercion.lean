import Recolor.Failure

/-!
# Reading values as something else

Where a value of any kind is used as a path, as a collection or as a whole number, it is read
as one or refused. A text is a collection of its characters and a mapping one of its keys; a
text of digits and a number with a fraction are read as whole numbers, the fraction cut off.
-/

set_option autoImplicit false

namespace Recolor.Value

/-- The value as a path if it is text. -/
def asPath : Value → Value
  | .text s => .path (Path.ofString s)
  | v => v

/-- The value as text if it is a path. -/
def pathText : Value → Value
  | .path p => .text p.toString
  | v => v

/-- The path that a value names. -/
def toPath : Value → Except Fault Path
  | .text s => .ok (Path.ofString s)
  | .path p => .ok p
  | v => .error (.notAPath v)

/-- The members of a collection. -/
def members : Value → Except Fault (List Value)
  | .text s => .ok (s.toList.map fun c => .text (String.singleton c))
  | .list items => .ok items
  | .tuple items => .ok items
  | .set items => .ok items
  | .map entries => .ok (entries.map Prod.fst)
  | v => .error (.notACollection v)

/-- The paths that the members of a collection name. A value that counts as unset has none. -/
def toPaths (v : Value) : Except Fault (List Path) :=
  if v.isSet then
    match v.members with
    | .error f => .error f
    | .ok items => items.mapM toPath
  else .ok []

/-- The whole number that a value is cut to, towards zero. -/
def toWhole : Value → Except Fault Int
  | .int n => .ok n
  | .bool b => .ok (ofTruth b)
  | .float x =>
    match (Binary64.parts x).truncate? with
    | some n => .ok n
    | none => .error (if x.isNaN then .notANumber else .tooLarge)
  | .text s =>
    match Text.readInteger? s with
    | some n => .ok n
    | none => .error (.badNumeral s)
  | v => .error (.raised .type (v.shown ++ " is no number"))

end Recolor.Value
