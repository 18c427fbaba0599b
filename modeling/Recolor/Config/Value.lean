import Recolor.Files.Path
import Recolor.Numeric.Calendar
import Recolor.Numeric.Decimal
import Recolor.Text.Digits
import Recolor.Text.Quoted

/-!
# Values of a configuration

A configuration file may put any value under any key, so settings are kept as the
values they were given: nothing, truth values, integers of any size, numbers, text,
paths, bytes, dates, and collections of values. Checks and conversions come later,
where a setting is used.

The module fixes when a value counts as set, when two values are the same number,
and the two texts of a value: the one for messages, in which text is quoted, and
the plain one.
-/

set_option autoImplicit false

namespace Recolor

/-- A moment in time, with the offset of its zone in seconds if it has one. -/
structure Moment where
  year : Nat
  month : Nat
  day : Nat
  hour : Nat
  minute : Nat
  second : Nat
  microsecond : Nat
  offset : Option Int
  deriving DecidableEq, Repr, Inhabited

namespace Moment

/-- The seconds that passed until a moment, in its own zone. -/
def seconds (m : Moment) : Int :=
  ((Calendar.dayNumber m.year m.month m.day * 24 + m.hour) * 60 + m.minute) * 60 + m.second

/-- Whether two moments are the same. Moments of two zones are if they fall together; one of a
zone and one of none are not. -/
def same (m n : Moment) : Bool :=
  match m.offset, n.offset with
  | some a, some b => m.seconds - a == n.seconds - b && m.microsecond == n.microsecond
  | none, none => m == n
  | _, _ => false

end Moment

/-- A configured value. -/
inductive Value where
  | null
  | bool (b : Bool)
  | int (n : Int)
  | float (x : Float)
  | text (s : String)
  | path (p : Path)
  | bytes (data : List UInt8)
  | date (year month day : Nat)
  | moment (m : Moment)
  | list (items : List Value)
  | tuple (items : List Value)
  | set (items : List Value)
  | map (entries : List (Value × Value))
  /-- A list or a mapping where it is met again inside itself. -/
  | again (isMap : Bool)
  deriving Repr, Inhabited

namespace Value

/-- How numbers are written: positional between `0.0001` and `10^16`, else with an
exponent of at least two digits. -/
def numberLayout : Decimal.Layout :=
  { leastPoint := -3, greatestPoint := 16, exponentWidth := 2 }

/-- Whether a value counts as set: zero, emptiness and nothing do not. -/
def isSet : Value → Bool
  | .null => false
  | .bool b => b
  | .int n => n ≠ 0
  | .float x => !(x == 0.0)
  | .text s => !s.isEmpty
  | .path _ => true
  | .bytes data => !data.isEmpty
  | .date .. => true
  | .moment _ => true
  | .list items => !items.isEmpty
  | .tuple items => !items.isEmpty
  | .set items => !items.isEmpty
  | .map entries => !entries.isEmpty
  | .again _ => true

/-- A truth value as the number it counts as. -/
def ofTruth (b : Bool) : Int :=
  if b then 1 else 0

/-- Whether a number equals an integer exactly. -/
def floatIs (x : Float) (n : Int) : Bool :=
  match Binary64.parts x with
  | .finite negative significand exponent =>
    let magnitude := significand * Nat.pow 2 exponent.toNat
    let divisor := Nat.pow 2 (-exponent).toNat
    magnitude % divisor == 0
      && (if negative then -(magnitude / divisor : Nat) else (magnitude / divisor : Nat) : Int) == n
  | _ => false

/-- Whether a value is a number equal to the given integer. -/
def isNumber (v : Value) (n : Int) : Bool :=
  match v with
  | .bool b => ofTruth b == n
  | .int m => m == n
  | .float x => floatIs x n
  | _ => false

mutual

/-- Whether two values are equal: numbers by their value, whatever their kind, and
collections by their members. -/
def same : Value → Value → Bool
  | .null, .null => true
  | .text s, .text t => s == t
  | .path p, .path q => p == q
  | .bytes s, .bytes t => s == t
  | .date y m d, .date y' m' d' => y == y' && m == m' && d == d'
  | .moment m, .moment m' => m.same m'
  | .float x, .float y => x == y
  | .float x, .bool q => floatIs x (ofTruth q)
  | .float x, .int n => floatIs x n
  | .bool p, v => v.isNumber (ofTruth p)
  | .int n, v => v.isNumber n
  | .list items, .list items' => sameItems items items'
  | .tuple items, .tuple items' => sameItems items items'
  | .set items, .set items' => items.length == items'.length && sameMembers items items'
  | .map entries, .map entries' =>
    entries.length == entries'.length && sameEntries entries entries'
  | _, _ => false

/-- Whether two sequences of values are equal place by place. -/
def sameItems : List Value → List Value → Bool
  | [], [] => true
  | v :: rest, w :: rest' => same v w && sameItems rest rest'
  | _, _ => false

/-- Whether every value of a sequence is in a collection. -/
def sameMembers : List Value → List Value → Bool
  | [], _ => true
  | v :: rest, all => all.any (same v) && sameMembers rest all

/-- Whether every entry of a mapping is in another. -/
def sameEntries : List (Value × Value) → List (Value × Value) → Bool
  | [], _ => true
  | (k, v) :: rest, all => all.any (fun e => same k e.1 && same v e.2) && sameEntries rest all

end

/-- A number in two digits. -/
private def twoPlaces (n : Nat) : String :=
  if n < 10 then "0" ++ toString n else toString n

/-- A number in so many digits. -/
private def padded (width n : Nat) : String :=
  let s := toString n
  String.ofList (List.replicate (width - s.length) '0') ++ s

/-- A date as year, month and day. -/
def plainDate (year month day : Nat) : String :=
  padded 4 year ++ "-" ++ twoPlaces month ++ "-" ++ twoPlaces day

/-- An offset as its sign, hours and minutes. -/
private def plainOffset (seconds : Int) : String :=
  let n := seconds.natAbs
  (if seconds < 0 then "-" else "+") ++ twoPlaces (n / 3600) ++ ":" ++ twoPlaces (n / 60 % 60)

/-- A moment as date, time of day and offset. -/
def plainMoment (m : Moment) : String :=
  plainDate m.year m.month m.day ++ " " ++ twoPlaces m.hour ++ ":" ++ twoPlaces m.minute ++ ":"
    ++ twoPlaces m.second
    ++ (if m.microsecond = 0 then "" else "." ++ padded 6 m.microsecond)
    ++ (match m.offset with
      | none => ""
      | some s => plainOffset s)

/-- An offset by the seconds it is made of. -/
private def shownOffset (seconds : Int) : String :=
  if seconds = 0 then "datetime.timezone.utc"
  else if seconds < 0 then
    "datetime.timezone(datetime.timedelta(days=-1, seconds=" ++ toString (seconds + 86400) ++ "))"
  else "datetime.timezone(datetime.timedelta(seconds=" ++ toString seconds ++ "))"

/-- A moment by its fields, trailing zeros left out. -/
def shownMoment (m : Moment) : String :=
  let fields := [m.year, m.month, m.day, m.hour, m.minute]
    ++ (if m.second = 0 ∧ m.microsecond = 0 then [] else [m.second])
    ++ (if m.microsecond = 0 then [] else [m.microsecond])
  "datetime.datetime(" ++ String.intercalate ", " (fields.map toString)
    ++ (match m.offset with
      | none => ""
      | some s => ", tzinfo=" ++ shownOffset s)
    ++ ")"

mutual

/-- The text of a value in a message, in which text is quoted. -/
def shown : Value → String
  | .null => "None"
  | .bool b => if b then "True" else "False"
  | .int n => toString n
  | .float x => Decimal.text numberLayout x
  | .text s => Text.quoted s
  | .path p => "PosixPath(" ++ Text.quoted p.toString ++ ")"
  | .bytes data => Text.quotedBytes data
  | .date year month day =>
    "datetime.date(" ++ String.intercalate ", " ([year, month, day].map toString) ++ ")"
  | .moment m => shownMoment m
  | .list items => "[" ++ String.intercalate ", " (shownItems items) ++ "]"
  | .tuple items =>
    match shownItems items with
    | [one] => "(" ++ one ++ ",)"
    | several => "(" ++ String.intercalate ", " several ++ ")"
  | .set items =>
    match shownItems items with
    | [] => "set()"
    | texts => "\x7b" ++ String.intercalate ", " texts ++ "\x7d"
  | .map entries => "\x7b" ++ String.intercalate ", " (shownEntries entries) ++ "\x7d"
  | .again isMap => if isMap then "\x7b...\x7d" else "[...]"

/-- The texts of several values. -/
def shownItems : List Value → List String
  | [] => []
  | v :: rest => v.shown :: shownItems rest

/-- The texts of the entries of a mapping. -/
def shownEntries : List (Value × Value) → List String
  | [] => []
  | (k, v) :: rest => (k.shown ++ ": " ++ v.shown) :: shownEntries rest

end

/-- Whether an integer has few enough digits to be written. -/
def isWritable (n : Int) : Bool :=
  n.natAbs < Nat.pow 10 Text.longestNumeral

mutual

/-- Whether a value can be shown: integers with very many digits cannot. -/
def isShowable : Value → Bool
  | .int n => isWritable n
  | .list items => areShowable items
  | .tuple items => areShowable items
  | .set items => areShowable items
  | .map entries => entriesShowable entries
  | _ => true

/-- Whether values can be shown. -/
def areShowable : List Value → Bool
  | [] => true
  | v :: rest => v.isShowable && areShowable rest

/-- Whether entries can be shown. -/
def entriesShowable : List (Value × Value) → Bool
  | [] => true
  | (k, v) :: rest => k.isShowable && v.isShowable && entriesShowable rest

end

/-- The plain text of a value: text and paths as they are, dates as written. -/
def plain : Value → String
  | .text s => s
  | .path p => p.toString
  | .date year month day => plainDate year month day
  | .moment m => plainMoment m
  | v => v.shown

/-- The value under a key of a mapping's entries. -/
def find? (key : Value) : List (Value × Value) → Option Value
  | [] => none
  | (k, v) :: rest => if k.same key then some v else find? key rest

/-- Puts a value under a key: in place if the key is there, else at the end. -/
def insert (key value : Value) : List (Value × Value) → List (Value × Value)
  | [] => [(key, value)]
  | (k, v) :: rest => if k.same key then (k, value) :: rest else (k, v) :: insert key value rest

end Value

end Recolor
