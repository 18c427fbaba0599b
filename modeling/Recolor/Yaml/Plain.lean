import Recolor.Config.Value
import Recolor.Text.Digits
import Recolor.Yaml.Node

/-!
# Plain scalars

A plain scalar whose text is a truth value, a number, a date or nothing stands for that;
any other stands for its text. Whole numbers are binary, octal, decimal, hexadecimal or
to the base sixty; underscores may stand between digits.
-/

set_option autoImplicit false

namespace Recolor.Yaml.Plain

/-- The text without a sign in front. -/
def unsigned : List Char → List Char
  | '+' :: rest => rest
  | '-' :: rest => rest
  | text => text

/-- Whether a number is negative. -/
def isNegative (text : List Char) : Bool :=
  text.head? == some '-'

/-- Whether a text is a digit followed by digits and underscores. -/
def isGrouped : List Char → Bool
  | d :: rest => d.isDigit && rest.all fun c => c.isDigit || c == '_'
  | [] => false

/-- Whether a text holds characters of a class only, and at least one. -/
def isAllOf (isIn : Char → Bool) (text : List Char) : Bool :=
  !text.isEmpty && text.all isIn

/-- The parts of a text between colons. -/
def colonParts : List Char → List (List Char)
  | [] => [[]]
  | c :: rest =>
    match c, colonParts rest with
    | ':', parts => [] :: parts
    | c, part :: parts => (c :: part) :: parts
    | c, [] => [[c]]

/-- Whether a part of a number to the base sixty is below sixty, in one or two digits. -/
def isSixtieth : List Char → Bool
  | [d] => d.isDigit
  | [d, e] => '0' ≤ d && d ≤ '5' && e.isDigit
  | _ => false

/-- Whether a text is a whole number. -/
def isInt (text : List Char) : Bool :=
  match unsigned text with
  | '0' :: 'b' :: bits => isAllOf (fun c => c == '0' || c == '1' || c == '_') bits
  | '0' :: 'x' :: digits =>
    isAllOf (fun c => (Quoted.hexValue? c).isSome || c == '_') digits
  | ['0'] => true
  | '0' :: digits => digits.all fun c => ('0' ≤ c && c ≤ '7') || c == '_'
  | digits =>
    match colonParts digits with
    | first :: others => isGrouped first && others.all isSixtieth
    | [] => false

/-- Whether a text is an exponent with its mark and sign. -/
def isExponent : List Char → Bool
  | m :: s :: digits => (m == 'e' || m == 'E') && (s == '+' || s == '-') && isAllOf Char.isDigit digits
  | _ => false

/-- Whether a text is digits and underscores with at most an exponent after them. -/
def isFraction (text : List Char) : Bool :=
  match text.dropWhile fun c => c.isDigit || c == '_' with
  | [] => true
  | rest => isExponent rest

/-- Whether the part of a number before its point has the given form. -/
def isDecimal (text : List Char) : Bool :=
  match text.span (· != '.') with
  | (whole, '.' :: fraction) =>
    match colonParts whole with
    | [whole] => isGrouped whole && isFraction fraction
    | first :: others =>
      isGrouped first && others.all isSixtieth && fraction.all fun c => c.isDigit || c == '_'
    | [] => false
  | _ => false

/-- Whether a text is a number with a point. -/
def isFloat (text : List Char) : Bool :=
  let bare := unsigned text
  isDecimal bare
    || (match text with
      | '.' :: d :: rest => d.isDigit && isFraction rest
      | _ => false)
    || [".inf", ".Inf", ".INF"].any (·.toList == bare)
    || [".nan", ".NaN", ".NAN"].any (·.toList == text)

/-- The words for truth values, in lower case. -/
def truths : List (String × Bool) :=
  [("yes", true), ("no", false), ("true", true), ("false", false), ("on", true), ("off", false)]

/-- A text in lower case, in capitals, or with a capital in front. -/
def spellings (word : String) : List String :=
  [word, word.capitalize, word.toUpper]

/-- A date and the time of day that may follow it. -/
structure Stamp where
  year : Nat
  month : Nat
  day : Nat
  /-- Hour, minute, second, microsecond and offset. -/
  time : Option (Nat × Nat × Nat × Nat × Option Int)
  /-- Whether month and day have two digits each. -/
  isFull : Bool

namespace Stamp

/-- The value of decimal digits. -/
def number (digits : List Char) : Nat :=
  digits.foldl (fun n d => n * 10 + (d.toNat - 48)) 0

/-- Digits at the start of a text, of which there must be some number. -/
def digits? (least greatest : Nat) (text : List Char) : Option (List Char × List Char) :=
  let found := (text.take greatest).takeWhile Char.isDigit
  if least ≤ found.length then some (found, text.drop found.length) else none

/-- What follows a character that must come first. -/
def after? (c : Char) : List Char → Option (List Char)
  | d :: rest => if c == d then some rest else none
  | [] => none

/-- Millionths from the digits after the point. -/
def microseconds (digits : List Char) : Nat :=
  let kept := digits.take 6
  number (kept ++ List.replicate (6 - kept.length) '0')

/-- The offset of a zone in seconds, if one is given. -/
def readZone? (text : List Char) : Option (Option Int) :=
  match text.dropWhile isInlineBlank with
  | [] => if text.isEmpty then some none else none
  | ['Z'] => some (some 0)
  | sign :: rest =>
    if sign == '+' || sign == '-' then do
      let (hours, rest) ← digits? 1 2 rest
      let minutes ← match rest with
        | [] => some []
        | ':' :: rest => do
          let (minutes, rest) ← digits? 2 2 rest
          if rest.isEmpty then some minutes else none
        | _ => none
      let seconds : Int := (number hours * 3600 + number minutes * 60 : Nat)
      return some (if sign == '-' then -seconds else seconds)
    else none

/-- Reads a time of day. -/
def readTime? (text : List Char) : Option (Nat × Nat × Nat × Nat × Option Int) := do
  let rest ← match text with
    | c :: rest =>
      if c == 'T' || c == 't' then some rest
      else if isInlineBlank c then some (rest.dropWhile isInlineBlank)
      else none
    | [] => none
  let (hour, rest) ← digits? 1 2 rest
  let rest ← after? ':' rest
  let (minute, rest) ← digits? 2 2 rest
  let rest ← after? ':' rest
  let (second, rest) ← digits? 2 2 rest
  let (fraction, rest) := match rest with
    | '.' :: rest => rest.span Char.isDigit
    | rest => ([], rest)
  let zone ← readZone? rest
  return (number hour, number minute, number second, microseconds fraction, zone)

/-- Reads a date with or without a time of day. -/
def read? (text : List Char) : Option Stamp := do
  let (year, rest) ← digits? 4 4 text
  let rest ← after? '-' rest
  let (month, rest) ← digits? 1 2 rest
  let rest ← after? '-' rest
  let (day, rest) ← digits? 1 2 rest
  let isFull := month.length == 2 && day.length == 2
  let stamp : Stamp := ⟨number year, number month, number day, none, isFull⟩
  if rest.isEmpty then return stamp
  else
    let time ← readTime? rest
    return { stamp with time := some time }

end Stamp

/-- Whether a text is a date. Without a time of day it has all its digits. -/
def isStamp (text : List Char) : Bool :=
  match Stamp.read? text with
  | some s => s.isFull || s.time.isSome
  | none => false

/-- The text without a line end at its end. -/
def withoutFinalBreak (text : List Char) : List Char :=
  if text.getLast? == some '\n' then text.dropLast else text

/-- The kind that a scalar's text implies. One line end after the text of a kind does not
change the kind. -/
def kind (s : String) : Kind :=
  let text := withoutFinalBreak s.toList
  let word := String.ofList text
  if s.isEmpty then .null
  else if truths.any fun (w, _) => (spellings w).contains word then .bool
  else if isFloat text then .float
  else if isInt text then .int
  else if word == "<<" then .merge
  else if word == "~" || (spellings "null").contains word then .null
  else if isStamp text then .timestamp
  else if word == "=" then .default
  else .str

end Recolor.Yaml.Plain
