import Recolor.Failure
import Recolor.Numeric.Binary64
import Recolor.Yaml.Plain

/-!
# Numbers and dates of scalars

A scalar of a kind is read by rules that are more lenient than those by which a plain
scalar is recognised, since a tag may claim the kind for any text. A text that does not
fit its kind is a fault.
-/

set_option autoImplicit false

namespace Recolor.Yaml.Number

/-- The text without underscores. -/
def withoutUnderscores (s : String) : List Char :=
  s.toList.filter (· != '_')

/-- The whole numbers between colons, each sixty times the worth of the next. -/
def ofSixtieths (parts : List Int) : Int :=
  parts.foldl (fun n part => n * 60 + part) 0

/-- Reads a whole number without its sign. -/
def magnitude? (text : List Char) : Option Int :=
  let read (base : Nat) (digits : List Char) : Option Int :=
    Text.readIntegerIn? base (String.ofList digits)
  match text with
  | ['0'] => some 0
  | '0' :: 'b' :: bits => read 2 bits
  | '0' :: 'x' :: digits => read 16 digits
  | '0' :: _ => read 8 text
  | _ =>
    if text.contains ':' then ((Plain.colonParts text).mapM (read 10)).map ofSixtieths
    else read 10 text

/-- Reads a whole number. -/
def readInt (s : String) : Except Fault Int :=
  let text := withoutUnderscores s
  match Plain.unsigned text with
  | [] => .error .emptyNumeral
  | bare =>
    match magnitude? bare with
    | some n => .ok (if Plain.isNegative text then -n else n)
    | none => .error (.badNumeral s)

/-- The number `digits · 10^exponent`. Exponents beyond the range of numbers are cut, which
changes nothing. -/
def scale (digits : Nat) (exponent : Int) : Float :=
  let length := (toString digits).length
  if digits = 0 then 0.0
  else if 400 < exponent + length then 1.0 / 0.0
  else if exponent + length < -400 then 0.0
  else Float.ofScientific digits (exponent < 0) exponent.natAbs

/-- Reads the exponent after its mark. -/
def exponent? (text : List Char) : Option Int :=
  match Plain.unsigned text with
  | [] => none
  | digits =>
    if digits.all Char.isDigit then
      let n : Int := Plain.Stamp.number digits
      some (if Plain.isNegative text then -n else n)
    else none

/-- Reads a decimal number without a sign. -/
def decimal? (text : List Char) : Option Float :=
  let (whole, rest) := text.span Char.isDigit
  let (fraction, rest) := match rest with
    | '.' :: rest => rest.span Char.isDigit
    | rest => ([], rest)
  let number (e : Int) : Float :=
    scale (Plain.Stamp.number (whole ++ fraction)) (e - fraction.length)
  if whole.isEmpty && fraction.isEmpty then none
  else
    match rest with
    | [] => some (number 0)
    | m :: rest => if m == 'e' then (exponent? rest).map number else none

/-- Reads a number with an optional sign, in lower case. -/
def signed? (text : List Char) : Option Float :=
  let text := Text.bareNumeral text
  let bare := Plain.unsigned text
  let magnitude :=
    if bare == "inf".toList || bare == "infinity".toList then some (1.0 / 0.0)
    else if bare == "nan".toList then some (0.0 / 0.0)
    else decimal? bare
  magnitude.map fun x => if Plain.isNegative text then -x else x

/-- The sum of numbers, each worth sixty times the one before. Weights must be in the range of
numbers. -/
def weigh (sum : Float) (weight : Nat) : List Float → Except Fault Float
  | [] => .ok sum
  | x :: rest =>
    match Binary64.ofInt? weight with
    | none => .error (.raised .overflow "a number has too many parts")
    | some w => weigh (sum + x * w) (weight * 60) rest

/-- Whether a text writes what is not a number by its own sign. -/
def isNoNumber (s : String) : Bool :=
  Plain.unsigned ((withoutUnderscores s).map Char.toLower) == ".nan".toList

/-- Reads a number. -/
def readFloat (s : String) : Except Fault Float :=
  let text := (withoutUnderscores s).map Char.toLower
  let sign (x : Float) : Float := if Plain.isNegative text then -1.0 * x else x
  match Plain.unsigned text with
  | [] => if text.isEmpty then .error .emptyNumeral else .error (.badNumeral s)
  | bare =>
    if bare == ".inf".toList then .ok (sign (1.0 / 0.0))
    else if bare == ".nan".toList then .ok (0.0 / 0.0)
    else if bare.contains ':' then
      match (Plain.colonParts bare).mapM signed? with
      | none => .error (.badNumeral s)
      | some xs => (weigh 0.0 1 xs.reverse).map sign
    else
      match signed? bare with
      | none => .error (.badNumeral s)
      | some x => .ok (sign x)

/-- Reads a truth value. -/
def readBool (s : String) : Except Fault Bool :=
  match Plain.truths.lookup (s.map Char.toLower) with
  | some b => .ok b
  | none => .error (.badTruth s)

/-- Reads a date with or without a time of day. -/
def readStamp (s : String) : Except Fault Value :=
  match Plain.Stamp.read? (Plain.withoutFinalBreak s.toList) with
  | none => .error (.notADate s)
  | some stamp =>
    let { year, month, day, .. } := stamp
    if Calendar.isDate year month day then
      match stamp.time with
      | none => .ok (.date year month day)
      | some (hour, minute, second, microsecond, offset) =>
        if hour < 24 && minute < 60 && second < 60 && (offset.getD 0).natAbs < 86400 then
          .ok (.moment { year, month, day, hour, minute, second, microsecond, offset })
        else .error .badDate
    else .error .badDate

end Recolor.Yaml.Number
