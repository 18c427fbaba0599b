/-!
# Options on a command line

Arguments that start with a dash are options. A long option starts with two dashes and
may carry its value after an equals sign; short ones are single letters and may be
bundled behind one dash, the value of the last being the rest of the argument. An option
without a value of its own takes the next argument. Two dashes alone end the options.

Reading fails if an option is unknown, lacks its value or has one it does not take.
-/

set_option autoImplicit false

namespace Recolor

/-- An option that may be given. -/
structure OptionForm where
  /-- The long name, without dashes. -/
  name : String
  letter : Option Char := none
  takesValue : Bool := false
  deriving Repr, Inhabited

/-- The options and the other arguments that were given. -/
structure Given where
  options : List (String × Option String) := []
  arguments : List String := []
  deriving DecidableEq, Repr, Inhabited

/-- The options in one argument, the last of which may still want its value. -/
structure Bundle where
  options : List (String × Option String)
  wanting : Option String := none
  deriving DecidableEq, Repr, Inhabited

namespace Bundle

/-- The part of a text up to an equals sign, and the part after it. -/
def cutAtEquals (text : List Char) : List Char × Option (List Char) :=
  match text.span (· != '=') with
  | (name, _ :: value) => (name, some value)
  | (name, []) => (name, none)

/-- Reads a long option from what follows its dashes. -/
def ofLong? (forms : List OptionForm) (text : List Char) : Option Bundle :=
  let (name, value) := cutAtEquals text
  match forms.find? fun f => f.name.toList == name, value with
  | some f, none =>
    if f.takesValue then some { options := [], wanting := some f.name }
    else some { options := [(f.name, none)] }
  | some f, some v =>
    if f.takesValue then some { options := [(f.name, some (String.ofList v))] } else none
  | none, _ => none

/-- Reads short options from what follows their dash. -/
def ofLetters? (forms : List OptionForm) : List Char → Option Bundle
  | [] => some { options := [] }
  | c :: rest =>
    match forms.find? fun f => f.letter == some c with
    | none => none
    | some f =>
      if f.takesValue then
        if rest.isEmpty then some { options := [], wanting := some f.name }
        else some { options := [(f.name, some (String.ofList rest))] }
      else
        match ofLetters? forms rest with
        | none => none
        | some b => some { b with options := (f.name, none) :: b.options }

/-- Reads the options in an argument that starts with a dash. -/
def ofArgument? (forms : List OptionForm) : List Char → Option Bundle
  | '-' :: '-' :: text => ofLong? forms text
  | '-' :: text => ofLetters? forms text
  | _ => none

end Bundle

namespace Given

/-- Whether an argument holds options. -/
def isOption (argument : String) : Bool :=
  match argument.toList with
  | '-' :: _ :: _ => true
  | _ => false

/-- What was given, with options in front. -/
def addOptions (options : List (String × Option String)) (g : Given) : Given :=
  { g with options := options ++ g.options }

/-- What was given, with an argument in front. -/
def addArgument (argument : String) (g : Given) : Given :=
  { g with arguments := argument :: g.arguments }

/-- Reads arguments while an option may want a value. Unless options may stand between
arguments, the first argument ends them. -/
def readFrom (forms : List OptionForm) (mixed : Bool) :
    Option String → List String → Option Given
  | some _, [] => none
  | none, [] => some {}
  | some name, value :: rest =>
    (readFrom forms mixed none rest).map (addOptions [(name, some value)])
  | none, argument :: rest =>
    if argument == "--" then some { arguments := rest }
    else if isOption argument then
      match Bundle.ofArgument? forms argument.toList with
      | none => none
      | some b => (readFrom forms mixed b.wanting rest).map (addOptions b.options)
    else if mixed then (readFrom forms mixed none rest).map (addArgument argument)
    else some { arguments := argument :: rest }

/-- Reads arguments among which options may stand. -/
def read (forms : List OptionForm) (arguments : List String) : Option Given :=
  readFrom forms true none arguments

/-- Reads options up to the first argument. -/
def readLeading (forms : List OptionForm) (arguments : List String) : Option Given :=
  readFrom forms false none arguments

/-- Whether an option was given. -/
def has (g : Given) (name : String) : Bool :=
  g.options.any fun o => o.1 == name

/-- The value that was given last for an option. -/
def value? (g : Given) (name : String) : Option String :=
  (g.options.reverse.lookup name).join

end Given

end Recolor
