import Recolor.Conversion

/-!
# What is printed

The command line prints lines and tables, whose texts may carry marks of style between
square brackets. Sizes are told in units of 1024 bytes with one place, and a change of
size in percent without places.
-/

set_option autoImplicit false

namespace Recolor

/-- Something printed. -/
inductive Printed where
  | line (text : String)
  | table (title : String) (columns : List String) (rows : List (List String))
  deriving Repr, Inhabited

namespace Printed

/-- A line that tells of an error. -/
def error (text : String) : Printed :=
  .line ("[red]Error:[/red] " ++ text)

/-- The styles that texts are marked with. -/
def styles : List String :=
  ["red", "green", "yellow", "cyan", "dim", "bold"]

/-- Removes a mark of style from the front of a text. -/
def dropMark? (text : List Char) : Option (List Char) :=
  (styles.flatMap fun s => ["[" ++ s ++ "]", "[/" ++ s ++ "]"]).findSome? fun mark =>
    if mark.toList.isPrefixOf text then some (text.drop mark.length) else none

/-- A text without marks of style. -/
def unstyled : (room : Nat) → List Char → List Char
  | 0, text => text
  | _, [] => []
  | room + 1, c :: rest =>
    match dropMark? (c :: rest) with
    | some rest => unstyled room rest
    | none => c :: unstyled room rest

/-- The lines of a printout for a plain terminal. -/
def plainLines (p : Printed) : List String :=
  let plain (s : String) : String := String.ofList (unstyled s.length s.toList)
  match p with
  | .line text => [plain text]
  | .table title _ rows => plain title :: rows.map fun row => "  " ++ plain (String.intercalate ": " row)

end Printed

namespace Size

/-- How a size changes, as a text; there is none of an empty source. -/
def change (input output : Int) : Except Fault String :=
  if input = 0 then .ok "n/a"
  else
    match Binary64.ofQuotient? (decide (input < 0) != decide (output < 0)) output.natAbs input.natAbs with
    | none => .error (.raised .overflow "quotient too large")
    | some quotient =>
      let ratio := 1.0 - quotient
      let percent := Decimal.fixed 0 (ratio * 100.0).abs
      .ok (if 0.0 < ratio then "[green]" ++ percent ++ "% smaller[/green]"
        else if ratio < 0.0 then "[yellow]" ++ percent ++ "% larger[/yellow]"
        else "same size")

/-- A size in units of 1024 bytes. -/
def units (bytes : Nat) : String :=
  Decimal.fixed 1 (Binary64.ofInt bytes / 1024.0) ++ " KB"

end Size

namespace Report

/-- The size of the destination and how it differs from that of the source. -/
def sizeText (r : Report) : Except Fault String :=
  match Size.change r.inputSize r.outputSize with
  | .error e => .error e
  | .ok change => .ok (Size.units r.outputSize ++ " (" ++ change ++ ")")

/-- The rows of a table about a conversion that only a verbose one has. -/
def details (r : Report) : List (List String) :=
  [["Input Profile", r.inputProfile ++ (if r.usedEmbedded then " [dim](embedded)[/dim]" else "")],
    ["Output Profile", r.outputProfile],
    ["Rows", toString r.rows],
    ["Time", Decimal.fixed 2 r.elapsed ++ "s"]]

/-- The table about a conversion. -/
def table (r : Report) (verbose : Bool) : Except Fault Printed :=
  match r.sizeText with
  | .error e => .error e
  | .ok size =>
    let output := (r.outputPath.map Path.toString).getD "None"
    .ok (.table ("Converted: " ++ r.inputPath.name) ["Property", "Value"]
      ([["Output", output], ["Dimensions", toString r.width ++ "x" ++ toString r.height],
        ["Input Format", r.inputFormat], ["Output Format", r.outputFormat]]
        ++ (if verbose then r.details else []) ++ [["Size", size]]))

end Report

end Recolor
