import Recolor.Config.Request
import Recolor.Config.Validation
import Recolor.Jpeg.Scanline
import Recolor.Pipeline.Resolve

/-!
# Conversions

A conversion takes one picture through the configured transform to another. Its report
is filled in as it goes, so that after a failure it tells what was known until then. A
conversion error ends up in the report as a text; a fault is passed on. Whatever happens
after the source was opened, the source is closed.
-/

set_option autoImplicit false

namespace Recolor

/-- What a conversion did. -/
structure Report where
  succeeded : Bool := false
  inputPath : Path
  outputPath : Option Path := none
  inputSize : Nat := 0
  outputSize : Nat := 0
  width : Int := 0
  height : Int := 0
  inputFormat : String := ""
  outputFormat : String := ""
  inputProfile : String := ""
  outputProfile : String := ""
  usedEmbedded : Bool := false
  rows : Nat := 0
  /-- How long it took, in seconds. -/
  elapsed : Float := 0.0
  /-- Why it failed. -/
  problem : Option String := none
  deriving Repr, Inhabited

namespace Report

/-- The report with the decisions that a transform rests on. -/
def describe (report : Report) (r : Resolved) : Report :=
  { report with
    inputFormat := r.inputFormat.describe
    outputFormat := r.outputFormat.describe
    inputProfile := r.inputProfile.description
    outputProfile := (r.outputProfile.map Profile.description).getD "(device link)"
    usedEmbedded := r.usedEmbedded }

end Report

namespace Conversion

/-- The report of a source with a file of some size. -/
def opened (input : Path) (reader : Reader) (inputSize : Nat) : Report :=
  { inputPath := input, width := reader.width, height := reader.height, inputSize }

/-- The transform that a configuration asks for. -/
def resolve (c : Config) (reader : Reader) : Work Resolved := do
  let request ← Work.lift c.request
  request.resolve reader.color Writer.invertsCmyk

/-- Takes the rows of a source through a transform. -/
def transfer (c : Config) (reader : Reader) (output : Path) (r : Resolved) : Work Nat := do
  let writer ← Work.ofExcept
    (Writer.create output reader.width reader.height r.outputSpace c.output.quality)
  let (outcome, _) ← ({ reader, writer } : Scanline).run
    { transform := r.transform, space := some r.outputSpace, embed := r.embedData }
  Work.ofExcept outcome

/-- Converts an opened source. The report is that of the last thing that went well. -/
def convertOpened (c : Config) (reader : Reader) (output : Path) (report : Report) :
    Work (Except Failure Nat × Report) := do
  match ← Work.outcome (resolve c reader) with
  | .error e => return (.error e, report)
  | .ok r =>
    let outcome ← Work.outcome (transfer c reader output r)
    return (outcome, report.describe r)

/-- The report of a conversion that failed: a conversion error is told in it. -/
def giveUp (report : Report) : Failure → Work Report
  | .conversion e => return { report with problem := some e.message }
  | .fault f => Work.fail f

/-- The report of a conversion that succeeded. -/
def conclude (report : Report) (output : Path) (rows : Nat) : Work Report := do
  let outputSize ← Work.fileSize output
  return { report with succeeded := true, outputPath := some output, outputSize, rows }

/-- Converts a source that is opened and closed on the way. -/
def convertFile (c : Config) (input output : Path) : Work Report := do
  match ← Work.outcome (Reader.openFile input) with
  | .error e => giveUp { inputPath := input } e
  | .ok reader =>
    let report := opened input reader (← Work.fileSize input)
    match ← convertOpened c reader output report with
    | (.ok rows, report) => conclude report output rows
    | (.error e, report) =>
      let _ ← reader.close
      giveUp report e

/-- Converts a picture through the configured transform, if the configuration has no problem. -/
def run (c : Config) (input output : Path) : Work Report := do
  match ← Work.lift c.problems with
  | [] =>
    let start ← Work.now
    let report ← convertFile c input output
    let stop ← Work.now
    return { report with elapsed := stop - start }
  | problems =>
    let texts := problems.map ConfigProblem.message
    return { inputPath := input, problem := some (String.intercalate "; " texts) }

end Conversion

end Recolor
