import Recolor.CommandLine.Inspection
import Recolor.CommandLine.Invocation
import Recolor.Config.Load
import Recolor.Logging

/-!
# Running a command line

A command prints lines and tables and ends with a code: 0 if all went well, 1 if it
failed, 2 if it was misused. A fault that nobody expected ends it with code 1 and is
handed on.
-/

set_option autoImplicit false

namespace Recolor

/-- How a command line ended. -/
structure Ending where
  code : Nat := 0
  printed : List Printed := []
  /-- The failure that nobody expected. -/
  failure : Option Failure := none
  deriving Repr, Inhabited

namespace Command

/-- The version of the program. -/
def version : String := "0.1.0"

/-- The ending of a command that failed for known reasons. -/
def failed (texts : List String) : Ending :=
  { code := 1, printed := texts.map Printed.error }

/-- The tables of intents and precalculation modes. -/
def intents : List Printed :=
  [.table "Rendering Intents" ["Value", "Intent"]
      (Intent.all.map fun i => [toString i.code, i.label]),
    .table "Precalculation Modes" ["Value", "Mode"]
      (Precalc.all.map fun m => [toString m.code, m.label])]

/-- Lists the colour facts of a picture. -/
def info (file : Path) : Work Ending := do
  match ← Work.outcome (Reader.openFile file) with
  | .error (.conversion e) => return failed [e.message]
  | .error e => Work.fail e
  | .ok reader =>
    let s ← Work.services
    let table := Inspection.table s.engine reader
    let _ ← reader.close
    let table ← Work.lift table
    return { printed := [table] }

/-- Whether a setting was given as text that is not empty. -/
def isNamed (order : ConvertOrder) (o : Override) : Bool :=
  ((order.overrides.lookup o.name).getD .null).isSet

/-- The configuration for a conversion. -/
def configure (order : ConvertOrder) : Work Config := do
  let config ← Config.load order.config
  Work.lift (config.override order.overrides)

/-- Converts with a valid configuration and reports. -/
def convertWith (c : Config) (order : ConvertOrder) : Work Ending := do
  let (logged, _) ← ({} : Logger).configure c.logging order.verbose
  Work.ofExcept logged
  let report ← Conversion.run c order.input order.output
  if report.succeeded then
    let table ← Work.lift (report.table order.verbose)
    return { printed := [table] }
  else return failed [report.problem.getD "None"]

/-- Converts a picture. -/
def convert (order : ConvertOrder) : Work Ending := do
  if isNamed order .deviceLink && (isNamed order .inputProfile || isNamed order .outputProfile) then
    return failed ["--device-link cannot be combined with --input-profile or --output-profile"]
  else
    let c ← configure order
    match ← Work.lift c.problems with
    | [] => convertWith c order
    | problems => return failed (problems.map ConfigProblem.message)

/-- Does what is asked for. -/
def perform : Invocation → Work Ending
  | .help => return {}
  | .version => return { printed := [.line ("jct version " ++ version)] }
  | .misuse => return { code := 2 }
  | .completion => return { code := 1 }
  | .intents => return { printed := intents }
  | .info file => info file
  | .convert order => convert order

/-- Runs a command line. -/
def run (arguments : List String) : Work Ending := do
  let invocation := Invocation.ofArguments (← Work.files) arguments
  match ← Work.outcome (Work.lift invocation >>= perform) with
  | .ok ending => return ending
  | .error e => return { code := 1, failure := some e }

end Command

end Recolor
