import Recolor.CommandLine.Printout

/-!
# The colour facts of a picture

What a picture says about its colours is listed in a table: its space and the format of
its rows, the markers that bear on colour, its resolution and its embedded profile. What
cannot be made sense of is listed with the reason.
-/

set_option autoImplicit false

namespace Recolor.Inspection

/-- What stands for a missing fact. -/
def missing : String := "[dim]-[/dim]"

/-- The format of the rows and its word. -/
def formatText (c : SourceColor) : String :=
  match c.inputFormat with
  | .error e => "[red]" ++ e.message ++ "[/red]"
  | .ok f =>
    match f.encode with
    | .error e => "[red]" ++ e.message ++ "[/red]"
    | .ok word => f.describe ++ " (0x" ++ Text.hexPadded 8 word ++ ")"

/-- The resolution of a picture. -/
def resolutionText (r : Reader) : String :=
  let resolution := Scanline.sourceResolution r
  toString resolution.x ++ "x" ++ toString resolution.y ++ " " ++ resolution.unit.label

/-- The embedded profile of a picture. -/
def profileText (engine : ColorEngine) (c : SourceColor) : Except Fault String :=
  match c.embedded with
  | none => .ok missing
  | some data =>
    match IccProfile.ofBytes engine data with
    | .error (.conversion e) => .ok ("[yellow]unreadable: " ++ e.message ++ "[/yellow]")
    | .error (.fault f) => .error f
    | .ok p =>
      .ok (p.description ++ " (" ++ Profile.spaceText p.space ++ ", " ++ toString data.length
        ++ " bytes)")

/-- The markers of a picture with the sizes of their data. -/
def markersText (ms : List Marker) : String :=
  if ms.isEmpty then missing
  else String.intercalate ", "
    (ms.map fun m => m.name ++ " (" ++ toString m.payload.length ++ " bytes)")

/-- The table about a picture. -/
def table (engine : ColorEngine) (r : Reader) : Except Fault Printed :=
  match profileText engine r.color with
  | .error f => .error f
  | .ok profile =>
    .ok (.table ("JPEG Info: " ++ r.path.name) ["Property", "Value"]
      [["Dimensions", toString r.width ++ "x" ++ toString r.height],
        ["JPEG Color Space", r.color.space.name.toUpper],
        ["Pixel Format", formatText r.color],
        ["Adobe Marker", if r.color.hasAdobe then "Yes" else "No"],
        ["ITU Fax (G3FAX)", if r.color.isFax then "[green]Yes[/green]" else "No"],
        ["Resolution", resolutionText r],
        ["Embedded Profile", profile],
        ["Markers", markersText r.markers]])

end Recolor.Inspection
