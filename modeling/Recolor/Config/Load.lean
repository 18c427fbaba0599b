import Recolor.Config.Sections
import Recolor.Yaml.Document

/-!
# Loading a configuration

A configuration is loaded from the file that is asked for, or else from the first of two
places that has one: the user's configuration folder and the working folder. A file that
is not there leaves the defaults, as does one without content.
-/

set_option autoImplicit false

namespace Recolor.Config

/-- The folder of the user's configuration. -/
def folder (s : Services) : Except Fault Path :=
  match s.setting? "JCT_CONFIG_DIR" with
  | some dir => .ok (Path.ofString dir)
  | none =>
    match s.setting? "XDG_CONFIG_HOME" with
    | some dir => .ok ((Path.ofString dir).entry "jpeg-color-toolkit")
    | none => s.home.map fun home => (home.entry ".config").entry "jpeg-color-toolkit"

/-- The places where a configuration is looked for. -/
def places (dir : Path) : List Path :=
  [dir.entry "config.yaml", Path.ofString "jct.yaml"]

/-- The configuration that the content of a file describes. -/
def ofContent (standard : Config) (p : Path) (content : Bytes) : Except Fault Config :=
  match Yaml.ofBytes p content with
  | .error e => .error e
  | .ok v => ofValue standard (if v.isSet then v else .map [])

/-- The configuration in a file. -/
def ofFile (p : Path) : Work Config := do
  let s ← Work.services
  if ← Work.hasPath p then
    let content ← Work.readFile p
    Work.lift (ofContent (standard s) p content)
  else return standard s

/-- The first of some paths that leads to something. -/
def firstPresent : List Path → Work (Option Path)
  | [] => return none
  | p :: rest => do
    if ← Work.hasPath p then return some p else firstPresent rest

/-- Loads the configuration in a file, or the one found in a folder or the working folder. -/
def load (file : Option Path := none) (dir : Option Path := none) : Work Config := do
  let s ← Work.services
  let found ← match file with
    | some p => pure (some p)
    | none => do
      let dir ← match dir with
        | some dir => pure dir
        | none => Work.lift (folder s)
      firstPresent (places dir)
  match found with
  | some p => ofFile p
  | none => return standard s

end Recolor.Config
