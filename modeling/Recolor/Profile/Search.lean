import Recolor.Profile.Basic
import Recolor.Profile.Virtual
import Recolor.World

/-!
# Finding and opening profiles

A profile is referred to by the path of its file or by a stock name, in which the
case of letters does not matter: one for the built-in display profile, one for the
virtual fax profiles, which cannot be opened by themselves.

Without a reference the first installed profile of a space is taken: the folders are
searched in order, and of a folder's qualifying files the one with the least name
by code points is chosen.
-/

set_option autoImplicit false

namespace Recolor

namespace Stock

/-- The stock name of the built-in display profile, in lower case. -/
def srgb : String := "*srgb"

/-- The stock name of the virtual fax profiles, in lower case. -/
def lab : String := "*lab"

/-- Whether a reference is a stock name, whatever the case of its letters. -/
def isName (reference stock : String) : Bool :=
  reference.toList.map Char.toLower == stock.toList

end Stock

namespace Installed

/-- The extensions of profile files. -/
def extensions : List String := [".icc", ".icm", ".ICC", ".ICM"]

/-- The colour space that a file's header states; none if the file holds no profile or a
device link. -/
def headerSpace? (data : Bytes) : Option Space :=
  if data.length < Header.length || !Header.hasMagic data
      || Header.classSignature data == DeviceClass.link.signature then none
  else Space.ofSignature? (Header.spaceLetters data)

/-- The colour space that the header of a file states; there is none in a file that cannot be
read. -/
def fileSpace? (files : FileTree) (p : Path) : Option Space :=
  match files.read p with
  | .error _ => none
  | .ok data => headerSpace? (data.take Header.length)

/-- Whether a path leads to an installed profile that states a space, or states none. -/
def qualifies (files : FileTree) (space : Option Space) (p : Path) : Bool :=
  extensions.contains p.extension && fileSpace? files p == space

/-- The order of names by their code points. -/
def nameLE (a b : String) : Bool :=
  !decide (b < a)

/-- The names in a folder by their code points. -/
def sortedNames (files : FileTree) (folder : Path) : List String :=
  match files.list folder with
  | .error _ => []
  | .ok names => names.mergeSort nameLE

/-- The first qualifying profile of a folder. -/
def findIn? (files : FileTree) (space : Option Space) (folder : Path) : Option Path :=
  ((sortedNames files folder).map folder.entry).find? (qualifies files space)

/-- The first qualifying profile of several folders, of which those that are not there are
passed over. -/
def find (files : FileTree) (space : Option Space) : List Path → Except Fault (Option Path)
  | [] => .ok none
  | folder :: rest =>
    match files.isFolder folder with
    | .error e => .error (.file e folder)
    | .ok _ =>
      match findIn? files space folder with
      | some p => .ok (some p)
      | none => find files space rest

/-- The folder below the user's in which profiles are installed. -/
def userFolder (home : Path) : Path :=
  ((home.entry ".local").entry "share" |>.entry "color").entry "icc"

/-- Where the systems in use keep their profiles. -/
def knownSystemFolders : List Path :=
  ["/usr/share/color/icc", "/usr/local/share/color/icc", "/usr/share/ghostscript/iccprofiles",
    "/Library/ColorSync/Profiles", "/System/Library/ColorSync/Profiles",
    "C:/Windows/System32/spool/drivers/color"].map Path.ofString

/-- The folders to search: given ones, the user's, the system's. -/
def folders (s : Services) (extra : List Path) : Except Fault (List Path) :=
  s.home.map fun home => extra ++ userFolder home :: s.systemFolders

end Installed

namespace Profile

/-- Opens the profile in a file. -/
def ofFile (path : Path) : Work IccProfile := do
  if ← Work.hasPath path then
    let data ← Work.readFile path
    let s ← Work.services
    Work.ofExcept (IccProfile.ofBytes s.engine data path.name (some path))
  else Work.fail (ProfileError.notFound path)

/-- The built-in display profile. -/
def openSrgb : Work IccProfile := do
  let s ← Work.services
  Work.ofExcept (IccProfile.srgb s.engine)

/-- Opens the profile that a reference names. -/
def openNamed (reference : String) : Work IccProfile :=
  if Stock.isName reference Stock.srgb then openSrgb
  else if Stock.isName reference Stock.lab then Work.fail ProfileError.virtualLab
  else ofFile (Path.ofString reference)

/-- The first installed profile of a space. -/
def findInstalled (space : Space) (extra : List Path) : Work (Option Path) := do
  let folders ← Work.lift (Installed.folders (← Work.services) extra)
  folders.forM fun folder => Work.note (.searched folder)
  Work.lift (Installed.find (← Work.files) (some space) folders)

end Profile

end Recolor
