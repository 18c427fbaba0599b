import Recolor.Files.Pages
import Recolor.Yaml.Unfolding

/-!
# Values of documents

A document is read from the pages of a file. It goes up to the first page with a character
that is not allowed, or that cannot be decoded; the first two pages are looked at together.
A document in which only blanks, comments and marks stand has no value.
-/

set_option autoImplicit false

namespace Recolor.Yaml

/-- What is looked at together: the first two pages, then page by page. -/
def stretches : List (List Char) → List (List Char)
  | first :: second :: rest => (first ++ second) :: rest
  | pages => pages

/-- The text up to the first stretch with a character that is not allowed, and the fault that
stands behind it. -/
def readable (broken : Option Fault) : List (List Char) → List Char × Option Fault
  | [] => ([], broken)
  | stretch :: rest =>
    if stretch.all isAllowed then
      let (text, beyond) := readable broken rest
      (stretch ++ text, beyond)
    else ([], some (malformed "a character is not allowed"))

/-- The text of pages, and the fault that stands behind it. -/
def textOf (pages : List (List Char)) (broken : Option Fault) : List Char × Option Fault :=
  if broken.isSome && pages.length < 2 then ([], broken) else readable broken (stretches pages)

/-- The value of a document, of which something may follow that cannot be read. -/
def read (text : List Char) (beyond : Option Fault := none) : Except Fault Value :=
  match document? (tokens text beyond) with
  | .error f => .error f
  | .ok none => .ok .null
  | .ok (some d) => (Making.ofDocument d).map fun m => m.value d.root

/-- The value of the document in a file. -/
def ofBytes (p : Path) (content : Bytes) : Except Fault Value :=
  let (pages, isBroken) := Pages.ofBytes content
  let (text, beyond) := textOf pages (if isBroken then some (.notText p) else none)
  read text beyond

end Recolor.Yaml
