import Recolor.Marker.Photoshop

/-!
# Markers that matter to a conversion

A fax image is known by application marker 1 with the identifier `G3FAX`, and an
image of inverted samples by application marker 14 that starts with `Adobe`. Of the
source's markers the destination keeps, in order, all but those its writer emits
itself.
-/

set_option autoImplicit false

namespace Recolor.Marker

/-- What the payload of a fax marker starts with. -/
def faxIdentifier : Bytes := Bytes.ofText "G3FAX" ++ [0]

/-- What the payload of a density marker starts with. -/
def jfifSignature : Bytes := Bytes.ofText "JFIF" ++ [0]

/-- What the payload of a colour transform marker starts with. -/
def adobeSignature : Bytes := Bytes.ofText "Adobe"

/-- What the payload of an embedded profile's marker starts with. -/
def profileSignature : Bytes := Bytes.ofText "ICC_PROFILE" ++ [0]

/-- Whether a marker identifies a fax image. -/
def isFax (m : Marker) : Bool :=
  m.tag == app 1 && m.startsWith faxIdentifier

/-- Whether a marker is a density marker. -/
def isJfif (m : Marker) : Bool :=
  m.tag == app 0 && m.startsWith jfifSignature

/-- Whether a marker is a colour transform marker. -/
def isAdobe (m : Marker) : Bool :=
  m.tag == app 14 && m.startsWith adobeSignature

/-- Whether a marker carries a part of an embedded profile. -/
def isProfile (m : Marker) : Bool :=
  m.tag == app 2 && m.startsWith profileSignature

/-- Whether the markers identify a fax image. -/
def identifyFax (markers : List Marker) : Bool :=
  markers.any isFax

/-- Whether there is a colour transform marker. -/
def hasAdobe (markers : List Marker) : Bool :=
  markers.any isAdobe

/-- The version of the fax standard that a fax marker states. -/
def faxVersion : Nat := 1994

/-- The resolution that a fax marker states, in pels per 25.4 millimetres. -/
def faxDensity : Nat := 200

/-- The marker that identifies a fax image. -/
def fax : Marker :=
  { tag := app 1
    payload := faxIdentifier ++ Bytes.ofNat 2 faxVersion ++ Bytes.ofNat 2 faxDensity }

/-- The markers to carry over to a writer that may emit a density marker and a colour
transform marker of its own. -/
def carried (markers : List Marker) (writesJfif writesAdobe : Bool) : List Marker :=
  markers.filter fun m => !(writesJfif && m.isJfif) && !(writesAdobe && m.isAdobe)

end Recolor.Marker
