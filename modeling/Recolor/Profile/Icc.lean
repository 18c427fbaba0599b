import Recolor.Cms.Engine
import Recolor.Profile.Header
import Recolor.Text.Digits

/-!
# ICC profiles

An ICC profile is data that the colour engine opens. The library itself reads the
header and asks the engine for the description. Two profiles are built in: that of
the usual display space, and the identity of the Lab connection space, at which the
halves of a chain meet.
-/

set_option autoImplicit false

namespace Recolor

/-- An ICC profile. -/
structure IccProfile where
  source : IccSource
  name : String
  /-- The file it was read from, if it was. -/
  path : Option Path := none
  space : Option Space
  pcs : Option Space
  deviceClass : DeviceClass
  /-- The engine's description, which may be empty. -/
  stated : String := ""
  deriving Repr, Inhabited

namespace IccProfile

/-- The description, or the name if there is none. -/
def description (p : IccProfile) : String :=
  if p.stated.isEmpty then p.name else p.stated

/-- The data, unless the profile is built in. -/
def data? (p : IccProfile) : Option Bytes :=
  match p.source with
  | .data bytes => some bytes
  | _ => none

/-- The engine's description without blanks around it; a refusal counts as none. -/
def describe (engine : ColorEngine) (source : IccSource) : Except Fault String :=
  match engine.describe source with
  | .ok text => .ok (Text.trimBlank (text.getD ""))
  | .error f => if f.kind = .engine then .ok "" else .error f

/-- Opens profile data. The header is read first, so that data without one never reaches
the engine. -/
def ofBytes (engine : ColorEngine) (data : Bytes) (name : String := "embedded")
    (path : Option Path := none) : Except Failure IccProfile :=
  match Header.parse data with
  | .error e => .error e
  | .ok header =>
    match engine.openData data with
    | .error f =>
      if f.kind = .engine || f.isSystem then .error (ProfileError.cannotOpen name f) else .error f
    | .ok () =>
      match describe engine (.data data) with
      | .error f => .error f
      | .ok stated =>
        .ok { source := .data data, name, path, space := header.space, pcs := header.pcs
              deviceClass := header.deviceClass, stated }

/-- The built-in profile of the usual display space. -/
def srgb (engine : ColorEngine) : Except Failure IccProfile :=
  match describe engine .srgb with
  | .error f => .error f
  | .ok stated =>
    .ok { source := .srgb, name := "*sRGB", space := some .rgb, pcs := some .xyz
          deviceClass := .display, stated }

/-- The built-in identity of the Lab connection space. -/
def labD50 (engine : ColorEngine) : Except Failure IccProfile :=
  match describe engine .labD50 with
  | .error f => .error f
  | .ok stated =>
    .ok { source := .labD50, name := "*Lab D50", space := some .lab, pcs := some .lab
          deviceClass := .abstract, stated }

end IccProfile

end Recolor
