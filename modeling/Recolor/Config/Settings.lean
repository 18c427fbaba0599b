import Recolor.Jpeg.Writer

/-!
# Settings

A configuration has four sections. Its settings keep whatever values they were given;
only the folders to search, the place for a saved profile and the log file are known as
paths. Some profiles and folders have defaults in the environment, the other settings
have fixed ones.

Under names with underscores a section can be given more than its settings, and can be
given other content as a whole. Settings that the other content lacks count as those of
their fixed defaults; the ones without are missing.
-/

set_option autoImplicit false

namespace Recolor

/-- How the content of a section differs from its settings. -/
structure SectionContent where
  /-- What the section holds besides its settings. -/
  extras : List (Value × Value) := []
  /-- The settings that the section does not hold. -/
  lacking : List String := []
  deriving Repr, Inhabited

namespace SectionContent

/-- Whether the section lacks a setting. -/
def lacks (c : SectionContent) (name : String) : Bool :=
  c.lacking.contains name

/-- The content once a setting is given. -/
def giving (c : SectionContent) (name : String) : SectionContent :=
  { c with lacking := c.lacking.filter (· != name) }

end SectionContent

/-- Which profiles to use. -/
structure ProfileSettings where
  input : Value := .null
  output : Value := .null
  /-- The profile to proof against. -/
  proofing : Value := .null
  link : Value := .null
  /-- Folders to search for installed profiles first. -/
  folders : List Path := []
  content : SectionContent := {}
  deriving Repr, Inhabited

/-- How colours are rendered. -/
structure RenderingSettings where
  intent : Value := .int 0
  proofIntent : Value := .int 0
  blackPoint : Value := .bool false
  gamutCheck : Value := .bool false
  precalc : Value := .int 1
  content : SectionContent := {}
  deriving Repr, Inhabited

/-- What the destination is given. -/
structure OutputSettings where
  quality : Value := Quality.standard
  embedProfile : Value := .bool false
  ignoreEmbedded : Value := .bool false
  saveEmbedded : Value := .null
  content : SectionContent := {}
  deriving Repr, Inhabited

/-- What is logged, and where. -/
structure LoggingSettings where
  level : Value := .text "WARNING"
  file : Value := .null
  console : Value := .bool true
  content : SectionContent := {}
  deriving Repr, Inhabited

/-- A configuration. -/
structure Config where
  profiles : ProfileSettings := {}
  rendering : RenderingSettings := {}
  output : OutputSettings := {}
  logging : LoggingSettings := {}
  deriving Repr, Inhabited

namespace Config

/-- The folders in a text that separates them by colons. -/
def foldersOf (s : String) : List Path :=
  ((s.splitOn ":").filter fun part => !part.isEmpty).map Path.ofString

/-- The configuration without a file. -/
def standard (s : Services) : Config where
  profiles :=
    { input := ((s.setting? "JCT_INPUT_PROFILE").map Value.text).getD .null
      output := ((s.setting? "JCT_OUTPUT_PROFILE").map Value.text).getD .null
      folders := ((s.setting? "JCT_PROFILE_DIRS").map foldersOf).getD [] }

end Config

end Recolor
