import Recolor.Config.Coercion
import Recolor.Config.Settings

/-!
# Sections of a configuration

A configuration is written as a mapping of four sections, each a mapping from the names
of settings to their values. Reading takes what is there over a configuration of
defaults: sections that are no mappings and names of no settings are passed over.

Besides its settings every section has some names with underscores, which can be given
values without effect. Three of them are special: the content of the section itself can
only be a mapping, which then takes the place of all that the section held, and two others
cannot be given at all.

Text becomes a path where a path is meant. Writing turns paths back into text.
-/

set_option autoImplicit false

namespace Recolor

namespace Value

/-- Whether a text occurs in another. -/
def occursIn (part : List Char) : List Char → Bool
  | [] => part.isEmpty
  | c :: rest => part.isPrefixOf (c :: rest) || occursIn part rest

/-- The entries of a section; there are none if it is absent or no mapping. Collections
without keys may be asked for sections only if they do not contain the name. -/
def section? (v : Value) (name : String) : Except Fault (List (Value × Value)) :=
  let absentIf (present : Bool) : Except Fault (List (Value × Value)) :=
    if present then .error (.notAMapping v) else .ok []
  match v with
  | .map entries =>
    match find? (.text name) entries with
    | some (.map fields) => .ok fields
    | _ => .ok []
  | .list items => absentIf (items.any (same (.text name)))
  | .tuple items => absentIf (items.any (same (.text name)))
  | .set items => absentIf (items.any (same (.text name)))
  | .text s => absentIf (occursIn name.toList s.toList)
  | v => .error (.notACollection v)

/-- The value of a setting in a section, or its default. -/
def setting (held : List (Value × Value)) (name : String) (default : Value) : Value :=
  (find? (.text name) held).getD default

end Value

namespace Section

/-- The names that every section has and that can be given values without effect. -/
def commonNames : List String :=
  ["annotations", "dataclass_fields", "dataclass_params", "delattr", "dir", "doc", "eq", "format",
    "ge", "getattribute", "getstate", "gt", "hash", "init", "init_subclass", "le", "lt", "match_args",
    "module", "ne", "new", "reduce", "reduce_ex", "repr", "setattr", "sizeof", "str",
    "subclasshook"].map fun name => "__" ++ name ++ "__"

/-- What a section holds after an entry. Of the settings that it does not hold, it still takes
those that have a fixed default. -/
def give (fixed : List String) (held : List (Value × Value)) (key value : Value) :
    Except Fault (List (Value × Value)) :=
  match key with
  | .text "__dict__" =>
    match value with
    | .map content => .ok content
    | v => .error (.raised .type (v.shown ++ " is no content of a section"))
  | .text "__class__" => .error (.raised .type "a section keeps its class")
  | .text "__weakref__" => .error (.raised .attribute "references to a section are not given")
  | .text name =>
    .ok (if (Value.find? key held).isSome || fixed.contains name || commonNames.contains name then
      Value.insert key value held
    else held)
  | key => .error (.keyNotText key)

/-- What a section holds after several entries. -/
def giveAll (fixed : List String) (held : List (Value × Value)) :
    List (Value × Value) → Except Fault (List (Value × Value))
  | [] => .ok held
  | (key, value) :: rest =>
    match give fixed held key value with
    | .error f => .error f
    | .ok held => giveAll fixed held rest

/-- Whether a key is the name of a setting. -/
def isSetting (names : List String) (key : Value) : Bool :=
  names.any fun name => key.same (.text name)

/-- How what a section holds differs from its settings. -/
def contentOf (names : List String) (held : List (Value × Value)) : SectionContent where
  extras := held.filter fun (key, _) => !isSetting names key
  lacking := names.filter fun name => (Value.find? (.text name) held).isNone

/-- What a section holds, given its settings and how its content differs from them. -/
def content (settings : List (String × Value)) (c : SectionContent) : List (Value × Value) :=
  ((settings.filter fun (name, _) => !c.lacks name).map fun (name, v) => (.text name, v)) ++ c.extras

end Section

namespace ProfileSettings

/-- The settings by name. -/
def fields (p : ProfileSettings) : List (String × Value) :=
  [("input", p.input), ("output", p.output), ("proofing", p.proofing), ("device_link", p.link),
    ("search_dirs", .list (p.folders.map Value.path))]

/-- The names of the settings. -/
def names : List String := ["input", "output", "proofing", "device_link", "search_dirs"]

/-- The settings that have a fixed default. -/
def fixedNames : List String := ["proofing", "device_link"]

/-- What the section holds. -/
def entries (p : ProfileSettings) : List (Value × Value) :=
  Section.content p.fields p.content

/-- The settings from what their section holds. The folders to search must be there. -/
def ofEntries (held : List (Value × Value)) : Except Fault ProfileSettings :=
  match Value.find? (.text "search_dirs") held with
  | none => .error (.raised .attribute "there are no folders to search")
  | some dirs => dirs.toPaths.map fun folders =>
    { input := Value.setting held "input" .null
      output := Value.setting held "output" .null
      proofing := Value.setting held "proofing" .null
      link := Value.setting held "device_link" .null
      folders
      content := Section.contentOf names held }

end ProfileSettings

namespace RenderingSettings

/-- The settings by name. -/
def fields (r : RenderingSettings) : List (String × Value) :=
  [("intent", r.intent), ("proofing_intent", r.proofIntent),
    ("black_point_compensation", r.blackPoint), ("gamut_check", r.gamutCheck),
    ("precalc", r.precalc)]

/-- The names of the settings. -/
def names : List String :=
  ["intent", "proofing_intent", "black_point_compensation", "gamut_check", "precalc"]

/-- What the section holds. -/
def entries (r : RenderingSettings) : List (Value × Value) :=
  Section.content r.fields r.content

/-- The settings from what their section holds. -/
def ofEntries (held : List (Value × Value)) : RenderingSettings :=
  let fixed : RenderingSettings := {}
  { intent := Value.setting held "intent" fixed.intent
    proofIntent := Value.setting held "proofing_intent" fixed.proofIntent
    blackPoint := Value.setting held "black_point_compensation" fixed.blackPoint
    gamutCheck := Value.setting held "gamut_check" fixed.gamutCheck
    precalc := Value.setting held "precalc" fixed.precalc
    content := Section.contentOf names held }

end RenderingSettings

namespace OutputSettings

/-- The settings by name. -/
def fields (o : OutputSettings) : List (String × Value) :=
  [("quality", o.quality), ("embed_profile", o.embedProfile),
    ("ignore_embedded", o.ignoreEmbedded), ("save_embedded", o.saveEmbedded)]

/-- The names of the settings. -/
def names : List String := ["quality", "embed_profile", "ignore_embedded", "save_embedded"]

/-- What the section holds. -/
def entries (o : OutputSettings) : List (Value × Value) :=
  Section.content o.fields o.content

/-- The settings from what their section holds. -/
def ofEntries (held : List (Value × Value)) : OutputSettings :=
  let fixed : OutputSettings := {}
  { quality := Value.setting held "quality" fixed.quality
    embedProfile := Value.setting held "embed_profile" fixed.embedProfile
    ignoreEmbedded := Value.setting held "ignore_embedded" fixed.ignoreEmbedded
    saveEmbedded := (Value.setting held "save_embedded" fixed.saveEmbedded).asPath
    content := Section.contentOf names held }

end OutputSettings

namespace LoggingSettings

/-- The settings by name. -/
def fields (l : LoggingSettings) : List (String × Value) :=
  [("level", l.level), ("file", l.file), ("console", l.console)]

/-- The names of the settings. -/
def names : List String := ["level", "file", "console"]

/-- What the section holds. -/
def entries (l : LoggingSettings) : List (Value × Value) :=
  Section.content l.fields l.content

/-- The settings from what their section holds. -/
def ofEntries (held : List (Value × Value)) : LoggingSettings :=
  let fixed : LoggingSettings := {}
  { level := Value.setting held "level" fixed.level
    file := (Value.setting held "file" fixed.file).asPath
    console := Value.setting held "console" fixed.console
    content := Section.contentOf names held }

end LoggingSettings

namespace Config

/-- What a section holds once a configuration of it was read. -/
def readSection (v : Value) (name : String) (fixed : List String) (held : List (Value × Value)) :
    Except Fault (List (Value × Value)) :=
  match v.section? name with
  | .error f => .error f
  | .ok entries => Section.giveAll fixed held entries

/-- The configuration a value describes, over one of defaults. -/
def ofValue (d : Config) (v : Value) : Except Fault Config := do
  let profiles ← readSection v "profiles" ProfileSettings.fixedNames d.profiles.entries
  let rendering ← readSection v "rendering" RenderingSettings.names d.rendering.entries
  let output ← readSection v "output" OutputSettings.names d.output.entries
  let logging ← readSection v "logging" LoggingSettings.names d.logging.entries
  let profiles ← ProfileSettings.ofEntries profiles
  return { profiles
           rendering := .ofEntries rendering
           output := .ofEntries output
           logging := .ofEntries logging }

/-- What the sections of a configuration hold. -/
def sections (c : Config) : List (String × List (Value × Value)) :=
  [("profiles", c.profiles.entries), ("rendering", c.rendering.entries),
    ("output", c.output.entries), ("logging", c.logging.entries)]

/-- What a section holds as a mapping in which paths are text. -/
def written (held : List (Value × Value)) : Value :=
  .map (held.map fun (key, v) => (key, v.pathText))

/-- The profile section as a mapping in which paths are text. -/
def writtenProfiles (p : ProfileSettings) : Value :=
  .map (Value.insert (.text "search_dirs") (.list (p.folders.map fun dir => .text dir.toString))
    (p.entries.map fun (key, v) => (key, v.pathText)))

/-- The configuration as a mapping of sections. -/
def toValue (c : Config) : Value :=
  .map [(.text "profiles", writtenProfiles c.profiles),
    (.text "rendering", written c.rendering.entries),
    (.text "output", written c.output.entries),
    (.text "logging", written c.logging.entries)]

end Config

end Recolor
