import Recolor.Config.Settings

/-!
# Logging

A logger passes records from its level on to its handlers. Configuring it sets the
level, takes away the handlers that the configuration before installed, and installs new
ones: one for the console and one that adds to a file. Handlers that others attached
stay where they are.

Two handlers can be alike in all that they do, so handlers are numbered by those who make
them. A logger has no handler twice.

A configuration can fail half way, for instance if the log file cannot be opened; what
was done until then stands.
-/

set_option autoImplicit false

namespace Recolor

/-- Where a handler takes records. -/
inductive HandlerTarget where
  | console
  | file (path : Path)
  /-- Somewhere a configuration knows nothing of. -/
  | other (name : String)
  deriving DecidableEq, Repr, Inhabited

/-- A handler of log records. -/
structure Handler where
  target : HandlerTarget
  level : Nat
  /-- Whether a configuration installed it. -/
  isManaged : Bool := true
  /-- Which one it is of the handlers of those who made it. -/
  number : Nat := 0
  deriving DecidableEq, Repr, Inhabited

/-- A logger. -/
structure Logger where
  level : Nat := 40
  handlers : List Handler := []
  /-- The handlers that were closed. -/
  closed : List Handler := []
  /-- How many handlers configurations made. -/
  made : Nat := 0
  deriving DecidableEq, Repr, Inhabited

namespace LogLevel

/-- The level of debugging records. -/
def debug : Nat := 10

/-- The level where none is named. -/
def warning : Nat := 30

/-- The levels by name. -/
def byName : List (String × Nat) :=
  [("CRITICAL", 50), ("FATAL", 50), ("ERROR", 40), ("WARNING", 30), ("WARN", 30), ("INFO", 20),
    ("DEBUG", 10), ("NOTSET", 0)]

/-- The capitals of a letter as far as names of levels have them. Some letters besides the
plain ones have a plain capital. -/
def capital (c : Char) : List Char :=
  if c == '\u0131' then ['I']
  else if c == '\u017F' then ['S']
  else if c == '\uFB05' || c == '\uFB06' then ['S', 'T']
  else [c.toUpper]

/-- A name in capitals. -/
def inCapitals (s : String) : String :=
  String.ofList (s.toList.flatMap capital)

/-- The level that a configured value names, in any letter case. Two reserved names are
refused, as are values without a text; what names no level leaves the standard one. -/
def ofValue (v : Value) : Except Fault Nat :=
  let name := inCapitals v.plain
  match byName.lookup name with
  | some n => .ok n
  | none =>
    if !v.isShowable then .error (.raised .value "an integer has too many digits")
    else if name == "BASIC_FORMAT" then .error (.badLevel false)
    else if name == "_STYLES" then .error (.badLevel true)
    else .ok warning

end LogLevel

namespace Logger

/-- The logger with one more handler, unless it has the handler already. -/
def attach (l : Logger) (h : Handler) : Logger :=
  if h ∈ l.handlers then l else { l with handlers := l.handlers ++ [h] }

/-- The logger without a handler, which is closed. -/
def detach (l : Logger) (h : Handler) : Logger :=
  { l with handlers := l.handlers.erase h, closed := l.closed ++ [h] }

/-- The logger without a handler if a configuration installed it. -/
def detachManaged (l : Logger) (h : Handler) : Logger :=
  if h.isManaged then l.detach h else l

/-- The logger without the handlers that configurations installed. The handlers that it had in
the beginning are gone through in order. -/
def release (l : Logger) : Logger :=
  l.handlers.foldl detachManaged l

/-- A new handler of the logger's level. -/
def newHandler (l : Logger) (target : HandlerTarget) : Handler :=
  { target, level := l.level, number := l.made }

/-- The logger with a new handler of its own level. -/
def install (l : Logger) (target : HandlerTarget) : Logger :=
  { l with made := l.made + 1 }.attach (l.newHandler target)

/-- The level that is asked for. -/
def levelAsked (c : LoggingSettings) (verbose : Bool) : Except Fault Nat :=
  if verbose then .ok LogLevel.debug else LogLevel.ofValue c.level

/-- Makes sure that records can be added to a file. -/
def openFile (p : Path) : Work Unit := do
  Work.changeFiles p.parent FileTree.makeFolders
  Work.changeFiles p FileTree.openForAppending

/-- The logger with the handlers that a configuration asks for besides one for a file. -/
def withConsole (l : Logger) (c : LoggingSettings) : Logger :=
  if c.console.isSet then l.install .console else l

/-- Attaches the handler for a file if a configuration names one. -/
def attachFile (l : Logger) (c : LoggingSettings) : Work (Except Failure Unit × Logger) :=
  if c.file.isSet then
    match c.file with
    | .path p => do
      match ← Work.outcome (openFile p) with
      | .error e => return (.error e, l)
      | .ok () => return (.ok (), l.install (.file p))
    | v => return (.error (Fault.raised .attribute (v.shown ++ " is no path")), l)
  else return (.ok (), l)

/-- Sets the level and installs the handlers that a configuration asks for. -/
def configure (l : Logger) (c : LoggingSettings) (verbose : Bool := false) :
    Work (Except Failure Unit × Logger) :=
  match levelAsked c verbose with
  | .error f => return (.error f, l)
  | .ok level => (({ l with level }.release).withConsole c).attachFile c

end Logger

end Recolor
