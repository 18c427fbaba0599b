import Mathlib.Data.List.Induction
import Recolor.Cms.Arithmetic
import Recolor.Proofs.Files.Tree
import Recolor.Proofs.Logging.Handlers
import Recolor.Proofs.Work.Runs

/-!
# Configuring a logger again and again

A logger is configured any number of times, each time in another world, and in between others attach
handlers of theirs. A configuration that comes to its end leaves the handlers of others in their
order and its own behind them, and all that configurations installed before are closed
(`settled_after`). Configurations before it may have failed half way.
-/

set_option autoImplicit false

namespace Recolor.Logger

variable {l l' : Logger} {c : LoggingSettings} {verbose : Bool}

/-- Where the handler for the file takes records that a value names, if it names one. -/
def fileTargets : Value → List HandlerTarget
  | .path p => [.file p]
  | _ => []

/-- Where the handlers of a configuration take records. -/
def targets (c : LoggingSettings) : List HandlerTarget :=
  (if c.console.isSet then [.console] else []) ++ fileTargets c.file

/-! ## One configuration -/

/-- The handler for the console is installed exactly if the console is asked for. -/
theorem withConsole_eq (l : Logger) (c : LoggingSettings) :
    l.withConsole c
      = (if c.console.isSet then [HandlerTarget.console] else []).foldl Logger.install l := by
  unfold withConsole
  split <;> rfl

/-- Where a path is set, its file is opened first, and the handler is installed only if that
succeeds. -/
theorem run_attachFile_path {p : Path} (hfile : c.file = .path p) (s : Services) (w : World) :
    (l.attachFile c).run s w = match (openFile p).run s w with
      | (.error e, w') => (.ok (.error e, l), w')
      | (.ok (), w') => (.ok (.ok (), l.install (.file p)), w') := by
  have hset : c.file.isSet = true := by
    rw [hfile]
    rfl
  unfold attachFile
  rw [if_pos hset, hfile]
  simp only [Work.run_bind, Work.run_outcome]
  cases (openFile p).run s w with
  | mk opened w' => cases opened <;> rfl

/-- Where something is set that is no path, the logger stays as it is and the configuration
fails. -/
theorem run_attachFile_other (hset : c.file.isSet = true) (hother : ∀ p, c.file ≠ .path p)
    (s : Services) (w : World) : ∃ e, (l.attachFile c).run s w = (.ok (.error e, l), w) := by
  unfold attachFile
  rw [if_pos hset]
  split
  · rename_i p hfile
    exact absurd hfile (hother p)
  · exact ⟨_, rfl⟩

/-- Configuring ends with the handler for a file, or in front of it. -/
theorem attachFile_cases {r : Except Failure Unit} {s : Services} {w w' : World}
    (hrun : (l.attachFile c).run s w = (.ok (r, l'), w')) :
    (c.file.isSet = false ∧ l' = l) ∨ (∃ p, c.file = .path p ∧ l' = l.install (.file p))
      ∨ (∃ e, r = .error e) ∧ l' = l := by
  cases hset : c.file.isSet with
  | false =>
    rw [attachFile, if_neg (by simp [hset])] at hrun
    cases hrun
    exact .inl ⟨rfl, rfl⟩
  | true =>
    right
    by_cases hpath : ∃ p, c.file = .path p
    · obtain ⟨p, hfile⟩ := hpath
      rw [run_attachFile_path hfile] at hrun
      split at hrun
      · cases hrun
        exact .inr ⟨⟨_, rfl⟩, rfl⟩
      · cases hrun
        exact .inl ⟨p, hfile, rfl⟩
    · obtain ⟨e, he⟩ := run_attachFile_other (l := l) hset (not_exists.mp hpath) s w
      rw [he] at hrun
      cases hrun
      exact .inr ⟨⟨e, rfl⟩, rfl⟩

/-- Where nothing is set there is no handler for a file. -/
theorem fileTargets_of_unset {v : Value} (h : v.isSet = false) :
    fileTargets v = [] ∧ ∀ p, v ≠ .path p := by
  cases v with
  | path p => cases h
  | _ => exact ⟨rfl, fun p hp => by cases hp⟩

/-- All that configuring can do to a logger: nothing if no level is found, and else set the level,
take away the handlers of configurations and install some of those that are asked for. -/
theorem configure_cases {r : Except Failure Unit} {s : Services} {w w' : World}
    (hrun : (l.configure c verbose).run s w = (.ok (r, l'), w')) :
    ((∃ e, r = .error e) ∧ l' = l)
      ∨ ∃ level added, levelAsked c verbose = .ok level
        ∧ l' = added.foldl Logger.install { l with level }.release
        ∧ (r = .ok () → added = targets c ∧ (c.file.isSet = true ↔ ∃ p, c.file = .path p)) := by
  unfold configure at hrun
  -- the level is found before anything is taken away, the file opened after all else is done
  cases hlevel : levelAsked c verbose with
  | error f =>
    rw [hlevel] at hrun
    cases hrun
    exact .inl ⟨⟨_, rfl⟩, rfl⟩
  | ok level =>
    rw [hlevel] at hrun
    right
    rcases attachFile_cases hrun with ⟨hunset, rfl⟩ | ⟨p, hfile, rfl⟩ | ⟨⟨e, rfl⟩, rfl⟩
    · obtain ⟨hnone, hnopath⟩ := fileTargets_of_unset hunset
      refine ⟨level, targets c, rfl, ?_, fun _ => ⟨rfl, ?_⟩⟩
      · rw [withConsole_eq, targets, hnone, List.append_nil]
      · simp [hunset, hnopath]
    · refine ⟨level, targets c, rfl, ?_, fun _ => ⟨rfl, ?_⟩⟩
      · rw [withConsole_eq, targets, hfile, List.foldl_append]
        rfl
      · rw [hfile]
        exact ⟨fun _ => ⟨p, rfl⟩, fun _ => rfl⟩
    · refine ⟨level, _, rfl, withConsole_eq _ c, fun hok => ?_⟩
      cases hok

/-! ## Any number of them -/

/-- Something that is done to a logger. -/
inductive Use where
  /-- Others attach a handler of theirs. -/
  | attached (h : Handler) (hforeign : h.isManaged = false)
  /-- The logger is configured. -/
  | configured (c : LoggingSettings) (verbose : Bool) (services : Services) (world : World)

/-- A logger after something was done to it, whatever came of it. -/
def perform (l : Logger) : Use → Logger
  | .attached h _ => l.attach h
  | .configured c verbose services world =>
    -- a failure is handed on beside the logger, so that it shows in the second case
    match ((l.configure c verbose).run services world).1 with
    | .error _ => l
    | .ok (_, l') => l'

/-- A logger after things were done to it in order. -/
def after (l : Logger) (uses : List Use) : Logger :=
  uses.foldl perform l

/-- The handler of others that is attached. -/
def Use.handler? : Use → Option Handler
  | .attached h _ => some h
  | .configured .. => none

/-- The handlers that others attached, each once, in the order in which they came. -/
def attachedBy (uses : List Use) : List Handler :=
  (uses.filterMap Use.handler?).eraseDups

/-- The last use is made of the logger that those before it left. -/
theorem after_concat (l : Logger) (uses : List Use) (u : Use) :
    l.after (uses ++ [u]) = (l.after uses).perform u := by
  simp [after]

/-- Further uses are made of the logger that the first ones left. -/
theorem after_append (l : Logger) (past rest : List Use) :
    l.after (past ++ rest) = (l.after past).after rest := by
  simp [after]

/-- A configuration does nothing or renews the handlers, also if it fails. -/
theorem perform_configured_cases (hl : l.IsSound) (s : Services) (w : World) :
    l.perform (.configured c verbose s w) = l
      ∨ ∃ level added, Renewed level added l (l.perform (.configured c verbose s w)) := by
  simp only [perform]
  cases hrun : (l.configure c verbose).run s w with
  | mk result w' =>
    cases result with
    | error e => exact .inl rfl
    | ok outcome =>
      obtain ⟨r, l'⟩ := outcome
      rcases configure_cases hrun with ⟨-, rfl⟩ | ⟨level, added, -, rfl, -⟩
      · exact .inl rfl
      · exact .inr ⟨level, added, hl.renewed level added⟩

/-- Each use keeps a logger sound, whether it fails or not. -/
theorem IsSound.perform (hl : l.IsSound) (u : Use) : (l.perform u).IsSound := by
  cases u with
  | attached h hforeign => exact hl.attach hforeign
  | configured c verbose s w =>
    rcases perform_configured_cases hl s w with hsame | ⟨level, added, hrenewed⟩
    · rwa [hsame]
    · exact hrenewed.isSound

/-- Nothing that is done makes a handler of a configuration disappear without being closed. -/
theorem IsSound.installed_perform (hl : l.IsSound) (u : Use) :
    l.installed <+: (l.perform u).installed := by
  cases u with
  | attached h hforeign =>
    exact (installed_attach hforeign).symm ▸ List.prefix_refl l.installed
  | configured c verbose s w =>
    rcases perform_configured_cases hl s w with hsame | ⟨level, added, hrenewed⟩
    · exact ⟨[], by rw [hsame, List.append_nil]⟩
    · rw [Logger.installed, Logger.installed, hrenewed.closed]
      exact List.prefix_append _ _

/-- Any sequence of uses keeps a logger sound. -/
theorem IsSound.after (hl : l.IsSound) (uses : List Use) : (l.after uses).IsSound := by
  induction uses using List.reverseRecOn with
  | nil => exact hl
  | append_singleton uses u ih =>
    rw [after_concat]
    exact ih.perform u

/-- What was installed stays known to the logger, in its order, whatever is done to it. -/
theorem IsSound.installed_after (hl : l.IsSound) (uses : List Use) :
    l.installed <+: (l.after uses).installed := by
  induction uses using List.reverseRecOn with
  | nil => exact List.prefix_refl _
  | append_singleton uses u ih =>
    rw [after_concat]
    exact ih.trans ((hl.after uses).installed_perform u)

/-- A handler that others attach is the last one unless it came before. -/
theorem attachedBy_concat_attached (uses : List Use) {h : Handler} (hforeign : h.isManaged = false) :
    attachedBy (uses ++ [.attached h hforeign])
      = if h ∈ attachedBy uses then attachedBy uses else attachedBy uses ++ [h] := by
  have hlast : (uses ++ [Use.attached h hforeign]).filterMap Use.handler?
      = uses.filterMap Use.handler? ++ [h] := List.filterMap_append
  rw [attachedBy, hlast, List.eraseDups_append, List.cons_removeAll, List.nil_removeAll]
  -- the test looks at the handlers that came before without those that came again
  simp only [attachedBy, List.mem_eraseDups]
  by_cases hmem : h ∈ uses.filterMap Use.handler?
  · rw [if_pos hmem, if_neg (by simpa using hmem)]
    exact List.append_nil _
  · rw [if_neg hmem, if_pos (by simpa using hmem)]
    rfl

/-- A configuration attaches no handler of others. -/
theorem attachedBy_concat_configured (uses : List Use) (s : Services) (w : World) :
    attachedBy (uses ++ [.configured c verbose s w]) = attachedBy uses := by
  have hlast : (uses ++ [Use.configured c verbose s w]).filterMap Use.handler?
      = uses.filterMap Use.handler? ++ [] := List.filterMap_append
  rw [attachedBy, hlast, List.append_nil, attachedBy]

/-- On a logger without handlers of others there are, after any uses, just those that others
attached. -/
theorem IsSound.foreign_after (hl : l.IsSound) (hnone : l.foreign = []) (uses : List Use) :
    (l.after uses).foreign = attachedBy uses := by
  induction uses using List.reverseRecOn with
  | nil => exact hnone
  | append_singleton uses u ih =>
    rw [after_concat]
    cases u with
    | attached h hforeign =>
      rw [attachedBy_concat_attached, ← ih]
      exact foreign_attach hforeign
    | configured c verbose s w =>
      rw [attachedBy_concat_configured, ← ih]
      rcases perform_configured_cases (hl.after uses) s w with hsame | ⟨level, added, hrenewed⟩
      · rw [hsame]
      · exact hrenewed.foreign

/-- What a configuration that comes to its end leaves: the level that it asks for, the handlers of
others, and behind them one handler of that level for each of its targets. What was closed was
installed by configurations and is attached no more. -/
structure IsSettled (c : LoggingSettings) (verbose : Bool) (others : List Handler) (l : Logger) :
    Prop where
  level : levelAsked c verbose = .ok l.level
  handlers : l.handlers = others ++ l.managed
  targets : l.managed.map Handler.target = targets c
  namesFile : c.file.isSet = true ↔ ∃ p, c.file = .path p
  levels : ∀ h ∈ l.managed, h.level = l.level
  closed : ∀ h ∈ l.closed, h.isManaged = true ∧ h ∉ l.handlers

/-- A new logger is sound. -/
theorem isSound_fresh (level : ℕ) : ({ level } : Logger).IsSound :=
  ⟨rfl, by simp⟩

/-- Whatever was done to a logger before, a configuration that comes to its end settles it, and
every handler that a configuration had installed until any moment before is closed and gone. -/
theorem settled_after (level : ℕ) (past rest : List Use) {s : Services} {w w' : World}
    (hcall : ((({ level } : Logger).after (past ++ rest)).configure c verbose).run s w
      = (.ok (.ok (), l'), w')) :
    l'.IsSettled c verbose (attachedBy (past ++ rest))
      ∧ ∀ h ∈ (({ level } : Logger).after past).managed, h ∈ l'.closed ∧ h ∉ l'.handlers := by
  have hpast := (isSound_fresh level).after past
  have hsound := (isSound_fresh level).after (past ++ rest)
  have hforeign := (isSound_fresh level).foreign_after rfl (past ++ rest)
  obtain ⟨⟨e, he⟩, -⟩ | ⟨asked, added, hasked, rfl, hended⟩ := configure_cases hcall
  · cases he
  · obtain ⟨rfl, hfile⟩ := hended rfl
    have hnew := hsound.renewed asked (targets c)
    refine ⟨⟨?_, ?_, hnew.targets, hfile, ?_, fun h hclosed => ⟨?_, ?_⟩⟩, fun h hmem => ?_⟩
    · rw [hnew.level, hasked]
    · rw [← hforeign]
      exact hnew.handlers
    · rw [hnew.level]
      exact hnew.levels
    · exact hnew.isSound.isManaged_of_closed h hclosed
    · exact hnew.isSound.not_mem_handlers hclosed
    · -- nothing that was installed in the past is lost until the call, which closes it
      have hinstalled : h ∈ (({ level } : Logger).after (past ++ rest)).installed := by
        rw [after_append]
        exact (hpast.installed_after rest).subset (List.mem_append_right _ hmem)
      have hclosed := hnew.closed ▸ hinstalled
      exact ⟨hclosed, hnew.isSound.not_mem_handlers hclosed⟩

/-- A file in the working folder. -/
def logPath : Path := { parts := ["app.log"] }

/-- A handler of others, for what is of interest. -/
def tap : Handler := { target := .other "tap", level := 20, isManaged := false }

/-- A handler of others, for errors. -/
def mail : Handler := { target := .other "mail", level := 40, isManaged := false }

/-- The console and a file are asked for. -/
def toConsoleAndFile : LoggingSettings := { level := .text "Info", file := .path logPath }

/-- A text is set in the place of a path. -/
def toText : LoggingSettings := { file := .text "app.log" }

/-- The console is asked for. -/
def toConsole : LoggingSettings := { level := .text "error" }

/-- An engine and a codec that nothing is asked of. -/
def idleServices : Services :=
  { engine := ArithmeticEngine.engine, codec := Codec.ofPictures [] none }

/-- A handler is attached, and the console and a file are configured. -/
def firstUses : List Use :=
  [.attached tap rfl, .configured toConsoleAndFile false idleServices {}]

/-- A handler is attached again, and a configuration fails. -/
def nextUses : List Use :=
  [.attached mail rfl, .attached tap rfl, .configured toText false idleServices {}]

/-- The handler of the console, by its level and its place among those that were made. -/
def consoleHandler (level number : ℕ) : Handler := { target := .console, level, number }

/-- The handler of that file, by its level and its place among those that were made. -/
def fileHandler (level number : ℕ) : Handler := { target := .file logPath, level, number }

/-- The file in the working folder can be opened. -/
theorem exists_openFile_log : ∃ w, (openFile logPath).run idleServices {} = (.ok (), w) := by
  have hname : FileTree.IsPlain "app.log" := by decide +kernel
  have hplace : FileTree.place {} logPath = .ok ["app.log"] := FileTree.place_name hname {}
  have hhere : FileTree.checkText {} = .ok () := by
    refine FileTree.checkText_ok ?_ ?_ ?_ <;> decide +kernel
  have hfolders : (Work.changeFiles logPath.parent FileTree.makeFolders).run idleServices {}
      = (.ok (), {}) := by
    have hparent : logPath.parent = {} := rfl
    simp [hparent, Work.changeFiles, Work.run, FileTree.makeFolders, FileTree.makeFolder,
      FileTree.place, hhere, FileTree.walk, FileTree.at?, FileTree.isAbove]
  have hopen : FileTree.openForAppending {} logPath
      = .ok { nodes := [(["app.log"], .file [])] } := by
    simp only [FileTree.openForAppending, FileTree.writable, hplace]
    rfl
  refine ⟨{ files := { nodes := [(["app.log"], .file [])] } }, ?_⟩
  rw [openFile, Work.run_bind_of_ok hfolders]
  simp only [Work.changeFiles, Work.run, hopen]

/-- After the first uses there are the handler of others, one for the console and one for the
file. -/
theorem after_firstUses : ({ level := 0 } : Logger).after firstUses
    = { level := 20, handlers := [tap, consoleHandler 20 0, fileHandler 20 1], made := 2 } := by
  obtain ⟨w, hopen⟩ := exists_openFile_log
  have hlevel : levelAsked toConsoleAndFile false = .ok 20 := rfl
  simp only [after, firstUses, List.foldl_cons, List.foldl_nil, perform, configure, hlevel,
    run_attachFile_path (c := toConsoleAndFile) rfl, hopen]
  decide

/-- The next uses close both handlers of the configuration, and one that fails leaves a new handler
for the console only. -/
theorem after_nextUses : ({ level := 0 } : Logger).after (firstUses ++ nextUses)
    = { level := 30
        handlers := [tap, mail, consoleHandler 30 2]
        closed := [consoleHandler 20 0, fileHandler 20 1]
        made := 3 } := by
  have hlevel : levelAsked toText false = .ok 30 := rfl
  rw [after_append, after_firstUses]
  simp only [after, nextUses, List.foldl_cons, List.foldl_nil, perform, configure, hlevel]
  decide

/-- A logger with two handlers of others, one of which was attached twice, after a configuration, one
that failed and another one. -/
def settledLogger : Logger :=
  { level := 10
    handlers := [tap, mail, consoleHandler 10 3]
    closed := [consoleHandler 20 0, fileHandler 20 1, consoleHandler 30 2]
    made := 4 }

/-- After a configuration that failed the next one leaves the handlers of others and one handler of
its own; the handler for the file that was attached once is closed. -/
theorem settled_after_failed :
    ((({ level := 0 } : Logger).after (firstUses ++ nextUses)).configure toConsole true).run
        idleServices {} = (.ok (.ok (), settledLogger), {})
      ∧ settledLogger.IsSettled toConsole true (attachedBy (firstUses ++ nextUses))
      ∧ fileHandler 20 1 ∈ (({ level := 0 } : Logger).after firstUses).managed
      ∧ fileHandler 20 1 ∈ settledLogger.closed ∧ fileHandler 20 1 ∉ settledLogger.handlers := by
  have hcall : ((({ level := 0 } : Logger).after (firstUses ++ nextUses)).configure toConsole
      true).run idleServices {} = (.ok (.ok (), settledLogger), {}) := by
    rw [after_nextUses]
    rfl
  have hmanaged : fileHandler 20 1 ∈ (({ level := 0 } : Logger).after firstUses).managed := by
    rw [after_firstUses]
    decide
  obtain ⟨hsettled, hclosed⟩ := settled_after 0 firstUses nextUses hcall
  exact ⟨hcall, hsettled, hmanaged, hclosed _ hmanaged⟩

end Recolor.Logger
