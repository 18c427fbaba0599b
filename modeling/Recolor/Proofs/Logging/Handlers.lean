import Mathlib.Data.List.Nodup
import Recolor.Logging

/-!
# The handlers of a logger

The handlers of configurations are taken away one by one while the list of handlers grows shorter;
in the end exactly those of others are left, in their order (`release_eq`). The handlers that
configurations made are told apart by their numbers, and each of them was either closed or is still
attached (`IsSound`), so that a new one is really added.
-/

set_option autoImplicit false

namespace Recolor.Logger

variable {l : Logger} {h : Handler}

/-- The attached handlers that configurations installed. -/
def managed (l : Logger) : List Handler :=
  l.handlers.filter fun h => h.isManaged

/-- The attached handlers of others. -/
def foreign (l : Logger) : List Handler :=
  l.handlers.filter fun h => !h.isManaged

/-- All handlers that configurations ever installed, those that were closed first. -/
def installed (l : Logger) : List Handler :=
  l.closed ++ l.managed

/-! ## Taking handlers away -/

/-- Going through the handlers takes those away that configurations installed, closes them in order,
and keeps the others. -/
theorem foldl_detachManaged {kept rest : List Handler} (hhandlers : l.handlers = kept ++ rest)
    (hkept : ∀ h ∈ kept, h.isManaged = false) :
    rest.foldl detachManaged l
      = { l with
          handlers := kept ++ rest.filter fun h => !h.isManaged
          closed := l.closed ++ rest.filter fun h => h.isManaged } := by
  -- what is still to be gone through stands behind what stays, so that a handler that is taken
  -- away is not sought among the handlers of others
  induction rest generalizing l kept with
  | nil =>
    rw [List.append_nil] at hhandlers
    subst hhandlers
    simp
  | cons h rest ih =>
    rw [List.foldl_cons]
    cases hmanaged : h.isManaged with
    | true =>
      have hnot : h ∉ kept := by
        intro hmem
        rw [hkept h hmem] at hmanaged
        cases hmanaged
      have hdetached : l.detachManaged h
          = { l with handlers := kept ++ rest, closed := l.closed ++ [h] } := by
        rw [detachManaged, if_pos hmanaged, detach, hhandlers, List.erase_append_right _ hnot,
          List.erase_cons_head]
      rw [hdetached, ih rfl hkept]
      simp [hmanaged]
    | false =>
      have hkept' : ∀ h' ∈ kept ++ [h], h'.isManaged = false := by
        intro h' hmem
        rcases List.mem_append.mp hmem with hmem | hmem
        · exact hkept h' hmem
        · rw [List.mem_singleton.mp hmem, hmanaged]
      have hstays : l.detachManaged h = l := by simp [detachManaged, hmanaged]
      rw [hstays, ih (by simp [hhandlers]) hkept']
      simp [hmanaged]

/-- Exactly the handlers of others stay, and the others are closed. -/
theorem release_eq (l : Logger) :
    l.release = { l with handlers := l.foreign, closed := l.installed } :=
  foldl_detachManaged (List.nil_append l.handlers).symm (by simp)

/-! ## Attaching handlers -/

/-- A handler that is there already is not attached again. -/
theorem attach_of_mem (hmem : h ∈ l.handlers) : l.attach h = l :=
  if_pos hmem

/-- A handler that is not there is attached behind the others. -/
theorem attach_of_not_mem (hmem : h ∉ l.handlers) :
    l.attach h = { l with handlers := l.handlers ++ [h] } :=
  if_neg hmem

/-- Attaching a handler makes no new one. -/
theorem made_attach (l : Logger) (h : Handler) : (l.attach h).made = l.made := by
  unfold attach
  split <;> rfl

/-- Attaching a handler closes none. -/
theorem closed_attach (l : Logger) (h : Handler) : (l.attach h).closed = l.closed := by
  unfold attach
  split <;> rfl

/-- A handler of others comes behind the others' handlers, unless it is among them. -/
theorem foreign_attach (hforeign : h.isManaged = false) :
    (l.attach h).foreign = if h ∈ l.foreign then l.foreign else l.foreign ++ [h] := by
  have hmem : h ∈ l.foreign ↔ h ∈ l.handlers := by simp [foreign, hforeign]
  simp only [hmem]
  split
  · rename_i hthere
    rw [attach_of_mem hthere]
  · rename_i hnot
    simp [attach_of_not_mem hnot, foreign, hforeign]

/-- Attaching a handler of others leaves those that configurations installed. -/
theorem installed_attach (hforeign : h.isManaged = false) :
    (l.attach h).installed = l.installed := by
  by_cases hmem : h ∈ l.handlers
  · rw [attach_of_mem hmem]
  · simp [attach_of_not_mem hmem, installed, managed, hforeign]

/-- Each handler that a configuration made has a number of its own, and was closed or is still
attached. -/
structure IsSound (l : Logger) : Prop where
  numbers : l.installed.map Handler.number = List.range l.made
  isManaged_of_closed : ∀ h ∈ l.closed, h.isManaged = true

namespace IsSound

/-- The numbers of installed handlers are below the next free one. -/
theorem number_lt (hl : l.IsSound) (hh : h ∈ l.installed) : h.number < l.made := by
  have hmem := List.mem_map_of_mem (f := Handler.number) hh
  rw [hl.numbers] at hmem
  exact List.mem_range.mp hmem

/-- No handler is installed twice. -/
theorem nodup_installed (hl : l.IsSound) : l.installed.Nodup :=
  List.Nodup.of_map Handler.number (hl.numbers ▸ List.nodup_range)

/-- A handler that was closed is attached no more. -/
theorem not_mem_handlers (hl : l.IsSound) (hclosed : h ∈ l.closed) : h ∉ l.handlers := by
  intro hmem
  have hmanaged : h ∈ l.managed :=
    List.mem_filter.mpr ⟨hmem, hl.isManaged_of_closed h hclosed⟩
  exact List.disjoint_of_nodup_append hl.nodup_installed hclosed hmanaged

/-- A new handler is not attached yet. -/
theorem newHandler_not_mem (hl : l.IsSound) (target : HandlerTarget) :
    l.newHandler target ∉ l.handlers := by
  -- it would be an installed one, and these have smaller numbers
  intro hmem
  have hmanaged : l.newHandler target ∈ l.managed := List.mem_filter.mpr ⟨hmem, rfl⟩
  have hlt := hl.number_lt (List.mem_append_right l.closed hmanaged)
  exact Nat.lt_irrefl _ hlt

/-- Installing a handler attaches a new one behind the others. -/
theorem install_eq (hl : l.IsSound) (target : HandlerTarget) :
    l.install target
      = { l with handlers := l.handlers ++ [l.newHandler target], made := l.made + 1 } :=
  attach_of_not_mem (l := { l with made := l.made + 1 }) (hl.newHandler_not_mem target)

/-- Installing a handler keeps a logger sound. -/
theorem install (hl : l.IsSound) (target : HandlerTarget) : (l.install target).IsSound := by
  have hinstalled : (l.install target).installed = l.installed ++ [l.newHandler target] := by
    simp [hl.install_eq, installed, managed, newHandler]
  refine ⟨?_, ?_⟩
  · rw [hinstalled, List.map_append, hl.numbers, hl.install_eq]
    exact List.range_succ.symm
  · rw [hl.install_eq]
    exact hl.isManaged_of_closed

/-- Attaching a handler of others keeps a logger sound. -/
theorem attach (hl : l.IsSound) (hforeign : h.isManaged = false) : (l.attach h).IsSound := by
  refine ⟨?_, ?_⟩
  · rw [installed_attach hforeign, hl.numbers, made_attach]
  · rw [closed_attach]
    exact hl.isManaged_of_closed

/-- Taking away what configurations installed keeps a logger sound, at any level. -/
theorem release (hl : l.IsSound) (level : ℕ) : ({ l with level }.release : Logger).IsSound := by
  have hmanaged : ({ l with level }.release : Logger).managed = [] := by
    simp [release_eq, managed, foreign]
  refine ⟨?_, ?_⟩
  · rw [installed, hmanaged, List.append_nil, release_eq]
    exact hl.numbers
  · intro h hclosed
    rw [release_eq] at hclosed
    rcases List.mem_append.mp hclosed with hclosed | hmem
    · exact hl.isManaged_of_closed h hclosed
    · exact (List.mem_filter.mp hmem).2

end IsSound

/-! ## Installing handlers -/

/-- What installing handlers for some targets makes of a logger. -/
structure Installs (added : List HandlerTarget) (l l' : Logger) : Prop where
  level : l'.level = l.level
  closed : l'.closed = l.closed
  isSound : l'.IsSound
  handlers : ∃ new, l'.handlers = l.handlers ++ new ∧ new.map Handler.target = added
    ∧ ∀ h ∈ new, h.isManaged = true ∧ h.level = l.level

/-- Installing handlers one after another attaches a new one for each target, in order. -/
theorem IsSound.installs (hl : l.IsSound) (added : List HandlerTarget) :
    Installs added l (added.foldl Logger.install l) := by
  induction added generalizing l with
  | nil => exact ⟨rfl, rfl, hl, [], (List.append_nil _).symm, rfl, by simp⟩
  | cons target added ih =>
    have hrest := ih (hl.install target)
    obtain ⟨new, hhandlers, htargets, hnew⟩ := hrest.handlers
    rw [hl.install_eq] at hhandlers hnew
    refine ⟨?_, ?_, hrest.isSound, l.newHandler target :: new, ?_, ?_, ?_⟩
    · rw [List.foldl_cons, hrest.level, hl.install_eq]
    · rw [List.foldl_cons, hrest.closed, hl.install_eq]
    · rw [List.foldl_cons, hl.install_eq, hhandlers, List.append_assoc]
      rfl
    · rw [List.map_cons, htargets]
      rfl
    · intro h hmem
      rcases List.mem_cons.mp hmem with rfl | hmem
      · exact ⟨rfl, rfl⟩
      · exact hnew h hmem

/-- A logger of a level whose managed handlers are new ones for some targets. All that were
installed before are closed, and the handlers of others are as they were. -/
structure Renewed (asked : ℕ) (added : List HandlerTarget) (l l' : Logger) : Prop where
  isSound : l'.IsSound
  level : l'.level = asked
  closed : l'.closed = l.installed
  foreign : l'.foreign = l.foreign
  handlers : l'.handlers = l.foreign ++ l'.managed
  targets : l'.managed.map Handler.target = added
  levels : ∀ h ∈ l'.managed, h.level = asked

/-- Taking away what was installed and installing for new targets renews the logger. -/
theorem IsSound.renewed (hl : l.IsSound) (level : ℕ) (added : List HandlerTarget) :
    Renewed level added l (added.foldl Logger.install { l with level }.release) := by
  have hinstalls := (hl.release level).installs added
  generalize added.foldl Logger.install { l with level }.release = l' at hinstalls
  obtain ⟨new, hhandlers, htargets, hnew⟩ := hinstalls.handlers
  have hlevel := hinstalls.level
  have hclosed := hinstalls.closed
  rw [release_eq] at hhandlers hnew hlevel hclosed
  have hforeign : l'.foreign = l.foreign := by
    have hothers : new.filter (fun h => !h.isManaged) = [] :=
      List.filter_eq_nil_iff.mpr fun h hmem => by simp [(hnew h hmem).1]
    rw [Logger.foreign, hhandlers, List.filter_append, hothers]
    simp [Logger.foreign]
  have hmanaged : l'.managed = new := by
    have hall : new.filter (fun h => h.isManaged) = new :=
      List.filter_eq_self.mpr fun h hmem => (hnew h hmem).1
    rw [managed, hhandlers, List.filter_append, hall]
    simp [Logger.foreign]
  refine ⟨hinstalls.isSound, hlevel, hclosed, hforeign, ?_, ?_, ?_⟩
  · rw [hmanaged]
    exact hhandlers
  · rw [hmanaged, htargets]
  · rw [hmanaged]
    exact fun h hmem => (hnew h hmem).2

end Recolor.Logger
