import Recolor.Proofs.Pipeline.DeviceLink
import Recolor.Proofs.Pipeline.Frame

/-!
# Saving an embedded profile

An embedded profile that is used may be saved to a file as soon as it is opened, before the other
profiles are read and before it is known whether it fits. That is meant to be of no consequence for
the request. It rests on two facts: what comes after depends on nothing of the world but what is seen
at the paths of the other profiles, and there the same is seen after a file is written elsewhere.
`resolve_of_saveEmbedded` says so, and when the file is written; the one exception are paths that are
not even handed to the system.
-/

set_option autoImplicit false

namespace Recolor

/-- The path of the file that a reference names; stock names are no paths. -/
def Reference.path? : Reference → Option Path
  | .named name =>
    if Stock.isName name Stock.srgb ∨ Stock.isName name Stock.lab then none
    else some (Path.ofString name)
  | _ => none

/-- The paths that files were written to, in order. -/
def World.written (w : World) : List Path :=
  w.events.filterMap fun
    | .wrote p => some p
    | _ => none

/-- Noting anything but a file that is written leaves these as they were. -/
theorem Work.written_note {w : World} {e : Event} (he : ∀ p, e ≠ .wrote p) :
    (w.note e).written = w.written := by
  cases e with
  | wrote p => exact absurd rfl (he p)
  | _ => simp [World.written, World.note]

/-- Reading and searching write no file. -/
theorem World.passesReads_written : World.PassesReads World.written where
  read _ _ := Work.written_note fun _ => by simp
  searched _ _ := Work.written_note fun _ => by simp

namespace Request

/-- The request without a place to save a profile at. -/
def unsaved (r : Request) : Request :=
  { r with saveEmbedded := .unset }

/-- The data of the source's embedded profile is used and can be opened. -/
structure OpensEmbedded (r : Request) (source : SourceColor) (engine : ColorEngine)
    (data : Bytes) : Prop where
  link : r.link = .unset
  notIgnored : r.ignoreEmbedded = false
  embedded : source.embedded = some data
  notEmpty : data ≠ []
  format : ∃ f, source.inputFormat = .ok f
  profile : ∃ p, IccProfile.ofBytes engine data = .ok p

/-- A file that could be written at a path is none that another profile is read from. -/
def KeepsApart (r : Request) (files : FileTree) (target : Path) : Prop :=
  ∀ place, files.writable target = .ok place → ∀ ref ∈ [r.output, r.proof], ∀ p,
    ref.path? = some p → files.place p ≠ .ok place

/-- What is seen at the paths of the other profiles. -/
def sights (r : Request) (w : World) :
    Option (Except FileFault (Option FileNode)) × Option (Except FileFault (Option FileNode)) :=
  (r.output.path?.map w.files.sight, r.proof.path?.map w.files.sight)

end Request

/-! ## What opening profiles depends on -/

section Opening

open Work

variable {γ : Type} {view : World → γ} {s : Services} {w : World}

/-- The profile of a file, by what is seen at its path. -/
def Profile.ofSight (engine : ColorEngine) (path : Path) :
    Except FileFault (Option FileNode) → Except Failure IccProfile
  | .error e => .error (Fault.file e path)
  | .ok none => .error (ProfileError.notFound path)
  | .ok (some .folder) => .error (Fault.file .isFolder path)
  | .ok (some (.file data)) => IccProfile.ofBytes engine data path.name (some path)

/-- Opening a profile from a file comes to what is seen at its path. -/
theorem Profile.run_ofFile_eq (path : Path) (s : Services) (w : World) :
    ((Profile.ofFile path).run s w).1 = Profile.ofSight s.engine path (w.files.sight path) := by
  rw [Profile.ofFile, run_ifHasPath, FileTree.sight]
  cases w.files.node path with
  | error e => cases habsent : e.isAbsence <;> simp [FileTree.seen, habsent, Profile.ofSight]
  | ok node =>
    cases node with
    | folder => rfl
    | file data => rfl

/-- Opening a profile by its reference depends on what is seen at its path, if it has one. -/
theorem Reference.determinedBy_openProfile (ref : Reference)
    (hview : ∀ w w', view w = view w' →
      ref.path?.map w.files.sight = ref.path?.map w'.files.sight) :
    DeterminedBy view ref.openProfile := by
  have srgb : DeterminedBy view Profile.openSrgb :=
    .bind .services .services fun _ => .ofExcept _
  cases ref with
  | unset => exact srgb
  | invalid v => exact .fail _
  | named name =>
    refine .ite (fun _ => srgb) fun hsrgb => .ite (fun _ => .fail _) fun hlab => ?_
    intro s w w' hsame
    have hsight := hview w w' hsame
    simp only [Reference.path?, hsrgb, hlab, Bool.false_eq_true, or_self, if_false,
      Option.map_some, Option.some.injEq] at hsight
    rw [Profile.run_ofFile_eq, Profile.run_ofFile_eq, hsight]

end Opening

namespace Request

open Work

variable {γ : Type} {view : World → γ} {s : Services} {w : World}

/-- Reading and searching change nothing that is seen at the paths of the other profiles. -/
theorem passesReads_sights (r : Request) : World.PassesReads r.sights where
  read _ _ := rfl
  searched _ _ := rfl

/-- Resolving the other profiles depends on what is seen at their paths. -/
theorem determinedBy_resolveOthers (r : Request) (input : Profile) :
    DeterminedBy r.sights (r.resolveOthers input) := by
  have hreads := r.passesReads_sights
  have houtput : DeterminedBy r.sights r.resolveOutput := by
    refine .ite (fun _ => .bind (.ofExcept _) (.ofExcept _) fun _ => .pure _) fun _ => ?_
    exact .bind (r.output.determinedBy_openProfile fun _ _ => congrArg Prod.fst)
      (Reference.leaves_openProfile hreads _) fun _ => .pure _
  have hproof : DeterminedBy r.sights r.resolveProof := by
    refine .ite (fun _ => .pure _) fun _ => ?_
    exact .bind (r.proof.determinedBy_openProfile fun _ _ => congrArg Prod.snd)
      (Reference.leaves_openProfile hreads _) fun _ => .pure _
  refine .ite (fun _ => .pure _) fun _ => .bind houtput (r.leaves_resolveOutput hreads) fun _ => ?_
  exact .bind hproof (r.leaves_resolveProof hreads) fun _ => .pure _

/-- Once all profiles are there, the rest only asks the engine. -/
theorem asksOnly_planned (r : Request) (invertsCmyk : Bool) (format : PixelFormat)
    (input : Profile) (used : Bool) (output proof : Option Profile) :
    AsksOnly (r.planned invertsCmyk format input used output proof) :=
  .bind (.lift _) fun _ => .bind (Plan.asksOnly_build _ _ _ _ _ _) fun _ => .pure _

/-- What is left of a request depends on what is seen at the paths of the other profiles. -/
theorem determinedBy_completed (r : Request) (invertsCmyk : Bool) (format : PixelFormat)
    (input : Profile) (used : Bool) :
    DeterminedBy r.sights (r.completed invertsCmyk format input used) := by
  refine .bind (r.determinedBy_resolveOthers input)
    (r.leaves_resolveOthers_of_reads r.passesReads_sights input) ?_
  rintro ⟨output, proof⟩
  exact .ite (fun _ => .fail _) fun _ => (r.asksOnly_planned _ _ _ _ _ _).determinedBy

/-- What is left of a request reads files and asks the engine, and writes nothing. -/
theorem leaves_completed (r : Request) (hv : World.PassesReads view)
    (hrequests : ∀ (w : World) b, view (w.note (.requested b)) = view w) (invertsCmyk : Bool)
    (format : PixelFormat) (input : Profile) (used : Bool) :
    Leaves view (r.completed invertsCmyk format input used) := by
  refine .bind (r.leaves_resolveOthers_of_reads hv input) ?_
  rintro ⟨output, proof⟩
  exact .ite (.fail _) ((r.asksOnly_planned _ _ _ _ _ _).leaves hrequests)

/-! ## Saving -/

section Saving

variable {r : Request} {source : SourceColor} {data : Bytes} {name : String}

/-- Where a file can be written the data is written. -/
theorem run_saveProfile_of_writable (hname : r.saveEmbedded = .named name) {place : List String}
    (h : w.files.writable (Path.ofString name) = .ok place) (data : Bytes) :
    ∃ files, w.files.write (Path.ofString name) data = .ok files
      ∧ (r.saveProfile data).run s w
        = (.ok (), { w with files }.note (.wrote (Path.ofString name))) := by
  have hwrite : w.files.write (Path.ofString name) data = .ok (w.files.put place (.file data)) := by
    simp [FileTree.write, h]
  refine ⟨_, hwrite, ?_⟩
  simp only [saveProfile, hname, Work.run, Work.outcome, Work.writeFile, hwrite, bind]
  rfl

/-- A refusal of the system is passed over, and others are not. Nothing is written. -/
theorem run_saveProfile_of_refused (hname : r.saveEmbedded = .named name) {e : FileFault}
    (h : w.files.writable (Path.ofString name) = .error e) (data : Bytes) :
    (r.saveProfile data).run s w
      = (if (Fault.file e (Path.ofString name)).isSystem then .ok ()
          else .error (Fault.file e (Path.ofString name)), w) := by
  have hwrite : w.files.write (Path.ofString name) data = .error e := by
    simp [FileTree.write, h]
  simp only [saveProfile, hname, Work.run, Work.outcome, Work.writeFile, hwrite, bind]
  split
  · rfl
  · rfl

/-- Embedded data is used exactly if it is there, is not empty and is not to be ignored. -/
theorem embeddedData?_eq_some_iff : r.embeddedData? source = some data ↔
    r.ignoreEmbedded = false ∧ source.embedded = some data ∧ data ≠ [] := by
  unfold embeddedData?
  cases r.ignoreEmbedded <;> simp [Option.filter_eq_some_iff]

/-- Once an embedded profile is opened, the input profile is resolved if it is saved. -/
theorem OpensEmbedded.run_resolveInput (h : r.OpensEmbedded source s.engine data)
    (format : PixelFormat) {p : IccProfile} (hp : IccProfile.ofBytes s.engine data = .ok p)
    {result : Except Failure Unit} {w₁ : World}
    (hsave : (r.saveProfile data).run s w = (result, w₁)) :
    (r.resolveInput source format).run s w = (result.map fun _ => (.icc p, true), w₁) := by
  have hdata := embeddedData?_eq_some_iff.mpr ⟨h.notIgnored, h.embedded, h.notEmpty⟩
  have hopened : (r.openEmbedded data).run s w = (result.map fun _ => .icc p, w₁) := by
    unfold openEmbedded
    rw [run_bind_of_ok run_services, hp, run_bind_of_ok (run_ofExcept _)]
    cases result with
    | error e => rw [run_bind_of_error hsave]; rfl
    | ok u => rw [run_bind_of_ok hsave]; rfl
  unfold Request.resolveInput
  rw [h.link]
  dsimp only
  rw [hdata]
  dsimp only
  cases result with
  | error e => rw [run_bind_of_error hopened]; rfl
  | ok u => rw [run_bind_of_ok hopened]; rfl

/-- An embedded profile opens whether it is to be saved or not. -/
theorem OpensEmbedded.unsaved (h : r.OpensEmbedded source s.engine data) :
    r.unsaved.OpensEmbedded source s.engine data :=
  ⟨h.link, h.notIgnored, h.embedded, h.notEmpty, h.format, h.profile⟩

/-- A request without a place to save at goes on in the world as it is. -/
theorem OpensEmbedded.run_unsaved (h : r.OpensEmbedded source s.engine data)
    (invertsCmyk : Bool) {format : PixelFormat} (hformat : source.inputFormat = .ok format)
    {p : IccProfile} (hp : IccProfile.ofBytes s.engine data = .ok p) :
    (r.unsaved.resolve source invertsCmyk).run s w
      = (r.completed invertsCmyk format (.icc p) true).run s w :=
  run_resolve_of_input invertsCmyk hformat (h.unsaved.run_resolveInput format hp (run_pure () s w))

/-- An embedded profile that cannot be opened is not saved. -/
theorem run_openEmbedded_of_error {e : Failure} (h : IccProfile.ofBytes s.engine data = .error e) :
    (r.openEmbedded data).run s w = (.error e, w) := by
  unfold openEmbedded
  rw [run_bind_of_ok run_services, h, run_bind_of_error (run_ofExcept _)]

/-- Unless the embedded profile is opened it makes no difference where it is to be saved. -/
theorem run_resolve_of_not_opensEmbedded (h : ∀ data, ¬r.OpensEmbedded source s.engine data)
    (invertsCmyk : Bool) :
    (r.resolve source invertsCmyk).run s w = (r.unsaved.resolve source invertsCmyk).run s w := by
  cases hformat : source.inputFormat with
  | error e =>
    rw [run_resolve_of_format_error invertsCmyk hformat,
      run_resolve_of_format_error invertsCmyk hformat]
  | ok format =>
    have hinput : (r.resolveInput source format).run s w
        = (r.unsaved.resolveInput source format).run s w := by
      unfold resolveInput
      have hlink : r.unsaved.link = r.link := rfl
      have hdata : r.unsaved.embeddedData? source = r.embeddedData? source := rfl
      rw [hlink, hdata]
      cases hkind : r.link with
      | invalid v => rfl
      | named name => rfl
      | unset =>
        cases hused : r.embeddedData? source with
        | none => rfl
        | some data =>
          dsimp only
          cases hopen : IccProfile.ofBytes s.engine data with
          | error e =>
            rw [run_bind_of_error (run_openEmbedded_of_error hopen),
              run_bind_of_error (run_openEmbedded_of_error hopen)]
          | ok p =>
            obtain ⟨hnotIgnored, hembedded, hnotEmpty⟩ := embeddedData?_eq_some_iff.mp hused
            exact absurd
              ⟨hkind, hnotIgnored, hembedded, hnotEmpty, ⟨format, hformat⟩, ⟨p, hopen⟩⟩ (h data)
    unfold resolve
    rw [hformat, run_bind_of_ok (run_lift_ok format), run_bind_of_ok (run_lift_ok format),
      run_bind, run_bind, hinput]
    rfl

/-- Writing a file that is kept apart changes nothing that is seen at the paths of the other
profiles. -/
theorem sights_of_elsewhere {files : FileTree} (hapart : r.KeepsApart w.files (Path.ofString name))
    (h : files.elsewhere (Path.ofString name) = w.files.elsewhere (Path.ofString name))
    (event : Event) : r.sights ({ w with files }.note event) = r.sights w := by
  have same (ref : Reference) (href : ref ∈ [r.output, r.proof]) :
      ref.path?.map files.sight = ref.path?.map w.files.sight := by
    cases hpath : ref.path? with
    | none => rfl
    | some p =>
      -- one file is new, and the reference's path leads to another place
      exact congrArg some (FileTree.sight_of_elsewhere h fun place hwritable =>
        hapart place hwritable ref href p hpath)
  exact Prod.ext (same r.output (by simp)) (same r.proof (by simp))

/-- A request is resolved to the same, wherever an embedded profile is saved, if only the path is
handed to the system and no other profile is read from there. -/
theorem OpensEmbedded.resolve_fst (h : r.OpensEmbedded source s.engine data)
    (hname : r.saveEmbedded = .named name) (hhanded : FileTree.IsHandedOn (Path.ofString name))
    (hapart : r.KeepsApart w.files (Path.ofString name)) (invertsCmyk : Bool) :
    ((r.resolve source invertsCmyk).run s w).1
      = ((r.unsaved.resolve source invertsCmyk).run s w).1 := by
  obtain ⟨format, hformat⟩ := h.format
  obtain ⟨p, hp⟩ := h.profile
  rw [h.run_unsaved invertsCmyk hformat hp]
  cases hwritable : w.files.writable (Path.ofString name) with
  | error e =>
    have hsave := run_saveProfile_of_refused (s := s) hname hwritable data
    rw [if_pos (FileTree.isSystem_of_writable hhanded hwritable)] at hsave
    rw [run_resolve_of_input invertsCmyk hformat (h.run_resolveInput format hp hsave)]
  | ok place =>
    obtain ⟨files, hwrite, hsave⟩ := run_saveProfile_of_writable (s := s) hname hwritable data
    rw [run_resolve_of_input invertsCmyk hformat (h.run_resolveInput format hp hsave)]
    -- the rest runs with the saved file in place, and what it looks at is the same
    exact r.determinedBy_completed invertsCmyk format _ true s _ _
      (sights_of_elsewhere hapart (FileTree.elsewhere_of_write hwrite) _)

/-- A path that is not handed to the system is a failure of its own. -/
theorem OpensEmbedded.resolve_of_checkText (h : r.OpensEmbedded source s.engine data)
    (hname : r.saveEmbedded = .named name) {e : FileFault}
    (htext : FileTree.checkText (Path.ofString name) = .error e) (he : e ≠ .tooLong)
    (invertsCmyk : Bool) :
    (r.resolve source invertsCmyk).run s w = (.error (Fault.file e (Path.ofString name)), w) := by
  obtain ⟨format, hformat⟩ := h.format
  obtain ⟨p, hp⟩ := h.profile
  have hsave := run_saveProfile_of_refused (s := s) hname
    (@FileTree.writable_of_checkText w.files _ _ htext) data
  have hother : (Fault.file e (Path.ofString name)).isSystem = false := by
    rcases FileTree.refusal_of_checkText htext with rfl | rfl | rfl
    · rfl
    · rfl
    · exact absurd rfl he
  rw [if_neg (by simp [hother])] at hsave
  exact run_resolve_of_input_error invertsCmyk hformat (h.run_resolveInput format hp hsave)

/-- Saving a profile that is opened is the only change of the files. -/
theorem OpensEmbedded.files_resolve (h : r.OpensEmbedded source s.engine data)
    (hname : r.saveEmbedded = .named name) (invertsCmyk : Bool) :
    let target := Path.ofString name
    let after := ((r.resolve source invertsCmyk).run s w).2
    (∀ place, w.files.writable target = .ok place →
        after.files.read target = .ok data
          ∧ after.files.elsewhere target = w.files.elsewhere target
          ∧ after.written = w.written ++ [target])
      ∧ ∀ e, w.files.writable target = .error e →
        after.files = w.files ∧ after.written = w.written := by
  intro target after
  obtain ⟨format, hformat⟩ := h.format
  obtain ⟨p, hp⟩ := h.profile
  have hfiles : Leaves World.files (r.completed invertsCmyk format (.icc p) true) :=
    r.leaves_completed ⟨fun _ _ => rfl, fun _ _ => rfl⟩ (fun _ _ => rfl) _ _ _ _
  have hwritten : Leaves World.written (r.completed invertsCmyk format (.icc p) true) :=
    r.leaves_completed World.passesReads_written (fun _ _ => written_note fun _ => by simp) _ _ _ _
  constructor
  · intro place hplace
    obtain ⟨files, hwrite, hsave⟩ := run_saveProfile_of_writable (s := s) hname hplace data
    have hrun := run_resolve_of_input invertsCmyk hformat (h.run_resolveInput format hp hsave)
    have hafter : after.files = files := (congrArg (·.2.files) hrun).trans (hfiles s _)
    refine ⟨?_, ?_, ?_⟩
    · rw [hafter]
      exact FileTree.read_of_write hwrite
    · rw [hafter]
      exact FileTree.elsewhere_of_write hwrite
    · refine ((congrArg (·.2.written) hrun).trans (hwritten s _)).trans ?_
      simp [World.written, World.note, target]
  · intro e he
    have hsave := run_saveProfile_of_refused (s := s) hname he data
    by_cases hsystem : (Fault.file e (Path.ofString name)).isSystem = true
    · rw [if_pos hsystem] at hsave
      have hrun := run_resolve_of_input invertsCmyk hformat (h.run_resolveInput format hp hsave)
      exact ⟨(congrArg (·.2.files) hrun).trans (hfiles s w),
        (congrArg (·.2.written) hrun).trans (hwritten s w)⟩
    · rw [if_neg hsystem] at hsave
      have hrun := run_resolve_of_input_error invertsCmyk hformat
        (h.run_resolveInput format hp hsave)
      exact ⟨congrArg (·.2.files) hrun, congrArg (·.2.written) hrun⟩

/-- Without a place to save at no file is written. -/
theorem files_resolve_unsaved (r : Request) (source : SourceColor) (invertsCmyk : Bool)
    (s : Services) (w : World) :
    ((r.unsaved.resolve source invertsCmyk).run s w).2.files = w.files
      ∧ ((r.unsaved.resolve source invertsCmyk).run s w).2.written = w.written := by
  constructor
  · exact r.unsaved.leaves_resolve_of_save ⟨fun _ _ => rfl, fun _ _ => rfl⟩
      (fun _ _ => rfl) (fun _ => .pure ()) source invertsCmyk s w
  · exact r.unsaved.leaves_resolve_of_save World.passesReads_written
      (fun _ _ => written_note fun _ => by simp) (fun _ => .pure ()) source invertsCmyk s w

/-- Where an embedded profile is to be saved makes no difference to what a request is resolved to, if
the path is handed to the system and no other profile is read from there; a path that is not handed
on is a failure of its own. Once the embedded profile is opened, its data stands where a file could be
written, whatever becomes of the request, and no other file is changed. In all other cases, where
there is no embedded profile, or it is ignored, or a device link comes first, or it cannot be opened,
nothing is written and the request goes on as if there were no place to save at. -/
theorem resolve_of_saveEmbedded (r : Request) (source : SourceColor) (invertsCmyk : Bool)
    (s : Services) (w : World) (name : String) (hname : r.saveEmbedded = .named name) :
    let target := Path.ofString name
    let saved := (r.resolve source invertsCmyk).run s w
    let plain := (r.unsaved.resolve source invertsCmyk).run s w
    (∀ data, r.OpensEmbedded source s.engine data →
        (FileTree.IsHandedOn target → r.KeepsApart w.files target → saved.1 = plain.1)
          ∧ (∀ e, FileTree.checkText target = .error e → e ≠ .tooLong →
            saved.1 = .error (Fault.file e target))
          ∧ (∀ place, w.files.writable target = .ok place →
            saved.2.files.read target = .ok data
              ∧ saved.2.files.elsewhere target = w.files.elsewhere target
              ∧ saved.2.written = w.written ++ [target])
          ∧ ∀ e, w.files.writable target = .error e →
            saved.2.files = w.files ∧ saved.2.written = w.written)
      ∧ ((∀ data, ¬r.OpensEmbedded source s.engine data) →
        saved = plain ∧ saved.2.files = w.files ∧ saved.2.written = w.written) := by
  intro target saved plain
  constructor
  · intro data h
    obtain ⟨hwritten, hrefused⟩ := @OpensEmbedded.files_resolve s w r source data name h hname
      invertsCmyk
    refine ⟨fun hhanded hapart => h.resolve_fst hname hhanded hapart invertsCmyk, ?_, hwritten,
      hrefused⟩
    intro e htext he
    exact congrArg Prod.fst (h.resolve_of_checkText hname htext he invertsCmyk)
  · intro hnone
    have hsame : saved = plain := run_resolve_of_not_opensEmbedded hnone invertsCmyk
    rw [hsame]
    exact ⟨rfl, r.files_resolve_unsaved source invertsCmyk s w⟩

end Saving

/-- A source of RGB rows in which the header of a display profile is embedded. -/
def sourceWithHeader : SourceColor :=
  { space := .rgb, embedded := some (headerOf "mntrRGB XYZ ") }

/-- Services that open every profile with a header. -/
def headerServices : Services :=
  { engine := ArithmeticEngine.engine, codec := Codec.ofPictures [] none }

/-- The profile that is embedded in that source opens, unless a link stands for it or it is
ignored. -/
theorem opensEmbedded_sourceWithHeader {r : Request} (hlink : r.link = .unset)
    (hnotIgnored : r.ignoreEmbedded = false) :
    r.OpensEmbedded sourceWithHeader headerServices.engine (headerOf "mntrRGB XYZ ") := by
  have hopen : (IccProfile.ofBytes headerServices.engine (headerOf "mntrRGB XYZ ")).isOk = true := by
    decide +kernel
  cases hp : IccProfile.ofBytes headerServices.engine (headerOf "mntrRGB XYZ ") with
  | ok p => exact ⟨hlink, hnotIgnored, rfl, by decide +kernel, ⟨_, rfl⟩, ⟨p, hp⟩⟩
  | error e =>
    rw [hp] at hopen
    cases hopen

/-- Without references to other profiles every file is kept apart from them. -/
theorem keepsApart_of_unset {r : Request} (houtput : r.output = .unset) (hproof : r.proof = .unset)
    (files : FileTree) (target : Path) : r.KeepsApart files target := by
  intro place _ ref href p hpath
  simp only [houtput, hproof, List.mem_cons, List.not_mem_nil, or_false, or_self] at href
  rw [href] at hpath
  cases hpath

/-- The profile that is embedded in that source is saved without a change of the outcome, and not
saved where it is ignored. -/
theorem resolve_of_saveEmbedded_header :
    let r : Request := { saveEmbedded := .named "a.icc" }
    let ignoring : Request := { r with ignoreEmbedded := true }
    ((r.resolve sourceWithHeader true).run headerServices {}).1
        = ((r.unsaved.resolve sourceWithHeader true).run headerServices {}).1
      ∧ ((r.resolve sourceWithHeader true).run headerServices {}).2.files.read
          (Path.ofString "a.icc") = .ok (headerOf "mntrRGB XYZ ")
      ∧ ((ignoring.resolve sourceWithHeader true).run headerServices {}).2.written = [] := by
  intro r ignoring
  have hpath : Path.ofString "a.icc" = { parts := ["a.icc"] } := by decide +kernel
  have hplain : FileTree.IsPlain "a.icc" := by decide +kernel
  have hplace : ({} : FileTree).place (Path.ofString "a.icc") = .ok ["a.icc"] := by
    rw [hpath]
    exact FileTree.place_name hplain _
  have hhanded : FileTree.IsHandedOn (Path.ofString "a.icc") :=
    FileTree.isHandedOn_iff.mpr ⟨by decide +kernel, by decide +kernel⟩
  have hwritable : ({} : FileTree).writable (Path.ofString "a.icc") = .ok ["a.icc"] := by
    refine FileTree.writable_ok_iff.mpr ⟨?_, hplace, ?_⟩
    · rw [hpath]
      decide
    · simp [FileTree.at?, FileTree.isAbove]
  obtain ⟨hresult, -, hwritten, -⟩ := (resolve_of_saveEmbedded r sourceWithHeader true
    headerServices {} "a.icc" rfl).1 _ (opensEmbedded_sourceWithHeader rfl rfl)
  have hignored : ∀ data, ¬ignoring.OpensEmbedded sourceWithHeader headerServices.engine data := by
    intro data h
    cases h.notIgnored
  have hread := (hwritten _ hwritable).1
  have hkept : r.KeepsApart ({} : World).files (Path.ofString "a.icc") :=
    keepsApart_of_unset rfl rfl _ _
  refine ⟨hresult hhanded hkept, hread, ?_⟩
  exact ((resolve_of_saveEmbedded ignoring sourceWithHeader true headerServices {} "a.icc" rfl).2
    hignored).2.2

/-- A path with a NUL character is refused, although the profile need not be saved to go on. -/
theorem not_forall_resolve_fst_eq :
    ¬∀ (r : Request) (source : SourceColor) (s : Services) (w : World) (name : String)
      (data : Bytes), r.saveEmbedded = .named name → r.OpensEmbedded source s.engine data →
      r.KeepsApart w.files (Path.ofString name) →
      ((r.resolve source true).run s w).1 = ((r.unsaved.resolve source true).run s w).1 := by
  intro h
  have hpath : Path.ofString "a\x00b" = { parts := ["a\x00b"] } := by decide +kernel
  have htext : FileTree.checkText (Path.ofString "a\x00b") = .error .holdsNul := by
    have htext : Path.toString { parts := ["a\x00b"] } = "a\x00b" :=
      FileTree.toString_single (by decide)
    rw [hpath]
    refine FileTree.checkText_of_nul ?_ ?_ <;> rw [htext] <;> decide +kernel
  have hopens : ({ saveEmbedded := .named "a\x00b" } : Request).OpensEmbedded sourceWithHeader
      headerServices.engine _ := opensEmbedded_sourceWithHeader rfl rfl
  have hsame := h { saveEmbedded := .named "a\x00b" } sourceWithHeader headerServices {} _ _ rfl
    hopens (keepsApart_of_unset rfl rfl _ _)
  rw [hopens.resolve_of_checkText rfl htext (by decide)] at hsame
  have hplain : (((({ saveEmbedded := .named "a\x00b" } : Request).unsaved.resolve sourceWithHeader
      true).run headerServices {}).1).isOk = true := by decide +kernel
  rw [← hsame] at hplain
  cases hplain

end Request

end Recolor
