import Recolor.Proofs.Pipeline.Mismatch
import Recolor.Proofs.Profile.FaxTables
import Recolor.Proofs.Profile.Installed

/-!
# Sources that fall back on an installed profile

Gray and four-component pictures without a profile, of which the request names none either, are
taken to be in the first installed profile of their space. That profile always fits, so no such
source is refused for a profile that does not. It may still not open: the search does not look at
the device class, and a file with the letters of no known class is found and then refused, although
another one may lie behind it. `opens_installed_iff` states both.
-/

set_option autoImplicit false

namespace Recolor

/-- Errors of data whose header cannot be read. -/
def ProfileError.IsOfHeader : ProfileError → Prop
  | .tooShort _ | .noMagic | .unknownClass _ => True
  | _ => False

/-- The virtual profile that encodes fax colours can be made at any number of nodes for which there
is room. -/
theorem Virtual.exists_faxEncode {points : ℕ} (hpoints : 2 ≤ points)
    (hroom : Grid.checkRoom points 3 = .ok ()) : ∃ p, Virtual.faxEncode points = .ok p := by
  obtain ⟨table, hencoder, -⟩ := exists_faxEncoder Float hpoints
  exact ⟨encodeProfile table, (faxEncode_of_room Float hroom).trans hencoder⟩

/-! ## Failures of opening profiles -/

section Opening

open Work

/-- Data is refused for its header, by the engine, or for a fault. -/
theorem IccProfile.isNoMismatch_of_ofBytes {engine : ColorEngine} {data : Bytes} {name : String}
    {path : Option Path} {e : Failure} (h : IccProfile.ofBytes engine data name path = .error e) :
    e.IsNoMismatch := by
  unfold IccProfile.ofBytes at h
  split at h
  · simp only [Except.error.injEq] at h
    rw [← h]
    trivial
  · split at h
    · split at h <;> · simp only [Except.error.injEq] at h; rw [← h]; trivial
    · split at h
      · simp only [Except.error.injEq] at h
        rw [← h]
        trivial
      · simp at h

/-- When the built-in profile cannot be opened, that is no mismatch. -/
theorem IccProfile.isNoMismatch_of_srgb {engine : ColorEngine} {e : Failure}
    (h : IccProfile.srgb engine = .error e) : e.IsNoMismatch := by
  unfold IccProfile.srgb at h
  split at h
  · simp only [Except.error.injEq] at h
    rw [← h]
    trivial
  · simp at h

/-- Opening a profile from a file never reports a mismatch. -/
theorem Profile.ofFile_failsOnly (p : Path) :
    FailsOnly Failure.IsNoMismatch (Profile.ofFile p) :=
  .bind (.hasPath p fun _ => trivial) fun _ => .ite
    (fun _ => .bind (.readFile p fun _ => trivial) fun _ => .bind .services fun _ =>
      .ofExcept fun _ => IccProfile.isNoMismatch_of_ofBytes)
    fun _ => .fail trivial

/-- Following a reference never reports a mismatch. -/
theorem Reference.openProfile_failsOnly (ref : Reference) :
    FailsOnly Failure.IsNoMismatch ref.openProfile := by
  have display : FailsOnly Failure.IsNoMismatch Profile.openSrgb :=
    .bind .services fun _ => .ofExcept fun _ => IccProfile.isNoMismatch_of_srgb
  cases ref with
  | unset => exact display
  | invalid v => exact .fail trivial
  | named name =>
    exact .ite (fun _ => display) fun _ => .ite (fun _ => .fail trivial) fun _ =>
      Profile.ofFile_failsOnly _

/-- Opening an installed profile never reports a mismatch. -/
theorem Request.installedInput_failsOnly (r : Request) (space : Space) :
    FailsOnly Failure.IsNoMismatch (r.installedInput space) := by
  have searched (folders : List Path) : FailsOnly Failure.IsNoMismatch
      (folders.forM fun folder => Work.note (.searched folder)) := by
    induction folders with
    | nil => exact .pure _
    | cons folder rest ih => exact .bind (.note _) fun _ => ih
  have found : FailsOnly Failure.IsNoMismatch (Profile.findInstalled space r.folders) :=
    .bind .services fun _ => .bind (.lift _ fun _ => trivial) fun folders =>
      .bind (searched folders) fun _ => .bind .files fun _ => .lift _ fun _ => trivial
  refine .bind found fun path => ?_
  cases path with
  | none => exact .fail trivial
  | some path => exact .bind (Profile.ofFile_failsOnly path) fun _ => .pure _

/-- The output profile and the one to proof against are never said not to fit. -/
theorem Request.resolveOthers_failsOnly (r : Request) (input : Profile) :
    FailsOnly Failure.IsNoMismatch (r.resolveOthers input) := by
  have output : FailsOnly Failure.IsNoMismatch r.resolveOutput := by
    refine .ite (fun _ => .bind (.ofExcept fun e he => ?_) fun _ => .pure _) fun _ =>
      .bind (Reference.openProfile_failsOnly _) fun _ => .pure _
    obtain ⟨p, hp⟩ : ∃ p, Virtual.faxEncode = .ok p :=
      Virtual.exists_faxEncode (by decide : 2 ≤ 33) rfl
    rw [hp] at he
    simp at he
  exact .ite (fun _ => .pure _) fun _ => .bind output fun _ =>
    .bind (.ite (fun _ => .pure _) fun _ =>
      .bind (Reference.openProfile_failsOnly _) fun _ => .pure _) fun _ => .pure _

end Opening

/-! ## Falling back -/

namespace Request

/-- Whether a source is taken to be in the first installed profile of its space. -/
structure FallsBack (r : Request) (source : SourceColor) (format : PixelFormat) : Prop where
  noLink : r.link = .unset
  noEmbedded : r.embeddedData? source = none
  noInput : r.input = .unset
  searched : format.space = .gray ∨ format.space = .cmyk

variable {r : Request} {source : SourceColor} {format : PixelFormat}

/-- A source that falls back takes the first installed profile, which is not embedded in it. -/
theorem FallsBack.resolveInput_eq (h : r.FallsBack source format) :
    r.resolveInput source format
      = (do let p ← r.installedInput format.space; return (p, false)) := by
  have hchosen : r.chosenInput format = r.installedInput format.space := by
    unfold chosenInput
    rcases h.searched with hspace | hspace <;>
      simp [h.noInput, hspace, Reference.isStock, Reference.isUnset, isSearched]
  simp only [resolveInput, h.noLink, h.noEmbedded, hchosen]

/-- The installed profile of a space is one of that space. -/
theorem space_of_installedInput {s : Services} {w w' : World} {space : Space} {p : Profile}
    (h : (r.installedInput space).run s w = (.ok p, w')) : p.space = some space := by
  obtain ⟨folders, path, data, q, -, hfound, hdata, hopen, rfl⟩ := installedInput_ok h
  obtain ⟨data', hdata', hscanned⟩ := Installed.read_of_find hfound
  obtain rfl : data = data' := by
    rw [hdata] at hdata'
    exact Except.ok.inj hdata'
  obtain ⟨-, -, header, hheader, hspace, -, -⟩ := IccProfile.ofBytes_ok hopen
  have hclass : Header.HasKnownClass data := by
    refine Classical.byContradiction fun hnot => ?_
    have hrefused := (Installed.isProfileOf_iff_of_scanned hscanned).2 hnot
    rw [hheader] at hrefused
    simp at hrefused
  obtain ⟨header', hheader', hspace', -⟩ :=
    (Installed.isProfileOf_iff_of_scanned hscanned).1.mpr hclass
  rw [hheader] at hheader'
  cases hheader'
  exact hspace.trans hspace'

/-- A source that falls back on an installed profile is never refused for a profile that does not
fit. -/
theorem FallsBack.failsOnly (h : r.FallsBack source format)
    (hformat : source.inputFormat = .ok format) (invertsCmyk : Bool) :
    Work.FailsOnly Failure.IsNoMismatch (r.resolve source invertsCmyk) := by
  intro s w e w' he
  have hinput : Work.FailsOnly Failure.IsNoMismatch (r.resolveInput source format) := by
    rw [h.resolveInput_eq]
    exact .bind (r.installedInput_failsOnly _) fun _ => .pure _
  cases hopen : (r.resolveInput source format).run s w with
  | mk opened w₁ =>
    cases opened with
    | error e₁ =>
      unfold resolve at he
      rw [hformat, Work.run_bind_of_ok (Work.run_lift_ok format),
        Work.run_bind_of_error hopen] at he
      cases he
      exact hinput _ _ _ _ hopen
    | ok input =>
      obtain ⟨input, used⟩ := input
      have hspace : input.space = some format.space := by
        rw [h.resolveInput_eq] at hopen
        simp only [Work.run_bind_ok_iff, Work.run_pure, Prod.mk.injEq, Except.ok.injEq] at hopen
        obtain ⟨p, w₂, hp, ⟨rfl, -⟩, -⟩ := hopen
        exact space_of_installedInput hp
      cases hothers : (r.resolveOthers input).run s w₁ with
      | mk others w₂ =>
        cases others with
        | error e₂ =>
          unfold resolve at he
          rw [hformat, Work.run_bind_of_ok (Work.run_lift_ok format),
            Work.run_bind_of_ok hopen] at he
          dsimp only at he
          rw [Work.run_bind_of_error hothers] at he
          cases he
          exact r.resolveOthers_failsOnly input _ _ _ _ hothers
        | ok others =>
          obtain ⟨output, proof⟩ := others
          rw [run_resolve_of_profiles invertsCmyk hformat hopen hothers,
            if_neg (not_not_intro hspace)] at he
          exact r.planned_failsOnly _ _ _ _ _ _ _ _ _ _ he

/-- Falling back on an installed profile that is found comes to opening its file. -/
theorem FallsBack.run_resolveInput (h : r.FallsBack source format) {s : Services} {w : World}
    {folders : List Path} {p : Path} {data : Bytes}
    (hfolders : Installed.folders s r.folders = .ok folders)
    (hfind : Installed.find w.files (some format.space) folders = .ok (some p))
    (hdata : w.files.read p = .ok data) :
    ((r.resolveInput source format).run s w).1
      = (IccProfile.ofBytes s.engine data p.name (some p)).map fun q => (.icc q, false) := by
  obtain ⟨w₁, hfound, hfiles⟩ := Profile.run_findInstalled hfolders hfind
  have hopen := Profile.run_ofFile (s := s) (hfiles ▸ hdata)
  rw [h.resolveInput_eq, installedInput, Work.bind_assoc, Work.run_bind_of_ok hfound]
  dsimp only
  rw [Work.bind_assoc, Work.run_bind, hopen]
  cases IccProfile.ofBytes s.engine data p.name (some p) with
  | error e => rfl
  | ok q => rfl

/-- A header that can be read is not what data is refused for. -/
theorem not_isOfHeader_of_ofBytes {engine : ColorEngine} {data : Bytes} {name : String}
    {path : Option Path} {header : Header} (hheader : Header.parse data = .ok header)
    {cause : ProfileError} (h : IccProfile.ofBytes engine data name path = .error cause) :
    ¬cause.IsOfHeader := by
  intro hcause
  simp only [IccProfile.ofBytes, hheader] at h
  split at h
  · split at h
    · cases h
      exact hcause
    · cases h
  · split at h <;> cases h

/-- What the search finds can be read and opens as a profile of the space that was searched for
exactly if its device class is a known one; if it is not, opening fails for that. So a gray or
four-component source that falls back on an installed profile is never refused for a profile that
does not fit, and the header of the file that is found stands in its way exactly if the class of
that file is unknown. -/
theorem opens_installed_iff (s : Services) (w : World) :
    (∀ (space : Space) (folders : List Path) (p : Path),
      Installed.find w.files (some space) folders = .ok (some p) →
        ∃ data, w.files.read p = .ok data
          ∧ (Installed.IsProfileOf space data ↔ Header.HasKnownClass data)
          ∧ (¬Header.HasKnownClass data →
            Header.parse data = .error (.unknownClass (Header.classSignature data))))
    ∧ ∀ (r : Request) (source : SourceColor) (invertsCmyk : Bool) (format : PixelFormat),
      source.inputFormat = .ok format → r.FallsBack source format →
        (∀ found image, ((r.resolve source invertsCmyk).run s w).1
          ≠ .error (.conversion (.mismatch found image)))
        ∧ ∀ folders p data, Installed.folders s r.folders = .ok folders →
          Installed.find w.files (some format.space) folders = .ok (some p) →
          w.files.read p = .ok data →
            (Header.HasKnownClass data → ∀ cause : ProfileError, cause.IsOfHeader →
              ((r.resolveInput source format).run s w).1 ≠ .error cause)
            ∧ (¬Header.HasKnownClass data → ((r.resolve source invertsCmyk).run s w).1
              = .error (ProfileError.unknownClass (Header.classSignature data))) := by
  have scanned {space : Space} {folders : List Path} {p : Path} {data : Bytes}
      (hfind : Installed.find w.files (some space) folders = .ok (some p))
      (hdata : w.files.read p = .ok data) :
      Installed.headerSpace? (data.take Header.length) = some space := by
    obtain ⟨data', hdata', hscanned⟩ := Installed.read_of_find hfind
    rw [hdata] at hdata'
    cases hdata'
    exact hscanned
  constructor
  · intro space folders p hfind
    obtain ⟨data, hdata, hscanned⟩ := Installed.read_of_find hfind
    exact ⟨data, hdata, Installed.isProfileOf_iff_of_scanned hscanned⟩
  · intro r source invertsCmyk format hformat hfalls
    constructor
    · intro found image hrun
      exact hfalls.failsOnly hformat invertsCmyk s w _ _ (Prod.ext hrun rfl)
    · intro folders p data hfolders hfind hdata
      obtain ⟨hopens, hrefused⟩ := Installed.isProfileOf_iff_of_scanned (scanned hfind hdata)
      have hinput := hfalls.run_resolveInput hfolders hfind hdata
      constructor
      · intro hclass cause hcause hrun
        obtain ⟨header, hheader, -, -⟩ := hopens.mpr hclass
        rw [hinput] at hrun
        cases hbytes : IccProfile.ofBytes s.engine data p.name (some p) with
        | ok q => simp [hbytes, Except.map] at hrun
        | error e =>
          simp only [hbytes, Except.map, Except.error.injEq] at hrun
          subst hrun
          exact not_isOfHeader_of_ofBytes hheader hbytes hcause
      · intro hclass
        have hbytes : IccProfile.ofBytes s.engine data p.name (some p)
            = .error (ProfileError.unknownClass (Header.classSignature data)) := by
          simp only [IccProfile.ofBytes, hrefused hclass]
        rw [hbytes] at hinput
        rw [resolve, hformat, Work.run_bind_of_ok (Work.run_lift_ok format),
          Work.run_bind_of_error (Prod.ext hinput rfl)]

/-! ## A file of no known class -/

/-- Data of a profile of gray pixels with any four letters for its class. -/
def grayProfile (deviceClass : String) : Bytes :=
  List.replicate 12 0 ++ (Bytes.ofText deviceClass ++ Bytes.ofText "GRAYXYZ ")
    ++ List.replicate 12 0 ++ Bytes.ofText "acsp" ++ List.replicate 88 0

/-- A folder in which a file of no known class comes before a good one. -/
def oddFiles : FileTree :=
  { nodes := [(["d"], .folder), (["d", "a.icc"], .file (grayProfile "abcd")),
      (["d", "b.icc"], .file (grayProfile "prtr"))] }

/-- The system takes the name of the folder. -/
theorem isPlain_folder : FileTree.IsPlain "d" := by decide +kernel

/-- The file of no known class is read. -/
theorem read_odd : oddFiles.read { parts := ["d", "a.icc"] } = .ok (grayProfile "abcd") := by
  have hname : FileTree.IsPlain "a.icc" := by decide +kernel
  have htext : FileTree.checkText { parts := ["d", "a.icc"] } = .ok () :=
    FileTree.checkText_ok (by decide +kernel) (by decide +kernel) (by decide +kernel)
  exact FileTree.read_entry isPlain_folder hname rfl htext rfl

/-- The search finds the space of gray pixels in the file of no known class. -/
theorem scanned_odd :
    Installed.headerSpace? ((grayProfile "abcd").take Header.length) = some .gray := by
  decide +kernel

/-- The letters of that file name no known class. -/
theorem not_hasKnownClass_odd : ¬Header.HasKnownClass (grayProfile "abcd") := by
  rw [Header.HasKnownClass]
  decide +kernel

/-- The search comes upon the file of no known class first. -/
theorem find_odd (rest : List Path) :
    Installed.find oddFiles (some .gray) ({ parts := ["d"] } :: rest)
      = .ok (some { parts := ["d", "a.icc"] }) := by
  have hfolder : oddFiles.isFolder { parts := ["d"] } = .ok true := by
    simp only [FileTree.isFolder, FileTree.leadsTo, FileTree.node_name isPlain_folder
      (t := oddFiles) (n := .folder) rfl]
    rfl
  have hnames : Installed.sortedNames oddFiles { parts := ["d"] } = ["a.icc", "b.icc"] := by
    have hentries : oddFiles.entries ["d"] = ["a.icc", "b.icc"] := by decide
    have hsorted : ["a.icc", "b.icc"].Pairwise fun a b => Installed.nameLE a b := by decide +kernel
    simp only [Installed.sortedNames, FileTree.list_name isPlain_folder (t := oddFiles) rfl,
      hentries]
    exact List.mergeSort_of_pairwise hsorted
  have hqualifies : Installed.qualifies oddFiles (some .gray) { parts := ["d", "a.icc"] } = true := by
    have hextension : Installed.extensions.contains
        (Path.extension { parts := ["d", "a.icc"] }) = true := by decide +kernel
    simp only [Installed.qualifies, Installed.fileSpace?, read_odd, hextension, scanned_odd]
    rfl
  have hfound : Installed.findIn? oddFiles (some .gray) { parts := ["d"] }
      = some { parts := ["d", "a.icc"] } := by
    rw [Installed.findIn?, hnames]
    exact List.find?_cons_of_pos hqualifies
  simp only [Installed.find, hfolder, hfound]

/-- A gray picture falls back on the first file of the folder and is refused for its class. -/
theorem refused_odd :
    ¬Installed.IsProfileOf .gray (grayProfile "abcd")
    ∧ ((resolve { folders := [{ parts := ["d"] }] } { space := .grayscale } true).run
        { engine := ArithmeticEngine.engine, codec := Codec.ofPictures [] none }
        { files := oddFiles }).1 = .error (ProfileError.unknownClass "abcd") := by
  have hclass : Header.classSignature (grayProfile "abcd") = "abcd" := by decide +kernel
  obtain ⟨hfiles, hsources⟩ := opens_installed_iff
    { engine := ArithmeticEngine.engine, codec := Codec.ofPictures [] none } { files := oddFiles }
  constructor
  · obtain ⟨data, hdata, hopens, -⟩ := hfiles _ _ _ (find_odd [])
    rw [read_odd] at hdata
    cases hdata
    exact fun h => not_hasKnownClass_odd (hopens.mp h)
  · have hrefused := (hsources { folders := [{ parts := ["d"] }] } { space := .grayscale } true
      { space := .gray, channels := 1 } rfl ⟨rfl, rfl, rfl, .inl rfl⟩).2 _ _ _ rfl (find_odd _) read_odd
    rw [hclass] at hrefused
    exact hrefused.2 not_hasKnownClass_odd

/-- Not all that the search finds opens as a profile of the space. -/
theorem not_forall_opens_installed :
    ¬∀ (files : FileTree) (space : Space) (folders : List Path) (p : Path),
      Installed.find files (some space) folders = .ok (some p) →
        ∃ data, files.read p = .ok data ∧ Installed.IsProfileOf space data := by
  intro h
  obtain ⟨data, hdata, hopens⟩ := h _ _ _ _ (find_odd [])
  rw [read_odd] at hdata
  cases hdata
  exact not_hasKnownClass_odd ((Installed.isProfileOf_iff_of_scanned scanned_odd).1.mp hopens)

end Request

end Recolor
