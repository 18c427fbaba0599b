import Recolor.Pipeline.Resolve
import Recolor.Proofs.Files.Tree
import Recolor.Proofs.Work.Runs

/-!
# Where profiles come from

The input profile has one of six origins. Which one is a matter of the request, of the source's
embedded profile and of the colour space of its pixels alone: `Request.origin` is that choice as
a table. What a profile of an origin is, given the services and the files, is
`Origin.Opens`. The main statement `opens_of_resolveInput` joins the two: an input profile that
is resolved was opened from the origin that the table names.

The other profiles come from a reference, and of these only profiles of files have a path.
-/

set_option autoImplicit false

namespace Recolor

/-- Where an input profile comes from. -/
inductive Origin where
  /-- The file of a device link. -/
  | link (name : String)
  /-- The profile embedded in the source. -/
  | embedded (data : Bytes)
  /-- The virtual profile that decodes fax colours. -/
  | fax
  /-- The first installed profile of a space. -/
  | installed (space : Space)
  /-- The built-in display profile. -/
  | srgb
  /-- The file of a profile. -/
  | file (name : String)

namespace Reference

/-- The origin that a reference names, or that stands in for a missing one by the space of the
source's pixels. -/
def origin (space : Space) : Reference → Origin
  | .named name =>
    if name.toLower = "*lab" then .fax
    else if name.toLower = "*srgb" then .srgb
    else .file name
  | _ =>
    match space with
    | .lab => .fax
    | .gray => .installed .gray
    | .cmyk => .installed .cmyk
    | _ => .srgb

/-- An empty setting is no reference, so that an empty device link counts as none. -/
theorem ofSetting_eq_unset_iff {v : Value} : ofSetting v = .unset ↔ v.isSet = false := by
  unfold ofSetting
  by_cases hset : v.isSet = true
  · rw [if_pos hset, hset]
    cases v with
    | null => simp [Value.isSet] at hset
    | _ => simp [ofValue]
  · simp [hset]

end Reference

/-- The origin of the input profile: a device link comes first, then an embedded profile that is
neither empty nor ignored, then the reference. -/
def Request.origin (r : Request) (source : SourceColor) (space : Space) : Origin :=
  match r.link, r.ignoreEmbedded, source.embedded with
  | .named name, _, _ => .link name
  | _, false, some (b :: data) => .embedded (b :: data)
  | _, _, _ => r.input.origin space

/-- Whether a profile is what an origin holds, for a request, with the given services and files. -/
def Origin.Opens (r : Request) (s : Services) (files : FileTree) (p : Profile) : Origin → Prop
  | .link name =>
    ∃ data q, files.read (Path.ofString name) = .ok data
      ∧ Link.load data (Path.ofString name).name r.rendering.intent.code = .ok q
      ∧ p = .sampled q
  | .embedded data => ∃ q, IccProfile.ofBytes s.engine data = .ok q ∧ p = .icc q
  | .fax => ∃ q, Virtual.faxDecode = .ok q ∧ p = .sampled q
  | .installed space =>
    ∃ folders path data q, Installed.folders s r.folders = .ok folders
      ∧ Installed.find files (some space) folders = .ok (some path)
      ∧ files.read path = .ok data
      ∧ IccProfile.ofBytes s.engine data path.name (some path) = .ok q
      ∧ p = .icc q
  | .srgb => ∃ q, IccProfile.srgb s.engine = .ok q ∧ p = .icc q
  | .file name =>
    ∃ data q, files.read (Path.ofString name) = .ok data
      ∧ IccProfile.ofBytes s.engine data (Path.ofString name).name (some (Path.ofString name))
        = .ok q
      ∧ p = .icc q

/-- A reference is a stock name exactly if it is so in lower case. -/
theorem Stock.isName_iff (name stock : String) :
    Stock.isName name stock = true ↔ name.toLower = stock := by
  have hlower : name.toLower.toList = name.toList.map Char.toLower := String.toList_map
  rw [Stock.isName, beq_iff_eq, ← String.toList_inj, hlower]

section Opening

variable {s : Services} {w w' : World}

/-- The profile of a file is made of the file's content. -/
theorem Profile.ofFile_ok {path : Path} {p : IccProfile}
    (h : (Profile.ofFile path).run s w = (.ok p, w')) :
    w'.files = w.files ∧ ∃ data, w.files.read path = .ok data
      ∧ IccProfile.ofBytes s.engine data path.name (some path) = .ok p := by
  simp only [Profile.ofFile, Work.run_bind_ok_iff, Work.run_hasPath_ok_iff] at h
  obtain ⟨found, w₁, ⟨-, rfl⟩, h⟩ := h
  cases found with
  | false => simp at h
  | true =>
    simp only [if_true, Work.run_bind_ok_iff, Work.run_readFile_ok_iff, Work.run_services,
      Work.run_ofExcept, Prod.mk.injEq, Except.ok.injEq] at h
    obtain ⟨data, w₂, ⟨hdata, rfl⟩, s', w₃, ⟨rfl, rfl⟩, hp, rfl⟩ := h
    exact ⟨rfl, data, hdata, hp⟩

/-- Opening the profile of a file takes a look for the file and reads it. -/
theorem Profile.run_ofFile {path : Path} {data : Bytes} (hread : w.files.read path = .ok data) :
    (Profile.ofFile path).run s w
      = (IccProfile.ofBytes s.engine data path.name (some path), w.note (.read path)) := by
  unfold Profile.ofFile
  rw [Work.run_bind_of_ok (Work.run_hasPath_ok_iff.mpr ⟨FileTree.hasPath_of_read hread, rfl⟩),
    if_pos rfl, Work.run_bind_of_ok (Work.run_readFile_ok_iff.mpr ⟨hread, rfl⟩),
    Work.run_bind_of_ok Work.run_services, Work.run_ofExcept]

/-- The built-in display profile is the engine's. -/
theorem Profile.openSrgb_ok {p : IccProfile} (h : Profile.openSrgb.run s w = (.ok p, w')) :
    w' = w ∧ IccProfile.srgb s.engine = .ok p := by
  simp only [Profile.openSrgb, Work.run_bind_ok_iff, Work.run_services, Work.run_ofExcept,
    Prod.mk.injEq, Except.ok.injEq] at h
  obtain ⟨s', w₁, ⟨rfl, rfl⟩, hp, rfl⟩ := h
  exact ⟨rfl, hp⟩

/-- A device link is loaded from the content of its file for the requested intent. -/
theorem Request.loadLink_ok {r : Request} {path : Path} {p : Profile}
    (h : (r.loadLink path).run s w = (.ok p, w')) :
    w'.files = w.files ∧ ∃ data q, w.files.read path = .ok data
      ∧ Link.load data path.name r.rendering.intent.code = .ok q ∧ p = .sampled q := by
  simp only [Request.loadLink, Work.run_bind_ok_iff, Work.run_hasPath_ok_iff] at h
  obtain ⟨found, w₁, ⟨-, rfl⟩, h⟩ := h
  cases found with
  | false => simp at h
  | true =>
    simp only [if_true, Work.run_bind_ok_iff, Work.run_readFile_ok_iff, Work.run_ofExcept,
      Work.run_pure, Prod.mk.injEq, Except.ok.injEq] at h
    obtain ⟨data, w₂, ⟨hdata, rfl⟩, q, w₃, ⟨hq, rfl⟩, rfl, rfl⟩ := h
    exact ⟨rfl, data, q, hdata, hq, rfl⟩

/-- An embedded profile is opened from its data, wherever it is saved. -/
theorem Request.openEmbedded_ok {r : Request} {data : Bytes} {p : Profile}
    (h : (r.openEmbedded data).run s w = (.ok p, w')) :
    ∃ q, IccProfile.ofBytes s.engine data = .ok q ∧ p = .icc q := by
  simp only [Request.openEmbedded, Work.run_bind_ok_iff, Work.run_services, Work.run_ofExcept,
    Work.run_pure, Prod.mk.injEq, Except.ok.injEq] at h
  obtain ⟨s', w₁, ⟨rfl, rfl⟩, q, w₂, ⟨hq, rfl⟩, u, w₃, -, rfl, rfl⟩ := h
  exact ⟨q, hq, rfl⟩

/-- Noting that folders are searched leaves the files as they are. -/
theorem files_of_noteSearched {folders : List Path} {u : PUnit}
    (h : (folders.forM fun folder => Work.note (.searched folder)).run s w = (.ok u, w')) :
    w'.files = w.files := by
  induction folders generalizing w with
  | nil =>
    simp only [List.forM, Work.run_pure, Prod.mk.injEq] at h
    rw [← h.2]
  | cons folder rest ih =>
    simp only [List.forM, Work.run_bind_ok_iff, Work.run_note, Prod.mk.injEq] at h
    obtain ⟨u', w₁, ⟨-, rfl⟩, h⟩ := h
    exact (ih h).trans rfl

/-- Noting that folders are searched succeeds. -/
theorem run_noteSearched (folders : List Path) (s : Services) (w : World) :
    ∃ w', (folders.forM fun folder => Work.note (.searched folder)).run s w = (.ok ⟨⟩, w') := by
  induction folders generalizing w with
  | nil => exact ⟨w, rfl⟩
  | cons folder rest ih =>
    obtain ⟨w', hrest⟩ := ih (w.note (.searched folder))
    exact ⟨w', Work.run_bind_ok_iff.mpr ⟨⟨⟩, _, rfl, hrest⟩⟩

/-- What the folders to search hold is found. -/
theorem Profile.run_findInstalled {space : Space} {extra folders : List Path} {found : Option Path}
    (hfolders : Installed.folders s extra = .ok folders)
    (hfind : Installed.find w.files (some space) folders = .ok found) :
    ∃ w', (Profile.findInstalled space extra).run s w = (.ok found, w') ∧ w'.files = w.files := by
  obtain ⟨w', hnote⟩ := run_noteSearched folders s w
  have hfiles := files_of_noteSearched hnote
  refine ⟨w', ?_, hfiles⟩
  unfold Profile.findInstalled
  rw [Work.run_bind_of_ok Work.run_services, hfolders, Work.run_bind_of_ok (Work.run_lift_ok _),
    Work.run_bind_of_ok hnote, Work.run_bind_of_ok Work.run_files, hfiles, hfind,
    Work.run_lift_ok]

/-- The installed profile that is found is the first one of the folders to search. -/
theorem Profile.findInstalled_ok {space : Space} {extra : List Path} {found : Option Path}
    (h : (Profile.findInstalled space extra).run s w = (.ok found, w')) :
    w'.files = w.files ∧ ∃ folders, Installed.folders s extra = .ok folders
      ∧ Installed.find w.files (some space) folders = .ok found := by
  simp only [Profile.findInstalled, Work.run_bind_ok_iff, Work.run_services, Work.run_files,
    Work.run_lift_ok_iff, Prod.mk.injEq, Except.ok.injEq] at h
  obtain ⟨s', w₁, ⟨rfl, rfl⟩, folders, w₂, ⟨hfolders, rfl⟩, u, w₃, hnote, files, w₄,
    ⟨rfl, rfl⟩, hfind, rfl⟩ := h
  have hfiles := files_of_noteSearched hnote
  rw [hfiles] at hfind
  exact ⟨hfiles, folders, hfolders, hfind⟩

/-- The installed profile of a space is the first one that is found. -/
theorem Request.installedInput_ok {r : Request} {space : Space} {p : Profile}
    (h : (r.installedInput space).run s w = (.ok p, w')) :
    (Origin.installed space).Opens r s w.files p := by
  simp only [Request.installedInput, Work.run_bind_ok_iff] at h
  obtain ⟨found, w₁, hfind, h⟩ := h
  obtain ⟨hfiles, folders, hfolders, hfound⟩ := Profile.findInstalled_ok hfind
  cases found with
  | none => simp at h
  | some path =>
    simp only [Work.run_bind_ok_iff, Work.run_pure, Prod.mk.injEq, Except.ok.injEq] at h
    obtain ⟨q, w₂, hopen, rfl, rfl⟩ := h
    obtain ⟨-, data, hdata, hq⟩ := Profile.ofFile_ok hopen
    rw [hfiles] at hdata
    exact ⟨folders, path, data, q, hfolders, hfound, hdata, hq, rfl⟩

/-- Names that are no stock name stand for files. -/
theorem Profile.openNamed_ok {name : String} {p : IccProfile}
    (h : (Profile.openNamed name).run s w = (.ok p, w')) :
    name.toLower ≠ "*lab" ∧ w'.files = w.files ∧
      if name.toLower = "*srgb" then IccProfile.srgb s.engine = .ok p
      else ∃ data, w.files.read (Path.ofString name) = .ok data
        ∧ IccProfile.ofBytes s.engine data (Path.ofString name).name (some (Path.ofString name))
          = .ok p := by
  simp only [Profile.openNamed, Stock.isName_iff, Stock.srgb, Stock.lab] at h
  by_cases hsrgb : name.toLower = "*srgb"
  · rw [if_pos hsrgb] at h
    obtain ⟨rfl, hp⟩ := Profile.openSrgb_ok h
    rw [hsrgb, if_pos rfl]
    exact ⟨by simp, rfl, hp⟩
  · rw [if_neg hsrgb] at h
    by_cases hlab : name.toLower = "*lab"
    · rw [if_pos hlab] at h
      simp at h
    · rw [if_neg hlab] at h
      rw [if_neg hsrgb]
      exact ⟨hlab, Profile.ofFile_ok h⟩

/-- The input profile without link or embedded profile is that of the reference's origin. -/
theorem Request.chosenInput_ok {r : Request} {format : PixelFormat} {p : Profile}
    (h : (r.chosenInput format).run s w = (.ok p, w')) :
    (r.input.origin format.space).Opens r s w.files p := by
  have fax (h : Request.faxInput.run s w = (.ok p, w')) : Origin.fax.Opens r s w.files p := by
    simp only [Request.faxInput, Work.run_bind_ok_iff, Work.run_ofExcept, Work.run_pure,
      Prod.mk.injEq, Except.ok.injEq] at h
    obtain ⟨q, w₁, ⟨hq, rfl⟩, rfl, rfl⟩ := h
    exact ⟨q, hq, rfl⟩
  unfold Request.chosenInput at h
  cases hinput : r.input with
  | invalid v =>
    -- an unusable reference is noticed when it is opened
    simp [hinput, Reference.isStock, Reference.isUnset, Reference.openProfile, Work.run_bind] at h
  | named name =>
    rw [hinput] at h
    simp only [Reference.isStock, Reference.isUnset, Bool.false_and, Bool.or_false,
      Stock.isName_iff, Stock.lab, Bool.false_eq_true, if_false] at h
    simp only [Reference.origin]
    by_cases hlab : name.toLower = "*lab"
    · rw [if_pos hlab] at h ⊢
      exact fax h
    · rw [if_neg hlab] at h ⊢
      simp only [Work.run_bind_ok_iff, Work.run_pure, Prod.mk.injEq, Except.ok.injEq] at h
      obtain ⟨q, w₁, hopen, rfl, rfl⟩ := h
      obtain ⟨-, -, hq⟩ := Profile.openNamed_ok hopen
      by_cases hsrgb : name.toLower = "*srgb"
      · rw [if_pos hsrgb] at hq ⊢
        exact ⟨q, hq, rfl⟩
      · rw [if_neg hsrgb] at hq ⊢
        obtain ⟨data, hdata, hq⟩ := hq
        exact ⟨data, q, hdata, hq, rfl⟩
  | unset =>
    rw [hinput] at h
    simp only [Reference.isStock, Reference.isUnset, Bool.true_and, Bool.false_or, beq_iff_eq,
      Request.isSearched, Bool.or_eq_true] at h
    have display (h : (do let p ← Reference.openProfile .unset; return Profile.icc p).run s w
        = (.ok p, w')) : Origin.srgb.Opens r s w.files p := by
      simp only [Work.run_bind_ok_iff, Work.run_pure, Prod.mk.injEq, Except.ok.injEq] at h
      obtain ⟨q, w₁, hopen, rfl, rfl⟩ := h
      exact ⟨q, (Profile.openSrgb_ok hopen).2, rfl⟩
    cases hspace : format.space <;> simp only [hspace, reduceCtorEq, or_self, or_true, true_or,
      if_true, if_false] at h <;> simp only [Reference.origin]
    case lab => exact fax h
    case gray => exact Request.installedInput_ok h
    case cmyk => exact Request.installedInput_ok h
    all_goals exact display h

/-- An input profile that is resolved was opened from the origin that the request, the source's
embedded profile and the space of its pixels decide on, and counts as embedded if that is the
source. -/
theorem Request.opens_of_resolveInput {r : Request} {source : SourceColor} {format : PixelFormat}
    {p : Profile} {used : Bool}
    (h : (r.resolveInput source format).run s w = (.ok (p, used), w')) :
    (r.origin source format.space).Opens r s w.files p
      ∧ (used = true ↔ ∃ data, r.origin source format.space = .embedded data) := by
  have notEmbedded : ∀ data, r.input.origin format.space ≠ .embedded data := by
    intro data
    unfold Reference.origin
    split
    · split
      · simp
      · split <;> simp
    · split <;> simp
  unfold Request.resolveInput at h
  cases hlink : r.link with
  | invalid v => simp [hlink] at h
  | named name =>
    rw [hlink] at h
    simp only [Work.run_bind_ok_iff, Work.run_pure, Prod.mk.injEq, Except.ok.injEq] at h
    obtain ⟨q, w₁, hload, ⟨rfl, rfl⟩, rfl⟩ := h
    simp only [Request.origin, hlink]
    exact ⟨(Request.loadLink_ok hload).2, by simp⟩
  | unset =>
    rw [hlink] at h
    cases hdata : r.embeddedData? source with
    | some data =>
      rw [hdata] at h
      simp only [Work.run_bind_ok_iff, Work.run_pure, Prod.mk.injEq, Except.ok.injEq] at h
      obtain ⟨q, w₁, hopen, ⟨rfl, rfl⟩, rfl⟩ := h
      have horigin : r.origin source format.space = .embedded data := by
        simp only [Request.embeddedData?] at hdata
        cases hignore : r.ignoreEmbedded with
        | true => simp [hignore] at hdata
        | false =>
          simp only [hignore, Bool.false_eq_true, if_false, Option.filter_eq_some_iff] at hdata
          cases data with
          | nil => simp at hdata
          | cons b rest => simp only [Request.origin, hlink, hignore, hdata.1]
      rw [horigin]
      exact ⟨Request.openEmbedded_ok hopen, by simp⟩
    | none =>
      rw [hdata] at h
      simp only [Work.run_bind_ok_iff, Work.run_pure, Prod.mk.injEq, Except.ok.injEq] at h
      obtain ⟨q, w₁, hopen, ⟨rfl, rfl⟩, rfl⟩ := h
      have horigin : r.origin source format.space = r.input.origin format.space := by
        simp only [Request.embeddedData?] at hdata
        unfold Request.origin
        split
        · simp_all
        · simp_all
        · rfl
      rw [horigin]
      exact ⟨Request.chosenInput_ok hopen, by simp [notEmbedded]⟩

end Opening

end Recolor
