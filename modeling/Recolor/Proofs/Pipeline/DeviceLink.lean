import Recolor.Proofs.Files.Tree
import Recolor.Proofs.Pipeline.Mismatch
import Recolor.Proofs.Profile.Loading

/-!
# Requests for a device link

A device link stands for all profiles at once, so a request that names one is not free to depend
on anything else: not on its other references, not on a profile embedded in the source, not on
how colours are rendered otherwise, and not on files other than the link. `alike_of_link` compares
two such requests, which may ask for different things in different worlds. It rests on writing
the outcome as a function of what may matter, namely what stands where the link's path leads, the
intent, the format of the source's rows, and whether the writer inverts four components.
-/

set_option autoImplicit false

namespace Recolor

/-- The profile of a device link, by what stands where its path leads. -/
def Link.profileAt (node : Except FileFault FileNode) (path : Path) (intent : Intent) :
    Except Failure SampledProfile :=
  match node with
  | .error e => .error (if e.isAbsence then ProfileError.linkNotFound path else Fault.file e path)
  | .ok .folder => .error (Fault.file .isFolder path)
  | .ok (.file data) => Link.load data path.name intent.code

/-- What a request for a device link comes to, once there are its profile and the format of the
source's rows. -/
def Link.transformOf (p : SampledProfile) (format : PixelFormat) (invertsCmyk : Bool) :
    Except Failure Resolved :=
  if p.space ≠ some format.space then .error (.conversion (.mismatch p.space format.space))
  else
    match outputFormat p.pcs format.planar invertsCmyk with
    | .error e => .error e
    | .ok outputFormat =>
      .ok { plan := .link p, inputFormat := format, outputFormat, inputProfile := .sampled p }

/-- What a request for a device link comes to. The format is looked at before the profile. -/
def Link.outcome (format : Except SpaceError PixelFormat) (profile : Except Failure SampledProfile)
    (invertsCmyk : Bool) : Except Failure Resolved :=
  match format, profile with
  | .error e, _ => .error e
  | .ok _, .error e => .error e
  | .ok format, .ok p => transformOf p format invertsCmyk

/-- A transform that is a device link alone. -/
structure Resolved.ByLink (d : Resolved) : Prop where
  /-- The input profile is the link, and the transform evaluates it. -/
  link : ∃ p, d.inputProfile = .sampled p ∧ d.plan = .link p
  output : d.outputProfile = none
  proof : d.proofProfile = none
  embedded : d.usedEmbedded = false
  embeds : d.embedData = none

/-- What a device link comes to is a transform by that link alone. -/
theorem Link.byLink_of_outcome {format : Except SpaceError PixelFormat}
    {profile : Except Failure SampledProfile} {invertsCmyk : Bool} {d : Resolved}
    (h : outcome format profile invertsCmyk = .ok d) : d.ByLink := by
  cases format with
  | error e => simp [outcome] at h
  | ok format =>
    cases profile with
    | error e => simp [outcome] at h
    | ok p =>
      simp only [outcome, transformOf] at h
      split at h
      · simp at h
      · split at h
        · simp at h
        · simp only [Except.ok.injEq] at h
          subst h
          exact ⟨⟨p, rfl, rfl⟩, rfl, rfl, rfl, rfl⟩

/-- The world after a request for a device link: it is the world before, or the link was read. -/
def World.HasReadLink (w w' : World) (link : Reference) : Prop :=
  w' = w ∨ ∃ name, link = .named name ∧ w' = w.note (.read (Path.ofString name))

section Resolving

variable {r : Request} {s : Services} {w : World}

/-- Loading a device link depends on what stands where its path leads, and at most that is
read. -/
theorem Request.run_loadLink (r : Request) (path : Path) (s : Services) (w : World) :
    ∃ w', (r.loadLink path).run s w
        = ((Link.profileAt (w.files.node path) path r.rendering.intent).map .sampled, w')
      ∧ (w' = w ∨ w' = w.note (.read path)) := by
  rw [Request.loadLink, Work.run_ifHasPath]
  cases w.files.node path with
  | error e =>
    refine ⟨w, ?_, .inl rfl⟩
    cases habsent : e.isAbsence <;> simp [Link.profileAt, habsent, Except.map]
  | ok node =>
    refine ⟨w.note (.read path), ?_, .inr rfl⟩
    cases node with
    | folder => rfl
    | file data =>
      cases hload : Link.load data path.name r.rendering.intent.code with
      | error e => simp [Link.profileAt, hload, Except.map, Work.run_bind]
      | ok p => simp [Link.profileAt, hload, Except.map, Work.run_bind]

/-- What stands where a device link's path leads is a device link if it is loaded at all. -/
theorem Link.isLink_of_profileAt {node : Except FileFault FileNode} {path : Path}
    {intent : Intent} {p : SampledProfile} (h : profileAt node path intent = .ok p) :
    p.deviceClass = .link ∧ p.direction = .deviceLink := by
  match node with
  | .error e => simp [profileAt] at h
  | .ok .folder => simp [profileAt] at h
  | .ok (.file data) => exact isLink_of_load h

/-- Once a device link is loaded, nothing more of the request matters. -/
theorem Request.run_resolve_of_sampled {source : SourceColor} {format : PixelFormat}
    {p : SampledProfile} {w₁ : World} (invertsCmyk : Bool)
    (hformat : source.inputFormat = .ok format)
    (hinput : (r.resolveInput source format).run s w = (.ok (.sampled p, false), w₁))
    (hclass : p.deviceClass = .link) (hdirection : p.direction = .deviceLink) :
    (r.resolve source invertsCmyk).run s w = (Link.transformOf p format invertsCmyk, w₁) := by
  have hlink : (Profile.sampled p).isLink = true := by
    simp [Profile.isLink, Profile.deviceClass, hclass]
  have hothers : (r.resolveOthers (.sampled p)).run s w₁ = (.ok (none, none), w₁) := by
    simp [Request.resolveOthers, hlink]
  have hplan (g : PixelFormat) : (Plan.build format.fields g.fields (.sampled p) none none
      r.rendering).run s w₁ = (.ok (.link p), w₁) := by
    unfold Plan.build Plan.combine
    rw [if_pos hlink]
    dsimp only
    rw [if_pos hdirection]
    rfl
  rw [Request.run_resolve_of_profiles invertsCmyk hformat hinput hothers]
  unfold Link.transformOf
  by_cases hspace : p.space = some format.space
  · have hfits : (Profile.sampled p).space = some format.space := hspace
    rw [if_neg (not_not_intro hfits), if_neg (not_not_intro hspace)]
    unfold Request.planned
    cases hout : outputFormat p.pcs format.planar invertsCmyk with
    | error e =>
      simp only [Request.targetSpace, Profile.pcs, hout]
      rfl
    | ok g =>
      simp only [Request.targetSpace, Profile.pcs, hout]
      rw [Work.run_bind_of_ok (Work.run_lift_ok g), Work.run_bind_of_ok (hplan g)]
      rfl
  · have hdiffers : (Profile.sampled p).space ≠ some format.space := hspace
    rw [if_pos hdiffers, if_pos hspace]
    rfl

/-- Without a format for the source's rows nothing else is looked at. -/
theorem Request.run_resolve_of_format_error {source : SourceColor} {e : SpaceError}
    (invertsCmyk : Bool) (hformat : source.inputFormat = .error e) :
    (r.resolve source invertsCmyk).run s w = (.error e, w) := by
  unfold Request.resolve
  rw [hformat, Work.run_bind_of_error (Work.run_lift_error e)]
  rfl

/-- An input profile that cannot be resolved ends a request. -/
theorem Request.run_resolve_of_input_error {source : SourceColor} {format : PixelFormat}
    {e : Failure} {w₁ : World} (invertsCmyk : Bool) (hformat : source.inputFormat = .ok format)
    (hinput : (r.resolveInput source format).run s w = (.error e, w₁)) :
    (r.resolve source invertsCmyk).run s w = (.error e, w₁) := by
  unfold Request.resolve
  rw [hformat, Work.run_bind_of_ok (Work.run_lift_ok format), Work.run_bind_of_error hinput]

/-- The input profile of a request for a device link is the link. -/
theorem Request.run_resolveInput_of_named {name : String} (hlink : r.link = .named name)
    (source : SourceColor) (format : PixelFormat) (s : Services) (w : World) :
    ∃ w', (r.resolveInput source format).run s w
        = ((Link.profileAt (w.files.node (Path.ofString name)) (Path.ofString name)
            r.rendering.intent).map fun p => (.sampled p, false), w')
      ∧ (w' = w ∨ w' = w.note (.read (Path.ofString name))) := by
  obtain ⟨w', hrun, hworld⟩ := r.run_loadLink (Path.ofString name) s w
  refine ⟨w', ?_, hworld⟩
  unfold Request.resolveInput
  rw [hlink]
  dsimp only
  cases hprofile : Link.profileAt (w.files.node (Path.ofString name)) (Path.ofString name)
      r.rendering.intent with
  | error e =>
    rw [hprofile] at hrun
    rw [Work.run_bind_of_error hrun]
    rfl
  | ok p =>
    rw [hprofile] at hrun
    rw [Work.run_bind_of_ok hrun]
    rfl

/-- A request for a device link depends on what stands where the link's path leads, on the intent
and on the format of the source's rows, and at most the link is read. -/
theorem Request.run_resolve_of_named {name : String} (hlink : r.link = .named name)
    (source : SourceColor) (invertsCmyk : Bool) (s : Services) (w : World) :
    ∃ w', (r.resolve source invertsCmyk).run s w
        = (Link.outcome source.inputFormat (Link.profileAt (w.files.node (Path.ofString name))
            (Path.ofString name) r.rendering.intent) invertsCmyk, w')
      ∧ (w' = w ∨ w' = w.note (.read (Path.ofString name))) := by
  cases hformat : source.inputFormat with
  | error e => exact ⟨w, r.run_resolve_of_format_error invertsCmyk hformat, .inl rfl⟩
  | ok format =>
    obtain ⟨w', hinput, hworld⟩ := Request.run_resolveInput_of_named hlink source format s w
    refine ⟨w', ?_, hworld⟩
    cases hprofile : Link.profileAt (w.files.node (Path.ofString name)) (Path.ofString name)
        r.rendering.intent with
    | error e =>
      rw [hprofile] at hinput
      exact Request.run_resolve_of_input_error invertsCmyk hformat hinput
    | ok p =>
      rw [hprofile] at hinput
      obtain ⟨hclass, hdirection⟩ := Link.isLink_of_profileAt hprofile
      exact Request.run_resolve_of_sampled invertsCmyk hformat hinput hclass hdirection

/-- A device link that is no path is refused, and nothing is read. -/
theorem Request.run_resolve_of_invalid {v : Value} (hlink : r.link = .invalid v)
    (source : SourceColor) (invertsCmyk : Bool) (s : Services) (w : World) :
    (r.resolve source invertsCmyk).run s w
      = (Link.outcome source.inputFormat (.error (Fault.notAPath v)) invertsCmyk, w) := by
  cases hformat : source.inputFormat with
  | error e => exact r.run_resolve_of_format_error invertsCmyk hformat
  | ok format =>
    have hinput : (r.resolveInput source format).run s w = (.error (Fault.notAPath v), w) := by
      unfold Request.resolveInput
      rw [hlink]
      rfl
    exact Request.run_resolve_of_input_error invertsCmyk hformat hinput

end Resolving

/-- Two requests for the same device link with the same intent come to the same, if their sources
have rows of the same format and the same stands where the link's path leads. Nothing else of
them, of the services and of the files matters. What they come to is a failure or a transform that
is the link alone, and no other file than the link is read, and none is written. -/
theorem Request.alike_of_link {r₁ r₂ : Request} {source₁ source₂ : SourceColor} {w₁ w₂ : World}
    (s₁ s₂ : Services) (invertsCmyk : Bool) (hset : r₁.link ≠ .unset) (hlink : r₂.link = r₁.link)
    (hintent : r₂.rendering.intent = r₁.rendering.intent)
    (hformat : source₂.inputFormat = source₁.inputFormat)
    (hnode : ∀ name, r₁.link = .named name →
      w₂.files.node (Path.ofString name) = w₁.files.node (Path.ofString name)) :
    ((r₁.resolve source₁ invertsCmyk).run s₁ w₁).1 = ((r₂.resolve source₂ invertsCmyk).run s₂ w₂).1
      ∧ (∀ d, ((r₁.resolve source₁ invertsCmyk).run s₁ w₁).1 = .ok d → d.ByLink)
      ∧ w₁.HasReadLink ((r₁.resolve source₁ invertsCmyk).run s₁ w₁).2 r₁.link
      ∧ w₂.HasReadLink ((r₂.resolve source₂ invertsCmyk).run s₂ w₂).2 r₂.link := by
  cases hkind : r₁.link with
  | unset => exact absurd hkind hset
  | invalid v =>
    rw [Request.run_resolve_of_invalid hkind source₁ invertsCmyk s₁ w₁,
      Request.run_resolve_of_invalid (hlink.trans hkind) source₂ invertsCmyk s₂ w₂, hformat]
    exact ⟨rfl, fun d h => Link.byLink_of_outcome h, .inl rfl, .inl rfl⟩
  | named name =>
    obtain ⟨w₁', hrun₁, hworld₁⟩ :=
      Request.run_resolve_of_named hkind source₁ invertsCmyk s₁ w₁
    obtain ⟨w₂', hrun₂, hworld₂⟩ :=
      Request.run_resolve_of_named (hlink.trans hkind) source₂ invertsCmyk s₂ w₂
    rw [hrun₁, hrun₂, hformat, hnode name hkind, hintent, hlink, hkind]
    exact ⟨rfl, fun d h => Link.byLink_of_outcome h, hworld₁.imp_right fun h => ⟨name, rfl, h⟩,
      hworld₂.imp_right fun h => ⟨name, rfl, h⟩⟩

/-- A device link of one channel to itself that leaves every sample as it is. -/
def identityLink : Bytes :=
  headerOf "linkGRAYGRAY" ++ Bytes.ofNat 4 1 ++ Bytes.ofText "A2B0" ++ Bytes.ofNat 4 144
    ++ Bytes.ofNat 4 64 ++ Bytes.ofText "mft2" ++ [0, 0, 0, 0, 1, 1, 2] ++ List.replicate 37 0
    ++ Bytes.ofNat 2 2 ++ Bytes.ofNat 2 2
    ++ [0, 0, 255, 255] ++ [0, 0, 255, 255] ++ [0, 0, 255, 255]

/-- In such a folder the name of the link leads to its file. -/
theorem node_identityLink {t : FileTree}
    (h : t.nodes.lookup ["a.icc"] = some (.file identityLink)) :
    t.node (Path.ofString "a.icc") = .ok (.file identityLink) := by
  have hpath : Path.ofString "a.icc" = { parts := ["a.icc"] } := by decide +kernel
  have hplain : FileTree.IsPlain "a.icc" := by decide +kernel
  rw [hpath]
  exact FileTree.node_name hplain h

/-- Requests that agree on nothing but a device link are resolved to it alike, in folders that
agree on nothing but its file. -/
theorem Request.alike_identity :
    let r₁ : Request := { link := .named "a.icc" }
    let r₂ : Request :=
      { link := .named "a.icc", input := .named "none.icc", output := .named "*Lab"
        proof := .named "none.icc", ignoreEmbedded := true, embedProfile := true
        saveEmbedded := .named "saved.icc", folders := [Path.ofString "profiles"] }
    let source₁ : SourceColor := { space := .grayscale }
    let source₂ : SourceColor :=
      { space := .grayscale, embedded := some (headerOf "prtrCMYKLab "), components := some 1 }
    let s : Services := { engine := ArithmeticEngine.engine, codec := Codec.ofPictures [] none }
    let w₁ : World := { files := { nodes := [(["a.icc"], .file identityLink)] } }
    let w₂ : World :=
      { files := { nodes := [(["none.icc"], .folder), (["a.icc"], .file identityLink)] } }
    ((r₁.resolve source₁ true).run s w₁).1 = ((r₂.resolve source₂ true).run s w₂).1
      ∧ ∃ d, ((r₁.resolve source₁ true).run s w₁).1 = .ok d ∧ d.ByLink := by
  intro r₁ r₂ source₁ source₂ s w₁ w₂
  have hnode₁ : w₁.files.node (Path.ofString "a.icc") = .ok (.file identityLink) :=
    node_identityLink (by decide +kernel)
  have hnode₂ : w₂.files.node (Path.ofString "a.icc") = .ok (.file identityLink) :=
    node_identityLink (by decide +kernel)
  have hnode : ∀ name, r₁.link = .named name →
      w₂.files.node (Path.ofString name) = w₁.files.node (Path.ofString name) := by
    intro name hname
    cases hname
    rw [hnode₁, hnode₂]
  obtain ⟨halike, hlink, -⟩ := @Request.alike_of_link r₁ r₂ source₁ source₂ w₁ w₂ s s true
    (by simp [r₁]) rfl rfl rfl hnode
  obtain ⟨w', hrun, -⟩ := Request.run_resolve_of_named (rfl : r₁.link = .named "a.icc") source₁
    true s w₁
  rw [hnode₁] at hrun
  have hok : (Link.outcome source₁.inputFormat (Link.profileAt (.ok (.file identityLink))
      (Path.ofString "a.icc") r₁.rendering.intent) true).isOk = true := by decide +kernel
  cases hout : Link.outcome source₁.inputFormat (Link.profileAt (.ok (.file identityLink))
      (Path.ofString "a.icc") r₁.rendering.intent) true with
  | ok d =>
    have hresult : ((r₁.resolve source₁ true).run s w₁).1 = .ok d := by rw [hrun, hout]
    exact ⟨halike, d, hresult, hlink d hresult⟩
  | error e =>
    rw [hout] at hok
    simp [Except.isOk, Except.toBool] at hok

end Recolor
