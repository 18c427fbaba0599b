import Recolor.World

/-!
# How work runs

A sequence of work succeeds exactly if each part does, each in the world that the part before
it left, and it fails with the failure of its first part that fails. Properties of a piece of
work follow that structure: which failures it can end in, what it leaves as it was, and whether it
only asks the engine for transforms. They hold of a sequence if they hold of its parts, so that a
longer piece of work is treated part by part and without its runs being looked at.
-/

set_option autoImplicit false

namespace Recolor

/-- The world after the engine was asked for transforms, in this order. -/
def World.asked (w : World) (requests : List BuildRequest) : World :=
  { w with events := w.events ++ requests.map .requested }

/-- Without requests the world stays as it is. -/
@[simp] theorem World.asked_nil (w : World) : w.asked [] = w := by
  simp [World.asked]

/-- Requests that follow others are noted behind them. -/
@[simp] theorem World.asked_asked (w : World) (first next : List BuildRequest) :
    (w.asked first).asked next = w.asked (first ++ next) := by
  simp [World.asked]

/-- The first of several requests is noted first. -/
theorem World.asked_cons (w : World) (b : BuildRequest) (rest : List BuildRequest) :
    w.asked (b :: rest) = (w.note (.requested b)).asked rest := by
  simp [World.asked, World.note]

namespace Work

variable {α β : Type}

section Runs

variable {s : Services} {w w' : World}

/-- Work after other work succeeds exactly if both do. -/
theorem run_bind_ok_iff {t : Work α} {k : α → Work β} {b : β} :
    (t >>= k).run s w = (.ok b, w') ↔
      ∃ a w₁, t.run s w = (.ok a, w₁) ∧ (k a).run s w₁ = (.ok b, w') := by
  rw [run_bind]
  cases h : t.run s w with
  | mk result w₁ =>
    cases result with
    | error e => simp
    | ok a =>
      constructor
      · intro hk
        exact ⟨a, w₁, rfl, hk⟩
      · rintro ⟨a', w₂, heq, hk⟩
        cases heq
        exact hk

/-- Work after other work fails if the first part does, or else the second one. -/
theorem run_bind_error_iff {t : Work α} {k : α → Work β} {e : Failure} :
    (t >>= k).run s w = (.error e, w') ↔
      t.run s w = (.error e, w') ∨
        ∃ a w₁, t.run s w = (.ok a, w₁) ∧ (k a).run s w₁ = (.error e, w') := by
  rw [run_bind]
  cases h : t.run s w with
  | mk result w₁ =>
    cases result with
    | error e => simp
    | ok a =>
      constructor
      · intro hk
        exact .inr ⟨a, w₁, rfl, hk⟩
      · rintro (heq | ⟨a', w₂, heq, hk⟩)
        · cases heq
        · cases heq
          exact hk

/-- After work that succeeds the rest runs in the world it left. -/
theorem run_bind_of_ok {t : Work α} {k : α → Work β} {a : α} {w₁ : World}
    (h : t.run s w = (.ok a, w₁)) : (t >>= k).run s w = (k a).run s w₁ := by
  rw [run_bind, h]

/-- After work that fails nothing more is done. -/
theorem run_bind_of_error {t : Work α} {k : α → Work β} {e : Failure} {w₁ : World}
    (h : t.run s w = (.error e, w₁)) : (t >>= k).run s w = (.error e, w₁) := by
  rw [run_bind, h]

/-- In a sequence it does not matter which parts are taken together. -/
theorem bind_assoc {γ : Type} (t : Work α) (k : α → Work β) (l : β → Work γ) :
    t >>= k >>= l = t >>= fun a => k a >>= l := by
  funext s w
  show (t >>= k >>= l).run s w = (t >>= fun a => k a >>= l).run s w
  rw [run_bind, run_bind, run_bind]
  cases t.run s w with
  | mk result w₁ => cases result <;> rfl

/-- What fails changes nothing. -/
@[simp] theorem run_fail (e : Failure) : (fail e : Work α).run s w = (.error e, w) := rfl

/-- A result that is there already changes nothing. -/
@[simp] theorem run_ofExcept (r : Except Failure α) : (ofExcept r).run s w = (r, w) := rfl

/-- Looking at the services changes nothing. -/
@[simp] theorem run_services : services.run s w = (.ok s, w) := rfl

/-- Looking at the files changes nothing. -/
@[simp] theorem run_files : files.run s w = (.ok w.files, w) := rfl

/-- Noting an event always succeeds. -/
@[simp] theorem run_note (e : Event) : (note e).run s w = (.ok (), w.note e) := rfl

/-- Looking at the outcome of work turns its failure into a result. -/
@[simp] theorem run_outcome (t : Work α) :
    (outcome t).run s w = (.ok (t.run s w).1, (t.run s w).2) := rfl

/-- A lifted result changes nothing. -/
@[simp] theorem run_lift_ok {ε : Type} [Coe ε Failure] (a : α) :
    (lift (.ok a : Except ε α)).run s w = (.ok a, w) := rfl

/-- A lifted error becomes a failure and changes nothing. -/
@[simp] theorem run_lift_error {ε : Type} [Coe ε Failure] (e : ε) :
    (lift (.error e : Except ε α)).run s w = (.error (Coe.coe e), w) := rfl

/-- A lifted result succeeds exactly if the result is there, and changes nothing. -/
theorem run_lift_ok_iff {ε : Type} [Coe ε Failure] {r : Except ε α} {a : α} :
    (lift r).run s w = (.ok a, w') ↔ r = .ok a ∧ w' = w := by
  cases r with
  | error e => simp
  | ok b => simp [eq_comm]

/-- Reading succeeds exactly if the file is there; only the attempt is noted. -/
theorem run_readFile_ok_iff {p : Path} {content : Bytes} :
    (readFile p).run s w = (.ok content, w') ↔
      w.files.read p = .ok content ∧ w' = w.note (.read p) := by
  simp only [run, readFile]
  cases w.files.read p with
  | error e => simp
  | ok c => simp [eq_comm]

/-- Asking for a path changes nothing. -/
theorem run_hasPath_ok_iff {p : Path} {b : Bool} :
    (hasPath p).run s w = (.ok b, w') ↔ w.files.hasPath p = .ok b ∧ w' = w := by
  simp only [run, hasPath]
  cases w.files.hasPath p with
  | error e => simp
  | ok c => simp [eq_comm]

/-- Work with the data of a file that goes another way if nothing is there. -/
theorem run_ifHasPath (p : Path) (k : Bytes → Work α) (absent : Work α) (s : Services)
    (w : World) :
    (do if ← hasPath p then
          let data ← readFile p
          k data
        else absent : Work α).run s w = match w.files.node p with
      | .error e => if e.isAbsence then absent.run s w else (.error (Fault.file e p), w)
      | .ok .folder => (.error (Fault.file .isFolder p), w.note (.read p))
      | .ok (.file data) => (k data).run s (w.note (.read p)) := by
  cases hnode : w.files.node p with
  | error e =>
    cases habsent : e.isAbsence with
    | true =>
      have hfound : (hasPath p).run s w = (.ok false, w) := by
        simp [run, hasPath, FileTree.hasPath, FileTree.leadsTo, hnode, habsent]
      rw [run_bind_of_ok hfound]
      simp [habsent]
    | false =>
      have hrefused : (hasPath p).run s w = (.error (Fault.file e p), w) := by
        simp [run, hasPath, FileTree.hasPath, FileTree.leadsTo, hnode, habsent]
      rw [run_bind_of_error hrefused]
      simp [habsent]
  | ok node =>
    have hfound : (hasPath p).run s w = (.ok true, w) := by
      simp [run, hasPath, FileTree.hasPath, FileTree.leadsTo, hnode]
    rw [run_bind_of_ok hfound, if_pos rfl]
    cases node with
    | folder =>
      have hread : (readFile p).run s w
          = (.error (Fault.file .isFolder p), w.note (.read p)) := by
        simp [run, readFile, FileTree.read, hnode]
      rw [run_bind_of_error hread]
    | file data =>
      have hread : (readFile p).run s w = (.ok data, w.note (.read p)) := by
        simp [run, readFile, FileTree.read, hnode]
      rw [run_bind_of_ok hread]

/-- Asking for the size of a file changes nothing. -/
theorem run_fileSize_ok_iff {p : Path} {n : Nat} :
    (fileSize p).run s w = (.ok n, w') ↔
      (∃ content, w.files.read p = .ok content ∧ content.length = n) ∧ w' = w := by
  simp only [run, fileSize]
  cases w.files.read p with
  | error e => simp
  | ok c => simp [eq_comm]

/-- A file that is written is in the files, and noted. -/
theorem run_writeFile_ok_iff {p : Path} {content : Bytes} :
    (writeFile p content).run s w = (.ok (), w') ↔
      ∃ files, w.files.write p content = .ok files ∧ w' = { w with files }.note (.wrote p) := by
  simp only [run, writeFile]
  cases w.files.write p content with
  | error e => simp
  | ok files => simp [eq_comm]

/-- A picture is encoded if the encoder makes bytes of it that can be written; it is noted before
it is written. -/
theorem run_encode_ok_iff {job : EncodeJob} :
    (encode job).run s w = (.ok (), w') ↔ ∃ content files, s.codec.encode job = .ok content
      ∧ w.files.write job.path content = .ok files
      ∧ w' = ({ w with files }.note (.encoded job)).note (.wrote job.path) := by
  cases hencode : s.codec.encode job with
  | error e => simp [run, encode, hencode]
  | ok content =>
    have hrun : (encode job).run s w
        = (writeFile job.path content).run s (w.note (.encoded job)) := by
      simp only [run, encode, hencode]
    simp only [hrun, run_writeFile_ok_iff, Except.ok.injEq]
    constructor
    · rintro ⟨files, hfiles, rfl⟩
      exact ⟨content, files, rfl, hfiles, rfl⟩
    · rintro ⟨_, files, rfl, hfiles, rfl⟩
      exact ⟨files, hfiles, rfl⟩

/-- A picture that cannot be encoded is noted, and no file is changed. -/
theorem run_encode_error {job : EncodeJob} {e : Failure}
    (h : (encode job).run s w = (.error e, w')) :
    w' = w.note (.encoded job) ∧ ∃ f : Fault, e = f := by
  simp only [run, encode] at h
  cases hencode : s.codec.encode job with
  | error f =>
    simp only [hencode, Prod.mk.injEq, Except.error.injEq] at h
    exact ⟨h.2.symm, f, h.1.symm⟩
  | ok content =>
    simp only [hencode, writeFile] at h
    cases hwrite : (w.note (.encoded job)).files.write job.path content with
    | ok files => simp [hwrite] at h
    | error fault =>
      simp only [hwrite, Prod.mk.injEq, Except.error.injEq] at h
      exact ⟨h.2.symm, _, h.1.symm⟩

end Runs

/-! ## Failures -/

/-- Work all of whose failures are of a kind. -/
def FailsOnly (P : Failure → Prop) (t : Work α) : Prop :=
  ∀ s w e w', t.run s w = (.error e, w') → P e

namespace FailsOnly

variable {P : Failure → Prop}

/-- A result that is given does not fail. -/
theorem pure (a : α) : FailsOnly P (Pure.pure a : Work α) := by
  intro s w e w' h
  simp at h

/-- A failure of the kind is of the kind. -/
theorem fail {e : Failure} (he : P e) : FailsOnly P (Work.fail e : Work α) := by
  intro s w e' w' h
  simp only [run_fail, Prod.mk.injEq, Except.error.injEq] at h
  exact h.1 ▸ he

/-- A result that is there already fails as it says. -/
theorem ofExcept {r : Except Failure α} (hr : ∀ e, r = .error e → P e) :
    FailsOnly P (Work.ofExcept r) := by
  intro s w e w' h
  simp only [run_ofExcept, Prod.mk.injEq] at h
  exact hr e h.1

/-- A lifted result fails with the errors that are lifted. -/
theorem lift {ε : Type} [Coe ε Failure] (r : Except ε α) (hP : ∀ e : ε, P (Coe.coe e)) :
    FailsOnly P (Work.lift r) := by
  intro s w e w' h
  cases r with
  | ok a => simp at h
  | error e' =>
    simp only [run_lift_error, Prod.mk.injEq, Except.error.injEq] at h
    exact h.1 ▸ hP e'

/-- Looking at the services does not fail. -/
theorem services : FailsOnly P Work.services := by
  intro s w e w' h
  simp at h

/-- Looking at the files does not fail. -/
theorem files : FailsOnly P Work.files := by
  intro s w e w' h
  simp at h

/-- Noting an event does not fail. -/
theorem note (event : Event) : FailsOnly P (Work.note event) := by
  intro s w e w' h
  simp at h

/-- Asking for a path only fails with faults. -/
theorem hasPath (p : Path) (hP : ∀ f : Fault, P f) : FailsOnly P (Work.hasPath p) := by
  intro s w e w' h
  simp only [run, Work.hasPath] at h
  cases hpath : w.files.hasPath p with
  | ok found => simp [hpath] at h
  | error f =>
    simp only [hpath, Prod.mk.injEq, Except.error.injEq] at h
    exact h.1 ▸ hP _

/-- Reading a file only fails with faults. -/
theorem readFile (p : Path) (hP : ∀ f : Fault, P f) : FailsOnly P (Work.readFile p) := by
  intro s w e w' h
  simp only [run, Work.readFile] at h
  cases hread : w.files.read p with
  | ok content => simp [hread] at h
  | error f =>
    simp only [hread, Prod.mk.injEq, Except.error.injEq] at h
    exact h.1 ▸ hP _

/-- The failures of a sequence are those of its parts. -/
theorem bind {t : Work α} {k : α → Work β} (ht : FailsOnly P t) (hk : ∀ a, FailsOnly P (k a)) :
    FailsOnly P (t >>= k) := by
  intro s w e w' h
  rcases run_bind_error_iff.mp h with h | ⟨a, w₁, -, h⟩
  · exact ht s w e w' h
  · exact hk a s w₁ e w' h

/-- The failures of a choice are those of both ways, each where it is taken. -/
theorem ite {c : Prop} [Decidable c] {t u : Work α} (ht : c → FailsOnly P t)
    (hu : ¬c → FailsOnly P u) : FailsOnly P (if c then t else u) := by
  split
  · exact ht ‹_›
  · exact hu ‹_›

end FailsOnly

/-! ## What stays as it was -/

/-- Work that leaves something observed of the world as it was, whether it fails or not. -/
def Leaves {γ : Type} (view : World → γ) (t : Work α) : Prop :=
  ∀ s w, view (t.run s w).2 = view w

namespace Leaves

variable {γ : Type} {view : World → γ}

/-- What a run that is known leaves as it was. -/
theorem apply {t : Work α} (ht : Leaves view t) {s : Services} {w w' : World}
    {r : Except Failure α} (h : t.run s w = (r, w')) : view w' = view w := by
  have := ht s w
  rwa [h] at this

/-- A result that is given leaves everything. -/
theorem pure (a : α) : Leaves view (Pure.pure a : Work α) := fun _ _ => rfl

/-- A failure leaves everything. -/
theorem fail (e : Failure) : Leaves view (Work.fail e : Work α) := fun _ _ => rfl

/-- A result that is there already leaves everything. -/
theorem ofExcept (r : Except Failure α) : Leaves view (Work.ofExcept r) := fun _ _ => rfl

/-- Looking at the services leaves everything. -/
theorem services : Leaves view Work.services := fun _ _ => rfl

/-- Looking at the files leaves everything. -/
theorem files : Leaves view Work.files := fun _ _ => rfl

/-- A lifted result leaves everything. -/
theorem lift {ε : Type} [Coe ε Failure] (r : Except ε α) : Leaves view (Work.lift r) := by
  cases r with
  | ok a => exact pure a
  | error e => exact fail _

/-- Looking at the outcome of work leaves what the work leaves. -/
theorem outcome {t : Work α} (ht : Leaves view t) : Leaves view (Work.outcome t) :=
  fun s w => ht s w

/-- Asking for a path leaves everything. -/
theorem hasPath (p : Path) : Leaves view (Work.hasPath p) := by
  intro s w
  simp only [run, Work.hasPath]
  cases w.files.hasPath p <;> rfl

/-- A sequence leaves what its parts leave. -/
theorem bind {t : Work α} {k : α → Work β} (ht : Leaves view t) (hk : ∀ a, Leaves view (k a)) :
    Leaves view (t >>= k) := by
  intro s w
  rw [run_bind]
  cases h : t.run s w with
  | mk r w₁ =>
    cases r with
    | error e => exact ht.apply h
    | ok a => rw [← ht.apply h]; exact hk a s w₁

/-- A choice leaves what both ways leave. -/
theorem ite {c : Prop} [Decidable c] {t u : Work α} (ht : Leaves view t) (hu : Leaves view u) :
    Leaves view (if c then t else u) := by
  split
  · exact ht
  · exact hu

/-- Reading leaves what the attempt itself leaves. -/
theorem readFile {p : Path} (h : ∀ w : World, view (w.note (.read p)) = view w) :
    Leaves view (Work.readFile p) := by
  intro s w
  simp only [run, Work.readFile]
  cases w.files.read p with
  | error e => exact h w
  | ok content => exact h w

/-- Noting an event leaves what the event itself leaves. -/
theorem note {e : Event} (h : ∀ w : World, view (w.note e) = view w) :
    Leaves view (Work.note e) := fun _ w => h w

/-- Writing a file leaves what neither the files nor the note of it are part of. -/
theorem writeFile {p : Path} {content : Bytes}
    (h : ∀ (w : World) files, view ({ w with files }.note (.wrote p)) = view w) :
    Leaves view (Work.writeFile p content) := by
  intro s w
  simp only [run, Work.writeFile]
  cases w.files.write p content with
  | error e => rfl
  | ok files => exact h w files

end Leaves

/-! ## What is noted -/

/-- Noting anything but a request leaves the requests as they were. -/
theorem requests_note {w : World} {e : Event} (he : ∀ r, e ≠ .requested r) :
    (w.note e).requests = w.requests := by
  cases e with
  | requested r => exact absurd rfl (he r)
  | _ => simp [World.requests, World.note]

/-- Noting anything but a picture that is encoded leaves these as they were. -/
theorem jobs_note {w : World} {e : Event} (he : ∀ j, e ≠ .encoded j) :
    (w.note e).jobs = w.jobs := by
  cases e with
  | encoded j => exact absurd rfl (he j)
  | _ => simp [World.jobs, World.note]

/-! ## Requests to the engine -/

/-- Work that looks at nothing in the world and does nothing in it but ask the engine for
transforms. -/
def AsksOnly (t : Work α) : Prop :=
  ∀ s, ∃ result requests, ∀ w, t.run s w = (result, w.asked requests)

namespace AsksOnly

/-- Work that leaves the world as it is and does not look at it. -/
theorem of_run {t : Work α} (result : Except Failure α) (h : ∀ s w, t.run s w = (result, w)) :
    AsksOnly t := by
  intro s
  refine ⟨result, [], fun w => ?_⟩
  rw [h, World.asked_nil]

/-- A result that is given needs nothing. -/
theorem pure (a : α) : AsksOnly (Pure.pure a : Work α) :=
  of_run (.ok a) fun _ _ => rfl

/-- A failure needs nothing. -/
theorem fail (e : Failure) : AsksOnly (Work.fail e : Work α) :=
  of_run (.error e) fun _ _ => rfl

/-- A result that is there already needs nothing. -/
theorem ofExcept (r : Except Failure α) : AsksOnly (Work.ofExcept r) :=
  of_run r fun _ _ => rfl

/-- A lifted result needs nothing. -/
theorem lift {ε : Type} [Coe ε Failure] (r : Except ε α) : AsksOnly (Work.lift r) := by
  cases r with
  | ok a => exact pure a
  | error e => exact fail _

/-- A sequence of such work asks for what its parts ask for. -/
theorem bind {t : Work α} {k : α → Work β} (ht : AsksOnly t) (hk : ∀ a, AsksOnly (k a)) :
    AsksOnly (t >>= k) := by
  intro s
  obtain ⟨result, first, hrun⟩ := ht s
  cases result with
  | error e => exact ⟨.error e, first, fun w => run_bind_of_error (hrun w)⟩
  | ok a =>
    obtain ⟨result, next, hrest⟩ := hk a s
    refine ⟨result, first ++ next, fun w => ?_⟩
    rw [run_bind_of_ok (hrun w), hrest, World.asked_asked]

/-- A choice of such work is such work. -/
theorem ite {c : Prop} [Decidable c] {t u : Work α} (ht : AsksOnly t) (hu : AsksOnly u) :
    AsksOnly (if c then t else u) := by
  split
  · exact ht
  · exact hu

/-- Such work leaves what passes over requests. -/
theorem leaves {γ : Type} {view : World → γ} {t : Work α} (ht : AsksOnly t)
    (hv : ∀ (w : World) b, view (w.note (.requested b)) = view w) : Leaves view t := by
  have passed (requests : List BuildRequest) (w : World) : view (w.asked requests) = view w := by
    induction requests generalizing w with
    | nil => rw [World.asked_nil]
    | cons b rest ih => rw [World.asked_cons, ih, hv]
  intro s w
  obtain ⟨result, requests, hrun⟩ := ht s
  rw [hrun]
  exact passed requests w

end AsksOnly

/-! ## What the result depends on -/

/-- Work whose result depends on nothing of the world but what is observed of it. -/
def DeterminedBy {γ : Type} (view : World → γ) (t : Work α) : Prop :=
  ∀ s w w', view w = view w' → (t.run s w).1 = (t.run s w').1

namespace DeterminedBy

variable {γ : Type} {view : World → γ}

/-- A result that is given depends on nothing. -/
theorem pure (a : α) : DeterminedBy view (Pure.pure a : Work α) := fun _ _ _ _ => rfl

/-- A failure depends on nothing. -/
theorem fail (e : Failure) : DeterminedBy view (Work.fail e : Work α) := fun _ _ _ _ => rfl

/-- A result that is there already depends on nothing. -/
theorem ofExcept (r : Except Failure α) : DeterminedBy view (Work.ofExcept r) :=
  fun _ _ _ _ => rfl

/-- The services depend on nothing of the world. -/
theorem services : DeterminedBy view Work.services := fun _ _ _ _ => rfl

/-- What comes second is run in another world, so the first part has to leave what the second one
depends on. -/
theorem bind {t : Work α} {k : α → Work β} (ht : DeterminedBy view t) (hleaves : Leaves view t)
    (hk : ∀ a, DeterminedBy view (k a)) : DeterminedBy view (t >>= k) := by
  intro s w w' hsame
  have hresult := ht s w w' hsame
  rw [run_bind, run_bind]
  cases h : t.run s w with
  | mk r w₁ =>
    cases h' : t.run s w' with
    | mk r' w₁' =>
      rw [h, h'] at hresult
      cases hresult
      cases r with
      | error e => rfl
      | ok a => exact hk a s w₁ w₁' ((hleaves.apply h).trans (hsame.trans (hleaves.apply h').symm))

/-- The result of a choice depends on what the results of both ways depend on. -/
theorem ite {c : Prop} [Decidable c] {t u : Work α} (ht : c → DeterminedBy view t)
    (hu : ¬c → DeterminedBy view u) : DeterminedBy view (if c then t else u) := by
  split
  · exact ht ‹_›
  · exact hu ‹_›

end DeterminedBy

/-- Work that only asks the engine depends on nothing of the world. -/
theorem AsksOnly.determinedBy {γ : Type} {view : World → γ} {t : Work α} (ht : AsksOnly t) :
    DeterminedBy view t := by
  intro s w w' _
  obtain ⟨result, requests, hrun⟩ := ht s
  rw [hrun, hrun]

end Work

end Recolor
