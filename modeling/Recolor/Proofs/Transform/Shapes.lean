import Recolor.Cms.Arithmetic
import Recolor.Profile.Virtual
import Recolor.Proofs.Work.Runs
import Recolor.Transform.Plan

/-!
# The shapes of plans

Which plan is built of given profiles, and what the engine is asked for on the way, is a matter of
the sorts of the profiles: without a device link there is one transform of the engine for ICC
profiles, and a chain through Lab colours as soon as a profile is sampled. `Combines` is that
choice as a relation, with every request to the engine written out, down to the bits of the
engine's flags. The main statement `build_shapes` says that exactly the related plans are built,
which profiles are always refused, and what a device link comes to.
-/

set_option autoImplicit false

namespace Recolor

/-- The switch that a place of the engine's flags is for; the normal mode of precalculation has no
place of its own. -/
def TransformFlags.bit (f : TransformFlags) : Nat → Bool
  | 8 => f.precalc = .off
  | 10 => f.precalc = .highRes
  | 11 => f.precalc = .lowRes
  | 12 => f.gamutCheck
  | 13 => f.blackPoint
  | 14 => f.softProofing
  | _ => false

/-- The engine's flags stand for the switches of a transform: the bits that are set are those of
the switches that are on. -/
def EngineFlags.Carry (e : EngineFlags) (f : TransformFlags) : Prop :=
  ∀ place, e.word.testBit place = f.bit place

/-- The format has a colour space whose pixels the engine takes in a layout. -/
def FormatFields.HasMode (f : FormatFields) (mode : Mode) : Prop :=
  ∃ space, f.space = .known space ∧ space.engineMode? = some mode

/-- The format's colour space has a name. -/
def FormatFields.IsNamed (f : FormatFields) : Prop :=
  ∃ space, f.space = .known space

/-- A transform of the engine is its answer to what was wanted. -/
structure Built.Answers (t : Built) (engine : ColorEngine) (wanted : BuildRequest) : Prop where
  request : t.request = wanted
  map : engine.build wanted = .ok t.map

/-- What was asked of the engine for a half of a chain. -/
def InputHalf.requests : InputHalf → List BuildRequest
  | .table _ => []
  | .engine t => [t.request]

/-- What was asked of the engine for a half of a chain. -/
def OutputHalf.requests : OutputHalf → List BuildRequest
  | .table _ => []
  | .engine t => [t.request]

namespace Plan

/-- What was asked of the engine for a plan, in order. -/
def requests : Plan → List BuildRequest
  | .direct t => [t.request]
  | .link _ => []
  | .chain first middle last => first.requests ++ (middle.toList.map (·.request) ++ last.requests)

section Shapes

variable (engine : ColorEngine) (f g : FormatFields) (r : Rendering)

/-- The half of a chain that leads from device samples to Lab colours. -/
inductive IsInputHalf : Profile → InputHalf → Prop
  | table {p : SampledProfile} (direction : p.direction = .deviceToPcs) :
      IsInputHalf (.sampled p) (.table p)
  | engine {p : IccProfile} {mode : Mode} {flags : EngineFlags} {t : Built}
      (mode_eq : f.HasMode mode)
      (flags_eq : flags.Carry { blackPoint := r.flags.blackPoint, gamutCheck := false
                                precalc := r.flags.precalc, softProofing := false })
      (answers : t.Answers engine
        { input := p.source, output := .labD50, inputMode := mode, outputMode := .lab
          intent := r.intent, flags, proof := none }) :
      IsInputHalf (.icc p) (.engine t)

/-- The half of a chain that leads from Lab colours to device samples. -/
inductive IsOutputHalf : Profile → OutputHalf → Prop
  | table {p : SampledProfile} (direction : p.direction = .pcsToDevice) :
      IsOutputHalf (.sampled p) (.table p)
  | engine {p : IccProfile} {mode : Mode} {flags : EngineFlags} {t : Built}
      (mode_eq : g.HasMode mode)
      (flags_eq : flags.Carry { blackPoint := r.flags.blackPoint, gamutCheck := false
                                precalc := r.flags.precalc, softProofing := false })
      (answers : t.Answers engine
        { input := .labD50, output := p.source, inputMode := .lab, outputMode := mode
          intent := r.intent, flags, proof := none }) :
      IsOutputHalf (.icc p) (.engine t)

/-- The middle of a chain: there is none, or Lab colours are shown as the device of an ICC profile
reproduces them. -/
inductive IsProofStage : Option Profile → Option Built → Prop
  | none : IsProofStage none none
  | engine {c : IccProfile} {flags : EngineFlags} {t : Built}
      (flags_eq : flags.Carry { r.flags with softProofing := true })
      (answers : t.Answers engine
        { input := .labD50, output := .labD50, inputMode := .lab, outputMode := .lab
          intent := r.intent, flags, proof := some (c.source, r.proofIntent) }) :
      IsProofStage (some (.icc c)) (some t)

/-- The plans of profiles of which the first is no device link. -/
inductive Combines : Profile → Profile → Option Profile → Plan → Prop
  /-- Without a profile to proof against. -/
  | direct {a b : IccProfile} {inputMode outputMode : Mode} {flags : EngineFlags} {t : Built}
      (inputMode_eq : f.HasMode inputMode) (outputMode_eq : g.HasMode outputMode)
      (flags_eq : flags.Carry r.flags)
      (answers : t.Answers engine
        { input := a.source, output := b.source, inputMode, outputMode, intent := r.intent
          flags, proof := none }) :
      Combines (.icc a) (.icc b) none (.direct t)
  | proof {a b c : IccProfile} {inputMode outputMode : Mode} {flags : EngineFlags} {t : Built}
      (inputMode_eq : f.HasMode inputMode) (outputMode_eq : g.HasMode outputMode)
      (flags_eq : flags.Carry { r.flags with softProofing := true })
      (answers : t.Answers engine
        { input := a.source, output := b.source, inputMode, outputMode, intent := r.intent
          flags, proof := some (c.source, r.proofIntent) }) :
      Combines (.icc a) (.icc b) (some (.icc c)) (.direct t)
  | chain {input output : Profile} {proof : Option Profile} {first : InputHalf}
      {middle : Option Built} {last : OutputHalf}
      (sampled : input.isSampled = true ∨ output.isSampled = true)
      (first_eq : IsInputHalf engine f r input first)
      (middle_eq : IsProofStage engine r proof middle)
      (last_eq : IsOutputHalf engine g r output last) :
      Combines input output proof (.chain first middle last)

end Shapes

end Plan

section Flags

/-- The flags that the engine gets for some switches stand for these. -/
theorem TransformFlags.engineFlags_carry (f : TransformFlags) : f.engineFlags.Carry f := by
  obtain ⟨blackPoint, gamutCheck, precalc, softProofing⟩ := f
  have hlow : ∀ place < 15, (word ⟨blackPoint, gamutCheck, precalc, softProofing⟩).testBit place
      = bit ⟨blackPoint, gamutCheck, precalc, softProofing⟩ place := by
    cases precalc <;> cases blackPoint <;> cases gamutCheck <;> cases softProofing <;> decide
  have hend : word ⟨blackPoint, gamutCheck, precalc, softProofing⟩ < 2 ^ 15 := by
    cases precalc <;> cases blackPoint <;> cases gamutCheck <;> cases softProofing <;> decide
  intro place
  rcases Nat.lt_or_ge place 15 with hplace | hplace
  · exact hlow place hplace
  · -- neither the word nor the switches have anything to say past the last place
    have hnone : bit ⟨blackPoint, gamutCheck, precalc, softProofing⟩ place = false := by
      unfold bit
      split <;> first | omega | rfl
    rw [hnone]
    exact Nat.testBit_lt_two_pow
      (Nat.lt_of_lt_of_le hend (Nat.pow_le_pow_right (by decide) hplace))

/-- Switches are carried by one word of flags only. -/
theorem EngineFlags.carry_iff {e : EngineFlags} {f : TransformFlags} :
    e.Carry f ↔ e = f.engineFlags := by
  constructor
  · intro h
    obtain ⟨word⟩ := e
    rw [TransformFlags.engineFlags]
    congr 1
    exact Nat.eq_of_testBit_eq fun place => (h place).trans (f.engineFlags_carry place).symm
  · rintro rfl
    exact f.engineFlags_carry

end Flags

section Formats

variable {f : FormatFields}

/-- A format passes the check exactly if its encoding has a name. -/
theorem FormatFields.checkNamed_ok_iff : f.checkNamed = .ok () ↔ f.IsNamed := by
  unfold checkNamed IsNamed
  cases f.space with
  | known space => simp
  | other v => simp

/-- A format has exactly the mode that the engine finds for it. -/
theorem FormatFields.engineMode_ok_iff {mode : Mode} :
    f.engineMode = .ok mode ↔ f.HasMode mode := by
  unfold engineMode HasMode
  cases f.space with
  | other v => simp [Tag.space]
  | known space =>
    simp only [Tag.space, Space.engineMode]
    cases hmode : space.engineMode? with
    | none => simp [hmode]
    | some m => simp [hmode]

end Formats

namespace Plan

open Work

variable {s : Services} {w w' : World} {f g : FormatFields} {r : Rendering}

/-! ## Asking the engine -/

/-- A request succeeds exactly if the engine answers it, and asks once. -/
theorem request_ok_iff {b : BuildRequest} {t : Built} :
    (request b).run s w = (.ok t, w') ↔ t.Answers s.engine b ∧ w' = w.asked [b] := by
  simp only [Work.run, request, Work.build]
  cases hbuild : s.engine.build b with
  | error e =>
    refine iff_of_false (by simp) ?_
    rintro ⟨hanswers, -⟩
    rw [hanswers.map] at hbuild
    cases hbuild
  | ok map =>
    simp only [Prod.mk.injEq, Except.ok.injEq]
    constructor
    · rintro ⟨rfl, rfl⟩
      exact ⟨⟨rfl, hbuild⟩, rfl⟩
    · rintro ⟨⟨hrequest, hmap⟩, rfl⟩
      obtain ⟨request, map'⟩ := t
      cases hrequest
      cases hbuild.symm.trans hmap
      exact ⟨rfl, rfl⟩

section Halves

variable {α : Type} {wanted : Mode → BuildRequest} {make : Built → α}

/-- A half of a chain that the engine makes needs the layout of a format and an answer. -/
theorem askFor_ok_iff {half : α} :
    (do let mode ← Work.ofExcept f.engineMode
        let t ← request (wanted mode)
        return make t : Work α).run s w = (.ok half, w') ↔
      ∃ mode t, f.HasMode mode ∧ t.Answers s.engine (wanted mode) ∧ half = make t
        ∧ w' = w.asked [t.request] := by
  simp only [run_bind_ok_iff, run_ofExcept, request_ok_iff, run_pure, Prod.mk.injEq,
    Except.ok.injEq, ← FormatFields.engineMode_ok_iff]
  constructor
  · rintro ⟨mode, w₁, ⟨hmode, rfl⟩, t, w₂, ⟨hanswers, rfl⟩, rfl, rfl⟩
    exact ⟨mode, t, hmode, hanswers, rfl, by rw [hanswers.request]⟩
  · rintro ⟨mode, t, hmode, hanswers, rfl, rfl⟩
    exact ⟨mode, w, ⟨hmode, rfl⟩, t, _, ⟨hanswers, rfl⟩, rfl, by rw [hanswers.request]⟩

end Halves

/-! ## The parts of a chain -/

/-- The switches of both halves, whether there is a profile to proof against or not. -/
theorem half_flagsFor (r : Rendering) (proof : Option Profile) :
    (flagsFor r proof).half = { blackPoint := r.flags.blackPoint, gamutCheck := false
                                precalc := r.flags.precalc, softProofing := false } := by
  unfold flagsFor
  split <;> rfl

/-- The first half is built exactly if it has the shape of one, with the requests it is made of. -/
theorem inputHalf_ok_iff {p : Profile} {proof : Option Profile} {half : InputHalf} :
    (inputHalf f r.intent (flagsFor r proof).half p).run s w = (.ok half, w') ↔
      IsInputHalf s.engine f r p half ∧ w' = w.asked half.requests := by
  rw [half_flagsFor]
  cases p with
  | sampled p =>
    by_cases hdirection : p.direction = .deviceToPcs
    · simp only [inputHalf, if_pos hdirection, run_pure, Prod.mk.injEq, Except.ok.injEq]
      constructor
      · rintro ⟨rfl, rfl⟩
        exact ⟨.table hdirection, (World.asked_nil w).symm⟩
      · rintro ⟨⟨-⟩, rfl⟩
        exact ⟨rfl, (World.asked_nil w).symm⟩
    · simp only [inputHalf, if_neg hdirection, run_fail]
      refine iff_of_false (by simp) ?_
      rintro ⟨⟨hneeded⟩, -⟩
      exact hdirection hneeded
  | icc p =>
    refine askFor_ok_iff.trans ?_
    constructor
    · rintro ⟨mode, t, hmode, hanswers, rfl, rfl⟩
      exact ⟨.engine hmode (TransformFlags.engineFlags_carry _) hanswers, rfl⟩
    · rintro ⟨hhalf, rfl⟩
      cases hhalf with
      | engine hmode hflags hanswers =>
        obtain rfl := EngineFlags.carry_iff.mp hflags
        exact ⟨_, _, hmode, hanswers, rfl, rfl⟩

/-- The last half is built exactly if it has the shape of one, with the requests it is made of. -/
theorem outputHalf_ok_iff {p : Profile} {proof : Option Profile} {half : OutputHalf} :
    (outputHalf g r.intent (flagsFor r proof).half p).run s w = (.ok half, w') ↔
      IsOutputHalf s.engine g r p half ∧ w' = w.asked half.requests := by
  rw [half_flagsFor]
  cases p with
  | sampled p =>
    by_cases hdirection : p.direction = .pcsToDevice
    · simp only [outputHalf, if_pos hdirection, run_pure, Prod.mk.injEq, Except.ok.injEq]
      constructor
      · rintro ⟨rfl, rfl⟩
        exact ⟨.table hdirection, (World.asked_nil w).symm⟩
      · rintro ⟨⟨-⟩, rfl⟩
        exact ⟨rfl, (World.asked_nil w).symm⟩
    · simp only [outputHalf, if_neg hdirection, run_fail]
      refine iff_of_false (by simp) ?_
      rintro ⟨⟨hneeded⟩, -⟩
      exact hdirection hneeded
  | icc p =>
    refine askFor_ok_iff.trans ?_
    constructor
    · rintro ⟨mode, t, hmode, hanswers, rfl, rfl⟩
      exact ⟨.engine hmode (TransformFlags.engineFlags_carry _) hanswers, rfl⟩
    · rintro ⟨hhalf, rfl⟩
      cases hhalf with
      | engine hmode hflags hanswers =>
        obtain rfl := EngineFlags.carry_iff.mp hflags
        exact ⟨_, _, hmode, hanswers, rfl, rfl⟩

/-- The stage between the halves is built exactly if it has the shape of one, with its requests. -/
theorem proofStage_ok_iff {proof : Option Profile} {middle : Option Built} :
    (proofStage r (flagsFor r proof) proof).run s w = (.ok middle, w') ↔
      IsProofStage s.engine r proof middle ∧ w' = w.asked (middle.toList.map (·.request)) := by
  match proof with
  | none =>
    simp only [proofStage, run_pure, Prod.mk.injEq, Except.ok.injEq]
    constructor
    · rintro ⟨rfl, rfl⟩
      exact ⟨.none, (World.asked_nil w).symm⟩
    · rintro ⟨⟨⟩, rfl⟩
      exact ⟨rfl, (World.asked_nil w).symm⟩
  | some (.sampled p) =>
    simp only [proofStage, run_fail]
    refine iff_of_false (by simp) ?_
    rintro ⟨⟨⟩, -⟩
  | some (.icc c) =>
    simp only [proofStage, run_bind_ok_iff, request_ok_iff, run_pure, Prod.mk.injEq,
      Except.ok.injEq]
    constructor
    · rintro ⟨t, w₁, ⟨hanswers, rfl⟩, rfl, rfl⟩
      refine ⟨.engine (TransformFlags.engineFlags_carry _) hanswers, ?_⟩
      simp [hanswers.request]
    · rintro ⟨hstage, rfl⟩
      cases hstage with
      | engine hflags hanswers =>
        obtain rfl := EngineFlags.carry_iff.mp hflags
        refine ⟨_, _, ⟨hanswers, rfl⟩, rfl, ?_⟩
        simp [hanswers.request, flagsFor, TransformFlags.proofing]

/-- One transform of the engine for ICC profiles. -/
theorem direct_ok_iff {a b : IccProfile} {c : Option IccProfile} {plan : Plan} :
    (do let wanted ← Work.ofExcept
          (directRequest f g a b c r (flagsFor r (c.map .icc)))
        let t ← request wanted
        return .direct t : Work Plan).run s w = (.ok plan, w') ↔
      ∃ inputMode outputMode t, f.HasMode inputMode ∧ g.HasMode outputMode
        ∧ t.Answers s.engine
          { input := a.source, output := b.source, inputMode, outputMode, intent := r.intent
            flags := (flagsFor r (c.map .icc)).engineFlags
            proof := c.map fun c => (c.source, r.proofIntent) }
        ∧ plan = .direct t ∧ w' = w.asked plan.requests := by
  have wanted_ok {wanted : BuildRequest} :
      directRequest f g a b c r (flagsFor r (c.map .icc)) = .ok wanted ↔
        ∃ inputMode outputMode, f.HasMode inputMode ∧ g.HasMode outputMode
          ∧ wanted = { input := a.source, output := b.source, inputMode, outputMode
                       intent := r.intent, flags := (flagsFor r (c.map .icc)).engineFlags
                       proof := c.map fun c => (c.source, r.proofIntent) } := by
    simp only [← FormatFields.engineMode_ok_iff, directRequest]
    cases f.engineMode with
    | error e => simp
    | ok inputMode =>
      cases g.engineMode with
      | error e => simp
      | ok outputMode => simp [eq_comm]
  simp only [run_bind_ok_iff, run_ofExcept, request_ok_iff, run_pure, Prod.mk.injEq,
    wanted_ok, Except.ok.injEq]
  constructor
  · rintro ⟨wanted, w₁, ⟨⟨inputMode, outputMode, hf, hg, rfl⟩, rfl⟩, t, w₂, ⟨hanswers, rfl⟩, rfl, rfl⟩
    exact ⟨inputMode, outputMode, t, hf, hg, hanswers, rfl, by rw [requests, hanswers.request]⟩
  · rintro ⟨inputMode, outputMode, t, hf, hg, hanswers, rfl, rfl⟩
    exact ⟨_, w, ⟨⟨inputMode, outputMode, hf, hg, rfl⟩, rfl⟩, t, _, ⟨hanswers, rfl⟩, rfl,
      by rw [requests, hanswers.request]⟩

/-- A chain is built exactly if each of its stages is, in their order. -/
theorem chainOf_ok_iff {input output : Profile} {proof : Option Profile} {plan : Plan} :
    (chainOf f g input output proof r (flagsFor r proof)).run s w = (.ok plan, w') ↔
      ∃ first middle last, IsInputHalf s.engine f r input first
        ∧ IsProofStage s.engine r proof middle ∧ IsOutputHalf s.engine g r output last
        ∧ plan = .chain first middle last ∧ w' = w.asked plan.requests := by
  simp only [chainOf, run_bind_ok_iff, inputHalf_ok_iff, proofStage_ok_iff, outputHalf_ok_iff,
    run_pure, Prod.mk.injEq, Except.ok.injEq]
  constructor
  · rintro ⟨first, w₁, ⟨hfirst, rfl⟩, middle, w₂, ⟨hmiddle, rfl⟩, last, w₃, ⟨hlast, rfl⟩, rfl, rfl⟩
    refine ⟨first, middle, last, hfirst, hmiddle, hlast, rfl, ?_⟩
    simp [requests]
  · rintro ⟨first, middle, last, hfirst, hmiddle, hlast, rfl, rfl⟩
    refine ⟨first, _, ⟨hfirst, rfl⟩, middle, _, ⟨hmiddle, rfl⟩, last, _, ⟨hlast, rfl⟩, rfl, ?_⟩
    simp [requests]

/-- Without a device link exactly the plans are made that the profiles are related to. -/
theorem combine_ok_iff {input output : Profile} {proof : Option Profile} {plan : Plan}
    (hlink : input.isLink = false) :
    (combine f g input (some output) proof r).run s w = (.ok plan, w') ↔
      Combines s.engine f g r input output proof plan ∧ w' = w.asked plan.requests := by
  unfold combine
  rw [if_neg (by simp [hlink])]
  dsimp only
  split
  · rename_i a b
    refine (@direct_ok_iff _ _ _ _ _ _ a b none _).trans ?_
    constructor
    · rintro ⟨inputMode, outputMode, t, hf, hg, hanswers, rfl, rfl⟩
      exact ⟨.direct hf hg (TransformFlags.engineFlags_carry _) hanswers, rfl⟩
    · rintro ⟨hcombines, rfl⟩
      cases hcombines with
      | direct hf hg hflags hanswers =>
        obtain rfl := EngineFlags.carry_iff.mp hflags
        exact ⟨_, _, _, hf, hg, hanswers, rfl, rfl⟩
      | chain sampled => simp [Profile.isSampled] at sampled
  · rename_i a b c
    refine (@direct_ok_iff _ _ _ _ _ _ a b (some c) _).trans ?_
    constructor
    · rintro ⟨inputMode, outputMode, t, hf, hg, hanswers, rfl, rfl⟩
      exact ⟨.proof hf hg (TransformFlags.engineFlags_carry _) hanswers, rfl⟩
    · rintro ⟨hcombines, rfl⟩
      cases hcombines with
      | proof hf hg hflags hanswers =>
        obtain rfl := EngineFlags.carry_iff.mp hflags
        exact ⟨_, _, _, hf, hg, hanswers, rfl, rfl⟩
      | chain sampled => simp [Profile.isSampled] at sampled
  · rename_i hnone hsome
    refine chainOf_ok_iff.trans ?_
    constructor
    · rintro ⟨first, middle, last, hfirst, hmiddle, hlast, rfl, rfl⟩
      refine ⟨.chain ?_ hfirst hmiddle hlast, rfl⟩
      cases input with
      | sampled p => exact .inl rfl
      | icc a =>
        cases output with
        | sampled p => exact .inr rfl
        | icc b =>
          -- the profile to proof against would have to be sampled, and no stage is made of it
          cases hmiddle with
          | none => exact (hnone a b rfl rfl rfl).elim
          | engine => exact (hsome a b _ rfl rfl rfl).elim
    · rintro ⟨hcombines, rfl⟩
      cases hcombines with
      | direct => exact (hnone _ _ rfl rfl rfl).elim
      | proof => exact (hsome _ _ _ rfl rfl rfl).elim
      | chain _ hfirst hmiddle hlast => exact ⟨_, _, _, hfirst, hmiddle, hlast, rfl, rfl⟩

/-- A plan that is combined is built between formats with names, and nothing more is asked. -/
theorem build_ok_iff {input : Profile} {output proof : Option Profile} {plan : Plan} :
    (build f g input output proof r).run s w = (.ok plan, w') ↔
      f.IsNamed ∧ g.IsNamed ∧ (combine f g input output proof r).run s w = (.ok plan, w') := by
  simp only [build, run_bind_ok_iff, run_lift_ok_iff, run_pure, Prod.mk.injEq, Except.ok.injEq,
    ← FormatFields.checkNamed_ok_iff]
  constructor
  · rintro ⟨_, w₁, hcombine, ⟨⟩, w₂, ⟨hf, rfl⟩, ⟨⟩, w₃, ⟨hg, rfl⟩, rfl, rfl⟩
    exact ⟨hf, hg, hcombine⟩
  · rintro ⟨hf, hg, hcombine⟩
    exact ⟨plan, w', hcombine, (), w', ⟨hf, rfl⟩, (), w', ⟨hg, rfl⟩, rfl, rfl⟩

/-- Without a device link an output profile is needed. -/
theorem combine_none {input : Profile} {proof : Option Profile} (hlink : input.isLink = false) :
    combine f g input none proof r = Work.fail BuildError.noOutputProfile := by
  unfold combine
  rw [if_neg (by simp [hlink])]

/-- A device link is used as it is, or not at all. -/
theorem combine_of_isLink {input : Profile} {output proof : Option Profile}
    (hlink : input.isLink = true) :
    (∃ p, input = .sampled p ∧ p.direction = .deviceLink
        ∧ combine f g input output proof r = pure (.link p))
      ∨ ((∀ p, input = .sampled p → p.direction ≠ .deviceLink)
        ∧ combine f g input output proof r = Work.fail (BuildError.linkNotLoaded input.name)) := by
  unfold combine
  rw [if_pos hlink]
  cases input with
  | icc p =>
    refine .inr ⟨?_, rfl⟩
    rintro q ⟨⟩
  | sampled p =>
    dsimp only
    split
    · rename_i hdirection
      exact .inl ⟨p, rfl, hdirection, rfl⟩
    · rename_i hdirection
      refine .inr ⟨fun q hq => ?_, rfl⟩
      cases hq
      exact hdirection

/-- The built-in display profile, as it is opened. -/
def display : IccProfile :=
  { source := .srgb, name := "*sRGB", space := some .rgb, pcs := some .xyz, deviceClass := .display }

end Plan

end Recolor
