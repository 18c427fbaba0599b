import Recolor.Proofs.Profile.TagTable
import Recolor.Proofs.Rows.Layout
import Recolor.Proofs.Rows.Widths
import Recolor.Proofs.Table.Nodes

/-!
# What loading unknown data comes to

Data of any kind may be loaded as a device link. That is meant to end in one of two ways: with a
profile error, or with a profile that maps every row of samples. It does, unless the tag that is
read has one of three defects that are overlooked: it ends before its number of nodes, it ends
before the lengths of its curves, or it has curves without entries. `isExpected_load_iff` says so
for all data.
-/

set_option autoImplicit false

namespace Recolor

/-! ## Profiles that map every row of samples -/

/-- An operation on rows accepts a block exactly if it accepts its width. -/
theorem RowOp.exists_onBlock_iff {α β : Type} (f : RowOp α β) (b : Block α) :
    (∃ result, f.onBlock b = .ok result) ↔ ∃ m, f.width b.width = .ok m := by
  unfold onBlock
  cases f.width b.width with
  | error e => simp
  | ok m => simp

namespace SampledProfile

/-- Whether a profile maps every row of samples that has the channels of its space. -/
def MapsSamples (p : SampledProfile) : Prop :=
  ∃ channels, p.space.bind Space.channels? = some channels
    ∧ ∀ b : Block UInt8, b.width = channels →
      ∃ result, (p.deviceToDevice Float).onBlock b = .ok result

end SampledProfile

namespace Link

/-- The outcomes of loading that are meant: a profile error, or a profile that maps samples. -/
def IsExpected : Except Failure SampledProfile → Prop
  | .error e => ∃ cause : ProfileError, e = cause
  | .ok p => p.MapsSamples

/-! ## Reading the tables of a tag -/

/-- The letters that the data of a tag starts with. -/
def tagKind (tag : Bytes) : String :=
  Bytes.latin1 (Bytes.window tag 0 4)

/-- Data of a tag that states the numbers of channels that are asked for and at least two nodes. -/
structure StatesTable (tag : Bytes) (inputs outputs points : Nat) : Prop where
  inputs_at : Bytes.numberAt? tag 8 1 = some inputs
  outputs_at : Bytes.numberAt? tag 9 1 = some outputs
  points_at : Bytes.numberAt? tag 10 1 = some points
  cells : 2 ≤ points

/-- Data of a tag with a defect that is overlooked when it is read with the given channels. -/
inductive Overlooked (tag : Bytes) (inputs outputs : Nat) : Prop
  | cut (kind : tagKind tag = "mft1" ∨ tagKind tag = "mft2") (short : tag.length < 11)
  | lengthsCut {points : Nat} (kind : tagKind tag = "mft2")
      (table : StatesTable tag inputs outputs points) (short : tag.length < 52)
  | emptyCurves {points inputEntries outputEntries : Nat} (kind : tagKind tag = "mft2")
      (table : StatesTable tag inputs outputs points)
      (inputLength : Bytes.numberAt? tag 48 2 = some inputEntries)
      (outputLength : Bytes.numberAt? tag 50 2 = some outputEntries)
      (room : 52 + (inputs * inputEntries + points.pow inputs * outputs
        + outputs * outputEntries) * 2 ≤ tag.length)
      (empty : (inputEntries = 0 ∧ inputs ≠ 0) ∨ (outputEntries = 0 ∧ outputs ≠ 0))

/-- Tables of so many channels and nodes, with curves of the lengths that a layout has. -/
structure Tables.Has (t : Tables) (layout : Layout) (inputs outputs points : Nat) : Prop where
  points_eq : t.table.points = points
  inputs_eq : t.table.inputs = inputs
  outputs_eq : t.table.outputs = outputs
  inputCurves : t.inputCurves.length = inputs
  outputCurves : t.outputCurves.length = outputs
  inputEntries : ∀ c ∈ t.inputCurves, c.length = layout.inputEntries
  outputEntries : ∀ c ∈ t.outputCurves, c.length = layout.outputEntries

section Reading

variable {tag : Bytes} {layout : Layout} {inputs outputs points : Nat}

/-- Enough values are assembled to tables. -/
theorem exists_assemble {values : List UInt16} (h : inputs * layout.inputEntries
      + points.pow inputs * outputs + outputs * layout.outputEntries ≤ values.length) :
    ∃ t, assemble layout inputs outputs points values = .ok t
      ∧ t.Has layout inputs outputs points := by
  have htable : ((values.drop (inputs * layout.inputEntries)).take
      (points.pow inputs * outputs)).length = points.pow inputs * outputs := by
    rw [List.length_take, List.length_drop]
    omega
  have hfront : ∀ c ∈ Rows.cut layout.inputEntries inputs values,
      c.length = layout.inputEntries := fun c hc =>
    Rows.length_of_mem_cut (by omega) hc
  have hbehind : ∀ c ∈ Rows.cut layout.outputEntries outputs
      (values.drop (inputs * layout.inputEntries + points.pow inputs * outputs)),
      c.length = layout.outputEntries := by
    intro c hc
    refine Rows.length_of_mem_cut ?_ hc
    rw [List.length_drop]
    omega
  have hentries : ((values.drop (inputs * layout.inputEntries)).take
      (points.pow inputs * outputs)).toArray.size = points.pow inputs * outputs := by
    rw [List.size_toArray, htable]
  refine ⟨⟨Rows.cut layout.inputEntries inputs values, ⟨points, inputs, outputs, _, hentries⟩, _⟩,
    ?_, ⟨rfl, rfl, rfl, Rows.length_cut .., Rows.length_cut .., hfront, hbehind⟩⟩
  unfold assemble
  dsimp only
  rw [Grid.ofEntries_of_size hentries]

/-- Data is read as so many values as it has bytes or pairs of bytes. -/
theorem length_readValues (width : Nat) (hwidth : width = 1 ∨ width = 2) (data : Bytes) :
    (readValues width data).length = data.length / width := by
  rcases hwidth with rfl | rfl
  · simp [readValues]
  · simp [readValues, Bytes.length_words16]

/-- A tag that is long enough for its layout is assembled to tables. -/
theorem exists_assemble_readValues (hwidth : layout.width = 1 ∨ layout.width = 2)
    (hroom : neededBytes layout inputs outputs points ≤ tag.length) :
    ∃ t, assemble layout inputs outputs points (readValues layout.width (tag.drop layout.start))
        = .ok t ∧ t.Has layout inputs outputs points := by
  apply exists_assemble
  rw [length_readValues _ hwidth, List.length_drop]
  have hpositive : 0 < layout.width := by omega
  rw [Nat.le_div_iff_mul_le hpositive]
  have hneeded : neededBytes layout inputs outputs points = layout.start
      + (inputs * layout.inputEntries + points.pow inputs * outputs
        + outputs * layout.outputEntries) * layout.width := rfl
  omega

/-- A tag that states the table that is asked for is read by its layout. -/
theorem readTables_of_statesTable (h : StatesTable tag inputs outputs points)
    (hkind : tagKind tag = "mft1" ∨ tagKind tag = "mft2") :
    readTables tag inputs outputs = match readLayout tag (tagKind tag) with
      | .error e => .error e
      | .ok layout =>
        if tag.length < neededBytes layout inputs outputs points then
          .error (ProfileError.truncatedTable tag.length (neededBytes layout inputs outputs points))
        else assemble layout inputs outputs points
          (readValues layout.width (tag.drop layout.start)) := by
  have hletters : ¬(tagKind tag ≠ "mft1" ∧ tagKind tag ≠ "mft2") := by
    rcases hkind with hkind | hkind <;> simp [hkind]
  have hinputs := (Bytes.numberAt?_eq_some_iff.mp h.inputs_at).2
  have houtputs := (Bytes.numberAt?_eq_some_iff.mp h.outputs_at).2
  have hcells : ¬points < 2 := Nat.not_lt.mpr h.cells
  have hsame : ¬(inputs ≠ inputs ∨ outputs ≠ outputs) := by simp
  unfold readTables
  unfold tagKind at hletters ⊢
  cases hlayout : readLayout tag (Bytes.latin1 (Bytes.window tag 0 4)) with
  | error e =>
    simp only [hletters, h.points_at, hinputs, houtputs, hcells, hsame, hlayout, if_false]
  | ok layout =>
    simp only [hletters, h.points_at, hinputs, houtputs, hcells, hsame, hlayout, if_false]

/-- A tag of another kind is refused for it. -/
theorem readTables_of_kind (hkind : ¬(tagKind tag = "mft1" ∨ tagKind tag = "mft2")) :
    readTables tag inputs outputs = .error (ProfileError.unsupportedTable (tagKind tag)) := by
  have hletters : Bytes.latin1 (Bytes.window tag 0 4) ≠ "mft1"
      ∧ Bytes.latin1 (Bytes.window tag 0 4) ≠ "mft2" := not_or.mp hkind
  unfold readTables
  dsimp only
  rw [if_pos hletters]
  rfl

/-- A tag that does not state the table that is asked for is refused, in a way that is meant unless
it ends before its number of nodes. -/
theorem readTables_of_not_statesTable (hkind : tagKind tag = "mft1" ∨ tagKind tag = "mft2")
    (h : ∀ points, ¬StatesTable tag inputs outputs points) :
    (11 ≤ tag.length ∧ ∃ cause : ProfileError, readTables tag inputs outputs = .error cause)
      ∨ (tag.length < 11 ∧ readTables tag inputs outputs = .error Fault.tagCut) := by
  have hletters : ¬(Bytes.latin1 (Bytes.window tag 0 4) ≠ "mft1"
      ∧ Bytes.latin1 (Bytes.window tag 0 4) ≠ "mft2") := by
    intro hother
    exact hkind.elim hother.1 hother.2
  unfold readTables
  dsimp only
  rw [if_neg hletters]
  cases hpoints : Bytes.numberAt? tag 10 1 with
  | none => exact .inr ⟨Bytes.numberAt?_eq_none_iff.mp hpoints, rfl⟩
  | some points =>
    -- it is the last of the three numbers, so the numbers of channels are there with it
    have hlong := (Bytes.numberAt?_eq_some_iff.mp hpoints).1
    refine .inl ⟨hlong, ?_⟩
    dsimp only
    split
    · exact ⟨_, rfl⟩
    · rename_i hsame
      rw [not_or, Classical.not_not, Classical.not_not] at hsame
      split
      · exact ⟨_, rfl⟩
      · rename_i hcells
        have htable : StatesTable tag inputs outputs points :=
          { inputs_at := Bytes.numberAt?_eq_some_iff.mpr ⟨by omega, hsame.1⟩
            outputs_at := Bytes.numberAt?_eq_some_iff.mpr ⟨by omega, hsame.2⟩
            points_at := hpoints
            cells := Nat.not_lt.mp hcells }
        exact absurd htable (h points)

/-- Values are kept in one byte or in two. -/
theorem width_of_readLayout {kind : String} (h : readLayout tag kind = .ok layout) :
    layout.width = 1 ∨ layout.width = 2 := by
  unfold readLayout at h
  split at h
  · split at h
    · cases h
    · cases h
      exact .inr rfl
  · cases h
    exact .inl rfl

/-- Tables that are read have the channels that were asked for, with a curve for each. -/
theorem exists_has_of_readTables {t : Tables} (h : readTables tag inputs outputs = .ok t) :
    ∃ layout points, t.Has layout inputs outputs points := by
  by_cases hkind : tagKind tag = "mft1" ∨ tagKind tag = "mft2"
  · by_cases hstates : ∃ points, StatesTable tag inputs outputs points
    · obtain ⟨points, hstates⟩ := hstates
      rw [readTables_of_statesTable hstates hkind] at h
      split at h
      · cases h
      · rename_i layout hlayout
        split at h
        · cases h
        · rename_i hroom
          obtain ⟨t', hassembled, hhas⟩ :=
            exists_assemble_readValues (width_of_readLayout hlayout) (Nat.not_lt.mp hroom)
          cases hassembled.symm.trans h
          exact ⟨layout, points, hhas⟩
    · rcases readTables_of_not_statesTable hkind (not_exists.mp hstates) with
        ⟨-, cause, hcause⟩ | ⟨-, hcut⟩
      · cases hcause.symm.trans h
      · cases hcut.symm.trans h
  · cases (readTables_of_kind hkind).symm.trans h

/-! ## Mapping samples through the tables -/

/-- Curves that all have the same number of entries are empty all or none. -/
theorem forall_ne_nil_iff {curves : List Curve} {count length : Nat}
    (hcount : curves.length = count) (hlength : ∀ c ∈ curves, c.length = length) :
    (∀ c ∈ curves, c ≠ []) ↔ ¬(length = 0 ∧ count ≠ 0) := by
  constructor
  · rintro hne ⟨rfl, hsome⟩
    cases curves with
    | nil => exact hsome hcount.symm
    | cons c rest =>
      have hc := hlength c List.mem_cons_self
      exact hne c List.mem_cons_self (List.eq_nil_of_length_eq_zero hc)
  · rintro hlong c hc rfl
    apply hlong
    have hzero := hlength [] hc
    refine ⟨hzero.symm, ?_⟩
    rw [← hcount]
    exact Nat.ne_of_gt (List.length_pos_of_mem hc)

/-- A profile of tables that have the channels of its spaces maps samples exactly if no curve is
empty. -/
theorem mapsSamples_profile_iff {t : Tables} {name : String} {source target : Space}
    (ht : t.Has layout inputs outputs points) (hsource : source.channels? = some inputs)
    (hcells : 2 ≤ points) : (profile name source target t).MapsSamples
      ↔ ¬(layout.inputEntries = 0 ∧ inputs ≠ 0) ∧ ¬(layout.outputEntries = 0 ∧ outputs ≠ 0) := by
  have hchannels : (profile name source target t).space.bind Space.channels? = some inputs :=
    hsource
  have hnodes : t.table.points = 0 → t.table.inputs = 0 := by
    rw [ht.points_eq]
    omega
  have haxes : t.table.inputs ≤ inputs := Nat.le_of_eq ht.inputs_eq
  have hfront : Curve.check t.inputCurves inputs = .ok ()
      ↔ ¬(layout.inputEntries = 0 ∧ inputs ≠ 0) := by
    rw [Curve.check_eq_ok_iff, forall_ne_nil_iff ht.inputCurves ht.inputEntries, ht.inputCurves]
    simp
  have hbehind : Curve.check t.outputCurves t.table.outputs = .ok ()
      ↔ ¬(layout.outputEntries = 0 ∧ outputs ≠ 0) := by
    rw [Curve.check_eq_ok_iff, forall_ne_nil_iff ht.outputCurves ht.outputEntries,
      ht.outputCurves, ht.outputs_eq]
    simp
  have hwidth : (∃ m, ((profile name source target t).deviceToDevice Float).width inputs = .ok m)
      ↔ ¬(layout.inputEntries = 0 ∧ inputs ≠ 0) ∧ ¬(layout.outputEntries = 0 ∧ outputs ≠ 0) := by
    rw [SampledProfile.exists_width_deviceToDevice_iff, ← hfront, ← hbehind]
    exact ⟨fun h => ⟨h.1, h.2.2.2⟩, fun h => ⟨h.1, hnodes, haxes, h.2⟩⟩
  rw [← hwidth]
  constructor
  · rintro ⟨channels, hsome, hmaps⟩
    have hsame : channels = inputs := Option.some.inj (hsome.symm.trans hchannels)
    obtain ⟨m, hm⟩ := (RowOp.exists_onBlock_iff _ _).mp (hmaps ⟨channels, []⟩ rfl)
    exact ⟨m, hsame ▸ hm⟩
  · intro hok
    refine ⟨inputs, hchannels, ?_⟩
    intro b hb
    rw [RowOp.exists_onBlock_iff, hb]
    exact hok

/-! ## Outcomes -/

/-- The outcome of loading once the tag is found. -/
def outcomeOf (name : String) (source target : Space) :
    Except Failure Tables → Except Failure SampledProfile
  | .error e => .error e
  | .ok t => .ok (profile name source target t)

/-- A fault in reading the tables is no outcome that is meant. -/
theorem not_isExpected_fault (name : String) (source target : Space) (f : Fault) :
    ¬IsExpected (outcomeOf name source target (.error (.fault f))) := by
  rintro ⟨cause, hcause⟩
  cases hcause

/-- What a tag comes to that states the table that is asked for, in a layout that is read. -/
theorem isExpected_of_layout {name : String} {source target : Space}
    (hsource : source.channels? = some inputs) (h : StatesTable tag inputs outputs points)
    (hkind : tagKind tag = "mft1" ∨ tagKind tag = "mft2")
    (hlayout : readLayout tag (tagKind tag) = .ok layout)
    (hwidth : layout.width = 1 ∨ layout.width = 2) :
    IsExpected (outcomeOf name source target (readTables tag inputs outputs))
      ↔ (neededBytes layout inputs outputs points ≤ tag.length →
        ¬(layout.inputEntries = 0 ∧ inputs ≠ 0) ∧ ¬(layout.outputEntries = 0 ∧ outputs ≠ 0)) := by
  rw [readTables_of_statesTable h hkind, hlayout]
  dsimp only
  by_cases hroom : tag.length < neededBytes layout inputs outputs points
  · rw [if_pos hroom]
    constructor
    · intro _ hroom'
      omega
    · intro _
      exact ⟨_, rfl⟩
  · obtain ⟨t, hassembled, ht⟩ := exists_assemble_readValues hwidth (Nat.not_lt.mp hroom)
    rw [if_neg hroom, hassembled]
    refine (mapsSamples_profile_iff ht hsource h.cells).trans ?_
    exact ⟨fun hlong _ => hlong, fun hlong => hlong (Nat.not_lt.mp hroom)⟩

/-- A tag states one number of nodes. -/
theorem StatesTable.unique {points' : Nat} (h : StatesTable tag inputs outputs points)
    (h' : StatesTable tag inputs outputs points') : points = points' :=
  Option.some.inj (h.points_at.symm.trans h'.points_at)

/-- A tag that states a table has eleven bytes at least. -/
theorem StatesTable.eleven_le (h : StatesTable tag inputs outputs points) : 11 ≤ tag.length :=
  (Bytes.numberAt?_eq_some_iff.mp h.points_at).1

/-- In a tag of bytes no curve is empty. -/
theorem isExpected_of_bytes {name : String} {source target : Space}
    (hsource : source.channels? = some inputs) (h : StatesTable tag inputs outputs points)
    (hkind : tagKind tag = "mft1") :
    IsExpected (outcomeOf name source target (readTables tag inputs outputs)) := by
  have hlayout : readLayout tag (tagKind tag) = .ok byteLayout := by
    rw [hkind]
    rfl
  rw [isExpected_of_layout hsource h (.inl hkind) hlayout (.inl rfl)]
  intro _
  constructor <;> rintro ⟨hzero, -⟩ <;> cases hzero

/-- A tag of words comes to an outcome that is meant exactly if it states the lengths of its curves
and these are not zero where there are curves. -/
theorem isExpected_of_words_iff {name : String} {source target : Space}
    (hsource : source.channels? = some inputs) (h : StatesTable tag inputs outputs points)
    (hkind : tagKind tag = "mft2") :
    IsExpected (outcomeOf name source target (readTables tag inputs outputs))
      ↔ ¬Overlooked tag inputs outputs := by
  have hlong := h.eleven_le
  -- where the length of the output curves is read, that of the input curves stands before it
  cases houtput : Bytes.numberAt? tag 50 2 with
  | none =>
    have hlayout : readLayout tag (tagKind tag) = .error Fault.blockCut := by
      rw [hkind, readLayout, if_pos rfl, houtput]
    have hoverlooked : Overlooked tag inputs outputs :=
      .lengthsCut hkind h (Bytes.numberAt?_eq_none_iff.mp houtput)
    rw [readTables_of_statesTable h (.inr hkind), hlayout]
    exact iff_of_false (not_isExpected_fault _ _ _ _) fun hnone => hnone hoverlooked
  | some outputEntries =>
    obtain ⟨hroom, -⟩ := Bytes.numberAt?_eq_some_iff.mp houtput
    have hinput : Bytes.numberAt? tag 48 2 = some (Bytes.toNat (Bytes.window tag 48 2)) :=
      Bytes.numberAt?_eq_some_iff.mpr ⟨by omega, rfl⟩
    have hlayout : readLayout tag (tagKind tag)
        = .ok (wordLayout (Bytes.toNat (Bytes.window tag 48 2)) outputEntries) := by
      rw [hkind, readLayout, if_pos rfl, houtput]
    rw [isExpected_of_layout hsource h (.inr hkind) hlayout (.inr rfl)]
    constructor
    · rintro hlong hoverlooked
      cases hoverlooked with
      | cut _ short => omega
      | lengthsCut _ _ short => omega
      | emptyCurves _ table inputLength outputLength room empty =>
        cases h.unique table
        cases hinput.symm.trans inputLength
        cases houtput.symm.trans outputLength
        obtain ⟨hfront, hbehind⟩ := hlong room
        exact empty.elim hfront hbehind
    · intro hnone room
      constructor
      · intro hempty
        exact hnone (.emptyCurves hkind h hinput houtput room (.inl hempty))
      · intro hempty
        exact hnone (.emptyCurves hkind h hinput houtput room (.inr hempty))

/-- A tag comes to an outcome that is meant exactly if it has no defect that is overlooked. -/
theorem isExpected_readTables_iff {name : String} {source target : Space}
    (hsource : source.channels? = some inputs) :
    IsExpected (outcomeOf name source target (readTables tag inputs outputs))
      ↔ ¬Overlooked tag inputs outputs := by
  by_cases hkind : tagKind tag = "mft1" ∨ tagKind tag = "mft2"
  · by_cases hstates : ∃ points, StatesTable tag inputs outputs points
    · obtain ⟨points, h⟩ := hstates
      rcases hkind with hbytes | hwords
      · refine iff_of_true (isExpected_of_bytes hsource h hbytes) ?_
        have hlong := h.eleven_le
        intro hoverlooked
        cases hoverlooked with
        | cut _ short => omega
        | lengthsCut kind => simp [hbytes] at kind
        | emptyCurves kind => simp [hbytes] at kind
      · exact isExpected_of_words_iff hsource h hwords
    · have hnone := not_exists.mp hstates
      rcases readTables_of_not_statesTable hkind hnone with ⟨hlong, cause, hcause⟩ | ⟨hshort, hcut⟩
      · rw [hcause]
        refine iff_of_true ⟨cause, rfl⟩ ?_
        intro hoverlooked
        cases hoverlooked with
        | cut _ short => omega
        | lengthsCut _ table => exact hnone _ table
        | emptyCurves _ table => exact hnone _ table
      · rw [hcut]
        exact iff_of_false (not_isExpected_fault _ _ _ _) fun hnone => hnone (.cut hkind hshort)
  · rw [readTables_of_kind hkind]
    refine iff_of_true ⟨_, rfl⟩ ?_
    intro hoverlooked
    cases hoverlooked with
    | cut kind => exact hkind kind
    | lengthsCut kind => exact hkind (.inr kind)
    | emptyCurves kind => exact hkind (.inr kind)

end Reading

/-! ## From the data to the tag -/

/-- Data whose tag for an intent is read: its header states a link between two spaces that are
known, the first of them not XYZ, all its tags lie within it, and one is for the intent. -/
def Reaches (data : Bytes) (intent : Int) (source target : Space) (tag : Bytes) : Prop :=
  ∃ header tags entry, Header.parse data = .ok header ∧ header.deviceClass = .link
    ∧ header.space = some source ∧ header.pcs = some target ∧ source ≠ .xyz
    ∧ readTags data = .ok tags ∧ chooseTag? tags intent = some entry
    ∧ tag = Bytes.window data entry.offset entry.size

/-- A header states the spaces of a link exactly if it is of that class, both spaces are known and
the first is not XYZ. -/
theorem readSpaces_ok_iff {header : Header} {name : String} {source target : Space} :
    readSpaces header name = .ok (source, target)
      ↔ header.deviceClass = .link ∧ header.space = some source ∧ header.pcs = some target
        ∧ source ≠ .xyz := by
  unfold readSpaces
  by_cases hclass : header.deviceClass = .link
  · cases hspace : header.space with
    | none => simp [hclass]
    | some s =>
      cases hpcs : header.pcs with
      | none => simp [hclass]
      | some t =>
        by_cases hxyz : s = .xyz
        · simp only [hclass, hxyz, ne_eq, not_true_eq_false, if_false, if_true, reduceCtorEq,
            Option.some.injEq, true_and, false_iff, not_and, Classical.not_not]
          rintro rfl -
          rfl
        · simp only [hclass, hxyz, ne_eq, not_true_eq_false, if_false, Except.ok.injEq,
            Prod.mk.injEq, Option.some.injEq, true_and]
          constructor
          · rintro ⟨rfl, rfl⟩
            exact ⟨rfl, rfl, hxyz⟩
          · rintro ⟨rfl, rfl, -⟩
            exact ⟨rfl, rfl⟩
  · simp [hclass]

section Loading

variable {data : Bytes} {intent : Int} {source target : Space} {tag : Bytes}

/-- At most one tag is read for an intent. -/
theorem Reaches.unique {source' target' : Space} {tag' : Bytes}
    (h : Reaches data intent source target tag) (h' : Reaches data intent source' target' tag') :
    source' = source ∧ target' = target ∧ tag' = tag := by
  obtain ⟨header, tags, entry, hheader, -, hspace, hpcs, -, htags, hentry, rfl⟩ := h
  obtain ⟨header', tags', entry', hheader', -, hspace', hpcs', -, htags', hentry', rfl⟩ := h'
  cases hheader.symm.trans hheader'
  cases htags.symm.trans htags'
  cases hentry.symm.trans hentry'
  cases hspace.symm.trans hspace'
  cases hpcs.symm.trans hpcs'
  exact ⟨rfl, rfl, rfl⟩

/-- Where a tag is read, loading comes to what its tables come to. -/
theorem load_of_reaches (name : String) (h : Reaches data intent source target tag) :
    load data name intent = outcomeOf name source target
      (readTables tag (source.channels?.getD 0) (target.channels?.getD 0)) := by
  obtain ⟨header, tags, entry, hheader, hclass, hspace, hpcs, hxyz, htags, hentry, rfl⟩ := h
  have hspaces : readSpaces header name = .ok (source, target) :=
    readSpaces_ok_iff.mpr ⟨hclass, hspace, hpcs, hxyz⟩
  simp only [load, hheader, hspaces, htags, hentry]
  cases readTables (Bytes.window data entry.offset entry.size) (source.channels?.getD 0)
    (target.channels?.getD 0) <;> rfl

/-- Where no tag is read, loading fails with a profile error. -/
theorem load_of_not_reaches (name : String)
    (h : ∀ source target tag, ¬Reaches data intent source target tag) :
    ∃ cause : ProfileError, load data name intent = .error cause := by
  unfold load
  cases hheader : Header.parse data with
  | error e => exact ⟨e, rfl⟩
  | ok header =>
    dsimp only
    cases hspaces : readSpaces header name with
    | error e => exact ⟨e, rfl⟩
    | ok spaces =>
      obtain ⟨source, target⟩ := spaces
      obtain ⟨hclass, hspace, hpcs, hxyz⟩ := readSpaces_ok_iff.mp hspaces
      dsimp only
      cases htags : readTags data with
      | error e => exact ⟨e, rfl⟩
      | ok tags =>
        dsimp only
        cases hentry : chooseTag? tags intent with
        | none => exact ⟨_, rfl⟩
        | some entry =>
          refine absurd ?_ (h source target (Bytes.window data entry.offset entry.size))
          exact ⟨header, tags, entry, hheader, hclass, hspace, hpcs, hxyz, htags, hentry, rfl⟩

/-- All spaces but XYZ have channels. -/
theorem channels_of_ne_xyz (h : source ≠ .xyz) :
    source.channels? = some (source.channels?.getD 0) := by
  cases source <;> simp_all [Space.channels?]

/-- Loading data comes to an outcome that is meant exactly if the tag that is reached, if one is,
has no defect that is overlooked. -/
theorem isExpected_load_iff (data : Bytes) (name : String) (intent : Int) :
    IsExpected (load data name intent) ↔ ∀ source target tag,
      Reaches data intent source target tag →
        ¬Overlooked tag (source.channels?.getD 0) (target.channels?.getD 0) := by
  by_cases hreached : ∃ source target tag, Reaches data intent source target tag
  · obtain ⟨source, target, tag, h⟩ := hreached
    have hsource : source.channels? = some (source.channels?.getD 0) := by
      obtain ⟨-, -, -, -, -, -, -, hxyz, -⟩ := h
      exact channels_of_ne_xyz hxyz
    rw [load_of_reaches name h, isExpected_readTables_iff hsource]
    -- no other tag is reached, so the defects of this one are all that count
    constructor
    · intro hsound source' target' tag' h'
      obtain ⟨rfl, rfl, rfl⟩ := h.unique h'
      exact hsound
    · intro hsound
      exact hsound source target tag h
  · have hnone : ∀ source target tag, ¬Reaches data intent source target tag := by
      intro source target tag h
      exact hreached ⟨source, target, tag, h⟩
    obtain ⟨cause, hcause⟩ := load_of_not_reaches name hnone
    rw [hcause]
    refine iff_of_true ⟨cause, rfl⟩ ?_
    intro source target tag h
    exact absurd h (hnone source target tag)

end Loading

/-- In the file of a device link the tag for an intent is reached. -/
theorem reaches_of_isFile {data : Bytes} {intent : Int} {source target : Space}
    {tags : List TagEntry} {entry : TagEntry} (hfile : IsFile data source target tags)
    (hsource : source ≠ .xyz) (hentry : IsChosen tags intent entry) :
    Reaches data intent source target (Bytes.window data entry.offset entry.size) := by
  obtain ⟨header, hheader, hclass, hspace, hpcs⟩ := hfile.parse
  exact ⟨header, tags, entry, hheader, hclass, hspace, hpcs, hsource, hfile.readTags,
    chooseTag?_of_isChosen hentry, rfl⟩

/-- A file of a device link between gray samples whose only tag holds the given data. -/
def grayFile (tag : Bytes) : Bytes :=
  (List.replicate 12 0 ++ Bytes.ofText "linkGRAYGRAY" ++ List.replicate 12 0
      ++ Bytes.ofText "acsp" ++ List.replicate 88 0)
    ++ (Bytes.ofNat 4 1 ++ (TagEntry.record ⟨"A2B0", 144, tag.length⟩ ++ tag))

/-- A single tag for the first intent is chosen for it. -/
theorem isChosen_single (entry : TagEntry) (h : entry.signature = "A2B0") :
    IsChosen [entry] 0 entry := by
  refine .inl ⟨[], [], rfl, h, ?_⟩
  intro u hu
  exact absurd hu List.not_mem_nil

/-- The data of a tag with one input curve of no entries. -/
def hollowTag : Bytes :=
  Bytes.ofText "mft2" ++ [0, 0, 0, 0, 1, 1, 2, 0] ++ List.replicate 36 0
    ++ [0, 0, 0, 2] ++ [0, 0, 255, 255] ++ [0, 0, 255, 255]

/-- The file with the hollow tag is that of a device link. -/
theorem isFile_hollow : IsFile (grayFile hollowTag) .gray .gray [⟨"A2B0", 144, 60⟩] :=
  { table := ⟨_, _, by decide +kernel, rfl⟩
    count := by decide
    fits := by
      intro t ht
      cases List.mem_singleton.mp ht
      constructor <;> decide +kernel
    magic := by decide +kernel
    link := by decide +kernel
    source := by decide +kernel
    target := by decide +kernel }

/-- A profile with a curve of no entries is loaded, and it does not map samples. -/
theorem not_isExpected_hollow : ¬IsExpected (load (grayFile hollowTag) "hollow" 0) := by
  rw [isExpected_load_iff]
  intro hsound
  have hreaches := reaches_of_isFile isFile_hollow (by decide) (isChosen_single _ rfl)
  have hwindow : Bytes.window (grayFile hollowTag) 144 60 = hollowTag := by decide +kernel
  have htable : StatesTable hollowTag 1 1 2 := by constructor <;> decide +kernel
  have hinput : Bytes.numberAt? hollowTag 48 2 = some 0 := by decide +kernel
  have houtput : Bytes.numberAt? hollowTag 50 2 = some 2 := by decide +kernel
  have hroom : 52 + (1 * 0 + Nat.pow 2 1 * 1 + 1 * 2) * 2 ≤ hollowTag.length := by decide +kernel
  have hempty : (0 = 0 ∧ 1 ≠ 0) ∨ (2 = 0 ∧ 1 ≠ 0) := by decide
  have hoverlooked : Overlooked hollowTag 1 1 :=
    .emptyCurves (by decide +kernel) htable hinput houtput hroom hempty
  dsimp only at hreaches
  rw [hwindow] at hreaches
  exact hsound _ _ _ hreaches hoverlooked

/-- The file whose tag ends behind its letters is that of a device link. -/
theorem isFile_cut : IsFile (grayFile (Bytes.ofText "mft2")) .gray .gray [⟨"A2B0", 144, 4⟩] :=
  { table := ⟨_, _, by decide +kernel, rfl⟩
    count := by decide
    fits := by
      intro t ht
      cases List.mem_singleton.mp ht
      constructor <;> decide +kernel
    magic := by decide +kernel
    link := by decide +kernel
    source := by decide +kernel
    target := by decide +kernel }

/-- A tag of four bytes is read beyond its end. -/
theorem not_isExpected_cut : ¬IsExpected (load (grayFile (Bytes.ofText "mft2")) "cut" 0) := by
  have htag : Bytes.window (grayFile (Bytes.ofText "mft2")) 144 4 = Bytes.ofText "mft2" := by
    decide +kernel
  have hreaches : Reaches (grayFile (Bytes.ofText "mft2")) 0 .gray .gray (Bytes.ofText "mft2") := by
    rw [← htag]
    exact reaches_of_isFile isFile_cut (by decide) (isChosen_single _ rfl)
  have hcut : readTables (Bytes.ofText "mft2") (Space.gray.channels?.getD 0)
      (Space.gray.channels?.getD 0) = .error (.fault .tagCut) := rfl
  rw [load_of_reaches "cut" hreaches, hcut]
  exact not_isExpected_fault _ _ _ _

/-- Not all data that is loaded comes to an outcome that is meant. -/
theorem not_forall_isExpected_load :
    ¬∀ (data : Bytes) (name : String) (intent : Int), IsExpected (load data name intent) := by
  intro hall
  obtain ⟨data, name, intent, hcrashes⟩ :
      ∃ data name intent, ¬IsExpected (load data name intent) := ⟨_, _, _, not_isExpected_cut⟩
  exact hcrashes (hall data name intent)

end Link

end Recolor
