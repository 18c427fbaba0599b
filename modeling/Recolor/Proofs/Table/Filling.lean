import Recolor.Proofs.Numeric.Rational
import Recolor.Proofs.Table.Enumeration
import Recolor.Table.Sampler

/-!
# What sampling a table comes to

A sampler that treats each node by itself is asked once for all nodes. Without a limit to the size
of arrays that ends in a table error, if the sampler runs out of memory or its answer is malformed
or not finite, and else with the table that holds at the indices of every node what the sampler
makes of that node. Where arrays are limited, nodes that are too many for any array are a fault
instead of a table error; `isExpected_sampleInRoom_iff` says when that is so.
-/

set_option autoImplicit false

namespace Recolor

/-- What is made of a single node: numbers, or integers. -/
inductive NodeFunction (α : Type) where
  | numbers (f : List UInt16 → List α)
  | integers (f : List UInt16 → List ℤ)

namespace NodeFunction

variable {α : Type}

/-- What is made of nodes, a row for each. -/
def samples (f : NodeFunction α) (nodes : List (List UInt16)) : Samples α :=
  match f with
  | .numbers f => .numbers (nodes.map f)
  | .integers f => .integers (nodes.map f)

variable [Scalar α]

/-- What gives codes for a node, as integers. -/
def ofCodes (codes : List UInt16 → List UInt16) : NodeFunction α :=
  .integers fun node => (codes node).map fun c => (c.toNat : ℤ)

/-- The sampler that makes of each node a row of so many outputs, on its own. -/
def sampler (f : NodeFunction α) (outputs : ℕ) : Sampler α :=
  fun nodes => .ok { shape := [nodes.length, outputs], samples := f.samples nodes }

/-- The outputs at a node as integers, numbers rounded to the nearest, halves upwards. -/
def wholes (f : NodeFunction α) (node : List UInt16) : List Whole :=
  match f with
  | .numbers f => (f node).map Scalar.round
  | .integers f => (f node).map .int

/-- Codes have an integer each. -/
theorem length_wholes_ofCodes (codes : List UInt16 → List UInt16) (node : List UInt16) :
    ((ofCodes codes : NodeFunction α).wholes node).length = (codes node).length := by
  rw [ofCodes, wholes, List.length_map, List.length_map]

/-- Whether the outputs at a node are finite; integers are. -/
def IsFinite (f : NodeFunction α) (node : List UInt16) : Prop :=
  match f with
  | .numbers f => ∀ x ∈ f node, Scalar.isFinite x = true
  | .integers _ => True

end NodeFunction

variable {α : Type} [Scalar α]

/-- The sampler treats each of the nodes by itself: unless it runs out of memory it answers with an
array, and if that has one row for each node, then the row of a node is what is made of it. -/
def Sampler.ActsByRow (s : Sampler α) (nodes : List (List UInt16)) (f : NodeFunction α) : Prop :=
  s nodes = .error .outOfMemory ∨ ∃ answer, s nodes = .ok answer ∧
    ∀ width : ℤ, answer.shape = [(nodes.length : ℤ), width] →
      answer.samples = f.samples nodes ∧ ∀ node ∈ nodes, ((f.wholes node).length : ℤ) = width

/-- A sampler that runs out of memory for any nodes. -/
def Sampler.exhausted : Sampler α :=
  fun _ => .error .outOfMemory

/-- The sampler that is made of a function of one node treats each node by itself. -/
theorem NodeFunction.actsByRow_sampler {f : NodeFunction α} {nodes : List (List UInt16)}
    {outputs : ℕ} (h : ∀ node ∈ nodes, (f.wholes node).length = outputs) :
    (f.sampler outputs).ActsByRow nodes f := by
  refine .inr ⟨_, rfl, fun width hshape => ⟨rfl, fun node hnode => ?_⟩⟩
  obtain rfl : (outputs : ℤ) = width := by simpa using hshape
  exact_mod_cast h node hnode

namespace Grid

/-- The table holds at the indices of every node the integers that are made of the node's values,
confined to 16 bits. -/
structure Holds (g : Grid) (f : NodeFunction α) (points inputs outputs : ℤ) : Prop where
  points_eq : (g.points : ℤ) = points
  inputs_eq : (g.inputs : ℤ) = inputs
  outputs_eq : (g.outputs : ℤ) = outputs
  entry_eq : ∀ index, IsNodeIndex g.points g.inputs index → ∀ output < g.outputs,
    ∃ whole, (f.wholes (index.map (nodeValue g.points)))[output]? = some whole
      ∧ ((g.entry (numberOf g.points index) output).toNat : ℤ) = whole.clamp 0 65535

/-- The outcomes of sampling that are meant, each with the condition under which it is. -/
inductive Outcome (s : Sampler α) (f : NodeFunction α) (points inputs outputs : ℤ) :
    Except Failure Grid → Prop
  | gridTooSmall (few : points < 2) :
    Outcome s f points inputs outputs (.error (TableError.gridTooSmall points))
  | outOfMemory (enough : 2 ≤ points)
    (answer_eq : s (nodes points.toNat inputs.toNat) = .error .outOfMemory) :
    Outcome s f points inputs outputs (.error (TableError.outOfMemory points inputs))
  | samplerShape {answer : SampleArray α} (enough : 2 ≤ points)
    (answer_eq : s (nodes points.toNat inputs.toNat) = .ok answer)
    (malformed : answer.shape ≠ [points ^ inputs.toNat, outputs]) :
    Outcome s f points inputs outputs
      (.error (TableError.samplerShape answer.shape [points ^ inputs.toNat, outputs]))
  | notFinite {answer : SampleArray α} (enough : 2 ≤ points)
    (answer_eq : s (nodes points.toNat inputs.toNat) = .ok answer)
    (shape_eq : answer.shape = [points ^ inputs.toNat, outputs])
    (infinite : ∃ node ∈ nodes points.toNat inputs.toNat, ¬f.IsFinite node) :
    Outcome s f points inputs outputs (.error TableError.notFinite)
  | table {answer : SampleArray α} {g : Grid} (enough : 2 ≤ points)
    (answer_eq : s (nodes points.toNat inputs.toNat) = .ok answer)
    (shape_eq : answer.shape = [points ^ inputs.toNat, outputs])
    (finite : ∀ node ∈ nodes points.toNat inputs.toNat, f.IsFinite node)
    (holds : g.Holds f points inputs outputs) :
    Outcome s f points inputs outputs (.ok g)

/-- A table filled with codes holds them as they are. -/
theorem Holds.entry_ofCodes {g : Grid} {codes : List UInt16 → List UInt16}
    {points inputs outputs : ℤ}
    (hg : g.Holds (.ofCodes codes : NodeFunction α) points inputs outputs) {index : List ℕ}
    (hindex : IsNodeIndex g.points g.inputs index) {output : ℕ} (houtput : output < g.outputs) :
    (codes (index.map (nodeValue g.points)))[output]?
      = some (g.entry (numberOf g.points index) output) := by
  obtain ⟨whole, hwhole, hentry⟩ := hg.entry_eq index hindex output houtput
  simp only [NodeFunction.ofCodes, NodeFunction.wholes, List.map_map, List.getElem?_map,
    Option.map_eq_some_iff, Function.comp_apply] at hwhole
  obtain ⟨code, hcode, rfl⟩ := hwhole
  have hrange := code.toNat_lt
  rw [Whole.clamp_int] at hentry
  rw [hcode]
  exact congrArg some (UInt16.toNat_inj.mp (by omega))

/-- There can be an array of the nodes of an axis and, unless memory runs out already for those,
one of all nodes. -/
def IsAddressable (points inputs : ℤ) : Prop :=
  8 * points ≤ Rows.mostBytes
    ∧ (tooManyNodes ≤ points
      ∨ inputs ≤ mostInputs ∧ 2 * points ^ inputs.toNat ≤ Rows.mostBytes)

section Codes

variable {f : NodeFunction α} {list : List (List UInt16)}

/-- Finite outputs have the codes of their integers, node by node. -/
theorem codes?_samples (h : ∀ node ∈ list, f.IsFinite node) :
    codes? (f.samples list) = some (list.flatMap fun node => (f.wholes node).map Whole.toCode16) := by
  cases f with
  | numbers f =>
    have hall : (list.map f).all (·.all Scalar.isFinite) = true := by
      simpa [NodeFunction.IsFinite] using h
    simp only [NodeFunction.samples, codes?, hall, if_true, List.flatMap_map, NodeFunction.wholes,
      List.map_map, Function.comp_def]
  | integers f =>
    simp only [NodeFunction.samples, codes?, List.flatMap_map, NodeFunction.wholes, List.map_map,
      Function.comp_def]

/-- There are no codes if an output at one of the nodes is not finite. -/
theorem codes?_samples_eq_none (h : ∃ node ∈ list, ¬f.IsFinite node) :
    codes? (f.samples list) = none := by
  obtain ⟨node, hnode, hinfinite⟩ := h
  cases f with
  | numbers f =>
    have hall : ¬(list.map f).all (·.all Scalar.isFinite) = true := by
      intro hall
      refine hinfinite fun x hx => ?_
      simp only [List.all_map, List.all_eq_true, Function.comp_apply] at hall
      exact hall node hnode x hx
    simp only [NodeFunction.samples, codes?, if_neg hall]
  | integers f => exact absurd trivial hinfinite

end Codes

variable {s : Sampler α} {f : NodeFunction α} {points inputs outputs : ℤ}

/-- The codes of what is made of each node fill a table that holds it. -/
theorem exists_holds {points inputs : ℕ} (houtputs : ∀ node ∈ nodes points inputs,
      ((f.wholes node).length : ℤ) = outputs) (hsome : 0 < points ^ inputs) :
    ∃ g : Grid, ofEntries (shapeOf points inputs outputs)
        ((nodes points inputs).flatMap fun node => (f.wholes node).map Whole.toCode16).toArray
        points inputs outputs = .ok g
      ∧ g.Holds f points inputs outputs := by
  -- there is a node, so the number of outputs is that of a row
  obtain ⟨first, hfirst⟩ := List.exists_mem_of_length_pos (length_nodes points inputs ▸ hsome)
  obtain ⟨width, rfl⟩ : ∃ width : ℕ, outputs = width := ⟨_, (houtputs first hfirst).symm⟩
  have hpiece : ∀ index, IsNodeIndex points inputs index →
      ((f.wholes (index.map (nodeValue points))).map Whole.toCode16).length = width := by
    intro index hindex
    have hnode := houtputs _ (List.mem_of_getElem? (getElem?_nodes hindex))
    rw [List.length_map]
    exact_mod_cast hnode
  obtain ⟨g, hg, rfl, rfl, rfl, hentry⟩ := exists_ofEntries hpiece
  refine ⟨g, ?_, rfl, rfl, rfl, fun index hindex output houtput => ?_⟩
  · rw [nodes, nodeValues, tuples_map, List.flatMap_map]
    exact hg
  · have hlength := hpiece index hindex
    rw [List.length_map] at hlength
    refine ⟨_, List.getElem?_eq_getElem (hlength ▸ houtput), ?_⟩
    rw [hentry index hindex output houtput, List.getD_eq_getElem?_getD, List.getElem?_map,
      List.getElem?_eq_getElem (hlength ▸ houtput)]
    exact Whole.toNat_toCode16 _

/-- Without a limit to the size of arrays sampling comes to one of the outcomes that are meant. -/
theorem outcome_sample (hinputs : 1 ≤ inputs)
    (hs : s.ActsByRow (nodes points.toNat inputs.toNat) f) (outputs : ℤ) :
    Outcome s f points inputs outputs (sample s points inputs outputs) := by
  rw [sample]
  split
  · rename_i hfew
    exact .gridTooSmall hfew
  rename_i hpoints
  have henough : 2 ≤ points := not_lt.mp hpoints
  rw [if_neg (by omega)]
  rcases hs with hmemory | ⟨answer, hanswer, hrows⟩
  · rw [hmemory]
    exact .outOfMemory henough hmemory
  rw [hanswer]
  obtain ⟨n, rfl⟩ := Int.eq_ofNat_of_zero_le (by omega : 0 ≤ points)
  obtain ⟨k, rfl⟩ := Int.eq_ofNat_of_zero_le (by omega : 0 ≤ inputs)
  have hcount : ((nodes n k).length : ℤ) = (n : ℤ) ^ k := by
    rw [length_nodes]
    exact Nat.cast_pow n k
  by_cases hshape : answer.shape = [(n : ℤ) ^ k, outputs]
  · obtain ⟨hsamples, hwidths⟩ := hrows outputs (by rw [hshape, ← hcount]; rfl)
    simp only [Int.toNat_natCast] at hsamples hwidths
    have hmatches : ¬answer.shape ≠ [(n : ℤ).pow k, outputs] := not_not.mpr hshape
    simp only [Int.toNat_natCast, if_neg hmatches, hsamples]
    by_cases hfinite : ∀ node ∈ nodes n k, f.IsFinite node
    · have hsome : 0 < n ^ k := Nat.pow_pos (by omega)
      obtain ⟨g, hg, hholds⟩ := exists_holds hwidths hsome
      rw [codes?_samples hfinite]
      simp only [hg]
      exact .table henough hanswer hshape hfinite hholds
    · have hinfinite : ∃ node ∈ nodes n k, ¬f.IsFinite node := by simpa using hfinite
      rw [codes?_samples_eq_none hinfinite]
      exact .notFinite henough hanswer hshape hinfinite
  · have hdiffers : answer.shape ≠ [(n : ℤ).pow k, outputs] := hshape
    simp only [Int.toNat_natCast]
    rw [if_pos hdiffers]
    exact .samplerShape henough hanswer hshape

/-- What is made of each node on its own, with finite outputs, makes a table. -/
theorem exists_sample_sampler {points inputs outputs : ℕ} (hpoints : 2 ≤ points)
    (hinputs : 1 ≤ inputs) (hwidth : ∀ node ∈ nodes points inputs, (f.wholes node).length = outputs)
    (hfinite : ∀ node ∈ nodes points inputs, f.IsFinite node) :
    ∃ g : Grid, sample (f.sampler outputs) points inputs outputs = .ok g
      ∧ g.Holds f points inputs outputs := by
  have hs : (f.sampler outputs).ActsByRow (nodes (points : ℤ).toNat (inputs : ℤ).toNat) f :=
    NodeFunction.actsByRow_sampler hwidth
  have houtcome := outcome_sample (by omega) hs outputs
  generalize hresult : sample (f.sampler outputs) points inputs outputs = result at houtcome
  cases houtcome with
  | gridTooSmall few => omega
  | outOfMemory _ answer_eq => cases answer_eq
  | samplerShape _ answer_eq malformed =>
    -- the answer has a row for each node
    cases answer_eq
    refine absurd ?_ malformed
    rw [Int.toNat_natCast, Int.toNat_natCast, length_nodes, Nat.cast_pow]
  | notFinite _ _ _ infinite =>
    obtain ⟨node, hnode, hinfinite⟩ := infinite
    exact absurd (hfinite node hnode) hinfinite
  | table _ _ _ _ holds => exact ⟨_, rfl, holds⟩

/-! ## Where arrays are limited -/

/-- Memory for the nodes may be missing, which is told as a table error. -/
theorem checkRoom_of_isAddressable (h : IsAddressable points inputs) :
    checkRoom points inputs = .ok ()
      ∨ checkRoom points inputs = .error (TableError.outOfMemory points inputs) := by
  obtain ⟨haxis, hnodes⟩ := h
  rw [checkRoom]
  by_cases hnone : points < 2 ∨ inputs ≤ 0
  · exact .inl (if_pos hnone)
  rw [if_neg hnone, if_neg (not_lt.mpr haxis)]
  by_cases hmany : tooManyNodes ≤ points
  · exact .inr (if_pos hmany)
  obtain ⟨haxes, hbytes⟩ := hnodes.resolve_left hmany
  have hroom : ¬(mostInputs < inputs ∨ Rows.mostBytes < 2 * points.pow inputs.toNat) :=
    not_or.mpr ⟨not_lt.mpr haxes, not_lt.mpr hbytes⟩
  rw [if_neg hmany, if_neg hroom]
  by_cases hcount : tooManyNodes ≤ points.pow inputs.toNat
  · exact .inr (if_pos hcount)
  · exact .inl (if_neg hcount)

/-- Nodes of which there can be no array are told as a fault. -/
theorem checkRoom_of_not_isAddressable (hpoints : 2 ≤ points) (hinputs : 1 ≤ inputs)
    (h : ¬IsAddressable points inputs) : ∃ fault : Fault, checkRoom points inputs = .error fault := by
  rw [checkRoom, if_neg (by omega)]
  split
  · exact ⟨_, rfl⟩
  rename_i haxis
  have hnodes : ¬(tooManyNodes ≤ points
      ∨ inputs ≤ mostInputs ∧ 2 * points ^ inputs.toNat ≤ Rows.mostBytes) := fun hnodes =>
    h ⟨not_lt.mp haxis, hnodes⟩
  rw [not_or, not_and_or, not_le, not_le, not_le] at hnodes
  have hroom : mostInputs < inputs ∨ Rows.mostBytes < 2 * points.pow inputs.toNat := hnodes.2
  rw [if_neg (not_le.mpr hnodes.1), if_pos hroom]
  exact ⟨_, rfl⟩

/-- The outcomes that are meant where memory may be missing for the nodes themselves. -/
def IsExpected (s : Sampler α) (f : NodeFunction α) (points inputs outputs : ℤ)
    (result : Except Failure Grid) : Prop :=
  Outcome s f points inputs outputs result
    ∨ result = .error (TableError.outOfMemory points inputs)

/-- A fault is not among the outcomes that are meant. -/
theorem not_isExpected_fault (fault : Fault) :
    ¬IsExpected s f points inputs outputs (.error (.fault fault)) := by
  rintro (houtcome | hmemory)
  · cases houtcome
  · simp at hmemory

/-- Sampling asks for every node once. Without a limit to the size of arrays it comes to an outcome
that is meant, and with one exactly if the nodes are no more than an array can have. -/
theorem isExpected_sampleInRoom_iff (hinputs : 1 ≤ inputs)
    (hs : s.ActsByRow (nodes points.toNat inputs.toNat) f) :
    (2 ≤ points → AreEnumerated points.toNat inputs.toNat)
      ∧ Outcome s f points inputs outputs (sample s points inputs outputs)
      ∧ (IsExpected s f points inputs outputs (sampleInRoom s points inputs outputs)
        ↔ points < 2 ∨ IsAddressable points inputs) := by
  have houtcome := outcome_sample hinputs hs outputs
  refine ⟨fun hpoints => areEnumerated (by omega) _, houtcome, ?_⟩
  rw [sampleInRoom]
  rcases lt_or_ge points 2 with hfew | henough
  · have hroom : checkRoom points inputs = .ok () := by rw [checkRoom, if_pos (.inl hfew)]
    rw [hroom]
    exact iff_of_true (.inl houtcome) (.inl hfew)
  by_cases haddressable : IsAddressable points inputs
  · refine iff_of_true ?_ (.inr haddressable)
    rcases checkRoom_of_isAddressable haddressable with hroom | hmemory
    · rw [hroom]
      exact .inl houtcome
    · rw [hmemory]
      exact .inr rfl
  · obtain ⟨fault, hfault⟩ := checkRoom_of_not_isAddressable henough hinputs haddressable
    rw [hfault]
    exact iff_of_false (not_isExpected_fault fault)
      (not_or.mpr ⟨not_lt.mpr henough, haddressable⟩)

/-- The nodes of a table over fifteen axes, with 33 nodes along each, are more than an array can
have. A sampler that runs out of memory is not asked for them, and that is a fault. -/
theorem not_forall_isExpected_sampleInRoom :
    ¬∀ (s : Sampler Float) (f : NodeFunction Float) (points inputs outputs : ℤ), 2 ≤ points →
      1 ≤ inputs → s.ActsByRow (nodes points.toNat inputs.toNat) f →
      IsExpected s f points inputs outputs (sampleInRoom s points inputs outputs) := by
  intro hall
  have hfault : sampleInRoom (.exhausted : Sampler Float) 33 15 3
      = .error (Fault.raised .value "too many nodes") := by
    have hroom : checkRoom 33 15 = .error (Fault.raised .value "too many nodes") := rfl
    rw [sampleInRoom, hroom]
  have hexpected := hall .exhausted (.numbers fun _ => []) 33 15 3 (by decide) (by decide)
    (.inl rfl)
  rw [hfault] at hexpected
  exact not_isExpected_fault _ hexpected

/-- Half of the first coordinate of a node and its second coordinate less one. -/
def halfAndLess : NodeFunction ℚ :=
  .numbers fun node =>
    [Scalar.ofCode16 (node.getD 0 0) / 2, Scalar.ofCode16 (node.getD 1 0) - 1]

/-- Over the four nodes of two axes the outcome is a table: of -1 it holds the code zero, of 32767.5
the code above. -/
theorem isExpected_sampleInRoom_halfAndLess :
    ((1 : ℤ) ≤ 2 ∧ (halfAndLess.sampler 2).ActsByRow (nodes 2 2) halfAndLess)
    ∧ IsExpected (halfAndLess.sampler 2) halfAndLess 2 2 2
        (sampleInRoom (halfAndLess.sampler 2) 2 2 2)
    ∧ (sampleInRoom (halfAndLess.sampler 2) 2 2 2).toOption.map Grid.entries
        = some #[0, 0, 0, 65534, 32768, 0, 32768, 65534] := by
  have hacts : (halfAndLess.sampler 2).ActsByRow (nodes 2 2) halfAndLess :=
    NodeFunction.actsByRow_sampler fun node _ => rfl
  have hroom : IsAddressable 2 2 := by
    rw [IsAddressable]
    decide
  exact ⟨⟨by decide, hacts⟩, (isExpected_sampleInRoom_iff (by decide) hacts).2.2.mpr (.inr hroom),
    by decide +kernel⟩

end Grid

end Recolor
