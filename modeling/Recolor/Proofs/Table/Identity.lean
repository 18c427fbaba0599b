import Recolor.Proofs.Table.Filling
import Recolor.Proofs.Table.Multilinear
import Recolor.Proofs.Table.Straight

/-!
# The table of the identity

A table that is sampled from the identity holds at each node the values of the node. Those are
rounded to codes, while a point is looked up at its exact position, so the table is not the
identity even at its own nodes. It misses it by half a code at most, at every point and along any
number of axes.
-/

set_option autoImplicit false

namespace Recolor

/-- What makes of a node its own values. -/
def NodeFunction.identity {α : Type} : NodeFunction α :=
  .ofCodes id

namespace Grid

/-- A table of the identity is near to the diagonal. -/
theorem Holds.isNear_identity {α : Type} [Scalar α] {g : Grid} {points inputs outputs : ℤ}
    (hg : g.Holds (.identity : NodeFunction α) points inputs outputs) (hpoints : 2 ≤ g.points) :
    g.IsNear fun x => 1 * x + 0 := by
  intro node hlength hnode channel hchannel
  have hentry := hg.entry_ofCodes ⟨hlength, hnode⟩ hchannel
  rw [id, List.getElem?_map, Option.map_eq_some_iff] at hentry
  obtain ⟨i, hi, hentry⟩ := hentry
  have hshare := abs_nodeValue_sub_le hpoints (hnode i (List.mem_of_getElem? hi))
  rw [numberOf] at hentry
  simp only [← hentry, List.getD_eq_getElem?_getD, hi, Option.getD_some, one_mul, add_zero,
    mul_div_assoc]
  exact hshare

variable {points inputs : ℕ}

/-- Sampling the identity at two nodes or more along each of any number of axes makes a table, and
at every point of the domain the table gives in each channel the coordinate of that number to
within half a code. -/
theorem exists_identity_near (hpoints : 2 ≤ points) (hinputs : 1 ≤ inputs) :
    ∃ g : Grid,
      sample (NodeFunction.identity.sampler inputs : Sampler ℚ) points inputs inputs = .ok g
      ∧ (checkRoom points inputs = .ok () →
          sampleInRoom (NodeFunction.identity.sampler inputs : Sampler ℚ) points inputs inputs
            = .ok g)
      ∧ ∀ v : List ℚ, v.length = inputs → (∀ x ∈ v, 0 ≤ x ∧ x ≤ 65535) →
          ∃ w, g.evaluateRows.onNested (Nested.ofRow v) = .ok (Nested.ofRow w)
            ∧ AreNear (1 / 2) w v := by
  have hwidth : ∀ node ∈ nodes points inputs,
      ((NodeFunction.identity : NodeFunction ℚ).wholes node).length = inputs := by
    intro node hnode
    rw [NodeFunction.identity, NodeFunction.length_wholes_ofCodes]
    exact (mem_tuples_iff.mp hnode).1
  obtain ⟨g, hsample, hg⟩ := exists_sample_sampler hpoints hinputs hwidth fun _ _ => trivial
  have haxes : g.inputs = inputs := by exact_mod_cast hg.inputs_eq
  have houtputs : g.outputs = inputs := by exact_mod_cast hg.outputs_eq
  have henough : 2 ≤ g.points := by
    have heq := hg.points_eq
    omega
  refine ⟨g, hsample, fun hroom => ?_, fun v hlength hdomain => ?_⟩
  · rw [sampleInRoom, hroom]
    exact hsample
  · refine ⟨g.evaluate v, onNested_evaluateRows (by omega) (by omega), ?_⟩
    -- the point itself is read without error
    have hexact : AreNear 0 v v := List.forall₂_same.mpr fun x _ => by simp
    have hnear := (hg.isNear_identity henough).areNear_evaluate (by norm_num) henough
      (houtputs.trans haxes.symm) (hlength.trans haxes.symm) hexact hdomain
    simpa using hnear

/-- With three nodes along each of two axes the bound is attained at the middle of the first. -/
theorem exists_identity_near_middle :
    (2 ≤ 3 ∧ 1 ≤ 2 ∧ checkRoom 3 2 = .ok ())
    ∧ (∃ g w, sampleInRoom (NodeFunction.identity.sampler 2 : Sampler ℚ) 3 2 2 = .ok g
        ∧ g.evaluateRows.onNested (Nested.ofRow [65535 / 2, 65535]) = .ok (Nested.ofRow w)
        ∧ AreNear (1 / 2) w [65535 / 2, 65535])
    ∧ (sampleInRoom (NodeFunction.identity.sampler 2 : Sampler ℚ) 3 2 2).toOption.map
        (fun g => g.evaluate ([65535 / 2, 65535] : List ℚ)) = some [32768, 65535] := by
  have hroom : checkRoom 3 2 = .ok () := rfl
  obtain ⟨g, -, hsample, hnear⟩ := exists_identity_near (by decide : 2 ≤ 3) (by decide : 1 ≤ 2)
  obtain ⟨w, hread, hw⟩ := hnear [65535 / 2, 65535] rfl (by norm_num)
  exact ⟨⟨by decide, by decide, hroom⟩, ⟨g, w, hsample hroom, hread, hw⟩, by decide +kernel⟩

end Grid

end Recolor
