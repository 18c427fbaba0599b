import Mathlib.Tactic.FieldSimp
import Mathlib.Tactic.Ring
import Recolor.Proofs.Numeric.Rational
import Recolor.Proofs.Rows.Widths

/-!
# Curves that are nearly straight

The knots of a curve are spread evenly over the 16-bit domain. If its entries are the evenly
spread values too, rounded to codes, the curve takes every value of the domain to one that is as
near to it as the entries are to what they are rounded from.
-/

set_option autoImplicit false

namespace Recolor

/-- Rows that agree but for an error in each column. -/
def AreNear (ε : ℚ) (row exact : List ℚ) : Prop :=
  List.Forall₂ (fun x v => |x - v| ≤ ε) row exact

namespace Curve

/-! ## Following knots near the diagonal -/

/-- The line between two knots that are near to the diagonal is near to it. -/
theorem abs_line_sub_le {x x₀ y₀ x₁ y₁ ε : ℚ} (h₀ : |y₀ - x₀| ≤ ε) (h₁ : |y₁ - x₁| ≤ ε)
    (hlow : x₀ < x) (hhigh : x < x₁) :
    |(y₁ - y₀) / (x₁ - x₀) * (x - x₀) + y₀ - x| ≤ ε := by
  have hwidth : 0 < x₁ - x₀ := by linarith
  have hmean : (y₁ - y₀) / (x₁ - x₀) * (x - x₀) + y₀ - x
      = ((x₁ - x) * (y₀ - x₀) + (x - x₀) * (y₁ - x₁)) / (x₁ - x₀) := by
    field_simp
    ring
  have hleft : 0 ≤ x₁ - x := by linarith
  have hright : 0 ≤ x - x₀ := by linarith
  rw [abs_le] at h₀ h₁
  rw [hmean, abs_le, le_div_iff₀ hwidth, div_le_iff₀ hwidth]
  constructor
  · have hl := mul_le_mul_of_nonneg_left h₀.1 hleft
    have hr := mul_le_mul_of_nonneg_left h₁.1 hright
    linarith
  · have hl := mul_le_mul_of_nonneg_left h₀.2 hleft
    have hr := mul_le_mul_of_nonneg_left h₁.2 hright
    linarith

/-- Through rising knots that are near to the diagonal a value is taken to one near to it, once it
is confined to where the knots are. -/
theorem abs_follow_sub_le {first : ℚ × ℚ} {rest : List (ℚ × ℚ)} {ε : ℚ}
    (hrise : (first :: rest).Pairwise fun a b => a.1 < b.1)
    (hnear : ∀ k ∈ first :: rest, |k.2 - k.1| ≤ ε) (x : ℚ) :
    |follow x (first :: rest)
      - min (max x first.1) (((first :: rest).getLast (List.cons_ne_nil _ _)).1)| ≤ ε := by
  induction rest generalizing first with
  | nil =>
    obtain ⟨x₀, y₀⟩ := first
    simpa [follow] using hnear (x₀, y₀) List.mem_cons_self
  | cons second rest ih =>
    have hih := ih hrise.of_cons fun k hk => hnear k (List.mem_cons_of_mem _ hk)
    have hfirst := hnear first List.mem_cons_self
    have hsecond := hnear second (List.mem_cons_of_mem _ List.mem_cons_self)
    have hstep : first.1 < second.1 := List.rel_of_pairwise_cons hrise List.mem_cons_self
    have hlast : second.1 ≤ ((second :: rest).getLast (List.cons_ne_nil _ _)).1 := by
      rcases List.mem_cons.mp (List.getLast_mem (List.cons_ne_nil second rest)) with h | h
      · rw [h]
      · exact (List.rel_of_pairwise_cons hrise.of_cons h).le
    obtain ⟨x₀, y₀⟩ := first
    obtain ⟨x₁, y₁⟩ := second
    dsimp only at hfirst hsecond hstep hlast hih ⊢
    rw [List.getLast_cons_cons]
    simp only [follow, Scalar.lt_rat, decide_eq_true_eq]
    split
    · rename_i hx₁
      split
      · -- on the line between the two knots
        rename_i hx₀
        rw [max_eq_left hx₀.le, min_eq_left (hx₁.le.trans hlast)]
        exact abs_line_sub_le hfirst hsecond hx₀ hx₁
      · -- to the left of all knots
        rename_i hx₀
        rw [max_eq_right (not_lt.mp hx₀), min_eq_left (hstep.le.trans hlast)]
        exact hfirst
    · rename_i hx₁
      rw [max_eq_left (hstep.le.trans (not_lt.mp hx₁))]
      rwa [max_eq_left (not_lt.mp hx₁)] at hih

/-- Over numbers that can be compared a curve is followed whatever the number of its knots. -/
theorem interpolate_rat (knots : List (ℚ × ℚ)) (x : ℚ) : interpolate knots x = follow x knots := by
  unfold interpolate
  split
  · rfl
  · rfl

/-! ## Where the knots are -/

/-- There are as many places as knots. -/
theorem length_places (count : ℕ) : (places count : List ℚ).length = count := by
  unfold places
  split
  · rw [List.length_replicate]
  · dsimp only
    rw [List.length_append, List.length_map, List.length_range, List.length_singleton]
    omega

/-- The places of knots are their shares of the domain. -/
theorem places_eq {count : ℕ} (hcount : 2 ≤ count) :
    (places count : List ℚ) = (List.range count).map fun j : ℕ => (j : ℚ) * (65535 / (count - 1)) := by
  obtain ⟨d, rfl⟩ : ∃ d, count = d + 1 := ⟨count - 1, by omega⟩
  have hd : (d : ℚ) ≠ 0 := by exact_mod_cast (by omega : d ≠ 0)
  have hdomain : (65535.0 : ℚ) = 65535 := by norm_num
  have hspan : ((d + 1 : ℕ) : ℚ) - 1 = d := by push_cast; ring
  have hend : (d : ℚ) * (65535 / d) = 65535 := by field_simp
  have hcast (j : ℕ) : (Scalar.ofInt (Int.ofNat j) : ℚ) = j := by
    rw [Scalar.ofInt_rat]
    exact Int.cast_natCast j
  have hmany : ¬d + 1 ≤ 1 := by omega
  simp only [places, if_neg hmany, Nat.add_sub_cancel, hdomain, hcast, hspan]
  rw [List.range_succ, List.map_append, List.map_singleton, hend]

/-- The places of two or more knots go up. -/
theorem pairwise_places {count : ℕ} (hcount : 2 ≤ count) :
    (places count : List ℚ).Pairwise (· < ·) := by
  have hspan : (0 : ℚ) < count - 1 := by
    have htwo : (2 : ℚ) ≤ count := by exact_mod_cast hcount
    linarith
  rw [places_eq hcount, List.pairwise_map]
  refine List.pairwise_lt_range.imp fun {i j} hij => ?_
  have hcast : (i : ℚ) < j := by exact_mod_cast hij
  exact mul_lt_mul_of_pos_right hcast (by positivity)

/-! ## Even curves -/

/-- A curve of two or more entries that are the evenly spread values, each within half a code. -/
structure IsEven (curve : Curve) : Prop where
  two_le : 2 ≤ curve.length
  near : ∀ j (hj : j < curve.length),
    |(Scalar.ofCode16 curve[j] : ℚ) - j * 65535 / (curve.length - 1)| ≤ 1 / 2

/-- The knots of a curve stand at the places of its entries. -/
theorem map_fst_knots (c : Curve) :
    (knots c : List (ℚ × ℚ)).map Prod.fst = places c.length := by
  rw [knots, List.map_fst_zip (by rw [length_places, List.length_map])]

/-- The knots of a curve of two or more entries go to the right. -/
theorem pairwise_knots {c : Curve} (hc : 2 ≤ c.length) :
    (knots c : List (ℚ × ℚ)).Pairwise fun a b => a.1 < b.1 := by
  have hplaces := pairwise_places hc
  rwa [← map_fst_knots, List.pairwise_map] at hplaces

/-- The knots of a curve reach from one end of the domain to the other. -/
theorem knots_ends {c : Curve} (hc : 2 ≤ c.length) {first : ℚ × ℚ} {rest : List (ℚ × ℚ)}
    (hknots : knots c = first :: rest) :
    first.1 = 0 ∧ ((first :: rest).getLast (List.cons_ne_nil _ _)).1 = 65535 := by
  have hplaces := map_fst_knots c
  obtain ⟨d, hd⟩ : ∃ d, c.length = d + 1 := ⟨c.length - 1, by omega⟩
  have hpositive : (d : ℚ) ≠ 0 := by exact_mod_cast (by omega : d ≠ 0)
  rw [hknots, places_eq hc, hd] at hplaces
  constructor
  · have hhead := congrArg List.head? hplaces
    rw [List.range_succ_eq_map] at hhead
    simpa using hhead
  · have hlast := congrArg List.getLast? hplaces
    rw [List.getLast?_map, List.getLast?_eq_getLast_of_ne_nil (List.cons_ne_nil _ _),
      List.range_succ, List.map_append, List.map_singleton, List.getLast?_append] at hlast
    simp at hlast
    rw [hlast]
    field_simp

/-- The knots of an even curve are near to the diagonal. -/
theorem IsEven.abs_knot_sub_le {c : Curve} (hc : c.IsEven) :
    ∀ k ∈ (knots c : List (ℚ × ℚ)), |k.2 - k.1| ≤ 1 / 2 := by
  intro k hk
  obtain ⟨j, hj, rfl⟩ := List.mem_iff_getElem.mp hk
  have hlength : j < c.length := by
    rw [knots, List.length_zip, length_places, List.length_map] at hj
    omega
  have hnear := hc.near j hlength
  simp only [knots, places_eq hc.two_le, List.getElem_zip, List.getElem_map, List.getElem_range]
  rwa [← mul_div_assoc]

/-- An even curve takes a value, confined to the domain, to one within half a code of it. -/
theorem IsEven.abs_interpolate_sub_le {c : Curve} (hc : c.IsEven) (x : ℚ) :
    |interpolate (knots c) x - min (max x 0) 65535| ≤ 1 / 2 := by
  have hnear := hc.abs_knot_sub_le
  have hrise := pairwise_knots hc.two_le
  rw [interpolate_rat]
  cases hknots : (knots c : List (ℚ × ℚ)) with
  | nil =>
    have hlength := congrArg List.length (map_fst_knots c)
    rw [hknots, length_places, List.map_nil, List.length_nil] at hlength
    exact absurd hc.two_le (by omega)
  | cons first rest =>
    rw [hknots] at hnear hrise
    have hfollow := abs_follow_sub_le hrise hnear x
    obtain ⟨hfirst, hlast⟩ := knots_ends hc.two_le hknots
    rwa [hfirst, hlast] at hfollow

/-! ## Curves on rows -/

/-- No curves, or an even one for each of so many columns. -/
def AreEven (curves : Option (List Curve)) (columns : ℕ) : Prop :=
  curves.getD [] = []
    ∨ (curves.getD []).length = columns ∧ ∀ c ∈ curves.getD [], c.IsEven

/-- Even curves are curves for each of the columns. -/
theorem AreEven.areFor {curves : Option (List Curve)} {columns : ℕ} (h : AreEven curves columns) :
    AreFor curves columns := by
  refine h.imp_right fun ⟨hlength, heven⟩ => ⟨hlength, fun c hc hempty => ?_⟩
  have htwo := (heven c hc).two_le
  rw [hempty] at htwo
  exact absurd htwo (by simp)

/-- Even curves can be applied to rows of their width. -/
theorem AreEven.check_eq {curves : Option (List Curve)} {columns : ℕ}
    (h : AreEven curves columns) : check (curves.getD []) columns = .ok () :=
  h.areFor.check_eq le_rfl

/-- Rows keep their width under even curves. -/
theorem AreEven.width_applyRows? {curves : Option (List Curve)} {columns : ℕ}
    (h : AreEven curves columns) :
    (applyRows? curves : RowOp ℚ ℚ).width columns = .ok columns := by
  simp only [applyRows?, applyRows, h.check_eq]

/-- Even curves add half a code to the error of each column, as long as what is meant lies in the
domain. -/
theorem areNear_applyKnots {curves : List Curve} (hcurves : ∀ c ∈ curves, c.IsEven) {ε : ℚ}
    {row exact : List ℚ} (hrow : AreNear ε row exact) (hexact : ∀ v ∈ exact, 0 ≤ v ∧ v ≤ 65535) :
    AreNear (ε + 1 / 2) (applyKnots (curves.map knots) row) exact := by
  have hmore : ε ≤ ε + 1 / 2 := by norm_num
  induction hrow generalizing curves with
  | nil =>
    cases curves with
    | nil => exact .nil
    | cons c rest => exact .nil
  | @cons x v row exact hx hrow ih =>
    cases curves with
    | nil => exact .cons (hx.trans hmore) (hrow.imp fun _ _ h => h.trans hmore)
    | cons c rest =>
      have hrest := ih (fun c hc => hcurves c (List.mem_cons_of_mem _ hc))
        fun v hv => hexact v (List.mem_cons_of_mem _ hv)
      obtain ⟨hlow, hhigh⟩ := hexact v List.mem_cons_self
      have hcurve := (hcurves c List.mem_cons_self).abs_interpolate_sub_le x
      have hconfined := abs_confine_sub_le (x := x) hlow hhigh
      refine .cons ?_ hrest
      calc |interpolate (knots c) x - v|
          ≤ |interpolate (knots c) x - min (max x 0) 65535| + |min (max x 0) 65535 - v| :=
            abs_sub_le _ _ _
        _ ≤ ε + 1 / 2 := by linarith

/-- Even curves, or none at all, add at most half a code to the error of each column. -/
theorem AreEven.areNear_applyRows? {curves : Option (List Curve)} {columns : ℕ}
    (h : AreEven curves columns) {ε : ℚ} {row exact : List ℚ} (hrow : AreNear ε row exact)
    (hexact : ∀ v ∈ exact, 0 ≤ v ∧ v ≤ 65535) :
    AreNear (ε + 1 / 2) ((applyRows? curves : RowOp ℚ ℚ).run row) exact := by
  refine areNear_applyKnots (fun c hc => ?_) hrow hexact
  rcases h with hnone | ⟨-, heven⟩
  · rw [hnone] at hc
    exact absurd hc List.not_mem_nil
  · exact heven c hc

end Curve

end Recolor
