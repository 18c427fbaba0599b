import Recolor.Proofs.Table.Curves

/-!
# Curves that do not go down

The line between two knots rises if its knots do, and it ends where the next line begins. So if the
entries of a curve do not go down, neither does the curve when a value goes up, be it within one
line, past any number of knots or beyond the domain.
-/

set_option autoImplicit false

namespace Recolor.Curve

/-- Knots that go to the right and not down. -/
def AreRising (knots : List (ℚ × ℚ)) : Prop :=
  knots.Pairwise fun a b => a.1 < b.1 ∧ a.2 ≤ b.2

section Knots

variable {x x' x₀ y₀ x₁ y₁ : ℚ} {rest : List (ℚ × ℚ)}

/-- To the left of its second knot a curve follows the first line, and stays at its beginning. -/
theorem follow_of_lt (hx : x < x₁) :
    follow x ((x₀, y₀) :: (x₁, y₁) :: rest) = (y₁ - y₀) / (x₁ - x₀) * max (x - x₀) 0 + y₀ := by
  simp only [follow, Scalar.lt_rat, decide_eq_true_eq, if_pos hx]
  split
  · rename_i hx₀
    rw [max_eq_left (sub_nonneg.mpr hx₀.le)]
  · rename_i hx₀
    rw [max_eq_right (sub_nonpos.mpr (not_lt.mp hx₀)), mul_zero, zero_add]

/-- From its second knot on a curve follows the lines after the first. -/
theorem follow_of_le (hx : x₁ ≤ x) :
    follow x ((x₀, y₀) :: (x₁, y₁) :: rest) = follow x ((x₁, y₁) :: rest) := by
  simp only [follow, Scalar.lt_rat, decide_eq_true_eq, if_neg (not_lt.mpr hx)]

/-- The line between two rising knots does not go down. -/
theorem slope_nonneg (hstep : x₀ < x₁ ∧ y₀ ≤ y₁) : 0 ≤ (y₁ - y₀) / (x₁ - x₀) :=
  div_nonneg (sub_nonneg.mpr hstep.2) (sub_nonneg.mpr hstep.1.le)

/-- Before the second knot a rising curve stays below it. -/
theorem follow_le_of_lt (hstep : x₀ < x₁ ∧ y₀ ≤ y₁) (hx : x < x₁) :
    follow x ((x₀, y₀) :: (x₁, y₁) :: rest) ≤ y₁ := by
  have hspan : 0 < x₁ - x₀ := sub_pos.mpr hstep.1
  have hwithin : max (x - x₀) 0 ≤ x₁ - x₀ := max_le (sub_le_sub_right hx.le _) hspan.le
  calc follow x ((x₀, y₀) :: (x₁, y₁) :: rest)
      = (y₁ - y₀) / (x₁ - x₀) * max (x - x₀) 0 + y₀ := follow_of_lt hx
    _ ≤ (y₁ - y₀) / (x₁ - x₀) * (x₁ - x₀) + y₀ :=
        add_le_add_left (mul_le_mul_of_nonneg_left hwithin (slope_nonneg hstep)) _
    _ = y₁ := by rw [div_mul_cancel₀ _ hspan.ne', sub_add_cancel]

/-- A rising curve stays above its first knot. -/
theorem le_follow (h : AreRising ((x₀, y₀) :: rest)) (x : ℚ) :
    y₀ ≤ follow x ((x₀, y₀) :: rest) := by
  induction rest generalizing x₀ y₀ with
  | nil => exact le_rfl
  | cons second rest ih =>
    obtain ⟨x₁, y₁⟩ := second
    have hstep : x₀ < x₁ ∧ y₀ ≤ y₁ := List.rel_of_pairwise_cons h List.mem_cons_self
    rcases lt_or_ge x x₁ with hx | hx
    · rw [follow_of_lt hx]
      exact le_add_of_nonneg_left (mul_nonneg (slope_nonneg hstep) (le_max_right _ _))
    · rw [follow_of_le hx]
      exact hstep.2.trans (ih h.of_cons)

/-- Along rising knots a greater place has no lesser value. -/
theorem follow_le_follow {knots : List (ℚ × ℚ)} (h : AreRising knots) (hx : x ≤ x') :
    follow x knots ≤ follow x' knots := by
  induction knots with
  | nil => exact le_rfl
  | cons first rest ih =>
    cases rest with
    | nil => exact le_rfl
    | cons second rest =>
      obtain ⟨x₀, y₀⟩ := first
      obtain ⟨x₁, y₁⟩ := second
      have hstep : x₀ < x₁ ∧ y₀ ≤ y₁ := List.rel_of_pairwise_cons h List.mem_cons_self
      rcases lt_or_ge x x₁ with hleft | hright
      · rcases lt_or_ge x' x₁ with hleft' | hright'
        · -- both lie on the first line
          have hgain : max (x - x₀) 0 ≤ max (x' - x₀) 0 :=
            max_le_max_right 0 (sub_le_sub_right hx x₀)
          rw [follow_of_lt hleft, follow_of_lt hleft']
          exact add_le_add_left (mul_le_mul_of_nonneg_left hgain (slope_nonneg hstep)) _
        · -- the second knot lies between them
          rw [follow_of_le hright']
          exact (follow_le_of_lt hstep hleft).trans (le_follow h.of_cons x')
      · rw [follow_of_le hright, follow_of_le (hright.trans hx)]
        exact ih h.of_cons

end Knots

section Entries

variable {c : Curve} {x x' : ℚ}

/-- The knots of a curve rise if its entries do not go down. -/
theorem areRising_knots (hc : c.Pairwise (· ≤ ·)) : AreRising (knots c) := by
  rcases Nat.lt_or_ge c.length 2 with hshort | htwo
  · match c, hshort with
    | [], _ => exact .nil
    | [_], _ => exact List.pairwise_singleton _ _
  · have hcodes : (c.map (Scalar.ofCode16 : UInt16 → ℚ)).Pairwise (· ≤ ·) := by
      rw [List.pairwise_map]
      refine hc.imp fun {a b} hab => ?_
      rw [Scalar.ofCode16_rat, Scalar.ofCode16_rat]
      exact_mod_cast UInt16.le_iff_toNat_le.mp hab
    have hvalues : (knots c : List (ℚ × ℚ)).map Prod.snd = c.map Scalar.ofCode16 := by
      rw [knots, List.map_snd_zip (by rw [length_places, List.length_map])]
    rw [← hvalues, List.pairwise_map] at hcodes
    exact (pairwise_knots htwo).and hcodes

/-- A curve whose entries do not go down takes a greater value to no lesser one. -/
theorem interpolate_le_interpolate (hc : c.Pairwise (· ≤ ·)) (hx : x ≤ x') :
    interpolate (knots c) x ≤ interpolate (knots c) x' := by
  rw [interpolate_rat, interpolate_rat]
  exact follow_le_follow (areRising_knots hc) hx

end Entries

/-! ## Rising curves on rows -/

section Rows

variable {curves : List Curve} {row row' : List ℚ}

/-- What curves make of a value in a column. -/
def inColumn (curves : List Curve) (column : ℕ) (x : ℚ) : ℚ :=
  match curves[column]? with
  | none => x
  | some c => interpolate (knots c) x

/-- Each column of a row is taken through the curve of that column. -/
theorem getElem?_applyKnots (curves : List Curve) (row : List ℚ) (column : ℕ) :
    (applyKnots (curves.map knots) row)[column]? = row[column]?.map (inColumn curves column) := by
  induction curves generalizing row column with
  | nil =>
    have hid : inColumn [] column = id := by
      funext x
      simp [inColumn]
    rw [hid, Option.map_id]
    rfl
  | cons c rest ih =>
    cases row with
    | nil => rfl
    | cons x row =>
      cases column with
      | zero => rfl
      | succ column => exact ih row column

/-- In a column a curve that does not go down keeps the order of values. -/
theorem inColumn_le_inColumn {column : ℕ} {x x' : ℚ}
    (hcurve : ∀ c, curves[column]? = some c → c.Pairwise (· ≤ ·)) (hx : x ≤ x') :
    inColumn curves column x ≤ inColumn curves column x' := by
  unfold inColumn
  cases hc : curves[column]? with
  | none => exact hx
  | some c => exact interpolate_le_interpolate (hcurve c hc) hx

/-- Curves that do not go down keep the order of rows, column by column. -/
theorem forall₂_applyKnots (hcurves : ∀ c ∈ curves, c.Pairwise (· ≤ ·))
    (hrows : List.Forall₂ (· ≤ ·) row row') :
    List.Forall₂ (· ≤ ·) (applyKnots (curves.map knots) row)
      (applyKnots (curves.map knots) row') := by
  induction hrows generalizing curves with
  | nil =>
    cases curves with
    | nil => exact .nil
    | cons c rest => exact .nil
  | cons hx hrows ih =>
    cases curves with
    | nil => exact .cons hx hrows
    | cons c rest =>
      exact .cons (interpolate_le_interpolate (hcurves c List.mem_cons_self) hx)
        (ih fun c hc => hcurves c (List.mem_cons_of_mem _ hc))

end Rows

end Recolor.Curve
