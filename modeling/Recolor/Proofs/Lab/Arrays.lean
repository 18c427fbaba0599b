import Recolor.Lab.Color
import Recolor.Proofs.Rows.Nested

/-!
# Arrays of colours

An array of colours is written as an array of samples with one more axis, along which the row of
each colour lies. What is done to the rows of such an array is done to each colour by itself,
however deep the array is nested.
-/

set_option autoImplicit false

namespace Recolor.Nested

variable {α β γ : Type}

mutual

/-- Puts in the place of each value the row that a function gives for it. -/
def expand (f : α → List β) : Nested α → Nested β
  | .leaf a => ofRow (f a)
  | .node items => .node (expandAll f items)

/-- Puts in the place of each value of several arrays the row that a function gives for it. -/
def expandAll (f : α → List β) : List (Nested α) → List (Nested β)
  | [] => []
  | a :: rest => expand f a :: expandAll f rest

end

/-- The array has a shape without empty axes and can take one axis more. -/
def CanHoldRows (a : Nested α) : Prop :=
  ∃ shape, a.shape? = some shape ∧ 0 ∉ shape ∧ shape.length < mostAxes

/-- What has rows in its places is no list of values. -/
theorem exists_node_expand (f : α → List β) (a : Nested α) : ∃ items, a.expand f = .node items := by
  cases a with
  | leaf a => exact ⟨_, rfl⟩
  | node items => exact ⟨_, rfl⟩

/-- Arrays with rows in their places are no values. -/
theorem leaves?_expandAll_cons (f : α → List β) (a : Nested α) (rest : List (Nested α)) :
    leaves? (expandAll f (a :: rest)) = none := by
  obtain ⟨items, hitems⟩ := exists_node_expand f a
  rw [expandAll, hitems, leaves?]

/-- Putting rows in the places of values leaves the number of arrays. -/
@[simp] theorem length_expandAll (f : α → List β) (items : List (Nested α)) :
    (expandAll f items).length = items.length := by
  induction items with
  | nil => rfl
  | cons a rest ih => rw [expandAll, List.length_cons, List.length_cons, ih]

/-- A map over an array that is a row is the map over the row. -/
theorem map_ofRow (g : β → γ) (row : List β) : (ofRow row).map g = ofRow (row.map g) := by
  rw [ofRow, Nested.map, mapAll_leaf, ofRow]

mutual

/-- What is done to each value of the rows in an array is done to the rows. -/
theorem map_expand (f : α → List β) (g : β → γ) :
    (a : Nested α) → (a.expand f).map g = a.expand fun c => (f c).map g
  | .leaf c => by rw [expand, expand, map_ofRow]
  | .node items => by rw [expand, expand, Nested.map, mapAll_expandAll f g items]

/-- A map over the rows in the places of values puts the mapped rows there. -/
theorem mapAll_expandAll (f : α → List β) (g : β → γ) :
    (items : List (Nested α)) →
      mapAll g (expandAll f items) = expandAll (fun c => (f c).map g) items
  | [] => rfl
  | a :: rest => by
    rw [expandAll, mapAll, expandAll, map_expand f g a, mapAll_expandAll f g rest]

end

/-- A row has its length as its shape. -/
theorem shape?_ofRow (row : List α) : (ofRow row).shape? = some [row.length] := by
  rw [ofRow, shape?, shapeAll?_leaf, List.length_map]

/-- Arrays that each have a shape have it in common. -/
theorem shapeAll?_of_shape? {items : List (Nested α)} {shape : List Nat} (hitems : items ≠ [])
    (h : ∀ a ∈ items, a.shape? = some shape) : shapeAll? items = some shape := by
  induction items with
  | nil => exact absurd rfl hitems
  | cons a rest ih =>
    have ha := h a List.mem_cons_self
    cases rest with
    | nil => rw [shapeAll?, ha]
    | cons b rest =>
      have hrest := ih (List.cons_ne_nil _ _) fun x hx => h x (List.mem_cons_of_mem _ hx)
      simp [shapeAll?, ha, hrest]

section Rows

variable {f : γ → List α} {k : Nat}

mutual

/-- Rows of one length in the places of an array are one more axis of it. -/
theorem shape?_expand (hf : ∀ c, (f c).length = k) :
    (a : Nested γ) → {shape : List Nat} → a.shape? = some shape → 0 ∉ shape →
      (a.expand f).shape? = some (shape ++ [k])
  | .leaf c, shape, ha, _ => by
    simp only [shape?, Option.some.injEq] at ha
    subst ha
    rw [expand, shape?_ofRow, hf, List.nil_append]
  | .node items, shape, ha, hfull => by
    simp only [shape?] at ha
    split at ha
    · simp at ha
    · rename_i inner hinner
      simp only [Option.some.injEq] at ha
      subst ha
      have hitems : expandAll f items ≠ [] := by
        intro hnil
        have hlength := length_expandAll f items
        rw [hnil, List.length_nil] at hlength
        exact hfull (hlength ▸ List.mem_cons_self)
      have hshape := shapeAll?_of_shape? hitems (shape?_of_mem_expandAll hf items
        (shape?_of_shapeAll? hinner) fun h => hfull (List.mem_cons_of_mem _ h))
      rw [expand, shape?, hshape, length_expandAll]
      rfl

/-- Arrays of one shape have one axis more once each value is replaced by a row of one length. -/
theorem shape?_of_mem_expandAll (hf : ∀ c, (f c).length = k) :
    (items : List (Nested γ)) → {shape : List Nat} → (∀ a ∈ items, a.shape? = some shape) →
      0 ∉ shape → ∀ b ∈ expandAll f items, b.shape? = some (shape ++ [k])
  | [], _, _, _ => by simp [expandAll]
  | a :: rest, _, hshape, hfull => by
    intro b hb
    rw [expandAll] at hb
    rcases List.mem_cons.mp hb with rfl | hb
    · exact shape?_expand hf a (hshape a List.mem_cons_self) hfull
    · exact shape?_of_mem_expandAll hf rest (fun x hx => hshape x (List.mem_cons_of_mem _ hx))
        hfull b hb

end

mutual

/-- What is done to the rows of an array is done to the row in each place. -/
theorem mapRows_expand (f : γ → List α) (h : List α → List β) :
    (a : Nested γ) → {shape : List Nat} → a.shape? = some shape → 0 ∉ shape →
      (a.expand f).mapRows h = a.expand fun c => h (f c)
  | .leaf c, _, _, _ => by rw [expand, ofRow, mapRows, leaves?_leaf, expand]
  | .node [], shape, ha, hfull => by
    simp only [shape?, shapeAll?, Option.some.injEq] at ha
    subst ha
    simp at hfull
  | .node (a :: rest), shape, ha, hfull => by
    simp only [shape?] at ha
    split at ha
    · simp at ha
    · rename_i inner hinner
      simp only [Option.some.injEq] at ha
      subst ha
      rw [expand, mapRows, leaves?_expandAll_cons, expand]
      simp only
      rw [mapRowsAll_expandAll f h (a :: rest) (shape?_of_shapeAll? hinner) fun hzero =>
        hfull (List.mem_cons_of_mem _ hzero)]

/-- A map of whole rows acts on each of the rows that were put in the places of values. -/
theorem mapRowsAll_expandAll (f : γ → List α) (h : List α → List β) :
    (items : List (Nested γ)) → {shape : List Nat} → (∀ a ∈ items, a.shape? = some shape) →
      0 ∉ shape → mapRowsAll h (expandAll f items) = expandAll (fun c => h (f c)) items
  | [], _, _, _ => rfl
  | a :: rest, _, hshape, hfull => by
    rw [expandAll, mapRowsAll, expandAll,
      mapRows_expand f h a (hshape a List.mem_cons_self) hfull,
      mapRowsAll_expandAll f h rest (fun x hx => hshape x (List.mem_cons_of_mem _ hx)) hfull]

end

end Rows

end Recolor.Nested

namespace Recolor

variable {α β γ : Type}

/-- An operation on rows is done to the row in each place of an array. -/
theorem RowOp.onNested_expand (op : RowOp α β) {f : γ → List α} {k m : Nat}
    (hwidth : op.width k = .ok m) (hf : ∀ c, (f c).length = k) {a : Nested γ}
    (ha : a.CanHoldRows) : op.onNested (a.expand f) = .ok (a.expand fun c => op.run (f c)) := by
  obtain ⟨shape, hshape, hfull, hroom⟩ := ha
  have haxes : (a.expand f).axes = .ok (shape ++ [k]) := by
    rw [Nested.axes, Nested.shape?_expand hf a hshape hfull]
    simp only [List.length_append, List.length_singleton]
    rw [if_neg (by omega)]
  have hlast : Nested.lastAxis (shape ++ [k]) = k := by simp [Nested.lastAxis]
  simp only [onNested, haxes, hlast, hwidth, Nested.mapRows_expand f op.run a hshape hfull]

/-- An operation that reads colours off rows treats each colour of an array by itself. -/
theorem Lab.readRow_onNested (f : Lab α → Lab β) {colors : Nested (Lab α)}
    (hcolors : colors.CanHoldRows) :
    (Lab.readRow fun c => (f c).toRow).onNested (colors.expand Lab.toRow)
      = .ok (colors.expand fun c => (f c).toRow) :=
  RowOp.onNested_expand (Lab.readRow fun c => (f c).toRow) (k := 3) rfl (fun _ => rfl) hcolors

end Recolor
