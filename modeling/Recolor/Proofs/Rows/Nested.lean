import Recolor.Rows.RowOp

/-!
# Operations that treat every sample alike, on nested arrays

The innermost lists of an array are its rows. In an array that has a shape they are all of the
length of its last axis, so an operation that does to each sample of such a row the same thing
does it to each sample of the array, however deep the array is nested.
-/

set_option autoImplicit false

namespace Recolor.Nested

variable {α β : Type}

/-- A list of values is an array of one axis. -/
theorem shapeAll?_leaf (row : List α) : shapeAll? (row.map Nested.leaf) = some [] := by
  induction row with
  | nil => rfl
  | cons x row ih =>
    cases row with
    | nil => rfl
    | cons y row =>
      rw [List.map_cons, List.map_cons, shapeAll?, ← List.map_cons, ih]
      · rfl
      · simp

/-- The values of a list of leaves are those of the leaves. -/
theorem leaves?_leaf (row : List α) : leaves? (row.map Nested.leaf) = some row := by
  induction row with
  | nil => rfl
  | cons x row ih => rw [List.map_cons, leaves?, ih]; rfl

/-- A list that has values is one of leaves. -/
theorem leaves?_eq_some {items : List (Nested α)} {row : List α} (h : leaves? items = some row) :
    items = row.map .leaf := by
  induction items generalizing row with
  | nil =>
    simp only [leaves?, Option.some.injEq] at h
    simp [← h]
  | cons item rest ih =>
    cases item with
    | node _ => simp [leaves?] at h
    | leaf a =>
      simp only [leaves?, Option.map_eq_some_iff] at h
      obtain ⟨row, hrest, rfl⟩ := h
      rw [List.map_cons, ← ih hrest]

/-- What is not a list of values only has an array of more axes among its items. -/
theorem exists_node_of_leaves? {items : List (Nested α)} (h : leaves? items = none) :
    ∃ inner, .node inner ∈ items := by
  induction items with
  | nil => simp [leaves?] at h
  | cons item rest ih =>
    cases item with
    | node inner => exact ⟨inner, List.mem_cons_self⟩
    | leaf a =>
      simp only [leaves?, Option.map_eq_none_iff] at h
      obtain ⟨inner, hinner⟩ := ih h
      exact ⟨inner, List.mem_cons_of_mem _ hinner⟩

/-- Arrays that have a shape in common each have it. -/
theorem shape?_of_shapeAll? {items : List (Nested α)} {shape : List Nat}
    (h : shapeAll? items = some shape) : ∀ a ∈ items, a.shape? = some shape := by
  induction items with
  | nil => simp
  | cons item rest ih =>
    cases rest with
    | nil => simpa [shapeAll?] using h
    | cons next rest =>
      simp only [shapeAll?] at h
      split at h
      · rename_i s t hitem hrest
        split at h
        · rename_i hsame
          simp only [Option.some.injEq] at h
          subst hsame h
          intro a ha
          rcases List.mem_cons.mp ha with rfl | ha
          · exact hitem
          · exact ih hrest a ha
        · simp at h
      · simp at h

/-- What is not a list of values is of more than one axis. -/
theorem axes_of_leaves? {items : List (Nested α)} {shape : List Nat}
    (hshape : shapeAll? items = some shape) (h : leaves? items = none) : shape ≠ [] := by
  obtain ⟨inner, hinner⟩ := exists_node_of_leaves? h
  have hnode := shape?_of_shapeAll? hshape _ hinner
  rw [shape?] at hnode
  split at hnode
  · simp at hnode
  · simp only [Option.some.injEq] at hnode
    rw [← hnode]
    exact List.cons_ne_nil _ _

/-- The arrays in an array share its last axis, if they have axes. -/
theorem lastAxis_cons (length : Nat) {shape : List Nat} (h : shape ≠ []) :
    lastAxis (length :: shape) = lastAxis shape := by
  obtain ⟨first, rest, rfl⟩ := List.exists_cons_of_ne_nil h
  rw [lastAxis, lastAxis, List.getLast?_cons_cons]

/-- A map over leaves maps their values. -/
theorem mapAll_leaf (g : α → β) (row : List α) :
    mapAll g (row.map .leaf) = (row.map g).map .leaf := by
  induction row with
  | nil => rfl
  | cons a row ih => rw [List.map_cons, mapAll, ih, map, List.map_cons, List.map_cons]

section SampleBySample

variable {f : List α → List β} {g : α → β} {k : Nat}

mutual

/-- What is done to the rows of an array is done to its samples, if it is in each row of the length
of the last axis. -/
theorem mapRows_eq_map (hf : ∀ row, row.length = k → f row = row.map g) (hk : 1 ≤ k) :
    (a : Nested α) → {shape : List Nat} → a.shape? = some shape → lastAxis shape = k →
      a.mapRows f = a.map g
  | .leaf a, shape, ha, hlast => by
    simp only [shape?, Option.some.injEq] at ha
    subst ha
    exact absurd hlast (by rw [lastAxis]; simp; omega)
  | .node items, shape, ha, hlast => by
    simp only [shape?] at ha
    split at ha
    · simp at ha
    · rename_i inner hinner
      simp only [Option.some.injEq] at ha
      subst ha
      rw [mapRows, map]
      split
      · -- a row of the innermost axis
        rename_i row hrow
        obtain rfl := leaves?_eq_some hrow
        rw [shapeAll?_leaf, Option.some.injEq] at hinner
        have hlength : row.length = k := by
          subst hinner
          simpa [lastAxis] using hlast
        rw [hf row hlength, mapAll_leaf, ofRow]
      · rename_i hdeeper
        rw [lastAxis_cons _ (axes_of_leaves? hinner hdeeper)] at hlast
        rw [mapRowsAll_eq_mapAll hf hk items (shape?_of_shapeAll? hinner) hlast]

/-- The same of several arrays of one shape. -/
theorem mapRowsAll_eq_mapAll (hf : ∀ row, row.length = k → f row = row.map g) (hk : 1 ≤ k) :
    (items : List (Nested α)) → {shape : List Nat} → (∀ a ∈ items, a.shape? = some shape) →
      lastAxis shape = k → mapRowsAll f items = mapAll g items
  | [], _, _, _ => rfl
  | a :: rest, _, hshape, hlast => by
    rw [mapRowsAll, mapAll, mapRows_eq_map hf hk a (hshape a List.mem_cons_self) hlast,
      mapRowsAll_eq_mapAll hf hk rest (fun b hb => hshape b (List.mem_cons_of_mem _ hb)) hlast]

end

end SampleBySample

mutual

/-- The identity leaves an array as it is. -/
theorem map_id (a : Nested α) : a.map id = a := by
  cases a with
  | leaf a => rfl
  | node items => rw [map, mapAll_id items]

/-- The identity leaves several arrays as they are. -/
theorem mapAll_id (items : List (Nested α)) : mapAll id items = items := by
  cases items with
  | nil => rfl
  | cons a rest => rw [mapAll, map_id a, mapAll_id rest]

end

end Recolor.Nested

namespace Recolor.RowOp

variable {α β : Type} {f : RowOp α β} {g : α → β} {k m : Nat}

/-- An operation that does the same to each sample of rows of one width does it to every array of
such rows. -/
theorem onNested_eq_map (hwidth : f.width k = .ok m)
    (hf : ∀ row, row.length = k → f.run row = row.map g) (hk : 1 ≤ k) {a : Nested α}
    {shape : List Nat} (ha : a.axes = .ok shape) (hlast : Nested.lastAxis shape = k) :
    f.onNested a = .ok (a.map g) := by
  have hshape : a.shape? = some shape := by
    unfold Nested.axes at ha
    split at ha
    · simp at ha
    · rename_i hshape
      split at ha
      · simp at ha
      · simp only [Except.ok.injEq] at ha
        rw [hshape, ha]
  simp only [onNested, ha, hlast, hwidth]
  rw [Nested.mapRows_eq_map hf hk a hshape hlast]

/-- An operation that does the same to each sample of rows of one width does it to every block of
such rows. -/
theorem onBlock_eq_map {f : RowOp α α} {g : α → α} (hwidth : f.width k = .ok k)
    (hf : ∀ row, row.length = k → f.run row = row.map g) {b : Block α} (hb : b.width = k)
    (hrows : ∀ row ∈ b.rows, row.length = k) :
    f.onBlock b = .ok { b with rows := b.rows.map (List.map g) } := by
  have hrun : b.rows.map f.run = b.rows.map (List.map g) :=
    List.map_congr_left fun row hrow => hf row (hrows row hrow)
  simp only [onBlock, hb, hwidth, hrun]

end Recolor.RowOp
