import Recolor.Yaml.Document

/-!
# What documents hold

A document can hold values of every kind but paths. So whatever is read from a file has no path in
it, at any depth (`Yaml.isDocument_of_ofBytes`): scalars are made values without one, filling the
collections adds no scalars, and unfolding puts together what was made.
-/

set_option autoImplicit false

namespace Recolor

/-- A mapped result that is there is the image of one. -/
theorem exists_of_map_ok {α β ε : Type} {r : Except ε α} {g : α → β} {b : β}
    (h : r.map g = .ok b) : ∃ a, r = .ok a ∧ g a = b := by
  cases r with
  | error e => cases h
  | ok a => exact ⟨a, rfl, Except.ok.inj h⟩

/-- What stands in a table after something is put into it. -/
theorem eq_or_mem_of_setIfInBounds {α : Type} {table : Array (Option α)} {i j : Nat} {a b : α}
    (h : (table.setIfInBounds i (some a))[j]? = some (some b)) :
    b = a ∨ table[j]? = some (some b) := by
  rw [Array.getElem?_setIfInBounds] at h
  split at h
  case isFalse => exact .inr h
  case isTrue =>
    split at h
    case isTrue => exact .inl (Option.some.inj (Option.some.inj h)).symm
    case isFalse => cases h

/-- Nothing stands in a table that is made empty. -/
theorem not_mem_replicate {α : Type} {n i : Nat} {a : α} :
    (Array.replicate n (none : Option α))[i]? ≠ some (some a) := by
  rw [Array.getElem?_replicate]
  split <;> simp

namespace Value

mutual

/-- Whether a value is one that a document can hold: no path is in it. -/
def isDocument : Value → Bool
  | .path _ => false
  | .list items => areDocuments items
  | .tuple items => areDocuments items
  | .set items => areDocuments items
  | .map entries => entriesAreDocuments entries
  | _ => true

/-- Whether a document can hold some values. -/
def areDocuments : List Value → Bool
  | [] => true
  | v :: rest => v.isDocument && areDocuments rest

/-- Whether a document can hold some entries. -/
def entriesAreDocuments : List (Value × Value) → Bool
  | [] => true
  | (k, v) :: rest => k.isDocument && v.isDocument && entriesAreDocuments rest

end

/-- A document can hold values exactly if it can hold each of them. -/
theorem areDocuments_iff {items : List Value} :
    areDocuments items = true ↔ ∀ v ∈ items, v.isDocument = true := by
  induction items with
  | nil => simp [areDocuments]
  | cons v rest ih => simp [areDocuments, ih]

/-- A document can hold entries exactly if it can hold their keys and values. -/
theorem entriesAreDocuments_iff {entries : List (Value × Value)} :
    entriesAreDocuments entries = true
      ↔ ∀ e ∈ entries, e.1.isDocument = true ∧ e.2.isDocument = true := by
  induction entries with
  | nil => simp [entriesAreDocuments]
  | cons e rest ih =>
    obtain ⟨k, v⟩ := e
    simp [entriesAreDocuments, ih]

end Value

/-! ## Members of sets -/

namespace Scatter

/-- What stands in a table was there before or is one of the members. -/
theorem mem_of_mem_fill {α : Type} {table : Array (Option α)} {numbers : List (Int × α)} {v : α}
    (h : some v ∈ fill table numbers) : some v ∈ table ∨ v ∈ numbers.map Prod.snd := by
  induction numbers generalizing table with
  | nil => exact .inl h
  | cons e rest ih =>
    obtain ⟨residue, w⟩ := e
    rw [fill] at h
    rcases ih h with hplaced | hrest
    · rcases Array.mem_or_eq_of_mem_setIfInBounds hplaced with htable | hnew
      · exact .inl htable
      · exact .inr (by simp [Option.some.inj hnew])
    · exact .inr (List.mem_cons_of_mem w hrest)

/-- Members that are numbered stay the same members. -/
theorem map_snd_of_mapM {α : Type} {number? : α → Option Int} {members : List α}
    {numbers : List (Int × α)}
    (h : (members.mapM fun v => (number? v).map fun r => (r, v)) = some numbers) :
    numbers.map Prod.snd = members := by
  induction members generalizing numbers with
  | nil =>
    cases h
    rfl
  | cons v rest ih =>
    simp only [List.mapM_cons, Option.pure_def, Option.bind_eq_bind, Option.bind_eq_some_iff,
      Option.map_eq_some_iff] at h
    obtain ⟨_, ⟨r, -, rfl⟩, others, hothers, hnumbers⟩ := h
    cases hnumbers
    rw [List.map_cons, ih hothers]

/-- What a set lists is one of its members. -/
theorem mem_of_mem_order {members : List Value} {v : Value} (h : v ∈ order members) :
    v ∈ members := by
  unfold order at h
  split at h
  case h_1 => exact h
  case h_2 numbers hnumbers =>
    obtain ⟨_, hslot, rfl⟩ := List.mem_filterMap.mp h
    rcases mem_of_mem_fill (Array.mem_toList_iff.mp hslot) with htable | hnumber
    · cases (Array.mem_replicate.mp htable).2
    · rwa [map_snd_of_mapM hnumbers] at hnumber

end Scatter

/-! ## Scalars and the collections of them -/

namespace Yaml

/-- A time is read as a value that a document can hold. -/
theorem Number.isDocument_of_readStamp {s : String} {v : Value} (h : readStamp s = .ok v) :
    v.isDocument = true := by
  unfold readStamp at h
  split at h
  case h_1 => cases h
  case h_2 stamp _ =>
    simp only at h
    split at h
    case isFalse => cases h
    case isTrue =>
      split at h
      case h_1 => cases h; rfl
      case h_2 =>
        split at h
        case isTrue => cases h; rfl
        case isFalse => cases h

namespace Making

/-- A scalar is read as a value that a document can hold. -/
theorem isDocument_of_textValue {kind : Kind} {text : String} {v : Value}
    (h : textValue kind text = .ok v) : v.isDocument = true := by
  unfold textValue at h
  split at h
  case h_6 => exact Number.isDocument_of_readStamp h
  all_goals first
    | cases h; rfl
    | cases h
    | obtain ⟨a, -, rfl⟩ := exists_of_map_ok h; rfl

/-- The value of a scalar node is one that a document can hold. -/
theorem isDocument_of_leafValue {g : Graph} {id : NodeId} {v : Value} (h : leafValue g id = .ok v) :
    v.isDocument = true := by
  unfold leafValue at h
  cases htext : text g 1000 id with
  | error f => simp [htext, bind, Except.bind] at h
  | ok s =>
    simp only [htext, bind, Except.bind] at h
    split at h
    case h_1 => cases h
    case h_2 => exact isDocument_of_textValue h

/-- A collection is not begun as a leaf. -/
theorem emptyOf?_ne_leaf {kind : Kind} {v : Value} : emptyOf? kind ≠ some (.leaf v) := by
  cases kind <;> simp [emptyOf?]

/-- Every value that was made of a node is one that a document can hold. -/
def HoldsDocuments (m : Making) : Prop :=
  ∀ (id : NodeId) (v : Value), m.objects[id]? = some (some (.leaf v)) → v.isDocument = true

/-- The leaf of a node is a value that a document can hold. -/
theorem HoldsDocuments.leaf {m : Making} (h : m.HoldsDocuments) (id : NodeId) :
    ((m.leaf? id).getD .null).isDocument = true := by
  unfold leaf?
  split
  case h_1 v hv => exact h id v (Option.join_eq_some_iff.mp hv)
  case h_2 => rfl

/-- Such an object can be kept for a node. -/
theorem HoldsDocuments.keep {m : Making} (h : m.HoldsDocuments) (id : NodeId) {o : Object}
    (ho : ∀ v, o = .leaf v → v.isDocument = true) : (m.keep id o).HoldsDocuments := by
  intro other v hleaf
  rcases eq_or_mem_of_setIfInBounds hleaf with heq | hold
  · exact ho v heq.symm
  · exact h other v hold

/-- Making the value of a node keeps to such values. -/
theorem HoldsDocuments.make {m m' : Making} (h : m.HoldsDocuments) {id : NodeId}
    (hmake : m.make id = .ok m') : m'.HoldsDocuments := by
  unfold Making.make at hmake
  split at hmake
  case h_1 => cases hmake; exact h
  case h_2 =>
    split at hmake
    case h_4 =>
      split at hmake
      case h_1 o ho =>
        cases hmake
        exact h.keep id fun v hv => absurd (hv ▸ ho) emptyOf?_ne_leaf
      case h_2 =>
        obtain ⟨v, hv, rfl⟩ := exists_of_map_ok hmake
        refine h.keep id fun w hw => ?_
        cases hw
        exact isDocument_of_leafValue hv
    all_goals cases hmake

/-- Making the values of several nodes keeps to such values. -/
theorem HoldsDocuments.makeAll {m m' : Making} (h : m.HoldsDocuments) {ids : List NodeId}
    (hmake : m.makeAll ids = .ok m') : m'.HoldsDocuments := by
  induction ids generalizing m with
  | nil => cases hmake; exact h
  | cons id rest ih =>
    rw [Making.makeAll] at hmake
    split at hmake
    case h_1 => cases hmake
    case h_2 hfirst => exact ih (h.make hfirst) hmake

/-- Making the entries of a mapping keeps to such values. -/
theorem HoldsDocuments.makeEntries {m m' : Making} (h : m.HoldsDocuments) {found entries : Entries}
    {all : Entries} (hmake : m.makeEntries found entries = .ok (all, m')) : m'.HoldsDocuments := by
  induction entries generalizing m found with
  | nil => cases hmake; exact h
  | cons e rest ih =>
    obtain ⟨k, v⟩ := e
    rw [Making.makeEntries] at hmake
    split at hmake
    case h_1 => cases hmake
    case h_2 hkey =>
      split at hmake
      case h_1 => cases hmake
      case h_2 =>
        split at hmake
        case h_1 => cases hmake
        case h_2 hvalue => exact ih ((h.make hkey).make hvalue) hmake

/-- Making a mapping keeps to such values. -/
theorem HoldsDocuments.makeMapping {m m' : Making} (h : m.HoldsDocuments) {id : NodeId}
    {all : Entries} (hmake : m.makeMapping id = .ok (all, m')) : m'.HoldsDocuments := by
  unfold Making.makeMapping at hmake
  split at hmake
  case h_1 => cases hmake
  case h_2 =>
    split at hmake
    case h_1 => cases hmake
    case h_2 graph _ =>
      have hgraph : { m with graph }.HoldsDocuments := h
      exact hgraph.makeEntries hmake

/-- Making pairs keeps to such values. -/
theorem HoldsDocuments.makePairs {m m' : Making} (h : m.HoldsDocuments) {ids : List NodeId}
    {all : Entries} (hmake : m.makePairs ids = .ok (all, m')) : m'.HoldsDocuments := by
  induction ids generalizing m all with
  | nil => cases hmake; exact h
  | cons id rest ih =>
    rw [Making.makePairs] at hmake
    split at hmake
    case h_1 =>
      split at hmake
      case h_1 => cases hmake
      case h_2 hfirst =>
        obtain ⟨⟨others, m''⟩, hrest, hall⟩ := exists_of_map_ok hmake
        cases hall
        exact ih (h.makeAll hfirst) hrest
    case h_2 => cases hmake

/-- Filling a collection keeps to such values. -/
theorem HoldsDocuments.fill {m m' : Making} (h : m.HoldsDocuments) {id : NodeId}
    (hfill : m.fill id = .ok m') : m'.HoldsDocuments := by
  unfold Making.fill at hfill
  split at hfill
  case h_1 =>
    obtain ⟨m'', hitems, rfl⟩ := exists_of_map_ok hfill
    exact (h.makeAll hitems).keep id (by simp)
  case h_2 =>
    obtain ⟨⟨found, m''⟩, hpairs, rfl⟩ := exists_of_map_ok hfill
    exact (h.makePairs hpairs).keep id (by simp)
  case h_3 => cases hfill
  case h_4 => cases hfill
  case h_5 =>
    obtain ⟨⟨found, m''⟩, hset, rfl⟩ := exists_of_map_ok hfill
    exact (h.makeMapping hset).keep id (by simp)
  case h_6 =>
    obtain ⟨⟨found, m''⟩, hmap, rfl⟩ := exists_of_map_ok hfill
    exact (h.makeMapping hmap).keep id (by simp)

/-- Filling several collections keeps to such values. -/
theorem HoldsDocuments.fillAll {m m' : Making} (h : m.HoldsDocuments) {ids : List NodeId}
    (hfill : m.fillAll ids = .ok m') : m'.HoldsDocuments := by
  induction ids generalizing m with
  | nil => cases hfill; exact h
  | cons id rest ih =>
    rw [Making.fillAll] at hfill
    split at hfill
    case h_1 => cases hfill
    case h_2 hfirst => exact ih (h.fill hfirst) hfill

/-- Filling what is left to fill keeps to such values. -/
theorem HoldsDocuments.finish {m m' : Making} (h : m.HoldsDocuments) {room : Nat}
    (hfinish : Making.finish room m = .ok m') : m'.HoldsDocuments := by
  induction room generalizing m with
  | zero => cases hfinish; exact h
  | succ room ih =>
    rw [Making.finish] at hfinish
    split at hfinish
    case h_1 => cases hfinish; exact h
    case h_2 =>
      split at hfinish
      case h_1 => cases hfinish
      case h_2 hfilled =>
        have hempty : { m with waiting := [] }.HoldsDocuments := h
        exact ih (hempty.fillAll hfilled) hfinish

/-- What is made of a document keeps to such values. -/
theorem holdsDocuments_of_ofDocument {d : Document} {m : Making} (h : ofDocument d = .ok m) :
    m.HoldsDocuments := by
  simp only [ofDocument, bind, Except.bind] at h
  split at h
  case h_1 => cases h
  case h_2 hroot =>
    refine HoldsDocuments.finish (HoldsDocuments.make ?_ hroot) h
    exact fun _ _ hleaf => absurd hleaf not_mem_replicate

end Making

/-! ## Objects unfolded -/

/-- The values that are known are ones that a document can hold. -/
def Known.HoldsDocuments (known : Known) : Prop :=
  ∀ (id : NodeId) (v : Value), known[id]? = some (some v) → v.isDocument = true

/-- A value that a document can hold may be learned. -/
theorem Known.HoldsDocuments.learn {known : Known} (h : known.HoldsDocuments) (id : NodeId)
    {v : Value} (hv : v.isDocument = true) :
    Known.HoldsDocuments (known.setIfInBounds id (some v)) := by
  intro other w hw
  rcases eq_or_mem_of_setIfInBounds hw with rfl | hold
  · exact hv
  · exact h other w hold

/-- What was unfolded is a value that a document can hold, and so is all that is known. -/
structure Unfolded.IsDocument (u : Unfolded) : Prop where
  value : u.value.isDocument = true
  known : Known.HoldsDocuments u.known

namespace Making

/-- Nodes that are unfolded one after another become values that a document can hold. -/
theorem isDocument_unfoldAll {unfold : Known → NodeId → Unfolded}
    (hunfold : ∀ known id, Known.HoldsDocuments known → (unfold known id).IsDocument)
    {known : Known} (hknown : known.HoldsDocuments) (ids : List NodeId) :
    (∀ v ∈ (unfoldAll unfold known ids).1, v.isDocument = true)
      ∧ (unfoldAll unfold known ids).2.2.HoldsDocuments := by
  induction ids generalizing known with
  | nil => exact ⟨by simp [unfoldAll], hknown⟩
  | cons id rest ih =>
    have hfirst := hunfold known id hknown
    obtain ⟨hrest, hall⟩ := ih hfirst.known
    exact ⟨List.forall_mem_cons.mpr ⟨hfirst.value, hrest⟩, hall⟩

/-- The pairs of such values are entries that a document can hold. -/
theorem isDocument_pairsOf {values : List Value} (h : ∀ v ∈ values, v.isDocument = true) :
    ∀ e ∈ unfold.pairsOf values, e.1.isDocument = true ∧ e.2.isDocument = true := by
  fun_induction unfold.pairsOf values with
  | case1 a b rest ih =>
    simp only [List.forall_mem_cons] at h ⊢
    exact ⟨⟨h.1, h.2.1⟩, ih h.2.2⟩
  | case2 => simp

/-- A collection holds what its parts were unfolded to, unless it is met inside itself. -/
theorem isDocument_collection {unfold : Known → NodeId → Unfolded}
    (hunfold : ∀ known id, Known.HoldsDocuments known → (unfold known id).IsDocument)
    {known : Known} (hknown : known.HoldsDocuments) (build : List Value → Value)
    (hbuild : ∀ values, (∀ v ∈ values, Value.isDocument v = true) →
      (build values).isDocument = true)
    (isInside isMap isWhole : Bool) (parts : List NodeId) (id : NodeId) :
    Unfolded.IsDocument
      (if isInside then { value := .again isMap, isKnotted := true, known }
      else
        let (values, isKnotted, known) := unfoldAll unfold known parts
        let value := build values
        { value, isKnotted
          known :=
            if isWhole && !isKnotted then known.setIfInBounds id (some value) else known }) := by
  split
  case isTrue => exact ⟨rfl, hknown⟩
  case isFalse =>
    obtain ⟨hvalues, hall⟩ := isDocument_unfoldAll hunfold hknown parts
    refine ⟨hbuild _ hvalues, ?_⟩
    simp only
    split
    case isTrue => exact hall.learn id (hbuild _ hvalues)
    case isFalse => exact hall

/-- A node is unfolded to a value that a document can hold, at any depth. -/
theorem isDocument_unfold {m : Making} (hm : m.HoldsDocuments) (room levels : Nat)
    (inside : List NodeId) {known : Known} (hknown : known.HoldsDocuments) (id : NodeId) :
    (m.unfold room levels inside known id).IsDocument := by
  induction room generalizing levels inside known id with
  | zero => exact ⟨rfl, hknown⟩
  | succ room ih =>
    rw [unfold]
    split
    case h_1 value hvalue =>
      refine ⟨?_, hknown⟩
      split at hvalue
      case isTrue => exact hknown id value (Option.join_eq_some_iff.mp hvalue)
      case isFalse => cases hvalue
    case h_2 =>
      have hparts (known : Known) (part : NodeId) (h : known.HoldsDocuments) :=
        ih (levels - 1) (if levels = 0 then id :: inside else []) h part
      split
      case h_1 => exact ⟨rfl, hknown⟩
      case h_2 v hv => exact ⟨hm id v (Option.join_eq_some_iff.mp hv), hknown⟩
      case h_3 keys hkeys =>
        refine ⟨Value.areDocuments_iff.mpr fun v hv => ?_, hknown⟩
        obtain ⟨key, -, rfl⟩ := List.mem_map.mp (Scatter.mem_of_mem_order hv)
        exact hm.leaf key
      case h_4 items _ =>
        exact isDocument_collection hparts hknown .list
          (fun _ => Value.areDocuments_iff.mpr) _ _ _ _ _
      case h_5 pairs _ =>
        refine isDocument_collection hparts hknown
          (fun values => .list ((unfold.pairsOf values).map fun e => .tuple [e.1, e.2]))
          (fun values h => ?_) _ _ _ _ _
        refine Value.areDocuments_iff.mpr (List.forall_mem_map.mpr fun e he => ?_)
        obtain ⟨hfirst, hsecond⟩ := isDocument_pairsOf h e he
        simp [Value.isDocument, Value.areDocuments, hfirst, hsecond]
      case h_6 entries _ =>
        refine isDocument_collection hparts hknown
          (fun values => .map ((entries.map fun e => (m.leaf? e.1).getD .null).zip values))
          (fun values h => ?_) _ _ _ _ _
        refine Value.entriesAreDocuments_iff.mpr fun e he => ?_
        obtain ⟨hkey, hvalue⟩ := List.of_mem_zip he
        obtain ⟨entry, -, hentry⟩ := List.mem_map.mp hkey
        exact ⟨hentry ▸ hm.leaf entry.1, h e.2 hvalue⟩

/-- The value of a node is one that a document can hold. -/
theorem isDocument_value {m : Making} (hm : m.HoldsDocuments) (id : NodeId) :
    (m.value id).isDocument = true := by
  refine (isDocument_unfold hm _ 2 [] ?_ id).value
  exact fun _ _ hknown => absurd hknown not_mem_replicate

end Making

/-- A text that can be read gives a value that a document can hold. -/
theorem isDocument_of_read {text : List Char} {beyond : Option Fault} {v : Value}
    (h : read text beyond = .ok v) : v.isDocument = true := by
  unfold read at h
  split at h
  case h_1 => cases h
  case h_2 => cases h; rfl
  case h_3 d _ =>
    obtain ⟨m, hmade, rfl⟩ := exists_of_map_ok h
    exact Making.isDocument_value (Making.holdsDocuments_of_ofDocument hmade) d.root

/-- Whatever is read from a file is a value that a document can hold. -/
theorem isDocument_of_ofBytes {p : Path} {content : Bytes} {v : Value}
    (h : ofBytes p content = .ok v) : v.isDocument = true :=
  isDocument_of_read h

end Yaml

end Recolor
