import Recolor.Proofs.Profile.TagTable
import Recolor.Proofs.Table.Nodes

/-!
# The blocks of device links

The data of a device link's tag is a block: a head that states the numbers of channels and of
nodes, then input curves, the table and output curves, all in values of one size. `block` lays a
block out as a writer would, and loading inverts that: the curves and the entries of the table
come back as they were, widened to 16 bits.
-/

set_option autoImplicit false

namespace Recolor.Link

/-! ## Content -/

/-- What a block holds. -/
structure Content (β : Type) where
  /-- Nodes along each axis of the table. -/
  points : Nat
  inputEntries : Nat
  outputEntries : Nat
  inputCurves : List (List β)
  /-- The entry of a node for an output. -/
  table : List Nat → Nat → β
  outputCurves : List (List β)

namespace Content

variable {β γ : Type}

/-- The same content in other values. -/
def map (f : β → γ) (c : Content β) : Content γ where
  points := c.points
  inputEntries := c.inputEntries
  outputEntries := c.outputEntries
  inputCurves := c.inputCurves.map (List.map f)
  table index output := f (c.table index output)
  outputCurves := c.outputCurves.map (List.map f)

/-- The entries of a node. -/
def node (c : Content β) (index : List Nat) : List β :=
  (List.range c.outputCurves.length).map (c.table index)

/-- The entries of the table, node by node, the first axis slowest. -/
def entries (c : Content β) : List β :=
  (Grid.tuples (List.range c.points) c.inputCurves.length).flatMap c.node

/-- The values of a block in their order. -/
def values (c : Content β) : List β :=
  c.inputCurves.flatten ++ (c.entries ++ c.outputCurves.flatten)

/-- Whether all curves have the stated lengths. -/
structure IsRegular (c : Content β) : Prop where
  input : ∀ curve ∈ c.inputCurves, curve.length = c.inputEntries
  output : ∀ curve ∈ c.outputCurves, curve.length = c.outputEntries

/-- A node has an entry for each output curve. -/
@[simp] theorem length_node (c : Content β) (index : List Nat) :
    (c.node index).length = c.outputCurves.length := by
  simp [node]

/-- The table has the entries of all its nodes. -/
theorem length_entries (c : Content β) :
    c.entries.length = c.points.pow c.inputCurves.length * c.outputCurves.length := by
  rw [entries, Rows.length_flatMap_of_length fun index _ => c.length_node index,
    Grid.length_tuples, List.length_range]

/-- An entry of the table stands where the number of its node says. -/
theorem getElem?_entries (c : Content β) {index : List Nat} {output : Nat}
    (hlength : index.length = c.inputCurves.length) (hindex : ∀ i ∈ index, i < c.points)
    (houtput : output < c.outputCurves.length) :
    c.entries[Grid.nodeNumber c.points (index.map Int.ofNat) * c.outputCurves.length + output]?
      = some (c.table index output) := by
  obtain ⟨hnode, hnumber⟩ := Grid.getElem?_tuples hlength hindex
  have hbound : Grid.nodeNumber c.points (index.map Int.ofNat)
      < (Grid.tuples (List.range c.points) c.inputCurves.length).length := by
    simpa using hnumber
  rw [List.getElem?_eq_getElem hbound, Option.some.injEq] at hnode
  rw [entries, Rows.getElem?_flatMap_of_length (fun index _ => c.length_node index) hbound houtput,
    hnode, node]
  simp [houtput]

/-- Regular content has the values of its curves and of its table. -/
theorem length_values {c : Content β} (h : c.IsRegular) : c.values.length
    = c.inputCurves.length * c.inputEntries
      + (c.points.pow c.inputCurves.length * c.outputCurves.length
        + c.outputCurves.length * c.outputEntries) := by
  rw [values, List.length_append, List.length_append, c.length_entries,
    Rows.length_flatten_of_length h.input, Rows.length_flatten_of_length h.output]

/-- A map over content maps its values in their order. -/
theorem values_map (f : β → γ) (c : Content β) : (c.map f).values = c.values.map f := by
  have hnode : (c.map f).node = fun index => (c.node index).map f := by
    funext index
    simp [node, map]
  have hentries : (c.map f).entries = c.entries.map f := by
    rw [entries, entries, List.map_flatMap, hnode]
    simp [map]
  rw [values, values, hentries, List.map_append, List.map_append, List.map_flatten,
    List.map_flatten]
  rfl

/-- Regular content stays regular in other values. -/
theorem IsRegular.map {c : Content β} (h : c.IsRegular) (f : β → γ) : (c.map f).IsRegular where
  input := by
    intro curve hcurve
    obtain ⟨original, hmem, rfl⟩ := List.mem_map.mp hcurve
    rw [List.length_map]
    exact h.input original hmem
  output := by
    intro curve hcurve
    obtain ⟨original, hmem, rfl⟩ := List.mem_map.mp hcurve
    rw [List.length_map]
    exact h.output original hmem

/-- The table of content in 16-bit values. -/
def grid (c : Content UInt16) : Grid where
  points := c.points
  inputs := c.inputCurves.length
  outputs := c.outputCurves.length
  entries := c.entries.toArray
  size_eq := by rw [List.size_toArray, c.length_entries]

/-- The table of content holds at each node the entry that the content has for it. -/
theorem entry_grid (c : Content UInt16) {index : List Nat} {output : Nat}
    (hlength : index.length = c.inputCurves.length) (hindex : ∀ i ∈ index, i < c.points)
    (houtput : output < c.outputCurves.length) :
    c.grid.entry (Grid.nodeNumber c.points (index.map Int.ofNat)) output
      = c.table index output := by
  rw [Grid.entry, Array.getD_eq_getD_getElem?]
  simp only [grid, List.getElem?_toArray]
  rw [c.getElem?_entries hlength hindex houtput]
  rfl

/-- The values of regular content are put together into its curves and its table, whatever stands
behind them. -/
theorem assemble_values {c : Content UInt16} (h : c.IsRegular) {layout : Layout}
    (hinput : layout.inputEntries = c.inputEntries)
    (houtput : layout.outputEntries = c.outputEntries) (rest : List UInt16) :
    assemble layout c.inputCurves.length c.outputCurves.length c.points (c.values ++ rest)
      = .ok ⟨c.inputCurves, c.grid, c.outputCurves⟩ := by
  have hcurves : c.inputCurves.flatten.length = c.inputCurves.length * c.inputEntries :=
    Rows.length_flatten_of_length h.input
  have hentries : c.entries.length
      = c.points.pow c.inputCurves.length * c.outputCurves.length := c.length_entries
  have htable : (c.values ++ rest).drop (c.inputCurves.length * c.inputEntries)
      = c.entries ++ (c.outputCurves.flatten ++ rest) := by
    rw [values, List.append_assoc, List.append_assoc, List.drop_left' hcurves]
  have hbehind : (c.values ++ rest).drop (c.inputCurves.length * c.inputEntries
        + c.points.pow c.inputCurves.length * c.outputCurves.length)
      = c.outputCurves.flatten ++ rest := by
    rw [← List.drop_drop, htable, List.drop_left' hentries]
  have hfront : Rows.cut c.inputEntries c.inputCurves.length (c.values ++ rest)
      = c.inputCurves := by
    rw [values, List.append_assoc]
    exact Rows.cut_flatten_append h.input _
  -- the three groups are taken off the front one after the other, which leaves `rest`
  unfold assemble
  rw [hinput, houtput]
  simp only [htable, hbehind, hfront, List.take_left' hentries,
    Rows.cut_flatten_append h.output]
  simp [Grid.ofEntries, hentries, grid]

end Content

/-! ## Blocks -/

/-- How a block codes its values. -/
inductive Coding where
  | bytes
  | words
  deriving DecidableEq, Repr

namespace Coding

/-- The values of a coding. -/
def Value : Coding → Type
  | bytes => UInt8
  | words => UInt16

/-- The letters that a block starts with. -/
def letters : Coding → String
  | bytes => "mft1"
  | words => "mft2"

/-- The bytes of a value. -/
def encode : (k : Coding) → k.Value → Bytes
  | bytes, v => [v]
  | words, v => Bytes.ofNat 2 (UInt16.toNat v)

/-- A value in 16 bits. -/
def widen : (k : Coding) → k.Value → UInt16
  | bytes, v => UInt16.ofNat (257 * UInt8.toNat v)
  | words, v => v

/-- The bytes that state the lengths of curves. -/
def lengths : Coding → Nat → Nat → Bytes
  | bytes, _, _ => []
  | words, inputEntries, outputEntries =>
    Bytes.ofNat 2 inputEntries ++ Bytes.ofNat 2 outputEntries

/-- The lengths that curves may have. -/
def Allows : Coding → Nat → Nat → Prop
  | bytes, inputEntries, outputEntries => inputEntries = 256 ∧ outputEntries = 256
  | words, inputEntries, outputEntries => inputEntries < 65536 ∧ outputEntries < 65536

/-- The layout that a block in a coding has. -/
def layout : Coding → Nat → Nat → Layout
  | bytes, _, _ => byteLayout
  | words, inputEntries, outputEntries => wordLayout inputEntries outputEntries

/-- Whether content can be written in a coding. -/
structure Fits (k : Coding) (c : Content k.Value) : Prop extends c.IsRegular where
  lengths : k.Allows c.inputEntries c.outputEntries
  cells : 2 ≤ c.points
  points : c.points < 256

/-- The 48 bytes in front of a block's lengths and values. The four `reserved` bytes and those of
the `matrix` are of no account. -/
def head (k : Coding) (c : Content k.Value) (reserved matrix : Bytes) : Bytes :=
  Bytes.ofText k.letters ++ (reserved ++ (Bytes.ofNat 1 c.inputCurves.length
    ++ (Bytes.ofNat 1 c.outputCurves.length ++ (Bytes.ofNat 1 c.points ++ matrix))))

/-- A block as it is laid out. -/
def block (k : Coding) (c : Content k.Value) (reserved matrix : Bytes) : Bytes :=
  k.head c reserved matrix
    ++ (k.lengths c.inputEntries c.outputEntries ++ c.values.flatMap k.encode)

/-- A coding has four letters. -/
@[simp] theorem length_letters (k : Coding) : k.letters.length = 4 := by
  cases k <;> decide +kernel

/-- The letters of a coding fit a byte each. -/
theorem latin_letters (k : Coding) : Bytes.IsLatin k.letters := by
  cases k <;> decide +kernel

/-- The letters of a coding name a kind of table that is read. -/
theorem letters_known (k : Coding) : ¬(k.letters ≠ "mft1" ∧ k.letters ≠ "mft2") := by
  cases k <;> simp [letters]

/-- A value takes as many bytes as the layout says. -/
@[simp] theorem length_encode (k : Coding) (v : k.Value) (i o : Nat) :
    (k.encode v).length = (k.layout i o).width := by
  cases k
  · rfl
  · exact Bytes.length_ofNat 2 _

/-- The values start behind the head and the lengths. -/
theorem start_layout (k : Coding) (i o : Nat) :
    (k.layout i o).start = 48 + (k.lengths i o).length := by
  cases k
  · rfl
  · simp [layout, lengths, wordLayout]

/-- The layout states the lengths of the curves. -/
theorem entries_layout {k : Coding} {i o : Nat} (h : k.Allows i o) :
    (k.layout i o).inputEntries = i ∧ (k.layout i o).outputEntries = o := by
  cases k
  · obtain ⟨rfl, rfl⟩ := h
    exact ⟨rfl, rfl⟩
  · exact ⟨rfl, rfl⟩

/-- Values are read back, widened. -/
theorem readValues_encode (k : Coding) (i o : Nat) (values : List k.Value) (behind : Bytes) :
    readValues (k.layout i o).width (values.flatMap k.encode ++ behind)
      = values.map k.widen ++ readValues (k.layout i o).width behind := by
  induction values with
  | nil => rfl
  | cons v values ih =>
    rw [List.flatMap_cons, List.append_assoc, List.map_cons, List.cons_append, ← ih]
    cases k
    · rfl
    · exact Bytes.words16_append v _

section Block

variable {k : Coding} {c : Content k.Value} {reserved : Bytes}

/-- The head of a block has 48 bytes. -/
theorem length_head {matrix : Bytes} (hreserved : reserved.length = 4) (hmatrix : matrix.length = 37) :
    (k.head c reserved matrix).length = 48 := by
  simp [head, hreserved, hmatrix]

/-- The head is read, whatever is behind it. -/
theorem read_head (h : k.Fits c) (hinputs : c.inputCurves.length < 256)
    (houtputs : c.outputCurves.length < 256) (hreserved : reserved.length = 4)
    (matrix behind : Bytes) :
    let tag := k.head c reserved matrix ++ behind
    Bytes.latin1 (Bytes.window tag 0 4) = k.letters
      ∧ Bytes.toNat (Bytes.window tag 8 1) = c.inputCurves.length
      ∧ Bytes.toNat (Bytes.window tag 9 1) = c.outputCurves.length
      ∧ Bytes.numberAt? tag 10 1 = some c.points := by
  intro tag
  have hpieces : tag = Bytes.ofText k.letters ++ (reserved ++ (Bytes.ofNat 1 c.inputCurves.length
      ++ (Bytes.ofNat 1 c.outputCurves.length ++ (Bytes.ofNat 1 c.points
      ++ (matrix ++ behind))))) := by
    simp only [tag, head, List.append_assoc]
  have hletters : Bytes.window tag 0 4 = Bytes.ofText k.letters := by
    rw [hpieces, ← List.nil_append (Bytes.ofText k.letters ++ _)]
    exact Bytes.window_append rfl (by simp)
  have hinput : Bytes.window tag 8 1 = Bytes.ofNat 1 c.inputCurves.length := by
    rw [hpieces, ← List.append_assoc]
    exact Bytes.window_append (by simp [hreserved]) (by simp)
  have houtput : Bytes.window tag 9 1 = Bytes.ofNat 1 c.outputCurves.length := by
    rw [hpieces, ← List.append_assoc, ← List.append_assoc]
    exact Bytes.window_append (by simp [hreserved]) (by simp)
  have hpoints : Bytes.numberAt? tag 10 1 = some c.points := by
    rw [hpieces, ← List.append_assoc, ← List.append_assoc, ← List.append_assoc]
    exact Bytes.numberAt?_append (by simp [hreserved]) (by simpa using h.points)
  refine ⟨?_, ?_, ?_, hpoints⟩
  · rw [hletters, Bytes.latin1_ofText k.latin_letters]
  · rw [hinput, Bytes.toNat_ofNat (by simpa using hinputs)]
  · rw [houtput, Bytes.toNat_ofNat (by simpa using houtputs)]

/-- The layout is read off the letters and the lengths behind the head. -/
theorem readLayout_lengths {i o : Nat} (h : k.Allows i o) {front : Bytes}
    (hfront : front.length = 48) (behind : Bytes) :
    readLayout (front ++ (k.lengths i o ++ behind)) k.letters = .ok (k.layout i o) := by
  cases k
  · rfl
  · have hinput : Bytes.window (front ++ (words.lengths i o ++ behind)) 48 2
        = Bytes.ofNat 2 i := by
      rw [lengths, List.append_assoc]
      exact Bytes.window_append hfront (by simp)
    have houtput : Bytes.numberAt? (front ++ (words.lengths i o ++ behind)) 50 2 = some o := by
      rw [lengths, List.append_assoc, ← List.append_assoc]
      exact Bytes.numberAt?_append (by simp [hfront]) h.2
    rw [letters, readLayout, if_pos rfl, houtput, hinput]
    dsimp only
    rw [Bytes.toNat_ofNat h.1]
    rfl

/-- Behind the start that the layout states stand the values of a block. -/
theorem drop_block {matrix : Bytes} (hreserved : reserved.length = 4)
    (hmatrix : matrix.length = 37) (behind : Bytes) :
    (k.block c reserved matrix ++ behind).drop (k.layout c.inputEntries c.outputEntries).start
      = c.values.flatMap k.encode ++ behind := by
  rw [block, List.append_assoc, List.append_assoc, ← List.append_assoc (head ..)]
  exact List.drop_left' (by rw [List.length_append, length_head hreserved hmatrix, start_layout])

/-- A block has the bytes that its layout needs. -/
theorem neededBytes_le {matrix : Bytes} (h : k.Fits c) (hreserved : reserved.length = 4)
    (hmatrix : matrix.length = 37) :
    neededBytes (k.layout c.inputEntries c.outputEntries) c.inputCurves.length
      c.outputCurves.length c.points ≤ (k.block c reserved matrix).length := by
  obtain ⟨hinput, houtput⟩ := entries_layout h.lengths
  have hvalues : (c.values.flatMap k.encode).length
      = (c.inputCurves.length * c.inputEntries
        + c.points.pow c.inputCurves.length * c.outputCurves.length
        + c.outputCurves.length * c.outputEntries)
        * (k.layout c.inputEntries c.outputEntries).width := by
    rw [Rows.length_flatMap_of_length fun v _ => length_encode k v c.inputEntries c.outputEntries,
      Content.length_values h.toIsRegular, Nat.add_assoc]
  rw [neededBytes, hinput, houtput, ← hvalues, start_layout, block]
  simp only [List.length_append, length_head hreserved hmatrix]
  omega

/-- A block is read, whatever is behind it. -/
theorem readTables_block {matrix : Bytes} (h : k.Fits c) (hinputs : c.inputCurves.length < 256)
    (houtputs : c.outputCurves.length < 256) (hreserved : reserved.length = 4)
    (hmatrix : matrix.length = 37) (behind : Bytes) :
    readTables (k.block c reserved matrix ++ behind) c.inputCurves.length c.outputCurves.length
      = .ok ⟨(c.map k.widen).inputCurves, (c.map k.widen).grid, (c.map k.widen).outputCurves⟩ := by
  have hhead : (k.head c reserved matrix).length = 48 := length_head hreserved hmatrix
  have htag : k.block c reserved matrix ++ behind = k.head c reserved matrix
      ++ (k.lengths c.inputEntries c.outputEntries ++ (c.values.flatMap k.encode ++ behind)) := by
    simp only [block, List.append_assoc]
  obtain ⟨hletters, hinput, houtput, hpoints⟩ := read_head h hinputs houtputs hreserved matrix
    (k.lengths c.inputEntries c.outputEntries ++ (c.values.flatMap k.encode ++ behind))
  have hlayout := readLayout_lengths h.lengths hhead
    (c.values.flatMap k.encode ++ behind)
  rw [← htag] at hletters hinput houtput hpoints hlayout
  have hcells : ¬c.points < 2 := Nat.not_lt.mpr h.cells
  have hroom : ¬(k.block c reserved matrix ++ behind).length < neededBytes
      (k.layout c.inputEntries c.outputEntries) c.inputCurves.length c.outputCurves.length
      c.points := by
    have hneeded := neededBytes_le h hreserved hmatrix
    rw [List.length_append]
    omega
  obtain ⟨hinputEntries, houtputEntries⟩ := entries_layout h.lengths
  have hassembled := Content.assemble_values (h.toIsRegular.map k.widen) hinputEntries
    houtputEntries (readValues (k.layout c.inputEntries c.outputEntries).width behind)
  -- what is assembled are the values read from the start of the layout to the end of the tag
  rw [Content.values_map, ← readValues_encode k, ← drop_block hreserved hmatrix] at hassembled
  simp only [readTables, hletters, letters_known, hpoints, hinput, houtput, hlayout, hcells,
    ne_eq, not_true_eq_false, or_self, if_false, hroom]
  simpa only [Content.map, List.length_map] using hassembled

end Block

end Coding

/-! ## Files -/

/-- The head has a byte for the channels of any space. -/
theorem channels_lt (s : Space) : s.channels?.getD 0 < 256 := by
  cases s <;> decide

/-- The device link that is laid out in a file is loaded: its curves and every entry of its table,
wherever the block lies, whatever is behind it and whatever the other tags hold. -/
theorem load_of_isFile {data : Bytes} {source target : Space} {tags : List TagEntry}
    {tag : TagEntry} {intent : Int} {k : Coding} {c : Content k.Value}
    {reserved matrix behind : Bytes} (name : String) (hfile : IsFile data source target tags)
    (hsource : source ≠ .xyz) (htag : IsChosen tags intent tag)
    (hblock : Bytes.window data tag.offset tag.size = k.block c reserved matrix ++ behind)
    (hc : k.Fits c) (hreserved : reserved.length = 4) (hmatrix : matrix.length = 37)
    (hinputs : c.inputCurves.length = source.channels?.getD 0)
    (houtputs : c.outputCurves.length = target.channels?.getD 0) :
    ∃ p, load data name intent = .ok p
      ∧ p.space = some source ∧ p.pcs = some target
      ∧ p.inputCurves = some (c.inputCurves.map (List.map k.widen))
      ∧ p.table.shape = List.replicate (source.channels?.getD 0) (c.points : Int)
        ++ [(target.channels?.getD 0 : Int)]
      ∧ (∀ index output, index.length = source.channels?.getD 0 →
        (∀ i ∈ index, i < c.points) → output < target.channels?.getD 0 →
        p.table.entry (Grid.nodeNumber c.points (index.map Int.ofNat)) output
          = k.widen (c.table index output))
      ∧ p.outputCurves = some (c.outputCurves.map (List.map k.widen)) := by
  obtain ⟨header, hheader, hclass, hspace, hpcs⟩ := hfile.parse
  have hspaces : readSpaces header name = .ok (source, target) := by
    simp [readSpaces, hclass, hspace, hpcs, hsource]
  have htables := Coding.readTables_block hc (hinputs ▸ channels_lt source)
    (houtputs ▸ channels_lt target) hreserved hmatrix behind
  rw [← hblock, hinputs, houtputs] at htables
  have hload := load_ok_iff.mpr ⟨header, source, target, tags, tag, _, hheader, hspaces,
    hfile.readTags, chooseTag?_of_isChosen htag, htables, rfl⟩
  refine ⟨_, hload, rfl, rfl, rfl, ?_, ?_, rfl⟩
  · simp [profile, Grid.shape, Grid.shapeOf, Content.grid, Content.map, hinputs, houtputs]
  · intro index output hlength hindex houtput
    refine Content.entry_grid (c.map k.widen) ?_ hindex ?_
    · simpa [Content.map, hinputs] using hlength
    · simpa [Content.map, houtputs] using houtput

/-- A small content: two nodes on one axis, and curves of two entries. -/
def smallContent : Content UInt16 where
  points := 2
  inputEntries := 2
  outputEntries := 2
  inputCurves := [[0, 65535]]
  table index _ := if index = [0] then 7 else 9
  outputCurves := [[1, 2]]

/-- The tags of a small file, of which two have one name. -/
def smallTags : List TagEntry :=
  [⟨"A2B0", 0, 4⟩, ⟨"desc", 4, 8⟩, ⟨"A2B0", 168, 66⟩]

/-- A file with the small content in the last of its tags. -/
def smallFile : Bytes :=
  (List.replicate 12 0 ++ Bytes.ofText "linkGRAYGRAY" ++ List.replicate 12 0
      ++ Bytes.ofText "acsp" ++ List.replicate 88 0)
    ++ (Bytes.ofNat 4 smallTags.length ++ (smallTags.flatMap TagEntry.record
    ++ (Coding.words.block smallContent [0, 0, 0, 0] (List.replicate 37 0) ++ [5, 5])))

/-- The last tag for the first intent serves another intent too. -/
theorem load_smallFile : ∃ p, load smallFile "small" 1 = .ok p
    ∧ p.inputCurves = some [[0, 65535]] ∧ p.outputCurves = some [[1, 2]]
    ∧ p.table.entry 0 0 = 7 ∧ p.table.entry 1 0 = 9 := by
  have hfile : IsFile smallFile .gray .gray smallTags :=
    { table := ⟨_, _, by decide +kernel, rfl⟩
      count := by decide +kernel
      fits := by
        intro t ht
        simp only [smallTags, List.mem_cons, List.not_mem_nil, or_false] at ht
        rcases ht with rfl | rfl | rfl <;> constructor <;> decide +kernel
      magic := by decide +kernel
      link := by decide +kernel
      source := by decide +kernel
      target := by decide +kernel }
  have htag : IsChosen smallTags 1 ⟨"A2B0", 168, 66⟩ := by
    refine .inr ⟨by decide +kernel, [⟨"A2B0", 0, 4⟩, ⟨"desc", 4, 8⟩], [], rfl, rfl, ?_⟩
    intro u hu
    exact absurd hu List.not_mem_nil
  have hfits : Coding.words.Fits smallContent :=
    { input := by decide
      output := by decide
      lengths := by constructor <;> decide
      cells := by decide
      points := by decide }
  have hblock : Bytes.window smallFile 168 66
      = Coding.words.block smallContent [0, 0, 0, 0] (List.replicate 37 0) ++ [5, 5] := by
    decide +kernel
  obtain ⟨p, hp, -, -, hinput, -, htable, houtput⟩ :=
    load_of_isFile "small" hfile (by decide) htag hblock hfits rfl rfl rfl rfl
  have hfirst := htable [0] 0 rfl (by decide) (by decide)
  have hsecond := htable [1] 0 rfl (by decide) (by decide)
  exact ⟨p, hp, hinput, houtput, hfirst, hsecond⟩

end Recolor.Link
