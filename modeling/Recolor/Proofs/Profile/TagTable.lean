import Recolor.Proofs.Files.Bytes
import Recolor.Proofs.Profile.Loading

/-!
# The tags of a device link

A device link's file starts with a header, which names the two spaces, and a table of tags, which
says where in the file each tag's data lies. `IsFile` says what a writer of such a file puts
where. Reading finds the spaces and all tags again, and for an intent the tag `IsChosen`
describes, whatever the rest of the file holds.
-/

set_option autoImplicit false

namespace Recolor

/-- The letters of a space fit a byte each. -/
theorem Space.latin_signature (s : Space) : Bytes.IsLatin s.signature := by
  cases s <;> decide +kernel

namespace Link

/-- The twelve bytes of a tag in the table of tags. -/
def TagEntry.record (t : TagEntry) : Bytes :=
  Bytes.ofText t.signature ++ (Bytes.ofNat 4 t.offset ++ Bytes.ofNat 4 t.size)

/-- Whether a tag can stand in the table of a file of some length: its name has four letters of one
byte each, and its data lies in the file. -/
structure TagEntry.Fits (t : TagEntry) (length : Nat) : Prop where
  letters : t.signature.length = 4
  latin : Bytes.IsLatin t.signature
  offset : t.offset < Nat.pow 256 4
  size : t.size < Nat.pow 256 4
  inside : t.offset + t.size ≤ length

/-- Data that is the file of a device link between two spaces, with a table of tags. -/
structure IsFile (data : Bytes) (source target : Space) (tags : List TagEntry) : Prop where
  table : ∃ header rest, header.length = Header.length ∧ data = header
    ++ (Bytes.ofNat 4 tags.length ++ (tags.flatMap TagEntry.record ++ rest))
  count : tags.length < Nat.pow 256 4
  fits : ∀ t ∈ tags, t.Fits data.length
  magic : Bytes.window data 36 4 = Bytes.ofText "acsp"
  link : Bytes.window data 12 4 = Bytes.ofText "link"
  source : Bytes.window data 16 4 = Bytes.ofText source.signature
  target : Bytes.window data 20 4 = Bytes.ofText target.signature

/-- Whether a tag is the last one with a name. -/
def IsLast (tags : List TagEntry) (name : String) (t : TagEntry) : Prop :=
  ∃ before after, tags = before ++ t :: after ∧ t.signature = name
    ∧ ∀ u ∈ after, u.signature ≠ name

/-- Whether a tag is the one for an intent: the last one named so, or the last one named for the
first intent if none is named for this one. -/
def IsChosen (tags : List TagEntry) (intent : Int) (t : TagEntry) : Prop :=
  IsLast tags ("A2B" ++ toString intent) t
    ∨ (∀ u ∈ tags, u.signature ≠ "A2B" ++ toString intent) ∧ IsLast tags "A2B0" t

section File

variable {data : Bytes} {source target : Space} {tags : List TagEntry}

/-- A tag takes twelve bytes in the table of tags. -/
@[simp] theorem TagEntry.length_record {t : TagEntry} {length : Nat} (h : t.Fits length) :
    t.record.length = 12 := by
  simp [record, h.letters]

/-- Tags that are written one behind the other are read. -/
theorem readEntries_records {position : Nat} (before behind : Bytes)
    (hfits : ∀ t ∈ tags, t.Fits data.length) (hposition : before.length = position)
    (hdata : data = before ++ (tags.flatMap TagEntry.record ++ behind)) :
    readEntries data position tags.length = .ok tags := by
  induction tags generalizing position before with
  | nil => rfl
  | cons t tags ih =>
    have ht := hfits t List.mem_cons_self
    have hpieces : data = before ++ (Bytes.ofText t.signature ++ (Bytes.ofNat 4 t.offset
        ++ (Bytes.ofNat 4 t.size ++ (tags.flatMap TagEntry.record ++ behind)))) := by
      simp only [hdata, List.flatMap_cons, TagEntry.record, List.append_assoc]
    have hname : Bytes.window data position 4 = Bytes.ofText t.signature := by
      rw [hpieces]
      exact Bytes.window_append hposition (by simp [ht.letters])
    have hoffset : Bytes.window data (position + 4) 4 = Bytes.ofNat 4 t.offset := by
      rw [hpieces, ← List.append_assoc]
      exact Bytes.window_append (by simp [hposition, ht.letters]) (by simp)
    have hsize : Bytes.numberAt? data (position + 8) 4 = some t.size := by
      rw [hpieces, ← List.append_assoc, ← List.append_assoc]
      exact Bytes.numberAt?_append (by simp [hposition, ht.letters]) ht.size
    have hrest : readEntries data (position + 12) tags.length = .ok tags := by
      refine ih (before ++ t.record) (fun u hu => hfits u (List.mem_cons_of_mem _ hu))
        (by simp [hposition, TagEntry.length_record ht]) ?_
      rw [hdata, List.flatMap_cons, List.append_assoc, List.append_assoc]
    rw [List.length_cons, readEntries, hsize]
    dsimp only
    rw [hname, hoffset, Bytes.latin1_ofText ht.latin, Bytes.toNat_ofNat ht.offset,
      if_neg (Nat.not_lt.mpr ht.inside), hrest]

/-- The tags of a file are read in their order. -/
theorem IsFile.readTags (h : IsFile data source target tags) : readTags data = .ok tags := by
  obtain ⟨header, rest, hheader, hdata⟩ := h.table
  have hcount : Bytes.numberAt? data Header.length 4 = some tags.length := by
    rw [hdata]
    exact Bytes.numberAt?_append hheader h.count
  rw [Link.readTags, hcount]
  refine readEntries_records (header ++ Bytes.ofNat 4 tags.length) rest h.fits
    (by simp [hheader]) ?_
  rw [List.append_assoc]
  exact hdata

/-- The header is read, and states the two spaces. -/
theorem IsFile.parse (h : IsFile data source target tags) :
    ∃ header, Header.parse data = .ok header ∧ header.deviceClass = .link
      ∧ header.space = some source ∧ header.pcs = some target := by
  obtain ⟨header, rest, hheader, hdata⟩ := h.table
  have hlength : ¬data.length < Header.length := by
    rw [hdata, List.length_append, hheader]
    omega
  have hmagic : (!Header.hasMagic data) = false := by
    rw [Header.hasMagic, h.magic, beq_self_eq_true, Bool.not_true]
  have hclass : DeviceClass.ofSignature? (Header.classSignature data) = some .link := by
    rw [Header.classSignature, h.link]
    decide +kernel
  have hspace : Space.ofSignature? (Header.spaceLetters data) = some source := by
    rw [Header.spaceLetters, h.source, Bytes.latin1_ofText source.latin_signature,
      Space.ofSignature?_signature]
  have hpcs : Space.ofSignature? (Header.pcsLetters data) = some target := by
    rw [Header.pcsLetters, h.target, Bytes.latin1_ofText target.latin_signature,
      Space.ofSignature?_signature]
  simp only [Header.parse, hlength, hmagic, hclass, hspace, hpcs, if_false, Bool.false_eq_true]
  exact ⟨_, rfl, rfl, rfl, rfl⟩

/-- Of the tags with a name the last one is found. -/
theorem findTag?_of_isLast {name : String} {t : TagEntry} (h : IsLast tags name t) :
    findTag? tags name = some t := by
  obtain ⟨before, after, rfl, hname, hafter⟩ := h
  rw [findTag?, List.find?_eq_some_iff_append]
  refine ⟨by simp [hname], after.reverse, before.reverse, by simp, ?_⟩
  intro u hu
  simpa using hafter u (List.mem_reverse.mp hu)

/-- The tag for an intent is chosen. -/
theorem chooseTag?_of_isChosen {intent : Int} {t : TagEntry} (h : IsChosen tags intent t) :
    chooseTag? tags intent = some t := by
  unfold chooseTag? tagName
  rcases h with hlast | ⟨hnone, hlast⟩
  · rw [findTag?_of_isLast hlast]
  · have habsent : findTag? tags ("A2B" ++ toString intent) = none := by
      rw [findTag?, List.find?_eq_none]
      intro u hu
      simpa using hnone u (List.mem_reverse.mp hu)
    have hfirst : "A2B" ++ toString (0 : Int) = "A2B0" := by decide +kernel
    rw [habsent, hfirst]
    exact findTag?_of_isLast hlast

end File

end Link

end Recolor
