import Recolor.Proofs.Profile.Installed

/-!
# The first installed profile

The search for an installed profile is meant to have one answer: of the first folder with an entry
that qualifies, the one with the least name. That answer is a matter of the entries which qualify
and of nothing else, so neither the order in which a folder is listed nor other entries or folders
can change it. Only one thing comes in between. A folder whose path is too long for the system
is not passed over like one that does not exist, but ends the search.
`finds_answer_unless_isCutOff` says all of this for every content of the files.
-/

set_option autoImplicit false

namespace Recolor

/-- Letters name a space exactly if they are its signature. -/
theorem Space.ofSignature?_eq_some_iff {letters : String} {space : Space} :
    ofSignature? letters = some space ↔ letters = space.signature := by
  constructor
  · intro h
    have hsame := List.find?_some h
    rw [beq_iff_eq] at hsame
    exact hsame.symm
  · rintro rfl
    exact ofSignature?_signature space

namespace Installed

variable {files files' : FileTree} {space : Space} {folder : Path} {folders : List Path}

/-- An entry of a folder that qualifies for a space. -/
structure IsEntry (files : FileTree) (space : Space) (folder : Path) (name : String) : Prop where
  listed : ∃ names, files.list folder = .ok names ∧ name ∈ names
  extension : (folder.entry name).extension ∈ [".icc", ".icm", ".ICC", ".ICM"]
  /-- It is a file of at least 128 bytes with the mark of a profile, which is no device link and
  states the space. -/
  header : ∃ data, files.read (folder.entry name) = .ok data ∧ 128 ≤ data.length
    ∧ Bytes.window data 36 4 = Bytes.ofText "acsp"
    ∧ Bytes.latin1 (Bytes.window data 12 4) ≠ "link"
    ∧ Bytes.latin1 (Bytes.window data 16 4) = space.signature

/-- Whether no entry of a folder qualifies for a space. -/
def HasNoEntry (files : FileTree) (space : Space) (folder : Path) : Prop :=
  ∀ name, ¬IsEntry files space folder name

/-- The entry of a folder that comes first: of those that qualify it has the least name by code
points. -/
structure IsFirst (files : FileTree) (space : Space) (folder : Path) (name : String) : Prop where
  entry : IsEntry files space folder name
  least : ∀ other, IsEntry files space folder other → name ≤ other

/-- Whether a folder's path is too long for the system to say what it leads to. -/
def IsOverlong (files : FileTree) (folder : Path) : Prop :=
  files.isFolder folder = .error .tooLong

/-- What is to be found in folders: the first entry of the first folder that has one, or nothing if
none has. -/
def IsAnswer (files : FileTree) (space : Space) (folders : List Path) : Option Path → Prop
  | none => ∀ folder ∈ folders, HasNoEntry files space folder
  | some p => ∃ front folder rest name, folders = front ++ folder :: rest
      ∧ (∀ other ∈ front, HasNoEntry files space other)
      ∧ IsFirst files space folder name ∧ p = folder.entry name

/-- Whether a folder with an overlong path stands in front of all folders that have an entry. -/
def IsCutOff (files : FileTree) (space : Space) (folders : List Path) : Prop :=
  ∃ front folder rest, folders = front ++ folder :: rest
    ∧ (∀ other ∈ front, HasNoEntry files space other) ∧ IsOverlong files folder

/-! ## One folder -/

/-- An entry qualifies exactly if it has the extension of a profile and its file the header of one
of the space. -/
theorem qualifies_entry_iff {name : String} : qualifies files (some space) (folder.entry name) = true
    ↔ (folder.entry name).extension ∈ [".icc", ".icm", ".ICC", ".ICM"]
      ∧ ∃ data, files.read (folder.entry name) = .ok data ∧ 128 ≤ data.length
        ∧ Bytes.window data 36 4 = Bytes.ofText "acsp"
        ∧ Bytes.latin1 (Bytes.window data 12 4) ≠ "link"
        ∧ Bytes.latin1 (Bytes.window data 16 4) = space.signature := by
  have header {data : Bytes} : headerSpace? (data.take Header.length) = some space
      ↔ 128 ≤ data.length ∧ Bytes.window data 36 4 = Bytes.ofText "acsp"
        ∧ Bytes.latin1 (Bytes.window data 12 4) ≠ "link"
        ∧ Bytes.latin1 (Bytes.window data 16 4) = space.signature := by
    rw [headerSpace?_eq_some_iff, Header.hasMagic_take, Header.classSignature_take,
      Header.spaceLetters_take, Space.ofSignature?_eq_some_iff, List.length_take,
      Nat.le_min, Header.hasMagic, beq_iff_eq]
    exact and_congr_left fun _ => ⟨fun h => h.2, fun h => ⟨Nat.le_refl _, h⟩⟩
  rw [qualifies, Bool.and_eq_true, List.contains_iff_mem, beq_iff_eq]
  refine and_congr Iff.rfl ?_
  unfold fileSpace?
  cases files.read (folder.entry name) with
  | error e => simp
  | ok data => simp [header]

/-- The entries that qualify are those among the sorted names that the search accepts. -/
theorem isEntry_iff {name : String} : IsEntry files space folder name
    ↔ name ∈ sortedNames files folder
      ∧ qualifies files (some space) (folder.entry name) = true := by
  have listed : name ∈ sortedNames files folder
      ↔ ∃ names, files.list folder = .ok names ∧ name ∈ names := by
    unfold sortedNames
    cases files.list folder with
    | error e => simp
    | ok names => simp [List.mem_mergeSort]
  rw [listed, qualifies_entry_iff]
  exact ⟨fun h => ⟨h.listed, h.extension, h.header⟩, fun h => ⟨h.1, h.2.1, h.2.2⟩⟩

/-- The names of a folder are gone through by their code points. -/
theorem pairwise_sortedNames (files : FileTree) (folder : Path) :
    (sortedNames files folder).Pairwise (· ≤ ·) := by
  have nameLE_iff {a b : String} : nameLE a b = true ↔ a ≤ b := by
    rw [nameLE, Bool.not_eq_true', decide_eq_false_iff_not, String.not_lt]
  unfold sortedNames
  split
  · exact .nil
  · rename_i names _
    refine (List.pairwise_mergeSort ?_ ?_ names).imp nameLE_iff.mp
    · intro a b c hab hbc
      exact nameLE_iff.mpr (String.le_trans (nameLE_iff.mp hab) (nameLE_iff.mp hbc))
    · intro a b
      rw [Bool.or_eq_true, nameLE_iff, nameLE_iff]
      exact String.le_total a b

/-- A folder of which nothing is found has no entry that qualifies. -/
theorem findIn?_eq_none_iff :
    findIn? files (some space) folder = none ↔ HasNoEntry files space folder := by
  simp only [findIn?, List.find?_map, Option.map_eq_none_iff, List.find?_eq_none, HasNoEntry,
    isEntry_iff, not_and, Function.comp_apply]

/-- What is found in a folder is its first entry: the names in front of it are those that do not
qualify, and those behind it are greater. -/
theorem isFirst_of_findIn? {p : Path} (h : findIn? files (some space) folder = some p) :
    ∃ name, IsFirst files space folder name ∧ p = folder.entry name := by
  simp only [findIn?, List.find?_map, Option.map_eq_some_iff] at h
  obtain ⟨name, hfound, rfl⟩ := h
  obtain ⟨hqualifies, front, behind, hnames, hfront⟩ := List.find?_eq_some_iff_append.mp hfound
  rw [Function.comp_apply] at hqualifies
  have hsorted := pairwise_sortedNames files folder
  have hmem : name ∈ sortedNames files folder := by simp [hnames]
  refine ⟨name, ⟨isEntry_iff.mpr ⟨hmem, hqualifies⟩, ?_⟩, rfl⟩
  intro other hother
  obtain ⟨hlisted, hother⟩ := isEntry_iff.mp hother
  rw [hnames] at hsorted hlisted
  rcases List.mem_append.mp hlisted with hin | hin
  · have hnot := hfront other hin
    simp [hother] at hnot
  · rcases List.mem_cons.mp hin with rfl | hin
    · exact String.le_refl _
    · exact List.rel_of_pairwise_cons (List.pairwise_append.mp hsorted).2.1 hin

/-- A folder has at most one first entry. -/
theorem IsFirst.unique {a b : String} (ha : IsFirst files space folder a)
    (hb : IsFirst files space folder b) : a = b :=
  String.le_antisymm (ha.least b hb.entry) (hb.least a ha.entry)

/-- What is found in a folder is its first entry. -/
theorem findIn?_eq_some_iff {p : Path} : findIn? files (some space) folder = some p
    ↔ ∃ name, IsFirst files space folder name ∧ p = folder.entry name := by
  refine ⟨isFirst_of_findIn?, ?_⟩
  rintro ⟨name, hfirst, rfl⟩
  cases hfound : findIn? files (some space) folder with
  | none => exact absurd hfirst.entry (findIn?_eq_none_iff.mp hfound name)
  | some p =>
    obtain ⟨other, hother, rfl⟩ := isFirst_of_findIn? hfound
    rw [hfirst.unique hother]

/-! ## Several folders -/

/-- A folder whose path is refused as too long is overlong. -/
theorem isOverlong_of_node (h : files.node folder = .error .tooLong) : IsOverlong files folder := by
  simp only [IsOverlong, FileTree.isFolder, FileTree.leadsTo, h]
  rfl

/-- A folder with an overlong path ends the search. -/
theorem find_cons_of_isOverlong (h : IsOverlong files folder) :
    find files (some space) (folder :: folders) = .error (.file .tooLong folder) := by
  unfold IsOverlong at h
  simp only [find, h]

/-- Any other folder is passed over if nothing is found in it. -/
theorem find_cons_of_not_isOverlong (h : ¬IsOverlong files folder) :
    find files (some space) (folder :: folders)
      = (findIn? files (some space) folder).elim (find files (some space) folders)
          fun p => .ok (some p) := by
  cases hfolder : files.isFolder folder with
  | ok b =>
    simp only [find, hfolder]
    cases findIn? files (some space) folder <;> rfl
  | error e =>
    rw [FileTree.refusal_of_leadsTo hfolder] at hfolder
    exact absurd hfolder h

/-- A folder without an entry leaves the answer to the folders behind it. -/
theorem isAnswer_cons_of_hasNoEntry (h : HasNoEntry files space folder) (answer : Option Path) :
    IsAnswer files space (folder :: folders) answer ↔ IsAnswer files space folders answer := by
  cases answer with
  | none => simp [IsAnswer, h]
  | some p =>
    constructor
    · rintro ⟨front, first, rest, name, hfolders, hfront, hfirst, rfl⟩
      cases front with
      | nil =>
        cases hfolders
        exact absurd hfirst.entry (h name)
      | cons other front =>
        cases hfolders
        exact ⟨front, first, rest, name, rfl,
          fun other ho => hfront other (List.mem_cons_of_mem _ ho), hfirst, rfl⟩
    · rintro ⟨front, first, rest, name, rfl, hfront, hfirst, rfl⟩
      exact ⟨folder :: front, first, rest, name, rfl, List.forall_mem_cons.mpr ⟨h, hfront⟩,
        hfirst, rfl⟩

/-- The first entry of the first folder is the only answer. -/
theorem isAnswer_cons_of_isFirst {name : String} (h : IsFirst files space folder name)
    (answer : Option Path) : IsAnswer files space (folder :: folders) answer
      ↔ answer = some (folder.entry name) := by
  cases answer with
  | none =>
    refine iff_of_false (fun hnone => ?_) (by simp)
    exact hnone folder List.mem_cons_self name h.entry
  | some p =>
    constructor
    · rintro ⟨front, first, rest, other, hfolders, hfront, hfirst, rfl⟩
      cases front with
      | nil =>
        cases hfolders
        rw [hfirst.unique h]
      | cons _ front =>
        cases hfolders
        exact absurd h.entry (hfront folder List.mem_cons_self name)
    · rintro ⟨rfl⟩
      exact ⟨[], folder, folders, name, rfl, by simp, h, rfl⟩

/-- The search is cut off at the first folder, or behind it if that has no entry. -/
theorem isCutOff_cons : IsCutOff files space (folder :: folders)
    ↔ IsOverlong files folder ∨ (HasNoEntry files space folder ∧ IsCutOff files space folders) := by
  constructor
  · rintro ⟨front, long, rest, hfolders, hfront, hlong⟩
    cases front with
    | nil =>
      cases hfolders
      exact .inl hlong
    | cons other front =>
      cases hfolders
      exact .inr ⟨hfront folder List.mem_cons_self, front, long, rest, rfl,
        fun other ho => hfront other (List.mem_cons_of_mem _ ho), hlong⟩
  · rintro (hlong | ⟨hnone, front, long, rest, rfl, hfront, hlong⟩)
    · exact ⟨[], folder, folders, rfl, by simp, hlong⟩
    · exact ⟨folder :: front, long, rest, rfl, List.forall_mem_cons.mpr ⟨hnone, hfront⟩, hlong⟩

/-- A search that is not cut off ends with the answer and with nothing else. -/
theorem find_eq_ok_iff (folders : List Path) (answer : Option Path) :
    find files (some space) folders = .ok answer
      ↔ IsAnswer files space folders answer ∧ ¬IsCutOff files space folders := by
  induction folders with
  | nil =>
    have hcut : ¬IsCutOff files space [] := by
      rintro ⟨front, folder, rest, hfolders, -⟩
      simp at hfolders
    cases answer with
    | none => simp [find, IsAnswer, hcut]
    | some p => simp [find, IsAnswer]
  | cons folder rest ih =>
    by_cases hlong : IsOverlong files folder
    · rw [find_cons_of_isOverlong hlong]
      exact iff_of_false (by simp) fun h => h.2 (isCutOff_cons.mpr (.inl hlong))
    · rw [find_cons_of_not_isOverlong hlong]
      cases hfound : findIn? files (some space) folder with
      | none =>
        have hnone := findIn?_eq_none_iff.mp hfound
        rw [isAnswer_cons_of_hasNoEntry hnone, isCutOff_cons]
        simpa [hlong, hnone] using ih
      | some p =>
        obtain ⟨name, hfirst, rfl⟩ := findIn?_eq_some_iff.mp hfound
        have hcut : ¬IsCutOff files space (folder :: rest) := by
          rw [isCutOff_cons]
          rintro (h | ⟨h, -⟩)
          · exact hlong h
          · exact h name hfirst.entry
        rw [isAnswer_cons_of_isFirst hfirst]
        simp [hcut, eq_comm]

/-- A search that is cut off fails for the path of a folder that is overlong. -/
theorem find_of_isCutOff (h : IsCutOff files space folders) : ∃ folder ∈ folders,
    IsOverlong files folder ∧ find files (some space) folders = .error (.file .tooLong folder) := by
  induction folders with
  | nil =>
    obtain ⟨front, folder, rest, hfolders, -⟩ := h
    simp at hfolders
  | cons folder rest ih =>
    by_cases hlong : IsOverlong files folder
    · exact ⟨folder, List.mem_cons_self, hlong, find_cons_of_isOverlong hlong⟩
    · obtain ⟨hnone, hcut⟩ := (isCutOff_cons.mp h).resolve_left hlong
      obtain ⟨other, hother, hlong', hfind⟩ := ih hcut
      refine ⟨other, List.mem_cons_of_mem _ hother, hlong', ?_⟩
      rw [find_cons_of_not_isOverlong hlong, findIn?_eq_none_iff.mpr hnone]
      exact hfind

/-- In a folder with the same entries the same is found. -/
theorem findIn?_congr
    (h : ∀ name, IsEntry files' space folder name ↔ IsEntry files space folder name) :
    findIn? files' (some space) folder = findIn? files (some space) folder := by
  have first {name : String} :
      IsFirst files' space folder name ↔ IsFirst files space folder name :=
    ⟨fun f => ⟨(h name).mp f.entry, fun other ho => f.least other ((h other).mpr ho)⟩,
      fun f => ⟨(h name).mpr f.entry, fun other ho => f.least other ((h other).mp ho)⟩⟩
  ext p
  simp only [findIn?_eq_some_iff, first]

/-- Only the entries that qualify and the overlong folders matter. -/
theorem find_congr (h : ∀ folder ∈ folders,
      (∀ name, IsEntry files' space folder name ↔ IsEntry files space folder name)
        ∧ (IsOverlong files' folder ↔ IsOverlong files folder)) :
    find files' (some space) folders = find files (some space) folders := by
  induction folders with
  | nil => rfl
  | cons folder rest ih =>
    obtain ⟨⟨hentries, hlong⟩, hrest⟩ := List.forall_mem_cons.mp h
    by_cases hfolder : IsOverlong files folder
    · rw [find_cons_of_isOverlong hfolder, find_cons_of_isOverlong (hlong.mpr hfolder)]
    · rw [find_cons_of_not_isOverlong hfolder,
        find_cons_of_not_isOverlong fun h' => hfolder (hlong.mp h'), findIn?_congr hentries,
        ih hrest]

/-- A folder without an entry may as well be left out. -/
theorem find_append_of_hasNoEntry (front : List Path) (hnone : HasNoEntry files space folder)
    (hlong : ¬IsOverlong files folder) :
    find files (some space) (front ++ folder :: folders)
      = find files (some space) (front ++ folders) := by
  induction front with
  | nil =>
    rw [List.nil_append, find_cons_of_not_isOverlong hlong, findIn?_eq_none_iff.mpr hnone]
    rfl
  | cons other front ih =>
    rw [List.cons_append, List.cons_append]
    by_cases hother : IsOverlong files other
    · rw [find_cons_of_isOverlong hother, find_cons_of_isOverlong hother]
    · rw [find_cons_of_not_isOverlong hother, find_cons_of_not_isOverlong hother, ih]

/-- Folders of which none is cut off have an answer, and it is found. -/
theorem exists_find_of_not_isCutOff (h : ¬IsCutOff files space folders) :
    ∃ answer, find files (some space) folders = .ok answer := by
  induction folders with
  | nil => exact ⟨none, rfl⟩
  | cons folder rest ih =>
    rw [isCutOff_cons, not_or, not_and] at h
    obtain ⟨hlong, hrest⟩ := h
    rw [find_cons_of_not_isOverlong hlong]
    cases hfound : findIn? files (some space) folder with
    | some p => exact ⟨some p, rfl⟩
    | none => exact ih (hrest (findIn?_eq_none_iff.mp hfound))

/-- Unless the search is cut off by a folder whose path is too long, it has exactly one answer: the
entry with the least name of the first folder that has one, or nothing exactly if none has. If it is
cut off, it fails for that path. What comes out is the same in all files that agree on the entries
which qualify in the folders and on the overlong paths, however the folders are listed and whatever
else they hold, and it is the same without a folder that has no entry. -/
theorem finds_answer_unless_isCutOff (files : FileTree) (space : Space) (folders : List Path) :
    (¬IsCutOff files space folders → ∃ answer, find files (some space) folders = .ok answer
      ∧ ∀ other, IsAnswer files space folders other ↔ other = answer)
    ∧ (IsCutOff files space folders → ∃ folder ∈ folders, IsOverlong files folder
      ∧ find files (some space) folders = .error (.file .tooLong folder))
    ∧ (∀ files', (∀ folder ∈ folders,
        (∀ name, IsEntry files' space folder name ↔ IsEntry files space folder name)
          ∧ (IsOverlong files' folder ↔ IsOverlong files folder)) →
        find files' (some space) folders = find files (some space) folders)
    ∧ ∀ front folder rest, folders = front ++ folder :: rest → HasNoEntry files space folder →
        ¬IsOverlong files folder →
        find files (some space) (front ++ rest) = find files (some space) folders := by
  refine ⟨?_, find_of_isCutOff, fun files' h => find_congr h, ?_⟩
  · intro hcut
    obtain ⟨answer, hfind⟩ := exists_find_of_not_isCutOff hcut
    refine ⟨answer, hfind, fun other => ⟨?_, ?_⟩⟩
    · intro hother
      have hfind' := (find_eq_ok_iff folders other).mpr ⟨hother, hcut⟩
      exact Except.ok.inj (hfind'.symm.trans hfind)
    · rintro rfl
      exact ((find_eq_ok_iff folders other).mp hfind).1
  · rintro front folder rest rfl hnone hlong
    exact (find_append_of_hasNoEntry front hnone hlong).symm

/-! ## A folder of two profiles -/

/-- A folder with two gray profiles, listed against the order of their names. -/
def shelf : FileTree :=
  { nodes := [(["d"], .folder), (["d", "b.icc"], .file (headerOf "prtrGRAYXYZ ")),
      (["d", "a.icc"], .file (headerOf "prtrGRAYXYZ "))] }

/-- The same folder listed otherwise, with a further file. -/
def fullerShelf : FileTree :=
  { nodes := [(["d", "a.icc"], .file (headerOf "prtrGRAYXYZ ")), (["d", "notes"], .file []),
      (["d"], .folder), (["d", "b.icc"], .file (headerOf "prtrGRAYXYZ "))] }

/-- A name of one letter, written so many times. -/
def longName (length : Nat) : String :=
  String.ofList (List.replicate length 'x')

/-- A name of one letter takes as many bytes as it has letters. -/
theorem utf8ByteSize_longName (length : Nat) : (longName length).utf8ByteSize = length := by
  induction length with
  | zero => rfl
  | succ n ih =>
    have hcons : longName (n + 1) = String.singleton 'x' ++ longName n := String.ofList_cons
    have hletter : (String.singleton 'x').utf8ByteSize = 1 := by decide +kernel
    rw [hcons, String.utf8ByteSize_append, hletter, ih, Nat.add_comm]

/-- A long name holds one letter only. -/
theorem eq_of_mem_longName {length : Nat} {c : Char} (h : c ∈ (longName length).toList) :
    c = 'x' := by
  rw [longName, String.toList_ofList] at h
  exact List.eq_of_mem_replicate h

/-- A name that is longer than the system allows leads nowhere, in whatever folder. -/
theorem node_longName {length : Nat} (hlong : FileTree.longestName < length)
    (hpath : length ≤ FileTree.longestPath) (t : FileTree) :
    t.node { parts := [longName length] } = .error .tooLong := by
  have hsize := utf8ByteSize_longName length
  have hencodable : Text.Surrogate.isEncodable (longName length) = true := by
    refine List.all_eq_true.mpr fun c hc => ?_
    rw [eq_of_mem_longName hc]
    decide +kernel
  have hnul : '\x00' ∉ (longName length).toList := by
    intro hc
    exact absurd (eq_of_mem_longName hc) (by decide)
  have hdots : longName length ≠ ".." := by
    intro hdots
    have htwo : "..".utf8ByteSize = 2 := by decide +kernel
    rw [hdots, htwo] at hsize
    simp only [FileTree.longestName] at hlong
    omega
  exact FileTree.node_of_overlong hencodable hnul hdots (hsize.symm ▸ hlong)
    (hsize.symm ▸ hpath) t

/-- A folder whose name is longer than the system allows. -/
def overlongFolder : Path :=
  { parts := [longName 256] }

/-- The folder with the longer name is overlong among any files. -/
theorem isOverlong_overlongFolder (files : FileTree) : IsOverlong files overlongFolder :=
  isOverlong_of_node (node_longName (by decide) (by decide) files)

/-- A gray profile in the folder qualifies. -/
theorem qualifies_shelf {t : FileTree} {name : String} (hname : name = "a.icc" ∨ name = "b.icc")
    (hthere : t.nodes.lookup ["d"] = some .folder)
    (hfile : t.nodes.lookup ["d", name] = some (.file (headerOf "prtrGRAYXYZ "))) :
    qualifies t (some .gray) (Path.entry { parts := ["d"] } name) = true := by
  have htext : FileTree.checkText { parts := ["d", name] } = .ok () := by
    rcases hname with rfl | rfl <;>
      exact FileTree.checkText_ok (by decide +kernel) (by decide +kernel) (by decide +kernel)
  have hplain : FileTree.IsPlain name := by
    rcases hname with rfl | rfl <;> decide +kernel
  have hread := FileTree.read_entry (by decide +kernel) hplain hthere htext hfile
  have hextension :
      extensions.contains (Path.entry { parts := ["d"] } name).extension = true := by
    rcases hname with rfl | rfl <;> decide +kernel
  have hspace : headerSpace? ((headerOf "prtrGRAYXYZ ").take Header.length) = some .gray := by
    decide +kernel
  have hfilespace : fileSpace? t (Path.entry { parts := ["d"] } name) = some .gray := by
    simp only [fileSpace?, Path.entry, List.cons_append, List.nil_append, hread, hspace]
  rw [qualifies, hextension, hfilespace]
  rfl

/-- The entries that qualify are the two profiles, in whatever order and beside whatever other files
they are listed. -/
theorem isEntry_shelf_iff {t : FileTree} {name : String}
    (hthere : t.nodes.lookup ["d"] = some .folder)
    (ha : t.nodes.lookup ["d", "a.icc"] = some (.file (headerOf "prtrGRAYXYZ ")))
    (hb : t.nodes.lookup ["d", "b.icc"] = some (.file (headerOf "prtrGRAYXYZ ")))
    (hin : "a.icc" ∈ t.entries ["d"] ∧ "b.icc" ∈ t.entries ["d"])
    (hout : ∀ name ∈ t.entries ["d"], name = "a.icc" ∨ name = "b.icc" ∨ name = "notes") :
    IsEntry t .gray { parts := ["d"] } name ↔ name = "a.icc" ∨ name = "b.icc" := by
  have hplain : FileTree.IsPlain "d" := by decide +kernel
  have hlist := FileTree.list_name hplain hthere
  have hmem (n : String) : n ∈ sortedNames t { parts := ["d"] } ↔ n ∈ t.entries ["d"] := by
    simp only [sortedNames, hlist, List.mem_mergeSort]
  rw [isEntry_iff, hmem]
  constructor
  · rintro ⟨hlisted, hqualifies⟩
    rcases hout name hlisted with rfl | rfl | rfl
    · exact .inl rfl
    · exact .inr rfl
    · have hextension : extensions.contains
          (Path.entry { parts := ["d"] } "notes").extension = false := by decide +kernel
      rw [qualifies, hextension] at hqualifies
      cases hqualifies
  · rintro (rfl | rfl)
    · exact ⟨hin.1, qualifies_shelf (.inl rfl) hthere ha⟩
    · exact ⟨hin.2, qualifies_shelf (.inr rfl) hthere hb⟩

/-- Both profiles on the shelf qualify. -/
theorem isEntry_shelf {name : String} :
    IsEntry shelf .gray { parts := ["d"] } name ↔ name = "a.icc" ∨ name = "b.icc" :=
  isEntry_shelf_iff rfl rfl rfl (by decide) (by decide)

/-- On the fuller shelf the same two profiles qualify. -/
theorem isEntry_fullerShelf {name : String} :
    IsEntry fullerShelf .gray { parts := ["d"] } name ↔ name = "a.icc" ∨ name = "b.icc" :=
  isEntry_shelf_iff rfl rfl rfl (by decide) (by decide)

/-- A folder in the working folder that a tree knows nothing of has no entry, and is not
overlong. -/
theorem isPassed_absent {t : FileTree} (h : t.nodes.lookup ["e"] = none) (space : Space) :
    HasNoEntry t space { parts := ["e"] } ∧ ¬IsOverlong t { parts := ["e"] } := by
  have hplain : FileTree.IsPlain "e" := by decide +kernel
  have hnode : t.node { parts := ["e"] } = .error .missing := by
    simp [FileTree.node, FileTree.place_name hplain, FileTree.at?, FileTree.isAbove, h]
  constructor
  · intro name hentry
    obtain ⟨names, hlist, -⟩ := hentry.listed
    simp [FileTree.list, hnode] at hlist
  · simp [IsOverlong, FileTree.isFolder, FileTree.leadsTo, hnode, FileFault.isAbsence]

/-- A folder that is there under a short name is not overlong. -/
theorem not_isOverlong_folder {t : FileTree} (h : t.nodes.lookup ["d"] = some .folder) :
    ¬IsOverlong t { parts := ["d"] } := by
  have hplain : FileTree.IsPlain "d" := by decide +kernel
  have hnode := FileTree.node_name hplain h
  simp [IsOverlong, FileTree.isFolder, FileTree.leadsTo, hnode]

/-- Of the two profiles the one with the lesser name is found, also without the folder that is not
there, and also if the folder is listed otherwise and holds a further file. An overlong folder in
front cuts the search off. -/
theorem finds_answer_shelf :
    find shelf (some .gray) [{ parts := ["e"] }, { parts := ["d"] }]
        = .ok (some { parts := ["d", "a.icc"] })
      ∧ find fullerShelf (some .gray) [{ parts := ["e"] }, { parts := ["d"] }]
        = .ok (some { parts := ["d", "a.icc"] })
      ∧ find shelf (some .gray) [{ parts := ["d"] }] = .ok (some { parts := ["d", "a.icc"] })
      ∧ find shelf (some .gray) [overlongFolder, { parts := ["d"] }]
        = .error (.file .tooLong overlongFolder) := by
  obtain ⟨hnone, hshort⟩ := isPassed_absent (t := shelf) rfl .gray
  obtain ⟨hnone', hshort'⟩ := isPassed_absent (t := fullerShelf) rfl .gray
  have hfirst : IsFirst shelf .gray { parts := ["d"] } "a.icc" := by
    refine ⟨isEntry_shelf.mpr (.inl rfl), fun other hother => ?_⟩
    rcases isEntry_shelf.mp hother with rfl | rfl <;> decide +kernel
  have hcut : ¬IsCutOff shelf .gray [{ parts := ["e"] }, { parts := ["d"] }] := by
    rw [isCutOff_cons, isCutOff_cons]
    rintro (h | ⟨-, h | ⟨h, -⟩⟩)
    · exact hshort h
    · exact not_isOverlong_folder rfl h
    · exact h _ hfirst.entry
  have hanswer : IsAnswer shelf .gray [{ parts := ["e"] }, { parts := ["d"] }]
      (some { parts := ["d", "a.icc"] }) :=
    ⟨[{ parts := ["e"] }], { parts := ["d"] }, [], "a.icc", rfl, by simpa using hnone, hfirst, rfl⟩
  obtain ⟨hfinds, -, hsame, hleft⟩ :=
    finds_answer_unless_isCutOff shelf .gray [{ parts := ["e"] }, { parts := ["d"] }]
  obtain ⟨answer, hfind, honly⟩ := hfinds hcut
  rw [← (honly _).mp hanswer] at hfind
  refine ⟨hfind, ?_, ?_, ?_⟩
  · rw [hsame fullerShelf, hfind]
    intro folder hfolder
    simp only [List.mem_cons, List.not_mem_nil, or_false] at hfolder
    rcases hfolder with rfl | rfl
    · exact ⟨fun name => iff_of_false (hnone' name) (hnone name), iff_of_false hshort' hshort⟩
    · exact ⟨fun name => isEntry_fullerShelf.trans isEntry_shelf.symm,
        iff_of_false (not_isOverlong_folder rfl) (not_isOverlong_folder rfl)⟩
  · have hwithout := hleft [] { parts := ["e"] } [{ parts := ["d"] }] rfl hnone hshort
    exact hwithout.trans hfind
  · obtain ⟨-, hends, -⟩ :=
      finds_answer_unless_isCutOff shelf .gray [overlongFolder, { parts := ["d"] }]
    obtain ⟨folder, hfolder, hlong, hfind⟩ :=
      hends ⟨[], overlongFolder, [{ parts := ["d"] }], rfl, by simp,
        isOverlong_overlongFolder shelf⟩
    simp only [List.mem_cons, List.not_mem_nil, or_false] at hfolder
    rcases hfolder with rfl | rfl
    · exact hfind
    · exact absurd hlong (not_isOverlong_folder rfl)

/-- Not every search ends with its answer. -/
theorem not_forall_finds_answer :
    ¬∀ (files : FileTree) (space : Space) (folders : List Path), ∃ answer,
      find files (some space) folders = .ok answer ∧ IsAnswer files space folders answer := by
  intro h
  obtain ⟨answer, hfind, -⟩ := h shelf .gray [overlongFolder, { parts := ["d"] }]
  rw [find_cons_of_isOverlong (isOverlong_overlongFolder shelf)] at hfind
  cases hfind

end Installed

end Recolor
