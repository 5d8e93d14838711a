import TraitRoutes.Output
import TraitRoutes.Proofs.PathParts
import TraitRoutes.Proofs.Sequencing

/-!
# What writing changes in a tree

The places that a path leads to are decided by its parts alone: there are no links,
so a tree only says whether every step is from a folder. A path that could be
followed can be followed to the same place in every later tree that has lost no
folder, and this is what keeps the files of artifacts apart from each other and from
all other files while they are written one after the other.

A change is described by the entries at all places. An operation puts a leaf into a
folder that exists, and never in place of a folder, so it sets the entry of one place
and no other one: a leaf has nothing below it, and nothing was below what it stands
for. Making folders only lets folders in where nothing was. Runs of writes are put
together from such steps, and of two artifacts for one file the later one stays.
-/

namespace TraitRoutes

/-- What stands at a place in a tree, a folder without what is in it. -/
inductive Entry where
  | file (content : ByteArray)
  | folder

namespace FileTree

def entry : FileTree → Entry
  | file content => .file content
  | folder _ => .folder

/-- What names lead to. -/
def entryAt? (t : FileTree) (names : List String) : Option Entry := (t.get? names).map entry

variable {t t' : FileTree} {names : List String} {name : String}

theorem entry_eq_folder {node : FileTree} (h : node.entry = .folder) :
    ∃ entries, node = folder entries := by
  cases node with
  | file content => cases h
  | folder entries => exact ⟨entries, rfl⟩

theorem entry_eq_file {node : FileTree} {content : ByteArray} (h : node.entry = .file content) :
    node = file content := by
  cases node with
  | file content' => rw [Entry.file.inj h]
  | folder entries => cases h

theorem get?_folder_of_entryAt? (h : t.entryAt? names = some .folder) :
    ∃ entries, t.get? names = some (folder entries) := by
  obtain ⟨node, hnode, hentry⟩ := Option.map_eq_some_iff.mp h
  obtain ⟨entries, rfl⟩ := entry_eq_folder hentry
  exact ⟨entries, hnode⟩

/-! ## Entries after a change -/

theorem lookup_cons_eq_if (other name : String) (node : FileTree)
    (entries : List (String × FileTree)) :
    ((name, node) :: entries).lookup other
      = if other = name then some node else entries.lookup other := by
  rw [List.lookup_cons]
  by_cases h : other = name
  · rw [if_pos h, beq_iff_eq.mpr h]
  · rw [if_neg h, beq_false_of_ne h]

theorem lookup_setEntry (name : String) (node : FileTree) (entries : List (String × FileTree))
    (other : String) :
    (setEntry name node entries).lookup other
      = if other = name then some node else entries.lookup other := by
  induction entries with
  | nil => rw [setEntry, lookup_cons_eq_if]
  | cons first rest ih =>
      obtain ⟨n, old⟩ := first
      rw [setEntry]
      by_cases hn : n = name
      · rw [if_pos (beq_iff_eq.mpr hn), lookup_cons_eq_if, lookup_cons_eq_if, hn]
        split <;> rfl
      · rw [if_neg (by simpa using hn), lookup_cons_eq_if, lookup_cons_eq_if, ih]
        split
        · next hother => rw [if_neg (hother ▸ hn)]
        · rfl

/-- Nothing is below the node: it is a file, or a folder without entries. -/
def IsLeaf (node : FileTree) : Prop := ∀ n rest, node.get? (n :: rest) = none

theorem isLeaf_file (content : ByteArray) : (file content).IsLeaf := fun _ _ => rfl

theorem isLeaf_folder : (folder []).IsLeaf := fun _ _ => rfl

theorem get?_cons (name : String) (rest : List String) (entries : List (String × FileTree)) :
    (folder entries).get? (name :: rest) = (entries.lookup name).bind (get? rest) := rfl

theorem get?_append (front rest : List String) (t : FileTree) :
    t.get? (front ++ rest) = (t.get? front).bind (get? rest) := by
  induction front generalizing t with
  | nil => rfl
  | cons n front ih =>
      cases t with
      | file content => rfl
      | folder entries =>
          rw [List.cons_append, get?_cons, get?_cons]
          cases entries.lookup n with
          | none => rfl
          | some node => exact ih node

theorem entryAt?_cons (n : String) (rest : List String) (entries : List (String × FileTree)) :
    (folder entries).entryAt? (n :: rest) = (entries.lookup n).bind (entryAt? · rest) := by
  rw [entryAt?, get?_cons, Option.map_bind]
  rfl

theorem put_cons (n : String) (rest : List String) (entries : List (String × FileTree))
    (node : FileTree) :
    (folder entries).put (n :: rest) node
      = folder (setEntry n (put ((entries.lookup n).getD (folder [])) rest node) entries) := rfl

theorem entryAt?_setEntry (name : String) (node : FileTree) (entries : List (String × FileTree))
    (n : String) (rest : List String) :
    (folder (setEntry name node entries)).entryAt? (n :: rest)
      = if n = name then node.entryAt? rest else (folder entries).entryAt? (n :: rest) := by
  rw [entryAt?_cons, entryAt?_cons, lookup_setEntry]
  split <;> rfl

theorem IsLeaf.entryAt?_cons {leaf : FileTree} (h : leaf.IsLeaf) (n : String)
    (rest : List String) : leaf.entryAt? (n :: rest) = none := by
  rw [entryAt?, h n rest]
  rfl

/-- Nothing is found below what is no folder. -/
theorem entryAt?_below (h : t.entryAt? names ≠ some .folder) (n : String) (rest : List String) :
    t.entryAt? (names ++ n :: rest) = none := by
  rw [entryAt?] at h ⊢
  rw [get?_append]
  cases hnode : t.get? names with
  | none => rfl
  | some node =>
      cases node with
      | file content => rfl
      | folder entries =>
          rw [hnode] at h
          exact absurd rfl h

/-- A leaf that is put into a folder, and not in place of one, is all that changes. -/
theorem entryAt?_put {leaf : FileTree} (hleaf : leaf.IsLeaf) (dir : List String) :
    ∀ {t : FileTree} {names : List String}, t.entryAt? dir = some .folder →
      t.entryAt? (dir ++ [name]) ≠ some .folder →
      (t.put (dir ++ [name]) leaf).entryAt? names
        = if names = dir ++ [name] then some leaf.entry else t.entryAt? names := by
  induction dir with
  | nil =>
      intro t names hdir hnew
      obtain ⟨entries, rfl⟩ := entry_eq_folder (Option.some.inj hdir)
      rw [List.nil_append, put_cons, put]
      cases names with
      | nil => rw [if_neg (List.cons_ne_nil _ _).symm]; rfl
      | cons n rest =>
          rw [entryAt?_setEntry]
          by_cases hn : n = name
          · rw [if_pos hn, hn]
            cases rest with
            | nil => rw [if_pos rfl]; rfl
            | cons m more =>
                have hbelow := entryAt?_below hnew m more
                rw [List.nil_append, List.singleton_append] at hbelow
                rw [if_neg (by simp), hleaf.entryAt?_cons, hbelow]
          · rw [if_neg hn, if_neg (by simp [hn])]
  | cons d ds ih =>
      intro t names hdir hnew
      cases t with
      | file content => cases hdir
      | folder entries =>
          rw [entryAt?_cons] at hdir
          obtain ⟨node, hnode, hdir⟩ := Option.bind_eq_some_iff.mp hdir
          rw [List.cons_append, entryAt?_cons, hnode] at hnew
          rw [List.cons_append, put_cons, hnode, Option.getD_some]
          cases names with
          | nil => rw [if_neg (List.cons_ne_nil _ _).symm]; rfl
          | cons n rest =>
              rw [entryAt?_setEntry]
              by_cases hn : n = d
              · rw [if_pos hn, hn, ih hdir hnew, entryAt?_cons, hnode]
                simp
              · rw [if_neg hn, if_neg (by simp [hn])]

/-! ## Where paths lead -/

/-- The place behind a part, from the inside out. -/
def move (trail : List String) : PathPart → List String
  | .root => []
  | .here => trail
  | .up => trail.tail
  | .name text => String.ofList text :: trail

/-- The names that parts lead to, if every step is from a folder. -/
def address (parts : List PathPart) : List String := (parts.foldl move []).reverse

/-- A part that is not too long. -/
def Fits : PathPart → Prop
  | .name text => (String.ofList text).utf8ByteSize ≤ nameLimit
  | _ => True

/-- Every step is from a folder. -/
def Passes (t : FileTree) (trail : List String) : List PathPart → Prop
  | [] => True
  | part :: rest =>
    t.entryAt? trail.reverse = some .folder ∧ Fits part ∧ t.Passes (move trail part) rest

instance : DecidablePred Fits
  | .name _ => inferInstanceAs (Decidable (_ ≤ _))
  | .root | .here | .up => inferInstanceAs (Decidable True)

theorem follow_cons (trail : List String) (part : PathPart) (rest : List PathPart) :
    t.follow trail (t.get? trail.reverse) (part :: rest) = match t.entryAt? trail.reverse with
      | none => .error .notFound
      | some (.file _) => .error .notAFolder
      | some .folder =>
        if Fits part then t.follow (move trail part) (t.get? (move trail part).reverse) rest
        else .error .nameTooLong := by
  rw [entryAt?, follow.eq_def]
  cases hnode : t.get? trail.reverse with
  | none => rfl
  | some node =>
      cases node with
      | file content => rfl
      | folder entries =>
          have hname : ∀ n, t.get? (n :: trail).reverse = entries.lookup n := by
            intro n
            rw [List.reverse_cons, get?_append, hnode, Option.bind_some, get?_cons]
            cases entries.lookup n <;> rfl
          cases part with
          | root | up => exact (if_pos trivial).symm
          | here =>
              rw [move, hnode]
              exact (if_pos trivial).symm
          | name text =>
              rw [move, hname]
              dsimp only [Option.map_some, entry]
              split
              · next hlong => exact (if_neg fun hfits => Nat.not_lt.mpr hfits hlong).symm
              · next hshort => exact (if_pos (Nat.not_lt.mp hshort)).symm

theorem follow_ok_iff (parts : List PathPart) : ∀ {trail : List String},
    t.follow trail (t.get? trail.reverse) parts = .ok names ↔
      t.Passes trail parts ∧ names = (parts.foldl move trail).reverse := by
  induction parts with
  | nil =>
      intro trail
      rw [follow, List.foldl_nil]
      exact ⟨fun h => ⟨trivial, (Except.ok.inj h).symm⟩, fun h => congrArg Except.ok h.2.symm⟩
  | cons part rest ih =>
      intro trail
      rw [Passes, List.foldl_cons, and_assoc, and_assoc, ← ih, follow_cons]
      split
      · next hnone => exact ⟨nofun, fun h => (by rw [hnone] at h; cases h.1)⟩
      · next hfile => exact ⟨nofun, fun h => (by rw [hfile] at h; cases h.1)⟩
      · next hfolder =>
          by_cases hfits : Fits part
          · rw [if_pos hfits]
            exact ⟨fun h => ⟨hfolder, hfits, h⟩, fun h => h.2.2⟩
          · rw [if_neg hfits]
            exact ⟨nofun, fun h => absurd h.2.1 hfits⟩

theorem passes_append (front rest : List PathPart) : ∀ {trail : List String},
    t.Passes trail (front ++ rest) ↔
      t.Passes trail front ∧ t.Passes (front.foldl move trail) rest := by
  induction front with
  | nil => exact fun {_} => ⟨fun h => ⟨trivial, h⟩, fun h => h.2⟩
  | cons part front ih =>
      intro trail
      rw [List.cons_append, Passes, Passes, List.foldl_cons, ih, and_assoc, and_assoc]

/-- No folder is lost. -/
def Keeps (t t' : FileTree) : Prop :=
  ∀ names, t.entryAt? names = some .folder → t'.entryAt? names = some .folder

theorem Passes.mono (h : t.Keeps t') {parts : List PathPart} : ∀ {trail : List String},
    t.Passes trail parts → t'.Passes trail parts := by
  induction parts with
  | nil => exact fun h => h
  | cons part rest ih =>
      intro trail hpasses
      exact ⟨h _ hpasses.1, hpasses.2.1, ih hpasses.2.2⟩

theorem locate_ok_iff {path : String} :
    t.locate path = .ok names ↔
      ('\x00' ∉ path.toList ∧ path ≠ "" ∧ path.utf8ByteSize ≤ pathLimit) ∧
        t.Passes [] (PathName.parts path) ∧ names = address (PathName.parts path) := by
  have hfollow : t.follow [] (some t) (PathName.parts path) = .ok names ↔
      t.Passes [] (PathName.parts path) ∧ names = address (PathName.parts path) :=
    follow_ok_iff _
  rw [locate, ← hfollow]
  split
  · next h =>
      rw [List.contains_iff_mem] at h
      exact ⟨fun h => (by cases h), fun h' => absurd h h'.1.1⟩
  · next hzero =>
      rw [List.contains_iff_mem] at hzero
      split
      · next h =>
          rw [String.isEmpty_iff] at h
          exact ⟨fun h => (by cases h), fun h' => absurd h h'.1.2.1⟩
      · next hempty =>
          rw [String.isEmpty_iff] at hempty
          split
          · next h => exact ⟨fun h => (by cases h), fun h' => by omega⟩
          · next hlong => exact ⟨fun h => ⟨⟨hzero, hempty, by omega⟩, h⟩, fun h => h.2⟩

/-- Where a path leads to does not depend on the tree. -/
theorem locate_mono (h : t.Keeps t') {path : String} (hlocate : t.locate path = .ok names) :
    t'.locate path = .ok names := by
  obtain ⟨hpath, hpasses, hnames⟩ := locate_ok_iff.mp hlocate
  exact locate_ok_iff.mpr ⟨hpath, hpasses.mono h, hnames⟩

/-- What is in front of a folder is a folder. -/
theorem entryAt?_front {front rest : List String}
    (h : t.entryAt? (front ++ rest) = some .folder) : t.entryAt? front = some .folder := by
  obtain ⟨entries, hnode⟩ := get?_folder_of_entryAt? h
  rw [get?_append] at hnode
  obtain ⟨node, hfront, hrest⟩ := Option.bind_eq_some_iff.mp hnode
  cases node with
  | folder entries' => exact congrArg (Option.map entry) hfront
  | file content => cases rest <;> cases hrest

/-- What a path leads to is a folder, or stands in one. -/
theorem exists_folder {path : String} (hlocate : t.locate path = .ok names)
    (hfree : t.entryAt? names ≠ some .folder) :
    ∃ dir name, names = dir ++ [name] ∧ t.entryAt? dir = some .folder := by
  obtain ⟨⟨-, hne, -⟩, hpasses, rfl⟩ := locate_ok_iff.mp hlocate
  obtain hnil | ⟨front, last, hparts⟩ := List.eq_nil_or_concat (PathName.parts path)
  · exact absurd hnil (PathName.parts_ne_nil hne)
  rw [List.concat_eq_append] at hparts
  rw [hparts, passes_append] at hpasses
  have hfolder : t.entryAt? (front.foldl move []).reverse = some .folder := hpasses.2.1
  rw [hparts, address, List.foldl_append, List.foldl_cons, List.foldl_nil] at hfree ⊢
  cases last with
  | root => exact absurd (@entryAt?_front t [] _ hfolder) hfree
  | here => exact absurd hfolder hfree
  | up =>
      refine absurd ?_ hfree
      cases htrail : front.foldl move [] with
      | nil =>
          rw [htrail] at hfolder
          exact hfolder
      | cons n trail =>
          rw [htrail, List.reverse_cons] at hfolder
          exact entryAt?_front hfolder
  | name text =>
      rw [move, List.reverse_cons]
      exact ⟨_, _, rfl, hfolder⟩

/-! ## What operations change -/

/-- One place, which has no folder, gets an entry. -/
structure Sets (t : FileTree) (names : List String) (e : Entry) (t' : FileTree) : Prop where
  free : t.entryAt? names ≠ some .folder
  entries : ∀ others, t'.entryAt? others = if others = names then some e else t.entryAt? others

namespace Sets

variable {e : Entry}

theorem keeps (h : t.Sets names e t') : t.Keeps t' := by
  intro others hothers
  rw [h.entries]
  split
  · next heq => exact absurd (heq ▸ hothers) h.free
  · exact hothers

theorem self (h : t.Sets names e t') : t'.entryAt? names = some e := by
  rw [h.entries, if_pos rfl]

theorem other (h : t.Sets names e t') {others : List String} (hne : others ≠ names) :
    t'.entryAt? others = t.entryAt? others := by
  rw [h.entries, if_neg hne]

end Sets

theorem placeFor_ok {path : String} {taken : DiskError} (h : t.placeFor path taken = .ok names) :
    t.locate path = .ok names ∧ t.entryAt? names ≠ some .folder := by
  rw [placeFor, bind_ok_iff] at h
  obtain ⟨found, hlocate, h⟩ := h
  rw [entryAt?]
  split at h
  · cases h
  · next content hfound =>
      split at h
      · cases h
      · obtain rfl := Except.ok.inj h
        rw [hfound]
        exact ⟨hlocate, nofun⟩
  · next hfound =>
      split at h
      · cases h
      · obtain rfl := Except.ok.inj h
        rw [hfound]
        exact ⟨hlocate, nofun⟩

theorem put_sets {path : String} {leaf : FileTree} (hleaf : leaf.IsLeaf)
    (hlocate : t.locate path = .ok names) (hfree : t.entryAt? names ≠ some .folder) :
    t.Sets names leaf.entry (t.put names leaf) := by
  obtain ⟨dir, name, rfl, hdir⟩ := exists_folder hlocate hfree
  exact ⟨hfree, fun others => entryAt?_put hleaf dir hdir hfree⟩

theorem write_sets {path : String} {content : ByteArray} (h : t.write path content = .ok t') :
    ∃ names, t.locate path = .ok names ∧ t.Sets names (.file content) t' := by
  rw [write, bind_ok_iff] at h
  obtain ⟨names, hplace, h⟩ := h
  split at h
  · cases h
  · obtain rfl := Except.ok.inj h
    obtain ⟨hlocate, hfree⟩ := placeFor_ok hplace
    exact ⟨names, hlocate, put_sets (isLeaf_file content) hlocate hfree⟩

theorem makeFolder_sets {path : String} (h : t.makeFolder path = .ok t') :
    ∃ names, t.locate path = .ok names ∧ t.entryAt? names = none ∧ t.Sets names .folder t' := by
  rw [makeFolder, bind_ok_iff] at h
  obtain ⟨names, hplace, h⟩ := h
  split at h
  · cases h
  · next hnone =>
      obtain rfl := Except.ok.inj h
      obtain ⟨hlocate, hfree⟩ := placeFor_ok hplace
      exact ⟨names, hlocate, congrArg (Option.map entry) hnone,
        put_sets isLeaf_folder hlocate hfree⟩

/-- Folders come in where nothing was. -/
def Grows (t t' : FileTree) : Prop :=
  ∀ names, t'.entryAt? names = t.entryAt? names ∨
    t.entryAt? names = none ∧ t'.entryAt? names = some .folder

namespace Grows

theorem refl (t : FileTree) : t.Grows t := fun _ => .inl rfl

theorem trans {t'' : FileTree} (h : t.Grows t') (h' : t'.Grows t'') : t.Grows t'' := by
  intro names
  rcases h names with hsame | ⟨hnone, hfolder⟩ <;> rcases h' names with hsame' | ⟨hnone', hfolder'⟩
  · exact .inl (hsame'.trans hsame)
  · exact .inr ⟨hsame ▸ hnone', hfolder'⟩
  · exact .inr ⟨hnone, hsame'.trans hfolder⟩
  · rw [hfolder] at hnone'
    cases hnone'

theorem keeps (h : t.Grows t') : t.Keeps t' := by
  intro names hnames
  rcases h names with hsame | ⟨hnone, -⟩
  · rw [hsame, hnames]
  · rw [hnames] at hnone
    cases hnone

theorem file_iff (h : t.Grows t') {content : ByteArray} :
    t'.entryAt? names = some (.file content) ↔ t.entryAt? names = some (.file content) := by
  rcases h names with hsame | ⟨hnone, hfolder⟩
  · rw [hsame]
  · rw [hnone, hfolder]
    exact ⟨nofun, nofun⟩

end Grows

theorem makeFolder_grows {path : String} (h : t.makeFolder path = .ok t') : t.Grows t' := by
  obtain ⟨names, -, hnone, hsets⟩ := makeFolder_sets h
  intro others
  by_cases heq : others = names
  · exact .inr ⟨heq ▸ hnone, heq ▸ hsets.self⟩
  · exact .inl (hsets.other heq)

theorem ensureFolder_grows (t : FileTree) (path : String) :
    t.Grows (t.ensureFolder path).2 := by
  rw [ensureFolder]
  split
  · next h => exact makeFolder_grows h
  · split <;> exact Grows.refl t

theorem ensureFolders_grows (depth : Nat) :
    ∀ (t : FileTree) (path : String), t.Grows (t.ensureFolders depth path).2 := by
  induction depth with
  | zero => exact fun t _ => Grows.refl t
  | succ depth ih =>
      intro t path
      rw [ensureFolders]
      split
      · next h => exact makeFolder_grows h
      · have hparent := ih t (PathName.parent path)
        split
        · next t' h =>
            rw [h] at hparent
            exact hparent.trans (ensureFolder_grows t' path)
        · exact hparent
      · split <;> exact Grows.refl t

theorem makeFolders_grows (t : FileTree) (path : String) : t.Grows (t.makeFolders path).2 :=
  ensureFolders_grows _ t path

/-! ## Text in files -/

theorem fromUTF8?_eq_some_iff {content : ByteArray} {text : String} :
    String.fromUTF8? content = some text ↔ content = text.toUTF8 := by
  constructor
  · intro h
    unfold String.fromUTF8? at h
    split at h
    · obtain rfl := Option.some.inj h
      rfl
    · cases h
  · rintro rfl
    unfold String.fromUTF8?
    exact dif_pos text.isValidUTF8

theorem find_ok_iff {path : String} {node : FileTree} :
    t.find path = .ok node ↔ ∃ names, t.locate path = .ok names ∧ t.get? names = some node ∧
      (node.isFolder = false → spelledAsFolder path = false) := by
  rw [find, bind_ok_iff]
  refine exists_congr fun names => and_congr_right fun _ => ?_
  cases t.get? names with
  | none => exact ⟨nofun, fun h => (by cases h.1)⟩
  | some found =>
      cases found with
      | folder entries =>
          constructor
          · intro h
            obtain rfl := Except.ok.inj h
            exact ⟨rfl, nofun⟩
          · rintro ⟨h, -⟩
            obtain rfl := Option.some.inj h
            rfl
      | file content =>
          dsimp only
          split
          · next hspelled =>
              refine ⟨nofun, fun ⟨h, himp⟩ => ?_⟩
              obtain rfl := Option.some.inj h
              rw [himp rfl] at hspelled
              cases hspelled
          · next hspelled =>
              constructor
              · intro h
                obtain rfl := Except.ok.inj h
                exact ⟨rfl, fun _ => Bool.eq_false_iff.mpr hspelled⟩
              · rintro ⟨h, -⟩
                rw [Option.some.inj h]

/-- A text can be read exactly where its bytes stand in a file. -/
theorem readText_ok_iff {path text : String} :
    t.readText path = .ok text ↔ ∃ names, t.locate path = .ok names ∧
      t.entryAt? names = some (.file text.toUTF8) ∧ spelledAsFolder path = false := by
  have hread : ∀ content, t.read path = .ok content ↔ t.find path = .ok (file content) := by
    intro content
    rw [read, bind_ok_iff]
    constructor
    · rintro ⟨node, hnode, h⟩
      cases node with
      | folder entries => cases h
      | file content' => rw [hnode, Except.ok.inj h]
    · intro h
      exact ⟨_, h, rfl⟩
  have htext : t.readText path = .ok text ↔ t.find path = .ok (file text.toUTF8) := by
    rw [readText, bind_ok_iff]
    constructor
    · rintro ⟨content, hcontent, h⟩
      split at h
      · next text' htext =>
          rw [fromUTF8?_eq_some_iff] at htext
          obtain rfl := Except.ok.inj h
          rw [← htext, (hread content).mp hcontent]
      · cases h
    · intro h
      refine ⟨_, (hread _).mpr h, ?_⟩
      rw [fromUTF8?_eq_some_iff.mpr rfl]
  rw [htext, find_ok_iff]
  refine exists_congr fun names => and_congr_right fun _ => and_congr ?_ ?_
  · rw [entryAt?, Option.map_eq_some_iff]
    constructor
    · intro h
      exact ⟨_, h, rfl⟩
    · rintro ⟨node, hnode, hentry⟩
      rw [hnode, entry_eq_file hentry]
  · exact ⟨fun h => h rfl, fun h _ => h⟩

/-! ## Artifacts in files -/

/-- The names that the file of an artifact stands under. -/
def place (dir : String) (a : Artifact) : List String :=
  address (PathName.parts (PathName.join dir a.fileName))

variable {dir : String}

/-- An artifact that is put into its file is in it, and nothing else changes. -/
theorem writeArtifact_sets {a : Artifact} {output : OutputFile}
    (h : t.writeArtifact dir a = .ok (output, t')) :
    output.path = PathName.join dir a.fileName ∧
      t.locate (PathName.join dir a.fileName) = .ok (place dir a) ∧
      t.Sets (place dir a) (.file a.source.toUTF8) t' := by
  rw [writeArtifact] at h
  split at h
  · next hholds =>
      obtain ⟨rfl, rfl⟩ := Prod.mk.inj (Except.ok.inj h)
      have hread : t.readText (PathName.join dir a.fileName) = .ok a.source := by
        unfold holds at hholds
        split at hholds
        · next old hold => rw [hold, beq_iff_eq.mp hholds]
        · cases hholds
      obtain ⟨names, hlocate, hentry, -⟩ := readText_ok_iff.mp hread
      obtain rfl : names = place dir a := (locate_ok_iff.mp hlocate).2.2
      refine ⟨rfl, hlocate, by rw [hentry]; nofun, fun others => ?_⟩
      split
      · next heq => rw [heq, hentry]
      · rfl
  · split at h
    · next t'' hwrite =>
        obtain ⟨rfl, rfl⟩ := Prod.mk.inj (Except.ok.inj h)
        obtain ⟨names, hlocate, hsets⟩ := write_sets hwrite
        obtain rfl : names = place dir a := (locate_ok_iff.mp hlocate).2.2
        exact ⟨rfl, hlocate, hsets⟩
    · cases h

/-- A file that could not be written ends the pass. -/
theorem writeArtifact_error {a : Artifact} {fault : Fault}
    (h : t.writeArtifact dir a = .error fault) :
    ∃ e : DiskError, t.write (PathName.join dir a.fileName) a.source.toUTF8 = .error e ∧
      fault = .access (PathName.join dir a.fileName) e.text := by
  rw [writeArtifact] at h
  split at h
  · cases h
  · split at h
    · cases h
    · next e hwrite => exact ⟨e, hwrite, (Except.error.inj h).symm⟩

/-- What writing artifacts one after the other leaves: of the artifacts for one file the last
one is in it, and no other place is touched. -/
structure Written (t : FileTree) (dir : String) (artifacts : List Artifact) (t' : FileTree) :
    Prop where
  keeps : t.Keeps t'
  located : ∀ a ∈ artifacts, t'.locate (PathName.join dir a.fileName) = .ok (place dir a)
  last : ∀ before a after, artifacts = before ++ a :: after →
    (∀ b ∈ after, place dir b ≠ place dir a) →
    t'.entryAt? (place dir a) = some (.file a.source.toUTF8)
  others : ∀ names, (∀ a ∈ artifacts, names ≠ place dir a) → t'.entryAt? names = t.entryAt? names

namespace Written

variable {artifacts : List Artifact}

theorem nil (t : FileTree) : t.Written dir [] t where
  keeps := fun _ h => h
  located := List.forall_mem_nil _
  last := fun before a after h => by cases before <;> cases h
  others := fun _ _ => rfl

theorem cons {a : Artifact} {t'' : FileTree}
    (hlocate : t.locate (PathName.join dir a.fileName) = .ok (place dir a))
    (hsets : t.Sets (place dir a) (.file a.source.toUTF8) t')
    (hrest : t'.Written dir artifacts t'') : t.Written dir (a :: artifacts) t'' where
  keeps names h := hrest.keeps names (hsets.keeps names h)
  located b hb := by
    rcases List.mem_cons.mp hb with rfl | hb
    · exact locate_mono hrest.keeps (locate_mono hsets.keeps hlocate)
    · exact hrest.located b hb
  last before b after hsplit hafter := by
    cases before with
    | nil =>
        obtain ⟨rfl, rfl⟩ := List.cons.inj hsplit
        rw [hrest.others _ fun c hc => (hafter c hc).symm, hsets.self]
    | cons c more =>
        obtain ⟨rfl, rfl⟩ := List.cons.inj hsplit
        exact hrest.last more b after rfl hafter
  others names hnames := by
    rw [hrest.others names fun b hb => hnames b (List.mem_cons_of_mem _ hb),
      hsets.other (hnames a List.mem_cons_self)]

end Written

attribute [local irreducible] writeArtifact in
theorem writeEach_cons (t : FileTree) (dir : String) (done : List OutputFile) (a : Artifact)
    (rest : List Artifact) :
    t.writeEach dir done (a :: rest) = match t.writeArtifact dir a with
      | .ok (output, t) => t.writeEach dir (done ++ [output]) rest
      | .error fault => ⟨t, .error fault⟩ := rfl

/-- Writing goes on to the first file that cannot be written. What is in front of it is
written in either case. -/
theorem writeEach_cases (dir : String) (artifacts : List Artifact) :
    ∀ (t : FileTree) (done : List OutputFile),
      (∃ files, (t.writeEach dir done artifacts).outcome = .ok files ∧
        files.map OutputFile.path
          = done.map OutputFile.path ++ artifacts.map (fun a => PathName.join dir a.fileName) ∧
        t.Written dir artifacts (t.writeEach dir done artifacts).tree) ∨
      ∃ before a after e, artifacts = before ++ a :: after ∧
        (t.writeEach dir done artifacts).outcome
          = .error (.access (PathName.join dir a.fileName) (DiskError.text e)) ∧
        t.Written dir before (t.writeEach dir done artifacts).tree := by
  induction artifacts with
  | nil =>
      intro t done
      exact .inl ⟨done, rfl, (List.append_nil _).symm, .nil t⟩
  | cons a rest ih =>
      intro t done
      cases hwrite : t.writeArtifact dir a with
      | error fault =>
          have hstep : t.writeEach dir done (a :: rest) = ⟨t, .error fault⟩ := by
            rw [writeEach_cons, hwrite]
          obtain ⟨e, -, rfl⟩ := writeArtifact_error hwrite
          rw [hstep]
          exact .inr ⟨[], a, rest, e, rfl, rfl, .nil t⟩
      | ok written =>
          obtain ⟨output, t'⟩ := written
          have hstep : t.writeEach dir done (a :: rest)
              = t'.writeEach dir (done ++ [output]) rest := by
            rw [writeEach_cons, hwrite]
          rw [hstep]
          obtain ⟨hpath, hlocate, hsets⟩ := writeArtifact_sets hwrite
          rcases ih t' (done ++ [output]) with
            ⟨files, houtcome, hfiles, hrest⟩ | ⟨before, b, after, e, rfl, houtcome, hrest⟩
          · refine .inl ⟨files, houtcome, ?_, hrest.cons hlocate hsets⟩
            rw [hfiles, List.map_append, List.map_singleton, hpath, List.append_assoc,
              List.singleton_append, List.map_cons]
          · exact .inr ⟨a :: before, b, after, e, rfl, houtcome, hrest.cons hlocate hsets⟩

/-- Artifacts are stored: of those for one file name the last one is in its file, no other
file has changed, and no folder is gone. -/
structure Stored (t : FileTree) (dir : String) (artifacts : List Artifact) (t' : FileTree) :
    Prop where
  last : ∀ before a after, artifacts = before ++ a :: after →
    (∀ b ∈ after, b.fileName ≠ a.fileName) →
    t'.readText (PathName.join dir a.fileName) = .ok a.source
  others : ∀ names content,
    (∀ a ∈ artifacts, t'.locate (PathName.join dir a.fileName) ≠ .ok names) →
    (t'.entryAt? names = some (.file content) ↔ t.entryAt? names = some (.file content))
  folders : ∀ names, t.entryAt? names = some .folder → t'.entryAt? names = some .folder

/-- Artifacts are delivered: each is in the file of its name as it is, no other file has
changed, and no folder is gone. -/
structure Delivered (t : FileTree) (dir : String) (artifacts : List Artifact) (t' : FileTree) :
    Prop where
  sources : ∀ a ∈ artifacts, t'.readText (PathName.join dir a.fileName) = .ok a.source
  others : ∀ names content,
    (∀ a ∈ artifacts, t'.locate (PathName.join dir a.fileName) ≠ .ok names) →
    (t'.entryAt? names = some (.file content) ↔ t.entryAt? names = some (.file content))
  folders : ∀ names, t.entryAt? names = some .folder → t'.entryAt? names = some .folder

theorem place_injective {a b : Artifact} (ha : PathName.IsPlain a.fileName)
    (hb : PathName.IsPlain b.fileName) (h : place dir a = place dir b) :
    a.fileName = b.fileName := by
  have hplace : ∀ {c : Artifact}, PathName.IsPlain c.fileName →
      place dir c = address (PathName.parts dir) ++ [c.fileName] := by
    intro c hc
    rw [place, hc.isPart.parts_join, address, List.foldl_append, List.foldl_cons, List.foldl_nil, move,
      List.reverse_cons, String.ofList_toList]
    rfl
  rw [hplace ha, hplace hb] at h
  exact List.singleton_inj.mp (List.append_cancel_left h)

theorem spelledAsFolder_join {name : String} (h : PathName.IsPlain name) (dir : String) :
    spelledAsFolder (PathName.join dir name) = false := by
  have hempty : name.toList ≠ [] := fun hnil => h.nonempty (String.toList_eq_nil_iff.mp hnil)
  have hhere : name.toList ≠ ['.'] := fun heq => h.here (String.toList_injective heq)
  have hup : name.toList ≠ ['.', '.'] := fun heq => h.up (String.toList_injective heq)
  rw [spelledAsFolder, h.isPart.getLast?_pieces_join]
  simp [hempty, hhere, hup]

/-- Behind folders that came in, artifacts are stored. -/
theorem Written.stored {artifacts : List Artifact} {t'' : FileTree} (hgrows : t.Grows t')
    (h : t'.Written dir artifacts t'') (hplain : ∀ a ∈ artifacts, PathName.IsPlain a.fileName) :
    t.Stored dir artifacts t'' where
  last before a after hsplit hafter := by
    have hmem : a ∈ artifacts ∧ ∀ b ∈ after, b ∈ artifacts := by
      rw [hsplit]
      exact ⟨by simp, fun b hb => by simp [hb]⟩
    refine readText_ok_iff.mpr ⟨_, h.located a hmem.1, h.last before a after hsplit ?_,
      spelledAsFolder_join (hplain a hmem.1) dir⟩
    intro b hb heq
    exact hafter b hb (place_injective (hplain b (hmem.2 b hb)) (hplain a hmem.1) heq)
  others names content hnames := by
    rw [h.others names fun a ha heq => hnames a ha (heq ▸ h.located a ha), hgrows.file_iff]
  folders names hnames := h.keeps names (hgrows.keeps names hnames)

/-- Stored artifacts for files of their own are delivered. -/
theorem Stored.delivered {artifacts : List Artifact} (h : t.Stored dir artifacts t')
    (hnodup : (artifacts.map Artifact.fileName).Nodup) : t.Delivered dir artifacts t' where
  sources a ha := by
    obtain ⟨before, after, rfl⟩ := List.append_of_mem ha
    refine h.last before a after rfl fun b hb heq => ?_
    rw [List.map_append, List.map_cons] at hnodup
    have hfresh := (List.nodup_cons.mp (List.nodup_append.mp hnodup).2.1).1
    exact hfresh (heq ▸ List.mem_map_of_mem hb)
  others := h.others
  folders := h.folders

/-- Artifacts for files of their own are delivered, or those in front of the first one that
cannot be written are; no more than that ends the writing. -/
theorem writeArtifacts_cases (t : FileTree) (dir : String) {artifacts : List Artifact}
    (hplain : ∀ a ∈ artifacts, PathName.IsPlain a.fileName)
    (hnodup : (artifacts.map Artifact.fileName).Nodup) :
    (∃ files, (t.writeArtifacts dir artifacts).outcome = .ok files ∧
      files.map OutputFile.path = artifacts.map (fun a => PathName.join dir a.fileName) ∧
      t.Delivered dir artifacts (t.writeArtifacts dir artifacts).tree) ∨
    ∃ before after path reason, artifacts = before ++ after ∧
      (t.writeArtifacts dir artifacts).outcome = .error (.access path reason) ∧
      t.Delivered dir before (t.writeArtifacts dir artifacts).tree := by
  have hgrows := makeFolders_grows t dir
  rw [writeArtifacts]
  rcases hmake : t.makeFolders dir with ⟨failed, t'⟩
  rw [hmake] at hgrows
  cases failed with
  | some e =>
      exact .inr ⟨[], artifacts, dir, e.text, rfl, rfl,
        ((Written.nil t').stored hgrows (List.forall_mem_nil _)).delivered List.nodup_nil⟩
  | none =>
      rcases writeEach_cases dir artifacts t' [] with
        ⟨files, houtcome, hfiles, hwritten⟩ | ⟨before, a, after, e, rfl, houtcome, hwritten⟩
      · exact .inl ⟨files, houtcome, hfiles, (hwritten.stored hgrows hplain).delivered hnodup⟩
      · rw [List.map_append, List.nodup_append] at hnodup
        have hstored := hwritten.stored hgrows fun b hb => hplain b (List.mem_append_left _ hb)
        exact .inr ⟨before, a :: after, _, _, rfl, houtcome, hstored.delivered hnodup.1⟩

end FileTree

end TraitRoutes
