import Mathlib.Data.List.TakeWhile
import TraitRoutes.Proofs.WalkOrder

/-!
# Paths of nodes below a folder

The path of a node is that of the folder with the names joined to it. Joined names are
parts, so it leads where the names lead from the folder, and the only thing that can keep
it from that is its length. What is found there is the node itself: the names have no
slash, no zero byte and are no dots, and those of a file are not spelled as a folder's.

The extension of a file is decided by the last name alone: a source has the extension
`rs`, and something in front of it.
-/

namespace TraitRoutes

/-! ## Extensions -/

namespace PathName

theorem splitName_of_not_mem {name : List Char} (h : '.' ∉ name) : splitName name = (name, none) := by
  have hall : ∀ c ∈ name.reverse, (c != '.') = true := fun c hc =>
    bne_iff_ne.mpr fun heq => h (heq ▸ List.mem_reverse.mp hc)
  rw [splitName, List.takeWhile_eq_self_iff.mpr hall, List.reverse_reverse]
  simp

/-- A dot that is not the first character is followed by the extension, if it is the last. -/
theorem splitName_append {stem ending : List Char} (hending : '.' ∉ ending)
    (hup : stem ++ '.' :: ending ≠ ['.', '.']) :
    splitName (stem ++ '.' :: ending)
      = if stem = [] then (stem ++ '.' :: ending, none) else (stem, some ending) := by
  have hall : ∀ c ∈ ending.reverse, (c != '.') = true := fun c hc =>
    bne_iff_ne.mpr fun heq => hending (heq ▸ List.mem_reverse.mp hc)
  have hbehind : ((stem ++ '.' :: ending).reverse.takeWhile (· != '.')).reverse = ending := by
    rw [List.reverse_append, List.reverse_cons, List.append_assoc,
      List.takeWhile_append_of_pos hall, List.singleton_append,
      List.takeWhile_cons_of_neg (by simp), List.append_nil, List.reverse_reverse]
  have hstem : (stem ++ '.' :: ending).length - ending.length - 1 = stem.length := by
    rw [List.length_append, List.length_cons]
    omega
  have hlength : ending.length ≠ (stem ++ '.' :: ending).length := by
    rw [List.length_append, List.length_cons]
    omega
  rw [splitName, if_neg (by simpa using hup), hbehind]
  dsimp only
  rw [hstem, List.take_left, decide_eq_false hlength]
  cases stem <;> rfl

theorem splitName_eq_some_iff {name ending : List Char} (hending : '.' ∉ ending)
    (hup : name ≠ ['.', '.']) :
    (splitName name).2 = some ending ↔ ∃ stem, stem ≠ [] ∧ name = stem ++ '.' :: ending := by
  constructor
  · intro h
    by_cases hdot : '.' ∈ name
    · obtain ⟨front, back, hsplit, hback⟩ :=
        List.eq_append_cons_of_mem (List.mem_reverse.mpr hdot)
      have hname : name = back.reverse ++ '.' :: front.reverse := by
        rw [← List.reverse_reverse name, hsplit]
        simp
      rw [hname, splitName_append (by simpa using hback) (hname ▸ hup)] at h
      split at h
      · cases h
      · next hne => exact ⟨back.reverse, hne, Option.some.inj h ▸ hname⟩
    · rw [splitName_of_not_mem hdot] at h
      cases h
  · rintro ⟨stem, hne, rfl⟩
    rw [splitName_append hending hup, if_neg hne]

end PathName

namespace FileTree

/-- The names of a place end in that of a file with Rust source. -/
def IsSource (names : List String) : Prop :=
  ∃ folders stem, stem ≠ "" ∧ names = folders ++ [stem ++ ".rs"]

instance : DecidablePred IsSource := fun names =>
  decidable_of_iff (∃ name ∈ names.getLast?, name ≠ ".rs" ∧ ".rs".toList <:+ name.toList) <| by
    constructor
    · rintro ⟨name, hlast, hne, stem, hstem⟩
      obtain ⟨folders, rfl⟩ := List.getLast?_eq_some_iff.mp hlast
      have hname : name = String.ofList stem ++ ".rs" := String.toList_injective (by simp [← hstem])
      refine ⟨folders, String.ofList stem, fun hnil => hne ?_, by rw [hname]⟩
      rw [hname, hnil]
      rfl
    · rintro ⟨folders, stem, hne, rfl⟩
      refine ⟨stem ++ ".rs", List.getLast?_concat, fun h => hne ?_, stem.toList, by simp⟩
      simpa using h

variable {tree top node : FileTree} {root : String} {names : List String}

/-- A joined name comes behind the path, with a slash in between at most. -/
theorem utf8ByteSize_join {name : String} (h : PathName.IsPlain name) (path : String) :
    path.utf8ByteSize + name.utf8ByteSize ≤ (PathName.join path name).utf8ByteSize ∧
      (PathName.join path name).utf8ByteSize ≤ path.utf8ByteSize + 1 + name.utf8ByteSize := by
  rw [PathName.join, h.isPart.startsWith_slash, Bool.false_or]
  split
  · next hempty =>
      rw [String.isEmpty_iff_utf8ByteSize_eq_zero] at hempty
      omega
  · split
    · rw [String.utf8ByteSize_append]
      omega
    · have hslash : "/".utf8ByteSize = 1 := rfl
      rw [String.utf8ByteSize_append, String.utf8ByteSize_append]
      omega

theorem pathBelow_concat (root : String) (names : List String) (name : String) :
    pathBelow root (names ++ [name]) = PathName.join (pathBelow root names) name := by
  rw [pathBelow, List.foldl_append]
  rfl

theorem hasExtension_pathBelow (hne : names ≠ [])
    (hplain : ∀ name ∈ names, PathName.IsPlain name) :
    PathName.hasExtension (pathBelow root names) "rs" = true ↔ IsSource names := by
  obtain hnil | ⟨folders, name, hnames⟩ := List.eq_nil_or_concat names
  · exact absurd hnil hne
  rw [List.concat_eq_append] at hnames
  subst hnames
  have hname : PathName.IsPlain name := hplain name (by simp)
  have hfile : PathName.fileName? (pathBelow root (folders ++ [name])) = some name.toList := by
    rw [PathName.fileName?, pathBelow_concat, hname.isPart.parts_join, List.getLast?_concat]
  rw [PathName.hasExtension, hfile, Option.bind_some, beq_iff_eq,
    PathName.splitName_eq_some_iff (by decide) fun h => hname.up (String.toList_injective h)]
  constructor
  · intro ⟨stem, hstem, h⟩
    refine ⟨folders, String.ofList stem, by simpa using hstem, ?_⟩
    rw [List.append_cancel_left_eq, List.singleton_inj]
    refine String.toList_injective ?_
    simp [h]
  · intro ⟨folders', stem, hstem, h⟩
    obtain ⟨-, h⟩ := List.append_inj' h rfl
    rw [List.singleton_inj.mp h]
    exact ⟨stem.toList, by simpa using hstem, by simp⟩

/-! ## Reading below a folder -/

/-- A path that can be followed as far as it is not too long. -/
def IsSpelled (path : String) : Prop := '\x00' ∉ path.toList ∧ path ≠ ""

theorem IsSpelled.join {path name : String} (h : IsSpelled path) (hname : PathName.IsPlain name) :
    IsSpelled (PathName.join path name) := by
  obtain ⟨front, hfront, hjoin⟩ := hname.isPart.join_toList h.2
  have hzero : '\x00' ∉ front := fun hmem => h.1 (by rcases hfront with h | h <;> simp [h, hmem])
  refine ⟨?_, fun hnil => ?_⟩
  · rw [hjoin, List.mem_append, List.mem_cons]
    rintro (hmem | heq | hmem)
    · exact hzero hmem
    · exact absurd heq (by decide)
    · exact hname.zero hmem
  · rw [hnil] at hjoin
    exact absurd hjoin.symm (by simp)

theorem IsSpelled.pathBelow (hplain : ∀ name ∈ names, PathName.IsPlain name) :
    ∀ {root : String}, IsSpelled root → IsSpelled (pathBelow root names) := by
  induction names with
  | nil => exact id
  | cons name rest ih =>
      obtain ⟨hname, hrest⟩ := List.forall_mem_cons.mp hplain
      exact fun h => ih hrest (h.join hname)

/-- The parts of a path below another one. -/
theorem parts_pathBelow (hparts : ∀ name ∈ names, PathName.IsPart name) :
    ∀ root : String, PathName.parts (pathBelow root names)
      = PathName.parts root ++ names.map fun name => .name name.toList := by
  induction names with
  | nil => exact fun root => (List.append_nil _).symm
  | cons name rest ih =>
      obtain ⟨hname, hrest⟩ := List.forall_mem_cons.mp hparts
      intro root
      have hstep : FileTree.pathBelow root (name :: rest)
          = FileTree.pathBelow (PathName.join root name) rest := rfl
      rw [hstep, ih hrest, hname.parts_join, List.append_assoc]
      rfl

theorem foldl_move_names (names trail : List String) :
    (names.map fun name => PathPart.name name.toList).foldl move trail = names.reverse ++ trail := by
  induction names generalizing trail with
  | nil => rfl
  | cons name rest ih =>
      rw [List.map_cons, List.foldl_cons, ih, move, String.ofList_toList, List.reverse_cons,
        List.append_assoc]
      rfl

/-- Names that lead to a node are all in folders. -/
theorem passes_names (hshort : ∀ name ∈ names, name.utf8ByteSize ≤ nameLimit) :
    ∀ {trail : List String} {top : FileTree}, tree.get? trail.reverse = some top →
      top.get? names = some node →
      tree.Passes trail (names.map fun name => .name name.toList) := by
  induction names with
  | nil => exact fun _ _ => trivial
  | cons name rest ih =>
      obtain ⟨hname, hrest⟩ := List.forall_mem_cons.mp hshort
      intro trail top htop hget
      cases top with
      | file content => cases hget
      | folder entries =>
          rw [get?_cons, Option.bind_eq_some_iff] at hget
          obtain ⟨inner, hinner, hget⟩ := hget
          refine ⟨by rw [entryAt?, htop]; rfl, ?_, ih hrest ?_ hget⟩
          · rwa [Fits, String.ofList_toList]
          · rw [move, String.ofList_toList, List.reverse_cons, get?_append, htop,
              Option.bind_some, get?_cons, hinner]
            rfl

/-- The path of a node leads to it, unless it is too long. -/
theorem find_pathBelow {entries : List (String × FileTree)}
    (hroot : tree.find root = .ok (folder entries)) (hformed : (folder entries).WellFormed)
    (hget : (folder entries).get? names = some node) :
    tree.find (pathBelow root names)
      = if pathLimit < (pathBelow root names).utf8ByteSize then .error .nameTooLong
        else .ok node := by
  obtain ⟨front, hlocate, hfront, -⟩ := find_ok_iff.mp hroot
  obtain ⟨⟨hzero, hempty, -⟩, hpasses, rfl⟩ := locate_ok_iff.mp hlocate
  have hnames := (hformed.get? hget).1
  have hplain : ∀ name ∈ names, PathName.IsPlain name := fun name h => (hnames name h).1
  obtain ⟨hzero', hempty'⟩ : IsSpelled (pathBelow root names) := .pathBelow hplain ⟨hzero, hempty⟩
  split
  · next hlong =>
      have htoolong : tree.locate (pathBelow root names) = .error .nameTooLong := by
        rw [locate, if_neg (by simpa using hzero'), if_neg (by simpa using hempty'), if_pos hlong]
      rw [find, htoolong]
      rfl
  · next hshort =>
      have hparts := parts_pathBelow (fun name h => (hplain name h).isPart) root
      have hbelow : tree.Passes ((PathName.parts root).foldl move [])
          (names.map fun name => .name name.toList) :=
        passes_names (fun name h => (hnames name h).2) hfront hget
      refine find_ok_iff.mpr ⟨address (PathName.parts root) ++ names, ?_, ?_, fun hfile => ?_⟩
      · refine locate_ok_iff.mpr ⟨⟨hzero', hempty', by omega⟩, ?_, ?_⟩
        · rw [hparts, passes_append]
          exact ⟨hpasses, hbelow⟩
        · rw [hparts, address, address, List.foldl_append, foldl_move_names, List.reverse_append,
            List.reverse_reverse]
      · rw [get?_append, hfront, Option.bind_some, hget]
      · obtain hnil | ⟨folders, name, hconcat⟩ := List.eq_nil_or_concat names
        · subst hnil
          obtain rfl := Option.some.inj hget
          cases hfile
        · rw [List.concat_eq_append] at hconcat
          subst hconcat
          rw [pathBelow_concat]
          exact spelledAsFolder_join (hplain name (by simp)) _

/-- The text of a file below a folder. -/
theorem readText_pathBelow {entries : List (String × FileTree)} {content : ByteArray}
    (hroot : tree.find root = .ok (folder entries)) (hformed : (folder entries).WellFormed)
    (hget : (folder entries).get? names = some (file content)) :
    tree.readText (pathBelow root names)
      = if pathLimit < (pathBelow root names).utf8ByteSize then .error .nameTooLong
        else match String.fromUTF8? content with
          | some text => .ok text
          | none => .error .notText := by
  rw [readText, read, find_pathBelow hroot hformed hget]
  split <;> rfl

end FileTree

end TraitRoutes
