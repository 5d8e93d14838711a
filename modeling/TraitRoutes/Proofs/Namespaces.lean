import TraitRoutes.Proofs.PathsBelow
import TraitRoutes.Proofs.Spans
import TraitRoutes.Source.Namespace

/-!
# Namespaces and the files that they come from

A module has two files below the source root: the names of the modules around it are
folders, and then comes a file of its own name, or a folder of its own name with `mod.rs`
in it. The crate itself has three. Which of them a file is shows in its last name, and in
whether that is its only one, and the namespace is read off accordingly.

Nothing is lost by this. The parts of a path below the root are the names again, whatever
the root is, and the extension leaves just the name of the module, which has no dot. The
names are written one behind the other with two colons in front of each, and a name has no
colon, so they can be read back. Two files therefore share a namespace only if they are
files of one module.
-/

namespace TraitRoutes.Namespace

open FileTree (pathBelow)

/-- A name of a module, as far as paths and namespaces go. -/
structure IsModuleName (name : String) : Prop where
  nonempty : name ≠ ""
  slash : '/' ∉ name.toList
  dot : '.' ∉ name.toList
  colon : ':' ∉ name.toList

/-- A file, by the names that lead to it from the source root, is one of those that a module
may have, by the names of the modules from the outermost to it. -/
inductive SourceOf : List String → List String → Prop where
  | crate {file : String} (root : file = "lib.rs" ∨ file = "main.rs" ∨ file = "mod.rs") :
      SourceOf [] [file]
  | file {outer : List String} {name : String}
      (names : ∀ m ∈ outer ++ [name], IsModuleName m) (own : name ≠ "mod")
      (below : ¬ (outer = [] ∧ (name = "lib" ∨ name = "main"))) :
      SourceOf (outer ++ [name]) (outer ++ [name ++ ".rs"])
  | folder {outer : List String} {name : String}
      (names : ∀ m ∈ outer ++ [name], IsModuleName m) :
      SourceOf (outer ++ [name]) (outer ++ [name, "mod.rs"])

/-! ## From the path to the names -/

namespace IsModuleName

variable {name : String}

theorem isPart (h : IsModuleName name) : PathName.IsPart name where
  slash := h.slash
  nonempty := h.nonempty
  here := fun hname => h.dot (by simp [hname])
  up := fun hname => h.dot (by simp [hname])

theorem isPart_source (h : IsModuleName name) : PathName.IsPart (name ++ ".rs") := by
  have hletter : 'r' ∈ (name ++ ".rs").toList := by simp
  refine ⟨?_, by simp, fun hdot => ?_, fun hdots => ?_⟩
  · rw [String.toList_append, List.mem_append, not_or]
    exact ⟨h.slash, by decide⟩
  · rw [hdot] at hletter
    exact absurd hletter (by decide)
  · rw [hdots] at hletter
    exact absurd hletter (by decide)

/-- Without its extension, the name of a source file is that of the module. -/
theorem partOf_stem (h : IsModuleName name) :
    PathName.partOf? (PathName.splitName (name ++ ".rs").toList).1 = some (.name name.toList) := by
  have hne : name.toList ≠ [] := fun hnil => h.nonempty (String.toList_eq_nil_iff.mp hnil)
  have hup : name.toList ++ '.' :: ['r', 's'] ≠ ['.', '.'] := fun hdots =>
    absurd (congrArg List.length hdots) (by simp)
  have hsplit : (name ++ ".rs").toList = name.toList ++ '.' :: ['r', 's'] := String.toList_append
  rw [hsplit, PathName.splitName_append (by decide) hup, if_neg hne]
  exact h.isPart.partOf

end IsModuleName

theorem names_map (texts : List (List Char)) : names (texts.map .name) = texts := by
  induction texts with
  | nil => rfl
  | cons text rest ih => rw [List.map_cons, names, ih]

theorem relativeTo_append (root below : List PathPart) :
    PathName.relativeTo root (root ++ below) = below := by
  rw [PathName.relativeTo, if_pos (List.isPrefixOf_iff_prefix.mpr (List.prefix_append _ _)),
    List.drop_left]

/-- The names in the path of a source file, from the source root on. -/
theorem ofPath_source {outer : List String} {stem : String} (root : String)
    (houter : ∀ m ∈ outer, IsModuleName m) (hstem : IsModuleName stem) :
    ofPath root (pathBelow root (outer ++ [stem ++ ".rs"]))
      = (modules ((outer ++ [stem]).map String.toList)).foldl
          (fun space name => nested space (String.ofList name)) crateRoot := by
  have hparts : ∀ name ∈ outer ++ [stem ++ ".rs"], PathName.IsPart name := by
    intro name hname
    rcases List.mem_append.mp hname with hname | hname
    · exact (houter name hname).isPart
    · rw [List.mem_singleton.mp hname]
      exact hstem.isPart_source
  have hnames : names (withoutExtension
      ((outer ++ [stem ++ ".rs"]).map fun name => .name name.toList))
        = (outer ++ [stem]).map String.toList := by
    have hlist : outer.map (fun name => PathPart.name name.toList) ++ [.name stem.toList]
        = ((outer ++ [stem]).map String.toList).map .name := by simp
    rw [List.map_append, List.map_singleton, withoutExtension, List.getLast?_concat]
    dsimp only
    rw [hstem.partOf_stem, List.dropLast_concat, Option.toList_some, hlist, names_map]
  rw [ofPath, FileTree.parts_pathBelow hparts, relativeTo_append, hnames]

theorem modules_concat (outer : List (List Char)) (last : List Char) :
    modules (outer ++ [last])
      = if last = "mod".toList ∨ outer = [] ∧ isCrateFile last then outer else outer ++ [last] := by
  rw [modules, List.getLast?_concat]
  dsimp only
  rw [List.dropLast_concat]
  simp

/-! ## From the names to the namespace -/

/-- A name is added to a namespace with two colons in front. -/
theorem intercalate_nested (space name : String) (rest : List String) :
    "::".intercalate (space :: name :: rest) = "::".intercalate (nested space name :: rest) := by
  cases rest with
  | nil =>
      rw [String.intercalate_cons_cons, String.intercalate_singleton, String.intercalate_singleton,
        nested]
  | cons next rest =>
      rw [String.intercalate_cons_cons, String.intercalate_cons_cons,
        String.intercalate_cons_cons, nested]
      simp only [String.append_assoc]

theorem foldl_nested (space : String) (names : List String) :
    names.foldl nested space = "::".intercalate (space :: names) := by
  induction names generalizing space with
  | nil => rw [List.foldl_nil, String.intercalate_singleton]
  | cons name rest ih => rw [List.foldl_cons, ih, intercalate_nested]

/-- What a namespace says of the modules below the crate. -/
def written (names : List String) : List Char :=
  names.flatMap fun name => ':' :: ':' :: name.toList

theorem toList_foldl_nested (space : String) (names : List String) :
    (names.foldl nested space).toList = space.toList ++ written names := by
  induction names generalizing space with
  | nil => exact (List.append_nil _).symm
  | cons name rest ih =>
      rw [List.foldl_cons, ih, nested, written, written, List.flatMap_cons]
      simp

/-- A name ends where the next one is written. -/
theorem span_written {name : String} (h : ':' ∉ name.toList) (rest : List String) :
    (name.toList ++ written rest).takeWhile (· != ':') = name.toList ∧
      (name.toList ++ written rest).dropWhile (· != ':') = written rest := by
  refine span_before h fun c hc => ?_
  cases rest with
  | nil => cases hc
  | cons next rest => exact (Option.some.inj hc).symm

/-- Names without colons can be read back. -/
theorem written_inj {names names' : List String} (h : ∀ m ∈ names, ':' ∉ m.toList)
    (h' : ∀ m ∈ names', ':' ∉ m.toList) (heq : written names = written names') :
    names = names' := by
  induction names generalizing names' with
  | nil =>
      cases names' with
      | nil => rfl
      | cons name' rest' => cases heq
  | cons name rest ih =>
      cases names' with
      | nil => cases heq
      | cons name' rest' =>
          obtain ⟨hname, hrest⟩ := List.forall_mem_cons.mp h
          obtain ⟨hname', hrest'⟩ := List.forall_mem_cons.mp h'
          have hcut : name.toList ++ written rest = name'.toList ++ written rest' :=
            (List.cons.inj (List.cons.inj heq).2).2
          obtain ⟨hread, hleft⟩ := span_written hname rest
          obtain ⟨hread', hleft'⟩ := span_written hname' rest'
          rw [hcut] at hread hleft
          rw [String.toList_inj.mp (hread.symm.trans hread'),
            ih hrest hrest' (hleft.symm.trans hleft')]

/-! ## Modules and their files -/

namespace SourceOf

variable {names file : List String}

theorem names_isModuleName (h : SourceOf names file) : ∀ m ∈ names, IsModuleName m := by
  cases h with
  | crate => exact fun m hm => absurd hm (List.not_mem_nil)
  | file hnames => exact hnames
  | folder hnames => exact hnames

theorem ofPath_eq (h : SourceOf names file) (root : String) :
    ofPath root (pathBelow root file) = names.foldl nested crateRoot := by
  have hfold : ∀ modules : List String, (modules.map String.toList).foldl
      (fun space name => nested space (String.ofList name)) crateRoot
        = modules.foldl nested crateRoot := by
    intro modules
    simp only [List.foldl_map, String.ofList_toList]
  cases h with
  | crate hroot =>
      have hsource : ∀ stem, stem = "lib" ∨ stem = "main" ∨ stem = "mod" →
          ofPath root (pathBelow root [stem ++ ".rs"]) = crateRoot := by
        intro stem hstem
        have hname : IsModuleName stem := by
          rcases hstem with rfl | rfl | rfl <;> exact ⟨by decide, by decide, by decide, by decide⟩
        have hmodules : modules ([stem].map String.toList) = [] := by
          rcases hstem with rfl | rfl | rfl <;> rfl
        have hspace := ofPath_source root (List.forall_mem_nil _) hname
        rwa [List.nil_append, List.nil_append, hmodules] at hspace
      rcases hroot with rfl | rfl | rfl
      · exact hsource "lib" (.inl rfl)
      · exact hsource "main" (.inr (.inl rfl))
      · exact hsource "mod" (.inr (.inr rfl))
  | @file outer name hnames own below =>
      obtain ⟨houter, hname⟩ := List.forall_mem_append.mp hnames
      have hkept : modules ((outer ++ [name]).map String.toList)
          = (outer ++ [name]).map String.toList := by
        rw [List.map_append, List.map_singleton, modules_concat, if_neg]
        rintro (hmod | ⟨houter, hcrate⟩)
        · exact own (String.toList_inj.mp hmod)
        · refine below ⟨List.map_eq_nil_iff.mp houter, ?_⟩
          rw [isCrateFile, Bool.or_eq_true, beq_iff_eq, beq_iff_eq] at hcrate
          exact hcrate.imp String.toList_inj.mp String.toList_inj.mp
      rw [ofPath_source root houter (hname name (List.mem_singleton_self _)), hkept, hfold]
  | @folder outer name hnames =>
      have hmod : IsModuleName "mod" := ⟨by decide, by decide, by decide, by decide⟩
      have hlist : outer ++ [name, "mod.rs"] = (outer ++ [name]) ++ ["mod" ++ ".rs"] := by simp
      have hdropped : modules ((outer ++ [name] ++ ["mod"]).map String.toList)
          = (outer ++ [name]).map String.toList := by
        rw [List.map_append, List.map_singleton, modules_concat, if_pos (.inl rfl)]
      rw [hlist, ofPath_source root hnames hmod, hdropped, hfold]

theorem colon_not_mem (h : SourceOf names file) : ∀ m ∈ names, ':' ∉ m.toList :=
  fun m hm => (h.names_isModuleName m hm).colon

end SourceOf

/-- A source file below a root has the namespace of its module: the crate, and behind it the
names of the modules down to that one, with two colons between them. Another source file
below the root has the same namespace if and only if it is one of the same module. -/
theorem ofPath_identifies_module (root : String) {names file names' file' : List String}
    (h : SourceOf names file) (h' : SourceOf names' file') :
    ofPath root (pathBelow root file) = "::".intercalate ("crate" :: names) ∧
      (ofPath root (pathBelow root file) = ofPath root (pathBelow root file') ↔ names = names') := by
  have hspace := h.ofPath_eq root
  have hspace' := h'.ofPath_eq root
  refine ⟨hspace.trans (foldl_nested _ _), fun heq => ?_, fun heq => ?_⟩
  · rw [hspace, hspace', ← String.toList_inj, toList_foldl_nested, toList_foldl_nested] at heq
    exact written_inj h.colon_not_mem h'.colon_not_mem (List.append_cancel_left heq)
  · rw [hspace, hspace', heq]

/-- A module whose name is that of a crate file, below another one: both of its files. -/
theorem ofPath_identifies_module_lib :
    SourceOf ["shop", "lib"] ["shop", "lib.rs"] ∧
      SourceOf ["shop", "lib"] ["shop", "lib", "mod.rs"] ∧
      ofPath "crates/web/src/" (pathBelow "crates/web/src/" ["shop", "lib.rs"])
        = "::".intercalate ["crate", "shop", "lib"] ∧
      ofPath "crates/web/src/" (pathBelow "crates/web/src/" ["shop", "lib.rs"])
        = ofPath "crates/web/src/" (pathBelow "crates/web/src/" ["shop", "lib", "mod.rs"]) := by
  have hnames : ∀ m ∈ ["shop"] ++ ["lib"], IsModuleName m := by
    intro m hm
    rcases List.mem_cons.mp hm with rfl | hm
    · exact ⟨by decide, by decide, by decide, by decide⟩
    · rw [List.mem_singleton.mp hm]
      exact ⟨by decide, by decide, by decide, by decide⟩
  have hfile : SourceOf ["shop", "lib"] ["shop", "lib.rs"] :=
    .file hnames (by decide) (by simp)
  have hfolder : SourceOf ["shop", "lib"] ["shop", "lib", "mod.rs"] := .folder hnames
  have h := ofPath_identifies_module "crates/web/src/" hfile hfolder
  exact ⟨hfile, hfolder, h.1, h.2.mpr rfl⟩

end TraitRoutes.Namespace
