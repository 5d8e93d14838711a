import Mathlib.Data.List.Sort
import TraitRoutes.Disk.Walk
import TraitRoutes.Proofs.ByteOrder
import TraitRoutes.Proofs.FileTrees

/-!
# The order of a walk

A walk goes over the nodes of a tree in one order on places: name by name, each name byte
by byte, and a folder in front of what is in it. Only the names in one folder are ever
compared, but they decide the order of everything below them, since a place begins with
the name of the entry that it is in. So sorted entries give a sorted walk, by induction
on the tree.

A strictly sorted list is given by what is in it. The nodes of a walk are those that
places lead to, so a tree that lists the same entries in another order is walked alike.
-/

namespace TraitRoutes.FileTree

/-- The order on places. -/
def Precedes (names names' : List String) : Prop := names.map Text.utf8 < names'.map Text.utf8

instance : DecidableRel Precedes := fun _ _ => inferInstanceAs (Decidable (_ < _))

theorem precedes_irrefl (names : List String) : ¬ Precedes names names := List.lt_irrefl _

theorem Precedes.asymm {names names' : List String} (h : Precedes names names') :
    ¬ Precedes names' names :=
  List.lt_asymm h

/-- A tree as a disk holds it: every folder has plain names that are not too long, and no
name twice. -/
inductive WellFormed : FileTree → Prop where
  | file (content : ByteArray) : WellFormed (.file content)
  | folder {entries : List (String × FileTree)}
      (names : ∀ e ∈ entries, PathName.IsPlain e.1 ∧ e.1.utf8ByteSize ≤ nameLimit)
      (distinct : (entries.map Prod.fst).Nodup) (nodes : ∀ e ∈ entries, WellFormed e.2) :
      WellFormed (.folder entries)

theorem WellFormed.nil : (FileTree.folder []).WellFormed :=
  .folder (List.forall_mem_nil _) List.nodup_nil (List.forall_mem_nil _)

theorem WellFormed.cons {name : String} {node : FileTree} {entries : List (String × FileTree)}
    (hname : PathName.IsPlain name ∧ name.utf8ByteSize ≤ nameLimit)
    (hfresh : name ∉ entries.map Prod.fst) (hnode : node.WellFormed)
    (hrest : (FileTree.folder entries).WellFormed) :
    (FileTree.folder ((name, node) :: entries)).WellFormed := by
  cases hrest with
  | folder names distinct nodes =>
      exact .folder (List.forall_mem_cons.mpr ⟨hname, names⟩)
        (List.nodup_cons.mpr ⟨hfresh, distinct⟩) (List.forall_mem_cons.mpr ⟨hnode, nodes⟩)

/-! ## Sorting by names -/

section Sorting

variable {α : Type} {items : List (String × α)}

theorem insertByName_eq (item : String × α) (items : List (String × α)) :
    insertByName item items = items.orderedInsert (fun a b => a.1 ≤ b.1) item := by
  induction items with
  | nil => rfl
  | cons first rest ih =>
      rw [insertByName, List.orderedInsert_cons, ih]
      by_cases h : first.1 < item.1
      · rw [if_pos h, if_neg (String.not_le.mpr h)]
      · rw [if_neg h, if_pos (String.not_lt.mp h)]

theorem sortByName_eq (items : List (String × α)) :
    sortByName items = items.insertionSort fun a b => a.1 ≤ b.1 := by
  induction items with
  | nil => rfl
  | cons item items ih =>
      rw [List.insertionSort_cons, ← insertByName_eq, ← ih]
      rfl

theorem sortByName_perm (items : List (String × α)) : (sortByName items).Perm items := by
  rw [sortByName_eq]
  exact List.perm_insertionSort _ items

/-- Different names end up in their order. -/
theorem pairwise_sortByName (h : (items.map Prod.fst).Nodup) :
    (sortByName items).Pairwise fun a b => a.1 < b.1 := by
  have : Std.Total fun a b : String × α => a.1 ≤ b.1 := ⟨fun a b => le_total a.1 b.1⟩
  have : IsTrans (String × α) fun a b => a.1 ≤ b.1 := ⟨fun _ _ _ => le_trans⟩
  have hdistinct : (sortByName items).Pairwise fun a b => a.1 ≠ b.1 :=
    List.pairwise_map.mp (((sortByName_perm items).map Prod.fst).nodup_iff.mpr h)
  rw [sortByName_eq] at hdistinct ⊢
  exact hdistinct.imp₂ (fun _ _ hne hle => lt_of_le_of_ne hle hne)
    (List.pairwise_insertionSort _ items)

end Sorting

/-! ## Nodes of a tree -/

variable {t t' node : FileTree} {entries : List (String × FileTree)} {names : List String}

theorem lookup_eq_some_iff_mem (h : (entries.map Prod.fst).Nodup) {name : String} :
    entries.lookup name = some node ↔ (name, node) ∈ entries := by
  induction entries with
  | nil => exact ⟨nofun, nofun⟩
  | cons first rest ih =>
      obtain ⟨n, old⟩ := first
      rw [List.map_cons, List.nodup_cons] at h
      rw [lookup_cons_eq_if, List.mem_cons, Prod.mk.injEq]
      split
      · next heq =>
          have hrest : (name, node) ∉ rest := fun hmem =>
            h.1 (List.mem_map.mpr ⟨_, hmem, heq⟩)
          rw [or_iff_left hrest, and_iff_right heq, Option.some_inj, eq_comm]
      · next hne => rw [ih h.2, or_iff_right fun heq => hne heq.1]

theorem entryNodes_eq (entries : List (String × FileTree)) :
    entryNodes entries = entries.map fun e => (e.1, e.2.nodes) := by
  induction entries with
  | nil => rw [entryNodes, List.map_nil]
  | cons first rest ih => rw [entryNodes, ih, List.map_cons]

theorem mem_nodes_folder {n : List String × FileTree} :
    n ∈ (folder entries).nodes ↔ n = ([], folder entries) ∨
      ∃ e ∈ entries, ∃ inner ∈ e.2.nodes, n = (e.1 :: inner.1, inner.2) := by
  rw [nodes, List.mem_cons, List.mem_flatMap, entryNodes_eq]
  refine or_congr_right ⟨?_, ?_⟩
  · intro ⟨listed, hlisted, hn⟩
    obtain ⟨e, he, rfl⟩ := List.mem_map.mp ((sortByName_perm _).mem_iff.mp hlisted)
    obtain ⟨inner, hinner, rfl⟩ := List.mem_map.mp hn
    exact ⟨e, he, inner, hinner, rfl⟩
  · intro ⟨e, he, inner, hinner, heq⟩
    exact ⟨_, (sortByName_perm _).mem_iff.mpr (List.mem_map_of_mem he),
      List.mem_map.mpr ⟨inner, hinner, heq.symm⟩⟩

/-- The nodes of a walk are those that names lead to. -/
theorem mem_nodes_iff (h : t.WellFormed) : (names, node) ∈ t.nodes ↔ t.get? names = some node := by
  induction h generalizing names with
  | file content =>
      rw [nodes, List.mem_singleton]
      cases names with
      | nil => simp [get?, eq_comm]
      | cons n rest => simp [get?]
  | @folder entries _ distinct _ ih =>
      rw [mem_nodes_folder]
      cases names with
      | nil => simp [get?, eq_comm]
      | cons n rest =>
          rw [get?_cons, Option.bind_eq_some_iff]
          simp only [lookup_eq_some_iff_mem distinct]
          constructor
          · rintro (heq | ⟨e, he, inner, hinner, heq⟩)
            · cases heq
            · obtain ⟨hnames, rfl⟩ := Prod.mk.inj heq
              obtain ⟨rfl, rfl⟩ := List.cons.inj hnames
              exact ⟨e.2, he, (ih e he).mp hinner⟩
          · intro ⟨inner, hmem, hget⟩
            exact .inr ⟨_, hmem, (rest, node), (ih _ hmem).mpr hget, rfl⟩

theorem WellFormed.get? (h : t.WellFormed) (hget : t.get? names = some node) :
    (∀ name ∈ names, PathName.IsPlain name ∧ name.utf8ByteSize ≤ nameLimit) ∧
      node.WellFormed := by
  induction names generalizing t with
  | nil =>
      obtain rfl := Option.some.inj hget
      exact ⟨List.forall_mem_nil _, h⟩
  | cons n rest ih =>
      cases h with
      | file content => cases hget
      | folder hnames distinct hnodes =>
          rw [get?_cons, Option.bind_eq_some_iff] at hget
          obtain ⟨inner, hlookup, hget⟩ := hget
          have hmem := (lookup_eq_some_iff_mem distinct).mp hlookup
          obtain ⟨hrest, hnode⟩ := ih (hnodes _ hmem) hget
          exact ⟨List.forall_mem_cons.mpr ⟨hnames _ hmem, hrest⟩, hnode⟩

/-- A walk follows the order on places. -/
theorem pairwise_nodes (h : t.WellFormed) : t.nodes.Pairwise fun a b => Precedes a.1 b.1 := by
  induction h with
  | file content => exact List.pairwise_singleton _ _
  | @folder entries _ distinct _ ih =>
      have hsorted : (sortByName (entryNodes entries)).Pairwise fun a b => a.1 < b.1 := by
        refine pairwise_sortByName ?_
        rw [entryNodes_eq, List.map_map]
        exact distinct
      rw [nodes, List.pairwise_cons, List.pairwise_flatMap]
      refine ⟨fun n hn => ?_, fun e he => ?_, hsorted.imp fun hlt n hn n' hn' => ?_⟩
      · obtain ⟨e, -, hn⟩ := List.mem_flatMap.mp hn
        obtain ⟨inner, -, rfl⟩ := List.mem_map.mp hn
        exact List.nil_lt_cons _ _
      · rw [(sortByName_perm _).mem_iff, entryNodes_eq, List.mem_map] at he
        obtain ⟨entry, hentry, rfl⟩ := he
        refine List.pairwise_map.mpr ((ih entry hentry).imp fun hlt => ?_)
        exact List.cons_lt_cons_iff.mpr (.inr ⟨rfl, hlt⟩)
      · obtain ⟨inner, -, rfl⟩ := List.mem_map.mp hn
        obtain ⟨inner', -, rfl⟩ := List.mem_map.mp hn'
        exact List.cons_lt_cons_iff.mpr (.inl (Text.utf8_lt hlt))

/-! ## Trees that differ in their listings -/

/-- The same entries at all places. -/
def Relists (t t' : FileTree) : Prop := ∀ names, t.entryAt? names = t'.entryAt? names

theorem Relists.of_perm {entries' : List (String × FileTree)} (h : entries.Perm entries')
    (distinct : (entries.map Prod.fst).Nodup) : (folder entries).Relists (folder entries') := by
  intro names
  cases names with
  | nil => rfl
  | cons n rest =>
      have hlookup : entries.lookup n = entries'.lookup n := by
        refine Option.ext fun node => ?_
        rw [lookup_eq_some_iff_mem distinct, h.mem_iff,
          lookup_eq_some_iff_mem ((h.map Prod.fst).nodup_iff.mp distinct)]
      rw [entryAt?_cons, entryAt?_cons, hlookup]

theorem Relists.cons {node' : FileTree} (h : node.Relists node') (name : String)
    (rest : List (String × FileTree)) :
    (folder ((name, node) :: rest)).Relists (folder ((name, node') :: rest)) := by
  intro names
  cases names with
  | nil => rfl
  | cons n more =>
      rw [entryAt?_cons, entryAt?_cons, lookup_cons_eq_if, lookup_cons_eq_if]
      split
      · exact h more
      · rfl

theorem mem_map_nodes_iff (h : t.WellFormed) {e : Entry} :
    (names, e) ∈ t.nodes.map (fun n => (n.1, n.2.entry)) ↔ t.entryAt? names = some e := by
  rw [List.mem_map, entryAt?, Option.map_eq_some_iff]
  constructor
  · rintro ⟨n, hn, heq⟩
    obtain ⟨rfl, rfl⟩ := Prod.mk.inj heq
    exact ⟨n.2, (mem_nodes_iff h).mp hn, rfl⟩
  · rintro ⟨node, hget, hentry⟩
    exact ⟨(names, node), (mem_nodes_iff h).mpr hget, by rw [hentry]⟩

/-- The nodes of a walk do not depend on how folders list their entries. -/
theorem Relists.map_nodes (h : t.Relists t') (ht : t.WellFormed) (ht' : t'.WellFormed) :
    t.nodes.map (fun n => (n.1, n.2.entry)) = t'.nodes.map fun n => (n.1, n.2.entry) := by
  let before (a b : List String × Entry) : Prop := Precedes a.1 b.1
  have : Std.Irrefl before := ⟨fun a => precedes_irrefl a.1⟩
  have : Std.Antisymm before := ⟨fun _ _ h h' => absurd h' h.asymm⟩
  refine List.Pairwise.eq_of_mem_iff (r := before) (List.pairwise_map.mpr (pairwise_nodes ht))
    (List.pairwise_map.mpr (pairwise_nodes ht')) fun (names, e) => ?_
  rw [mem_map_nodes_iff ht, mem_map_nodes_iff ht', h names]

theorem Relists.follow (h : t.Relists t') (parts : List PathPart) : ∀ trail : List String,
    t.follow trail (t.get? trail.reverse) parts = t'.follow trail (t'.get? trail.reverse) parts := by
  induction parts with
  | nil =>
      intro trail
      rw [FileTree.follow, FileTree.follow]
  | cons part rest ih =>
      intro trail
      rw [follow_cons, follow_cons, h, ih]

theorem Relists.locate (h : t.Relists t') (path : String) : t.locate path = t'.locate path := by
  have hfollow : t.follow [] (some t) (PathName.parts path)
      = t'.follow [] (some t') (PathName.parts path) :=
    h.follow _ []
  rw [FileTree.locate, FileTree.locate, hfollow]

/-- A path fails alike, or leads to nodes that differ in their listings. -/
theorem Relists.find (h : t.Relists t') (path : String) :
    (∃ e, t.find path = .error e ∧ t'.find path = .error e) ∨
      ∃ names node node', t.find path = .ok node ∧ t'.find path = .ok node' ∧
        t.get? names = some node ∧ t'.get? names = some node' ∧ node.Relists node' := by
  rw [FileTree.find, FileTree.find, ← h.locate]
  cases t.locate path with
  | error e => exact .inl ⟨e, rfl, rfl⟩
  | ok names =>
      have hentry := h names
      have hbelow := fun rest => h (names ++ rest)
      simp only [entryAt?, get?_append] at hentry hbelow
      dsimp only [bind, Except.bind]
      cases hnode : t.get? names with
      | none =>
          rw [hnode] at hentry
          rw [Option.map_eq_none_iff.mp hentry.symm]
          exact .inl ⟨_, rfl, rfl⟩
      | some node =>
          rw [hnode] at hentry hbelow
          obtain ⟨node', hnode', hsame⟩ := Option.map_eq_some_iff.mp hentry.symm
          rw [hnode'] at hbelow ⊢
          cases node with
          | folder entries =>
              obtain ⟨entries', rfl⟩ := entry_eq_folder hsame
              exact .inr ⟨names, _, _, rfl, rfl, hnode, hnode', hbelow⟩
          | file content =>
              obtain rfl := entry_eq_file hsame
              dsimp only
              split
              · exact .inl ⟨_, rfl, rfl⟩
              · exact .inr ⟨names, _, _, rfl, rfl, hnode, hnode', hbelow⟩

theorem Relists.readText (h : t.Relists t') (path : String) :
    t.readText path = t'.readText path := by
  rw [FileTree.readText, FileTree.readText, FileTree.read, FileTree.read]
  rcases h.find path with ⟨e, hfind, hfind'⟩ | ⟨-, node, node', hfind, hfind', -, -, hsame⟩
  · rw [hfind, hfind']
  · rw [hfind, hfind']
    have hentry : some node.entry = some node'.entry := hsame []
    cases node with
    | folder entries =>
        obtain ⟨entries', rfl⟩ := entry_eq_folder (Option.some.inj hentry).symm
        rfl
    | file content => rw [entry_eq_file (Option.some.inj hentry).symm]

/-- A node with nothing but the entry. -/
def bare : Entry → FileTree
  | .file content => .file content
  | .folder => .folder []

theorem visit_bare (path : String) (node : FileTree) :
    visit path (bare node.entry) = visit path node := by
  cases node <;> rfl

theorem Relists.walk (h : t.Relists t') (ht : t.WellFormed) (ht' : t'.WellFormed)
    (path : String) : t.walk path = t'.walk path := by
  rw [FileTree.walk, FileTree.walk]
  rcases h.find path with
    ⟨e, hfind, hfind'⟩ | ⟨names, node, node', hfind, hfind', hget, hget', hsame⟩
  · rw [hfind, hfind']
  · have hvisits : ∀ node : FileTree, (node.nodes.map fun n => visit (pathBelow path n.1) n.2)
        = (node.nodes.map fun n => (n.1, n.2.entry)).map fun n =>
          visit (pathBelow path n.1) (bare n.2) := by
      intro node
      rw [List.map_map]
      exact List.map_congr_left fun n _ => (visit_bare _ n.2).symm
    rw [hfind, hfind']
    dsimp only
    rw [hvisits, hvisits, hsame.map_nodes (ht.get? hget).2 (ht'.get? hget').2]

end TraitRoutes.FileTree
