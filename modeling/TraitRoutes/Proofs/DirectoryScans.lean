import TraitRoutes.Proofs.PathsBelow
import TraitRoutes.Source.Scan

/-!
# What a scan of a folder adds

A scan takes the nodes below a folder one after the other. At each of them it goes on, adds
a source, or stops, and which of the three is decided by the node and the length of its
path. So a run over the nodes is the adding of all sources in their order, or of those in
front of the first node that stops it.

Nothing in this depends on how folders list their entries, as the nodes of a walk and the
texts behind paths do not.
-/

namespace TraitRoutes.Draft

open FileTree (IsSource Precedes pathBelow)

/-! ## Taking nodes one after the other -/

/-- What at a node stops a scan. -/
inductive Obstacle (root : String) (names : List String) : FileTree → Fault → Prop where
  /-- A folder that cannot be listed by its path. -/
  | unlisted {entries : List (String × FileTree)}
      (hlong : FileTree.pathLimit < (pathBelow root names).utf8ByteSize) :
      Obstacle root names (.folder entries) (walkFault (pathBelow root names) .nameTooLong)
  /-- A source that cannot be opened by its path. -/
  | unopened {content : ByteArray} (hsource : IsSource names)
      (hlong : FileTree.pathLimit < (pathBelow root names).utf8ByteSize) :
      Obstacle root names (.file content)
        (.access (pathBelow root names) DiskError.nameTooLong.text)
  /-- A source that is not text. -/
  | undecoded {content : ByteArray} (hsource : IsSource names)
      (hshort : (pathBelow root names).utf8ByteSize ≤ FileTree.pathLimit)
      (hbytes : String.fromUTF8? content = none) :
      Obstacle root names (.file content) (.access (pathBelow root names) DiskError.notText.text)
  /-- A source that does not parse. -/
  | unparsed {text : String} {e : SyntaxError} (hsource : IsSource names)
      (hshort : (pathBelow root names).utf8ByteSize ≤ FileTree.pathLimit)
      (hread : readFile text = .error e) :
      Obstacle root names (.file text.toUTF8) (.unparsable (pathBelow root names) e.message)

/-- A draft with the items of a source below a folder. -/
def addBelow (draft : Draft) (root : String) (names : List String) (items : List Item) : Draft :=
  draft.addItems (pathBelow root names) (Namespace.ofPath root (pathBelow root names)) items

/-- What a source below a folder adds. -/
def gathered (root : String) (s : List String × List Item) : Collection :=
  Collection.ofItems (pathBelow root s.1) (Namespace.ofPath root (pathBelow root s.1)) s.2

/-- A draft with sources added to it, each with the items that are read from its file. -/
structure Adds (top : FileTree) (root : String) (draft : Draft) (sources : List (List String))
    (added : List (List String × List Item)) (draft' : Draft) : Prop where
  places : added.map Prod.fst = sources
  read : ∀ s ∈ added, ∃ text, top.get? s.1 = some (.file text.toUTF8) ∧ readFile text = .ok s.2
  declarations : draft'.declarations
    = draft.declarations ++ added.flatMap fun s => (gathered root s).declarations
  known : draft'.known = draft.known ++ added.flatMap fun s => (gathered root s).knownNames
  files : draft'.files = draft.files ++ added.map fun s => pathBelow root s.1

namespace Adds

variable {top : FileTree} {root : String} {draft draft' : Draft} {sources : List (List String)}
  {added : List (List String × List Item)}

theorem nil (top : FileTree) (root : String) (draft : Draft) : Adds top root draft [] [] draft where
  places := rfl
  read := List.forall_mem_nil _
  declarations := (List.append_nil _).symm
  known := (List.append_nil _).symm
  files := (List.append_nil _).symm

theorem cons {names : List String} {text : String} {items : List Item}
    (hget : top.get? names = some (.file text.toUTF8)) (hread : readFile text = .ok items)
    (h : Adds top root (draft.addBelow root names items) sources added draft') :
    Adds top root draft (names :: sources) ((names, items) :: added) draft' where
  places := by rw [List.map_cons, h.places]
  read := List.forall_mem_cons.mpr ⟨⟨text, hget, hread⟩, h.read⟩
  declarations := by rw [h.declarations, addBelow, addItems, List.append_assoc]; rfl
  known := by rw [h.known, addBelow, addItems, List.append_assoc]; rfl
  files := by rw [h.files, addBelow, addItems, List.append_assoc]; rfl

end Adds

/-- What a scan does at a node: it goes on, adds a source, or stops. -/
inductive Step (root : String) (names : List String) (draft : Draft) (tree : FileTree)
    (rest : List FileTree.Visit) : FileTree → ScanResult → Prop where
  | passes {node : FileTree} (hother : ¬ (IsSource names ∧ node.isFolder = false))
      (hclear : ∀ fault, ¬ Obstacle root names node fault) :
      Step root names draft tree rest node (draft.addVisits tree root rest)
  | adds {text : String} {items : List Item} (hsource : IsSource names)
      (hread : readFile text = .ok items)
      (hclear : ∀ fault, ¬ Obstacle root names (.file text.toUTF8) fault) :
      Step root names draft tree rest (.file text.toUTF8)
        ((draft.addBelow root names items).addVisits tree root rest)
  | stops {node : FileTree} {fault : Fault} (hobstacle : Obstacle root names node fault) :
      Step root names draft tree rest node { draft, fault := some fault }

variable {tree node : FileTree} {root : String} {entries : List (String × FileTree)}
  {names : List String}

/-- A source that is read and parsed is no obstacle. -/
theorem not_obstacle_of_read {text : String} {items : List Item} (hread : readFile text = .ok items)
    (hshort : (pathBelow root names).utf8ByteSize ≤ FileTree.pathLimit) (fault : Fault) :
    ¬ Obstacle root names (.file text.toUTF8) fault := by
  generalize hcontent : text.toUTF8 = content
  intro h
  cases h with
  | unopened _ hlong => omega
  | undecoded _ _ hbytes =>
      rw [FileTree.fromUTF8?_eq_some_iff.mpr hcontent.symm] at hbytes
      cases hbytes
  | unparsed _ _ herror =>
      rw [String.toByteArray_inj.mp hcontent, herror] at hread
      cases hread

theorem not_obstacle_of_other {content : ByteArray} (hother : ¬ IsSource names) (fault : Fault) :
    ¬ Obstacle root names (.file content) fault := by
  intro h
  cases h with
  | unopened hsource _ | undecoded hsource _ _ | unparsed hsource _ _ => exact hother hsource

/-- A source is added, or it is what stops the scan. -/
theorem addFile_below (hroot : tree.find root = .ok (.folder entries))
    (hformed : (FileTree.folder entries).WellFormed) {content : ByteArray}
    (hget : (FileTree.folder entries).get? names = some (.file content)) (hsource : IsSource names)
    (draft : Draft) :
    (∃ fault, draft.addFile tree root (pathBelow root names) = .error fault ∧
      Obstacle root names (.file content) fault) ∨
    ∃ text items, draft.addFile tree root (pathBelow root names)
        = .ok (draft.addBelow root names items) ∧
      content = text.toUTF8 ∧ readFile text = .ok items ∧
      ∀ fault, ¬ Obstacle root names (.file text.toUTF8) fault := by
  rw [addFile, FileTree.readText_pathBelow hroot hformed hget]
  by_cases hlong : FileTree.pathLimit < (pathBelow root names).utf8ByteSize
  · rw [if_pos hlong]
    exact .inl ⟨_, rfl, .unopened hsource hlong⟩
  · have hshort := Nat.not_lt.mp hlong
    rw [if_neg hlong]
    cases hbytes : String.fromUTF8? content with
    | none => exact .inl ⟨_, rfl, .undecoded hsource hshort hbytes⟩
    | some text =>
        obtain rfl := FileTree.fromUTF8?_eq_some_iff.mp hbytes
        dsimp only
        rw [addSource]
        cases hread : readFile text with
        | error e => exact .inl ⟨_, rfl, .unparsed hsource hshort hread⟩
        | ok items =>
            exact .inr ⟨text, items, rfl, rfl, hread, not_obstacle_of_read hread hshort⟩

theorem step_addVisits (hroot : tree.find root = .ok (.folder entries))
    (hformed : (FileTree.folder entries).WellFormed)
    (hget : (FileTree.folder entries).get? names = some node) (draft : Draft)
    (rest : List FileTree.Visit) :
    Step root names draft tree rest node
      (draft.addVisits tree root (FileTree.visit (pathBelow root names) node :: rest)) := by
  cases node with
  | folder inner =>
      rw [FileTree.visit]
      split
      · next hlong => exact .stops (.unlisted hlong)
      · next hshort =>
          rw [addVisits]
          refine .passes (fun h => nomatch h.2) fun fault h => ?_
          cases h with
          | unlisted hlong => exact hshort hlong
  | file content =>
      have hne : names ≠ [] := by
        rintro rfl
        cases hget
      have hext : PathName.hasExtension (pathBelow root names) "rs" = true ↔ IsSource names :=
        FileTree.hasExtension_pathBelow hne fun name h => ((hformed.get? hget).1 name h).1
      rw [FileTree.visit, addVisits]
      by_cases hsource : IsSource names
      · rw [if_pos (hext.mpr hsource)]
        rcases addFile_below hroot hformed hget hsource draft with
          ⟨fault, hadd, hobstacle⟩ | ⟨text, items, hadd, rfl, hread, hclear⟩
        · rw [hadd]
          exact .stops hobstacle
        · rw [hadd]
          exact .adds hsource hread hclear
      · rw [if_neg (mt hext.mp hsource)]
        exact .passes (fun h => hsource h.1) (not_obstacle_of_other hsource)

/-- The places of the sources among nodes. -/
def sourcesOf (nodes : List (List String × FileTree)) : List (List String) :=
  (nodes.filter fun n => decide (IsSource n.1) && !n.2.isFolder).map Prod.fst

/-- A run over nodes adds all sources, or those in front of the first node that stops it. -/
theorem addVisits_nodes (hroot : tree.find root = .ok (.folder entries))
    (hformed : (FileTree.folder entries).WellFormed) (nodes : List (List String × FileTree))
    (hnodes : ∀ n ∈ nodes, (FileTree.folder entries).get? n.1 = some n.2) (draft : Draft) :
    let result := draft.addVisits tree root
      (nodes.map fun n => FileTree.visit (pathBelow root n.1) n.2)
    (∃ added, result.fault = none ∧ (∀ n ∈ nodes, ∀ fault, ¬ Obstacle root n.1 n.2 fault) ∧
      Adds (.folder entries) root draft (sourcesOf nodes) added result.draft) ∨
    ∃ before n after fault added, nodes = before ++ n :: after ∧ result.fault = some fault ∧
      Obstacle root n.1 n.2 fault ∧ (∀ n ∈ before, ∀ fault, ¬ Obstacle root n.1 n.2 fault) ∧
      Adds (.folder entries) root draft (sourcesOf before) added result.draft := by
  induction nodes generalizing draft with
  | nil => exact .inl ⟨[], rfl, List.forall_mem_nil _, .nil _ root draft⟩
  | cons n rest ih =>
      obtain ⟨names, node⟩ := n
      obtain ⟨hget, htail⟩ := List.forall_mem_cons.mp hnodes
      rw [List.map_cons]
      have hstep := step_addVisits hroot hformed hget draft
        (rest.map fun n => FileTree.visit (pathBelow root n.1) n.2)
      generalize draft.addVisits tree root _ = result at hstep
      cases hstep with
      | stops hobstacle =>
          exact .inr ⟨[], _, rest, _, [], rfl, rfl, hobstacle, List.forall_mem_nil _, .nil ..⟩
      | passes hother hclear =>
          have hsources : ∀ before, sourcesOf ((names, node) :: before) = sourcesOf before := by
            intro before
            rw [sourcesOf, List.filter_cons_of_neg (by simpa using hother)]
            rfl
          rcases ih htail draft with
            ⟨added, hend, hrest, hadds⟩ | ⟨before, n, after, fault, added, rfl, hend, hn, hbefore, hadds⟩
          · exact .inl ⟨added, hend, List.forall_mem_cons.mpr ⟨hclear, hrest⟩, hsources rest ▸ hadds⟩
          · exact .inr ⟨_ :: before, n, after, fault, added, rfl, hend, hn,
              List.forall_mem_cons.mpr ⟨hclear, hbefore⟩, hsources before ▸ hadds⟩
      | @adds text items hsource hread hclear =>
          have hsources : ∀ before, sourcesOf ((names, .file text.toUTF8) :: before)
              = names :: sourcesOf before := by
            intro before
            rw [sourcesOf, List.filter_cons_of_pos (by simp [hsource, FileTree.isFolder])]
            rfl
          rcases ih htail (draft.addBelow root names items) with
            ⟨added, hend, hrest, hadds⟩ | ⟨before, n, after, fault, added, rfl, hend, hn, hbefore, hadds⟩
          · exact .inl ⟨_ :: added, hend, List.forall_mem_cons.mpr ⟨hclear, hrest⟩,
              hsources rest ▸ hadds.cons hget hread⟩
          · exact .inr ⟨_ :: before, n, after, fault, _ :: added, rfl, hend, hn,
              List.forall_mem_cons.mpr ⟨hclear, hbefore⟩, hsources before ▸ hadds.cons hget hread⟩

theorem mem_sourcesOf_iff {nodes : List (List String × FileTree)} :
    names ∈ sourcesOf nodes ↔ IsSource names ∧ ∃ content, (names, .file content) ∈ nodes := by
  rw [sourcesOf, List.mem_map]
  constructor
  · intro ⟨n, hn, heq⟩
    obtain ⟨others, node⟩ := n
    obtain rfl : others = names := heq
    rw [List.mem_filter] at hn
    cases node with
    | folder inner => simp [FileTree.isFolder] at hn
    | file content => exact ⟨by simpa [FileTree.isFolder] using hn.2, content, hn.1⟩
  · intro ⟨hsource, content, hmem⟩
    exact ⟨_, List.mem_filter.mpr ⟨hmem, by simp [hsource, FileTree.isFolder]⟩, rfl⟩

theorem pairwise_sourcesOf {nodes : List (List String × FileTree)}
    (h : nodes.Pairwise fun a b => Precedes a.1 b.1) : (sourcesOf nodes).Pairwise Precedes :=
  List.pairwise_map.mpr (h.filter _)

/-- Of sorted nodes, those in front of one of them are those that precede it. -/
theorem sourcesOf_before {before after : List (List String × FileTree)}
    {n : List String × FileTree}
    (h : (before ++ n :: after).Pairwise fun a b => Precedes a.1 b.1) :
    sourcesOf before = (sourcesOf (before ++ n :: after)).filter fun s => decide (Precedes s n.1) := by
  obtain ⟨-, hafter, hbefore⟩ := List.pairwise_append.mp h
  have hn := (List.pairwise_cons.mp hafter).1
  have hfront : (sourcesOf before).filter (fun s => decide (Precedes s n.1)) = sourcesOf before := by
    refine List.filter_eq_self.mpr fun s hs => decide_eq_true ?_
    obtain ⟨m, hm, rfl⟩ := List.mem_map.mp hs
    exact hbefore m (List.mem_of_mem_filter hm) n List.mem_cons_self
  have hback : (sourcesOf (n :: after)).filter (fun s => decide (Precedes s n.1)) = [] := by
    refine List.filter_eq_nil_iff.mpr fun s hs => ?_
    rw [decide_eq_true_eq]
    obtain ⟨m, hm, rfl⟩ := List.mem_map.mp hs
    rcases List.mem_cons.mp (List.mem_of_mem_filter hm) with rfl | hm
    · exact FileTree.precedes_irrefl _
    · exact (hn m hm).asymm
  have hsplit : sourcesOf (before ++ n :: after) = sourcesOf before ++ sourcesOf (n :: after) := by
    rw [sourcesOf, List.filter_append, List.map_append]
    rfl
  rw [hsplit, List.filter_append, hfront, hback, List.append_nil]

theorem addVisits_congr {tree tree' : FileTree}
    (h : ∀ path, tree.readText path = tree'.readText path) (root : String)
    (visits : List FileTree.Visit) :
    ∀ draft : Draft, draft.addVisits tree root visits = draft.addVisits tree' root visits := by
  induction visits with
  | nil => exact fun draft => rfl
  | cons visit rest ih =>
      intro draft
      cases visit with
      | unlisted path e => rfl
      | folder path => exact ih draft
      | file path =>
          rw [addVisits, addVisits, addFile, addFile, h path]
          simp only [ih]

/-- How a scan of a folder ends. -/
inductive Ends (top : FileTree) (root : String) (draft : Draft) (sources : List (List String)) :
    ScanResult → Prop where
  /-- Nothing stops it, and all sources are added. -/
  | complete {added : List (List String × List Item)} {draft' : Draft}
      (clear : ∀ names node fault, top.get? names = some node → ¬ Obstacle root names node fault)
      (adds : Adds top root draft sources added draft') :
      Ends top root draft sources { draft := draft' }
  /-- The first node that stops it does, and the sources in front of it are added. -/
  | stopped {names : List String} {node : FileTree} {fault : Fault}
      {added : List (List String × List Item)} {draft' : Draft}
      (found : top.get? names = some node) (obstacle : Obstacle root names node fault)
      (first : ∀ names' node' fault', Precedes names' names → top.get? names' = some node' →
        ¬ Obstacle root names' node' fault')
      (adds : Adds top root draft (sources.filter fun s => decide (Precedes s names)) added draft') :
      Ends top root draft sources { draft := draft', fault := some fault }

theorem ends_scan (draft : Draft) (hroot : tree.find root = .ok (.folder entries))
    (hformed : (FileTree.folder entries).WellFormed) :
    Ends (.folder entries) root draft (sourcesOf (FileTree.folder entries).nodes)
      (draft.scan tree root) := by
  have hnodes : ∀ n, n ∈ (FileTree.folder entries).nodes ↔
      (FileTree.folder entries).get? n.1 = some n.2 :=
    fun _ => FileTree.mem_nodes_iff hformed
  have hsorted := FileTree.pairwise_nodes hformed
  have hscan : draft.scan tree root = draft.addVisits tree root
      ((FileTree.folder entries).nodes.map fun n => FileTree.visit (pathBelow root n.1) n.2) := by
    rw [scan, FileTree.walk, hroot]
  have hrun := addVisits_nodes hroot hformed _ (fun n => (hnodes n).mp) draft
  rw [← hscan] at hrun
  generalize draft.scan tree root = result at hrun
  obtain ⟨draft', outcome⟩ := result
  rcases hrun with
    ⟨added, rfl, hclear, hadds⟩ | ⟨before, n, after, fault, added, hsplit, rfl, hn, hclear, hadds⟩
  · exact .complete (fun names node fault hget => hclear (names, node) ((hnodes _).mpr hget) fault)
      hadds
  · rw [hsplit] at hsorted
    rw [sourcesOf_before hsorted, ← hsplit] at hadds
    refine .stopped ((hnodes n).mp (hsplit ▸ by simp)) hn (fun names node fault' hlt hget => ?_) hadds
    obtain ⟨-, hafter, -⟩ := List.pairwise_append.mp hsorted
    have hmem := (hnodes (names, node)).mpr hget
    rw [hsplit, List.mem_append, List.mem_cons] at hmem
    rcases hmem with hmem | rfl | hmem
    · exact hclear _ hmem fault'
    · exact absurd hlt (FileTree.precedes_irrefl _)
    · exact absurd hlt ((List.pairwise_cons.mp hafter).1 _ hmem).asymm

/-- A scan of a folder adds the files below it that are Rust source, each once and in the order
on places, up to the first node that stops it; how folders list their entries does not matter. -/
theorem scan_adds_sources (draft : Draft) {tree : FileTree} {root : String}
    {entries : List (String × FileTree)} (hformed : tree.WellFormed)
    (hroot : tree.find root = .ok (.folder entries)) :
    (∃ sources, sources.Pairwise Precedes ∧
      (∀ names, names ∈ sources ↔ IsSource names ∧
        ∃ content, (FileTree.folder entries).get? names = some (.file content)) ∧
      Ends (.folder entries) root draft sources (draft.scan tree root)) ∧
    ∀ tree' : FileTree, tree'.WellFormed → tree.Relists tree' →
      draft.scan tree' root = draft.scan tree root := by
  obtain ⟨names, -, hget, -⟩ := FileTree.find_ok_iff.mp hroot
  have hentries := (hformed.get? hget).2
  refine ⟨⟨_, pairwise_sourcesOf (FileTree.pairwise_nodes hentries), fun names => ?_,
    ends_scan draft hroot hentries⟩, fun tree' hformed' hrelists => ?_⟩
  · simp only [mem_sourcesOf_iff, FileTree.mem_nodes_iff hentries]
  · rw [scan, scan, hrelists.walk hformed hformed', addVisits_congr hrelists.readText]

/-- Sources beside and below each other, one of them torn, and a file that is no source. -/
def shopSources : List (String × FileTree) :=
  [("z.rs", .file "mod".toUTF8), ("a.rs", .file "pub trait IOrders \x7b\x7d".toUTF8),
    ("a.txt", .file ⟨#[255]⟩), ("a", .folder [("mod.rs", .file "pub trait IItems \x7b\x7d".toUTF8)])]

theorem shopSources_wellFormed : (FileTree.folder shopSources).WellFormed :=
  .cons (by decide) (by decide) (.file _) <|
    .cons (by decide) (by decide) (.file _) <|
    .cons (by decide) (by decide) (.file _) <|
    .cons (by decide) (by decide) (.cons (by decide) (by decide) (.file _) .nil) .nil

/-- The file in the folder `a` comes before the file `a.rs`, however they are listed. -/
theorem scan_adds_sources_shop :
    let shop := FileTree.folder [("src", .folder shopSources)]
    let relisted := FileTree.folder [("src", .folder shopSources.reverse)]
    shop.WellFormed ∧ shop.find "src" = .ok (.folder shopSources) ∧
      relisted.WellFormed ∧ shop.Relists relisted ∧
      (∃ sources, sources.Pairwise Precedes ∧
        (∀ names, names ∈ sources ↔ IsSource names ∧
          ∃ content, (FileTree.folder shopSources).get? names = some (.file content)) ∧
        Ends (.folder shopSources) "src" {} sources (scan {} shop "src")) ∧
      (scan {} relisted "src").draft.files = ["src/a/mod.rs", "src/a.rs"] := by
  intro shop relisted
  have hreversed : (FileTree.folder shopSources.reverse).WellFormed := by
    cases shopSources_wellFormed with
    | folder names distinct nodes =>
        have hperm := shopSources.reverse_perm
        exact .folder (fun e he => names e (hperm.mem_iff.mp he))
          ((hperm.map Prod.fst).nodup_iff.mpr distinct) fun e he => nodes e (hperm.mem_iff.mp he)
  have hshop : shop.WellFormed := .cons (by decide) (by decide) shopSources_wellFormed .nil
  have hrelisted : relisted.WellFormed := .cons (by decide) (by decide) hreversed .nil
  have hrelists : shop.Relists relisted :=
    (FileTree.Relists.of_perm shopSources.reverse_perm.symm (by decide)).cons "src" []
  have hfind : shop.find "src" = .ok (.folder shopSources) := rfl
  obtain ⟨hsources, hsame⟩ := scan_adds_sources {} hshop hfind
  refine ⟨hshop, hfind, hrelisted, hrelists, hsources, ?_⟩
  rw [hsame relisted hrelisted hrelists]
  decide +kernel

/-! ## A folder that cannot be listed -/

/-- A name of a given length. -/
def longName (m : Nat) : String := String.ofList (List.replicate m 'x')

/-- A path with slashes at its end. -/
def longRoot (k : Nat) : String := "src" ++ String.ofList (List.replicate k '/')

/-- A source, and a folder without any in front of it. -/
def longEntries (m : Nat) : List (String × FileTree) :=
  [(longName m, .folder [("notes.txt", .file ⟨#[]⟩)]),
    ("z.rs", .file "pub trait IUsers \x7b\x7d".toUTF8)]

def longTree (m : Nat) : FileTree := .folder [("src", .folder (longEntries m))]

theorem utf8ByteSize_replicate {c : Char} (h : c.utf8Size = 1) (n : Nat) :
    (String.ofList (List.replicate n c)).utf8ByteSize = n := by
  induction n with
  | zero => rfl
  | succ n ih =>
      rw [String.utf8ByteSize_ofList] at ih ⊢
      rw [List.replicate_succ, String.utf8Len_cons, ih, h]

theorem utf8ByteSize_longName (m : Nat) : (longName m).utf8ByteSize = m :=
  utf8ByteSize_replicate rfl m

theorem utf8ByteSize_longRoot (k : Nat) : (longRoot k).utf8ByteSize = 3 + k := by
  rw [longRoot, String.utf8ByteSize_append, utf8ByteSize_replicate rfl]
  rfl

theorem eq_of_mem_longName {m : Nat} {c : Char} (h : c ∈ (longName m).toList) : c = 'x' := by
  rw [longName, String.toList_ofList] at h
  exact List.eq_of_mem_replicate h

theorem longName_ne {m : Nat} {other : String} (h : ∃ c ∈ other.toList, c ≠ 'x') :
    longName m ≠ other := by
  rintro rfl
  obtain ⟨c, hc, hne⟩ := h
  exact hne (eq_of_mem_longName hc)

theorem isPlain_longName {m : Nat} (h : 0 < m) : PathName.IsPlain (longName m) where
  slash hmem := absurd (eq_of_mem_longName hmem) (by decide)
  zero hmem := absurd (eq_of_mem_longName hmem) (by decide)
  nonempty hnil := by
    have hsize := utf8ByteSize_longName m
    rw [hnil] at hsize
    exact absurd hsize (by simp; omega)
  here := longName_ne ⟨'.', by decide, by decide⟩
  up := longName_ne ⟨'.', by decide, by decide⟩

theorem longEntries_wellFormed {m : Nat} (hpos : 0 < m) (hshort : m ≤ FileTree.nameLimit) :
    (FileTree.folder (longEntries m)).WellFormed := by
  have hfresh : longName m ∉ ["z.rs"] := by
    rw [List.mem_singleton]
    exact longName_ne ⟨'z', by decide, by decide⟩
  exact .cons ⟨isPlain_longName hpos, by rwa [utf8ByteSize_longName]⟩ hfresh
    (.cons (by decide) (by decide) (.file _) .nil)
    (.cons (by decide) (by decide) (.file _) .nil)

theorem find_longRoot (m : Nat) {k : Nat} (h : 3 + k ≤ FileTree.pathLimit) :
    (longTree m).find (longRoot k) = .ok (.folder (longEntries m)) := by
  have hparts : PathName.parts (longRoot k) = [.name ['s', 'r', 'c']] :=
    PathName.parts_append_slashes (by decide) k
  refine FileTree.find_ok_iff.mpr ⟨["src"], FileTree.locate_ok_iff.mpr ⟨⟨?_, ?_, ?_⟩, ?_, ?_⟩,
    rfl, nofun⟩
  · rw [longRoot, String.toList_append, List.mem_append]
    rintro (h | h)
    · exact absurd h (by decide)
    · rw [String.toList_ofList] at h
      exact absurd (List.eq_of_mem_replicate h) (by decide)
  · intro hnil
    have hsize := utf8ByteSize_longRoot k
    rw [hnil] at hsize
    exact absurd hsize (by simp; omega)
  · rwa [utf8ByteSize_longRoot]
  · rw [hparts]
    exact ⟨rfl, by decide, trivial⟩
  · rw [hparts]
    rfl

theorem nodes_longEntries (m : Nat) : (FileTree.folder (longEntries m)).nodes =
    [([], .folder (longEntries m)), ([longName m], .folder [("notes.txt", .file ⟨#[]⟩)]),
      ([longName m, "notes.txt"], .file ⟨#[]⟩),
      (["z.rs"], .file "pub trait IUsers \x7b\x7d".toUTF8)] := by
  have hchars : (longName m).toList = List.replicate m 'x' := String.toList_ofList
  have hnot : ¬ "z.rs" < longName m := by
    rw [String.lt_iff_toList_lt, hchars]
    cases m with
    | zero => exact List.not_lt_nil _
    | succ m =>
        rw [List.replicate_succ]
        intro h
        rcases List.cons_lt_cons_iff.mp h with h | h
        · exact absurd h (by decide)
        · exact absurd h.1 (by decide)
  simp [FileTree.nodes, FileTree.entryNodes, FileTree.sortByName, FileTree.insertByName, longEntries,
    hnot]

theorem scan_longRoot {m k : Nat} (hpos : 0 < m) (hroot : 3 + k ≤ FileTree.pathLimit)
    (hlong : FileTree.pathLimit < 3 + k + m) (draft : Draft) :
    draft.scan (longTree m) (longRoot k)
      = { draft
          fault := some (walkFault (pathBelow (longRoot k) [longName m]) .nameTooLong) } := by
  have hsize := (FileTree.utf8ByteSize_join (isPlain_longName hpos) (longRoot k)).1
  rw [utf8ByteSize_longRoot, utf8ByteSize_longName] at hsize
  have htop : ¬ FileTree.pathLimit < (pathBelow (longRoot k) []).utf8ByteSize := by
    rw [pathBelow, List.foldl_nil, utf8ByteSize_longRoot]
    omega
  have hinner : FileTree.pathLimit < (pathBelow (longRoot k) [longName m]).utf8ByteSize := by
    rw [pathBelow, List.foldl_cons, List.foldl_nil]
    omega
  rw [scan, FileTree.walk, find_longRoot m hroot]
  dsimp only
  rw [nodes_longEntries, List.map_cons, List.map_cons, FileTree.visit, if_neg htop, FileTree.visit,
    if_pos hinner, addVisits, addVisits]

theorem get?_longEntries {m : Nat} (hpos : 0 < m) (hshort : m ≤ FileTree.nameLimit) :
    (FileTree.folder (longEntries m)).get? ["z.rs"]
      = some (.file "pub trait IUsers \x7b\x7d".toUTF8) := by
  refine (FileTree.mem_nodes_iff (longEntries_wellFormed hpos hshort)).mp ?_
  rw [nodes_longEntries]
  simp

/-- The only source can be read and parsed. -/
theorem read_longEntries {m k : Nat} (hpos : 0 < m) (hshort : m ≤ FileTree.nameLimit)
    (hroot : 8 + k ≤ FileTree.pathLimit) {names : List String} {content : ByteArray}
    (hsource : IsSource names)
    (hget : (FileTree.folder (longEntries m)).get? names = some (.file content)) :
    ∃ text items, (longTree m).readText (pathBelow (longRoot k) names) = .ok text ∧
      readFile text = .ok items := by
  have hformed := longEntries_wellFormed hpos hshort
  have hmem := (FileTree.mem_nodes_iff hformed).mpr hget
  rw [nodes_longEntries] at hmem
  simp only [List.mem_cons, Prod.mk.injEq, List.not_mem_nil, or_false, reduceCtorEq, and_false,
    false_or] at hmem
  rcases hmem with ⟨rfl, -⟩ | ⟨rfl, -⟩
  · obtain ⟨folders, stem, -, hnames⟩ := hsource
    have hlast := (List.append_inj' (show [longName m] ++ ["notes.txt"] = _ from hnames) rfl).2
    have hchars := congrArg String.toList (List.singleton_inj.mp hlast)
    rw [String.toList_append] at hchars
    exact absurd (congrArg List.getLast? hchars) (by simp)
  · have hplain : PathName.IsPlain "z.rs" := by decide
    have hname : "z.rs".utf8ByteSize = 4 := rfl
    have hsize := (FileTree.utf8ByteSize_join hplain (longRoot k)).2
    have hpath : ¬ FileTree.pathLimit < (pathBelow (longRoot k) ["z.rs"]).utf8ByteSize := by
      rw [utf8ByteSize_longRoot] at hsize
      rw [pathBelow, List.foldl_cons, List.foldl_nil]
      omega
    have hparse : (readFile "pub trait IUsers \x7b\x7d").isOk = true := by decide +kernel
    cases hitems : readFile "pub trait IUsers \x7b\x7d" with
    | error e =>
        rw [hitems] at hparse
        cases hparse
    | ok items =>
        refine ⟨_, items, ?_, hitems⟩
        rw [FileTree.readText_pathBelow (find_longRoot m (by omega)) hformed
          (get?_longEntries hpos hshort), if_neg hpath, FileTree.fromUTF8?_eq_some_iff.mpr rfl]

/-- Sources that can all be read and parsed need not be added. -/
theorem not_forall_scan_adds :
    ¬ ∀ (draft : Draft) (tree : FileTree) (root : String) (entries : List (String × FileTree)),
      tree.WellFormed → tree.find root = .ok (.folder entries) →
      (∀ names content, IsSource names →
        (FileTree.folder entries).get? names = some (.file content) →
        ∃ text items, tree.readText (pathBelow root names) = .ok text ∧ readFile text = .ok items) →
      ∀ names content, IsSource names →
        (FileTree.folder entries).get? names = some (.file content) →
        pathBelow root names ∈ (draft.scan tree root).draft.files := by
  intro h
  have hformed : (longTree 255).WellFormed :=
    .cons (by decide) (by decide) (longEntries_wellFormed (by decide) (by decide)) .nil
  have hadded := h {} (longTree 255) (longRoot 3880) (longEntries 255) hformed
    (find_longRoot 255 (by decide)) (fun _ _ => read_longEntries (by decide) (by decide) (by decide))
    ["z.rs"] _ (by decide) (get?_longEntries (by decide) (by decide))
  rw [scan_longRoot (by decide) (by decide) (by decide)] at hadded
  cases hadded

end TraitRoutes.Draft
