import GotechDesk.Clipboard.FuseBuild

set_option autoImplicit false

namespace GotechDesk.Clipboard

open FileTransfer Segments

-- The inodes one comes to from the root by going from a node to its children.
inductive Below (tree : List FuseNode) : Nat → Prop where
  | root : Below tree fuseRootId
  | child (place inode : Nat) (node : FuseNode) : Below tree (place + 1) → tree[place]? = some node → inode ∈ node.children → Below tree inode

-- A tree of the root and one node for each entry, numbered in their order.
structure NamesEach (files : List FileDescription) (tree : List FuseNode) : Prop where
  count : tree.length = files.length + 1
  numbered : ∀ (k : Nat) node, 1 ≤ k → tree[k]? = some node → node.attributes.inode = k + 1 ∧ node.index = k - 1
  adopted : ∀ (k : Nat) node, 1 ≤ k → tree[k]? = some node → ∃ (p : Nat) (parentNode : FuseNode), p < k ∧ tree[p]? = some parentNode ∧
    parentNode.attributes.kind = .directory ∧ parentNode.attributes.inode = p + 1 ∧ node.parent = some (p + 1) ∧
    ∀ (q : Nat) (other : FuseNode), tree[q]? = some other → (k + 1 ∈ other.children ↔ q = p)
  positions : ∀ (p : Nat) node, tree[p]? = some node → ∀ inode ∈ node.children, 2 ≤ inode ∧ inode ≤ tree.length
  reached : ∀ inode, 1 ≤ inode → inode ≤ tree.length → Below tree inode

theorem built_below (s : TreeBuild) (files : List FileDescription) (built : Built s files) (k : Nat) (inside : k < s.tree.length) :
    Below s.tree (k + 1) := by
  induction k using Nat.strongRecOn with
  | ind k ih =>
      cases k with
      | zero => exact .root
      | succ i =>
          have listed : i < files.length := by
            have count := built.count
            omega
          obtain ⟨node, here, entry⟩ := built.entry i files[i] (List.getElem?_eq_getElem listed)
          obtain ⟨_, _, place, parentNode, adopted, before, held, _⟩ := entry.named
          refine .child place (i + 2) parentNode (ih place (by omega) (by omega)) held ?_
          exact (built.children place parentNode (i + 2) held).mpr ⟨i + 1, node, rfl, here, adopted⟩

theorem built_names_each (s : TreeBuild) (files : List FileDescription) (built : Built s files) : NamesEach files s.tree := by
  have node : ∀ (k : Nat) node, 1 ≤ k → s.tree[k]? = some node →
      ∃ i file, k = i + 1 ∧ files[i]? = some file ∧ EntryNode files s.tree i file node := by
    intro k node positive held
    obtain ⟨i, rfl⟩ : ∃ i, k = i + 1 := ⟨k - 1, by omega⟩
    have inside := (List.getElem?_eq_some_iff.mp held).choose
    have listed : i < files.length := by
      have count := built.count
      omega
    obtain ⟨known, here, entry⟩ := built.entry i files[i] (List.getElem?_eq_getElem listed)
    cases held.symm.trans here
    exact ⟨i, _, rfl, List.getElem?_eq_getElem listed, entry⟩
  constructor
  · exact built.count
  · intro k other positive held
    obtain ⟨i, file, rfl, _, entry⟩ := node k other positive held
    exact ⟨entry.inode, entry.index⟩
  · intro k other positive held
    obtain ⟨i, file, rfl, _, entry⟩ := node k other positive held
    obtain ⟨_, _, place, parentNode, adopted, before, parentHeld, kind, inode, _⟩ := entry.named
    refine ⟨place, parentNode, by omega, parentHeld, kind, inode, adopted, ?_⟩
    intro q another there
    rw [built.children q another (i + 1 + 1) there]
    constructor
    · rintro ⟨k, child, same, here, mine⟩
      obtain rfl : k = i + 1 := by omega
      cases held.symm.trans here
      cases adopted.symm.trans mine
      rfl
    · rintro rfl
      exact ⟨i + 1, other, rfl, held, adopted⟩
  · intro p parentNode held inode member
    obtain ⟨k, child, rfl, here, adopted⟩ := (built.children p parentNode inode held).mp member
    have inside := (List.getElem?_eq_some_iff.mp here).choose
    have above := parent_bound s files built k p child here adopted
    omega
  · intro inode positive inside
    obtain ⟨k, rfl⟩ : ∃ k, inode = k + 1 := ⟨inode - 1, by omega⟩
    exact built_below s files built k (by omega)

def listedDirectory (files : List FileDescription) (parts : List Name) : Bool :=
  files.any (fun d => decide (d.kind = .directory) && decide (nameParts d.name = parts))

-- A name less the leading prefix that no listed directory stands for, last part first.
def shownFrom (files : List FileDescription) : List Name → List Name
  | [] => []
  | last :: above => if listedDirectory files above.reverse then last :: shownFrom files above else [last]

def shown (files : List FileDescription) (name : Name) : List Name := (shownFrom files (nameParts name).reverse).reverse

-- The kernel walks a path one part at a time.
def FuseServer.walk (server : FuseServer) : Nat → List (List UInt8) → Option (Except Errno Nat)
  | inode, [] => some (.ok inode)
  | inode, name :: rest =>
      match server.lookup inode name with
      | none => none
      | some (.error error) => some (.error error)
      | some (.ok next) => server.walk next rest

theorem walk_ok (server : FuseServer) (inode next : Nat) (name : List UInt8) (rest : List (List UInt8))
    (found : server.lookup inode name = some (.ok next)) : server.walk inode (name :: rest) = server.walk next rest := by
  rw [FuseServer.walk, found]

theorem walk_append (server : FuseServer) (inode next : Nat) (front rest : List (List UInt8)) (walked : server.walk inode front = some (.ok next)) :
    server.walk inode (front ++ rest) = server.walk next rest := by
  induction front generalizing inode with
  | nil =>
      cases walked
      rfl
  | cons name others ih =>
      cases found : server.lookup inode name with
      | none =>
          rw [FuseServer.walk, found] at walked
          cases walked
      | some result =>
          cases result with
          | error error =>
              rw [FuseServer.walk, found] at walked
              cases walked
          | ok between =>
              rw [walk_ok server inode between name others found] at walked
              rw [List.cons_append, walk_ok server inode between name _ found]
              exact ih between walked

theorem listed_directory (files : List FileDescription) (parts : List Name) :
    listedDirectory files parts = true ↔ ∃ d ∈ files, d.kind = .directory ∧ nameParts d.name = parts := by
  simp [listedDirectory]

theorem shown_suffix (files : List FileDescription) (parts : List Name) :
    ∃ above, parts = shownFrom files parts ++ above ∧ (above = [] ∨ listedDirectory files above.reverse = false) := by
  induction parts with
  | nil => exact ⟨[], rfl, .inl rfl⟩
  | cons last above ih =>
      unfold shownFrom
      by_cases listed : listedDirectory files above.reverse = true
      · rw [if_pos listed]
        obtain ⟨rest, split, left⟩ := ih
        exact ⟨rest, by rw [List.cons_append, ← split], left⟩
      · rw [if_neg listed]
        exact ⟨above, rfl, .inr (Bool.eq_false_iff.mpr listed)⟩

-- Every directory comes before what is in it.
def Preordered (files : List FileDescription) : Prop :=
  ∀ (i j : Nat) (d file : FileDescription), files[i]? = some d → d.kind = .directory → files[j]? = some file →
    (∃ more, more ≠ [] ∧ nameParts file.name = nameParts d.name ++ more) → i < j

-- No two entries are shown at the same place, and the kernel can name each.
structure Distinct (files : List FileDescription) : Prop where
  apart : ∀ (i j : Nat) (file other : FileDescription), files[i]? = some file → files[j]? = some other → shown files file.name = shown files other.name → i = j
  short : ∀ file ∈ files, ∀ part ∈ nameParts file.name, (osString part).length ≤ maxNameLen

section
variable (files : List FileDescription) (name : Name) (front : List Name) (last : Name)

theorem shown_listed (parts : nameParts name = front ++ [last])
    (d : FileDescription) (listed : d ∈ files) (directory : d.kind = .directory) (same : nameParts d.name = front) :
    shown files name = shown files d.name ++ [last] := by
  have found : listedDirectory files front = true := (listed_directory files front).mpr ⟨d, listed, directory, same⟩
  unfold shown
  rw [parts, List.reverse_append, List.reverse_singleton, List.singleton_append, shownFrom, List.reverse_reverse, if_pos found,
    List.reverse_cons, same]

theorem shown_top (parts : nameParts name = front ++ [last]) (unlisted : listedDirectory files front = false) : shown files name = [last] := by
  unfold shown
  rw [parts, List.reverse_append, List.reverse_singleton, List.singleton_append, shownFrom, List.reverse_reverse, if_neg]
  · rfl
  · rw [unlisted]
    exact Bool.false_ne_true

end

-- The path that leads to a node.
def pathTo (files : List FileDescription) (place : Nat) : List Name :=
  if place = 0 then [] else (files[place - 1]?).elim [] (fun d => shown files d.name)

theorem shown_parent (files : List FileDescription) (ordered : Preordered files) (i : Nat) (file : FileDescription) (front : List Name) (last : Name)
    (listed : files[i]? = some file) (parts : nameParts file.name = front ++ [last]) (place : Nat)
    (found : ParentPlace (files.take i) front place) : shown files file.name = pathTo files place ++ [last] := by
  rcases found with ⟨rfl, none⟩ | ⟨j, d, rfl, held, directory, same⟩
  · refine shown_top files file.name front last parts ?_
    rw [Bool.eq_false_iff]
    intro known
    obtain ⟨d, member, directory, same⟩ := (listed_directory files front).mp known
    obtain ⟨j, held⟩ := List.getElem?_of_mem member
    have before := ordered j i d file held directory listed ⟨[last], List.cons_ne_nil _ _, by rw [parts, same]⟩
    have early : d ∈ files.take i := List.mem_of_getElem? ((List.getElem?_take_of_lt before).trans held)
    exact none d early directory same
  · have inside : files[j]? = some d := by
      rw [List.getElem?_take] at held
      exact (Option.ite_none_right_eq_some.mp held).2
    rw [shown_listed files file.name front last parts d (List.mem_of_getElem? inside) directory same]
    simp [pathTo, inside]

theorem findChild_found (entries : List FuseNode) (name : List UInt8) (target : Nat) (children : List Nat) (member : target ∈ children)
    (each : ∀ inode ∈ children, ∃ child, entries[inode - 1]? = some child ∧ child.attributes.inode = inode ∧ (osString child.name = name ↔ inode = target)) :
    findChild entries name children = some (.ok target) := by
  induction children with
  | nil => cases member
  | cons inode rest ih =>
      obtain ⟨⟨child, held, number, exactly⟩, later⟩ := List.forall_mem_cons.mp each
      unfold findChild
      rw [held]
      dsimp only
      by_cases same : osString child.name = name
      · rw [if_pos same, number, exactly.mp same]
      · rw [if_neg same]
        refine ih ?_ later
        rcases List.mem_cons.mp member with rfl | further
        · exact absurd (exactly.mpr rfl) same
        · exact further

section
variable (s : TreeBuild) (files : List FileDescription) (built : Built s files) (ordered : Preordered files) (distinct : Distinct files)
  (generation : Nat)
include built ordered distinct

-- One step of the walk finds the entry below its parent, and no other entry.
theorem lookup_entry (i : Nat) (file : FileDescription) (node : FuseNode) (place : Nat) (front : List Name) (listed : files[i]? = some file)
    (here : s.tree[i + 1]? = some node) (parts : nameParts file.name = front ++ [node.name]) (adopted : node.parent = some (place + 1))
    (found : ParentPlace (files.take i) front place) (parentNode : FuseNode) (held : s.tree[place]? = some parentNode)
    (kind : parentNode.attributes.kind = .directory) :
    (⟨generation, s.tree⟩ : FuseServer).lookup (place + 1) (osString node.name) = some (.ok (i + 2)) := by
  have short : ¬maxNameLen < (osString node.name).length :=
    Nat.not_lt.mpr (distinct.short file (List.mem_of_getElem? listed) node.name (by simp [parts]))
  unfold FuseServer.lookup
  rw [if_neg short, Nat.add_sub_cancel, held]
  dsimp only
  rw [if_neg (not_not.mpr kind)]
  apply findChild_found
  · exact (built.children place parentNode (i + 2) held).mpr ⟨i + 1, node, rfl, here, adopted⟩
  · intro inode member
    obtain ⟨k, child, rfl, there, mine⟩ := (built.children place parentNode inode held).mp member
    have above := parent_bound s files built k place child there mine
    obtain ⟨j, rfl⟩ : ∃ j, k = j + 1 := ⟨k - 1, by omega⟩
    have inside : j < files.length := by
      have count := built.count
      have bound := (List.getElem?_eq_some_iff.mp there).choose
      omega
    obtain ⟨known, known_here, entry⟩ := built.entry j files[j] (List.getElem?_eq_getElem inside)
    cases there.symm.trans known_here
    refine ⟨child, there, entry.inode, ?_⟩
    constructor
    · intro same
      obtain ⟨otherFront, otherParts, otherPlace, _, otherParent, _, _, _, _, otherFound⟩ := entry.named
      cases otherParent.symm.trans mine
      have mineShown := shown_parent files ordered i file front node.name listed parts place found
      have otherShown := shown_parent files ordered j files[j] otherFront child.name (List.getElem?_eq_getElem inside) otherParts place otherFound
      rw [osString_injective _ _ same] at otherShown
      rw [distinct.apart j i files[j] file (List.getElem?_eq_getElem inside) listed (otherShown.trans mineShown.symm)]
    · intro same
      obtain rfl : j = i := by omega
      cases here.symm.trans there
      rfl

theorem walk_entry (i : Nat) (file : FileDescription) (listed : files[i]? = some file) :
    (⟨generation, s.tree⟩ : FuseServer).walk fuseRootId ((shown files file.name).map osString) = some (.ok (i + 2)) := by
  induction i using Nat.strongRecOn generalizing file with
  | ind i ih =>
      obtain ⟨node, here, entry⟩ := built.entry i file listed
      obtain ⟨front, parts, place, parentNode, adopted, before, held, kind, _, found⟩ := entry.named
      have step := lookup_entry s files built ordered distinct generation i file node place front listed here parts adopted found parentNode held kind
      have path := shown_parent files ordered i file front node.name listed parts place found
      have above : (⟨generation, s.tree⟩ : FuseServer).walk fuseRootId ((pathTo files place).map osString) = some (.ok (place + 1)) := by
        rcases found with ⟨rfl, _⟩ | ⟨j, d, rfl, known, _, _⟩
        · rfl
        · rw [List.getElem?_take] at known
          obtain ⟨earlier, known⟩ := Option.ite_none_right_eq_some.mp known
          have walked := ih j earlier d known
          simpa [pathTo, known] using walked
      rw [path, List.map_append, walk_append _ _ _ _ _ above, List.map_singleton, walk_ok _ _ _ _ _ step]
      rfl

end

theorem fuse_tree_names_entries (now : Int) (files : List FileDescription) (valid : ∀ file ∈ files, validateFileName file.name = .ok ()) :
    ∃ tree, buildTree now files = .ok tree ∧ NamesEach files tree ∧
      (Preordered files → Distinct files → ∀ (generation i : Nat) (file : FileDescription), files[i]? = some file →
        (∃ above, nameParts file.name = above ++ shown files file.name ∧ (above = [] ∨ listedDirectory files above = false)) ∧
        (⟨generation, tree⟩ : FuseServer).walk fuseRootId ((shown files file.name).map osString) = some (.ok (i + 2)) ∧
        ∃ node, tree[i + 1]? = some node ∧ node.index = i) := by
  obtain ⟨s, made, built⟩ := build_tree_built now files valid
  refine ⟨s.tree, made, built_names_each s files built, ?_⟩
  intro ordered distinct generation i file listed
  refine ⟨?_, walk_entry s files built ordered distinct generation i file listed, ?_⟩
  · obtain ⟨above, split, left⟩ := shown_suffix files (nameParts file.name).reverse
    refine ⟨above.reverse, ?_, left.imp (fun none => by rw [none]; rfl) id⟩
    rw [shown, ← List.reverse_append, ← split, List.reverse_reverse]
  · obtain ⟨node, here, entry⟩ := built.entry i file listed
    exact ⟨node, here, entry.index⟩

def listing (name : Name) (kind : FileType) : FileDescription := ⟨0, name, kind, 0, 0, 0, 0, 0, 0⟩

-- A folder and a file in it, both under a directory that is not listed.
def folderFiles : List FileDescription := [listing "test/folder0".toList .directory, listing "test/folder0/file0".toList .file]

theorem folder_files_walked : ∃ tree, buildTree 0 folderFiles = .ok tree ∧
    (⟨0, tree⟩ : FuseServer).walk fuseRootId ["folder0".toUTF8.data.toList, "file0".toUTF8.data.toList] = some (.ok 3) := by
  obtain ⟨tree, made, _, walks⟩ := fuse_tree_names_entries 0 folderFiles (by decide)
  have ordered : Preordered folderFiles := by
    intro i j d file listed directory other below
    obtain ⟨more, some, parts⟩ := below
    rcases i with _ | _ | i
    · rcases j with _ | j
      · cases listed
        cases other
        exact absurd (List.self_eq_append_right.mp parts) some
      · exact Nat.succ_pos j
    · cases listed
      cases directory
    · cases listed
  have distinct : Distinct folderFiles := by
    refine ⟨fun i j file other listed held same => ?_, by decide⟩
    rcases i with _ | _ | i <;> rcases j with _ | _ | j <;> cases listed <;> cases held <;> first | rfl | exact absurd same (by decide)
  exact ⟨tree, made, (walks ordered distinct 0 1 (listing "test/folder0/file0".toList .file) rfl).2.1⟩

def sameBaseNames : List FileDescription := [listing "a/x".toList .file, listing "b/x".toList .file]

def longName : Name := List.replicate 256 'a'

def longNamed : List FileDescription := [listing longName .file]

theorem files_only_ordered (files : List FileDescription) (none : ∀ d ∈ files, d.kind ≠ .directory) : Preordered files :=
  fun _ _ d _ listed directory _ _ => absurd directory (none d (List.mem_of_getElem? listed))

-- The file "b/x" is reached by neither of its paths, and a name of 256 bytes by none.
set_option maxRecDepth 4000 in
theorem second_x_unreachable :
    ((∀ file ∈ sameBaseNames, validateFileName file.name = .ok ()) ∧ (sameBaseNames.map FileDescription.name).Nodup ∧ Preordered sameBaseNames ∧
      (buildTree 0 sameBaseNames).toOption.map (fun tree => (⟨0, tree⟩ : FuseServer).walk fuseRootId [[0x78]]) = some (some (.ok 2)) ∧
      (buildTree 0 sameBaseNames).toOption.map (fun tree => (⟨0, tree⟩ : FuseServer).walk fuseRootId [[0x62], [0x78]]) = some (some (.error .enoent))) ∧
    ((∀ file ∈ longNamed, validateFileName file.name = .ok ()) ∧ Preordered longNamed ∧
      (buildTree 0 longNamed).toOption.map (fun tree => (⟨0, tree⟩ : FuseServer).walk fuseRootId [osString longName]) =
        some (some (.error .enametoolong))) := by
  refine ⟨⟨by decide, by decide, files_only_ordered _ (by decide), by decide, by decide⟩, ?_, files_only_ordered _ (by decide), by decide +kernel⟩
  decide +kernel

end GotechDesk.Clipboard
