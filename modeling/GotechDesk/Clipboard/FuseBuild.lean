import GotechDesk.Clipboard.FuseTree
import GotechDesk.Clipboard.PasteNames

set_option autoImplicit false

namespace GotechDesk.Clipboard

open FileTransfer Segments

def nameParts (name : Name) : List Name := segments (· == '/') name

theorem osString_injective (a b : Name) (same : osString a = osString b) : a = b := by
  apply String.ofList_injective
  exact String.toByteArray_inj.mp (congrArg List.toByteArray same)

theorem valid_components (name : Name) (valid : validateFileName name = .ok ()) :
    Style.unix.components name = (nameParts name).map Component.normal := by
  obtain ⟨plain, _⟩ := valid_unrooted name valid
  have pieces := fun segment member => valid_segment_plain name segment valid member
  have lead := lead_plainName .unix name plain
  have text : Style.unix.bodyText name = name := by
    unfold Style.bodyText
    rw [if_neg]
    · rfl
    · simpa [Style.hasPhysicalRoot, Style.body, Style.parsePrefix] using plain.unrooted
  have undotted : (segments (· == '/') name).head? ≠ some ['.'] := fun head => (pieces ['.'] (List.mem_of_head? head)).notDot rfl
  have parsed : (segments (· == '/') name).filterMap (parseSingleComponent false) = (segments (· == '/') name).map Component.normal := by
    rw [← List.filterMap_eq_map]
    apply List.filterMap_congr
    intro segment member
    simp [parseSingleComponent, (pieces segment member).some, (pieces segment member).notDot, (pieces segment member).notUp]
  unfold Style.components
  rw [lead, text]
  have sep : Style.unix.bodySep name = (· == '/') := unix_sep
  have plainText : Style.unix.verbatim name = false := rfl
  rw [sep, plainText]
  dsimp only
  rw [parsed]
  simp [undotted, nameParts]

theorem valid_parts (name : Name) : ∃ front last, nameParts name = front ++ [last] := by
  obtain empty | ⟨front, last, same⟩ := List.eq_nil_or_concat (nameParts name)
  · exact absurd empty (segments_ne_nil _ name)
  · exact ⟨front, last, by rw [same, List.concat_eq_append]⟩

theorem valid_file_name (name : Name) (front : List Name) (last : Name) (valid : validateFileName name = .ok ())
    (parts : nameParts name = front ++ [last]) :
    fileName name = some last ∧ FileTransfer.parent (Style.unix.components name) = some (front.map Component.normal) := by
  have components := valid_components name valid
  rw [parts, List.map_append, List.map_singleton] at components
  have final : (Style.unix.components name).getLast? = some (.normal last) := by rw [components, List.getLast?_concat]
  constructor
  · rw [fileName, final]
  · rw [FileTransfer.parent, final, components]
    dsimp only
    rw [List.dropLast_concat]

-- The place of the node a new entry hangs below: the last listed directory of its parent's
-- name, or the root.
def ParentPlace (done : List FileDescription) (front : List Name) (place : Nat) : Prop :=
  (place = 0 ∧ ∀ d ∈ done, d.kind = .directory → nameParts d.name ≠ front) ∨
    ∃ j d, place = j + 1 ∧ done[j]? = some d ∧ d.kind = .directory ∧ nameParts d.name = front

-- What the map of directories knows of the entries so far.
structure Mapped (map : List (List Component × Nat)) (done : List FileDescription) : Prop where
  root : Table.get map [] = some fuseRootId
  sound : ∀ (front : List Name) inode, front ≠ [] → Table.get map (front.map Component.normal) = some inode →
    ∃ j d, inode = j + 2 ∧ done[j]? = some d ∧ d.kind = .directory ∧ nameParts d.name = front
  complete : ∀ d ∈ done, d.kind = .directory → (Table.get map ((nameParts d.name).map Component.normal)).isSome = true

-- The node an entry becomes, up to the children it gets later.
structure EntryNode (done : List FileDescription) (tree : List FuseNode) (i : Nat) (file : FileDescription) (node : FuseNode) : Prop where
  inode : node.attributes.inode = i + 2
  index : node.index = i
  kind : node.attributes.kind = file.kind
  named : ∃ front, nameParts file.name = front ++ [node.name] ∧ ∃ place parentNode, node.parent = some (place + 1) ∧ place ≤ i ∧
    tree[place]? = some parentNode ∧ parentNode.attributes.kind = .directory ∧ parentNode.attributes.inode = place + 1 ∧
    ParentPlace (done.take i) front place

structure Built (s : TreeBuild) (done : List FileDescription) : Prop where
  count : s.tree.length = done.length + 1
  root : ∃ node, s.tree[0]? = some node ∧ node.attributes.inode = fuseRootId ∧ node.attributes.kind = .directory ∧ node.parent = none
  entry : ∀ i file, done[i]? = some file → ∃ node, s.tree[i + 1]? = some node ∧ EntryNode done s.tree i file node
  children : ∀ (p : Nat) node inode, s.tree[p]? = some node →
    (inode ∈ node.children ↔ ∃ (k : Nat) (child : FuseNode), inode = k + 1 ∧ s.tree[k]? = some child ∧ child.parent = some (p + 1))
  mapped : Mapped s.subRootMap done

theorem start_built (now : Int) : Built (.start now) [] := by
  refine ⟨rfl, ⟨.newRoot now, rfl, rfl, rfl, rfl⟩, (fun _ _ none => by cases none), ?_, ⟨rfl, ?_, (fun _ none => by cases none)⟩⟩
  · intro p node inode held
    cases p with
    | zero =>
        cases held
        refine ⟨(fun none => by cases none), ?_⟩
        rintro ⟨k, child, _, here, adopted⟩
        cases k with
        | zero =>
            cases here
            cases adopted
        | succ k => cases here
    | succ p => cases held
  · intro front inode named found
    cases front with
    | nil => exact absurd rfl named
    | cons first rest =>
        rw [TreeBuild.start, Table.get_insert, Table.get_insert] at found
        simp [Table.get] at found

theorem parent_place (s : TreeBuild) (done : List FileDescription) (built : Built s done) (name : Name) (front : List Name) (last : Name)
    (valid : validateFileName name = .ok ()) (parts : nameParts name = front ++ [last]) :
    ∃ place, s.parentInode name = place + 1 ∧ ParentPlace done front place := by
  unfold TreeBuild.parentInode
  rw [(valid_file_name name front last valid parts).2]
  dsimp only
  by_cases top : front = []
  · subst top
    rw [List.map_nil, built.mapped.root]
    refine ⟨0, rfl, .inl ⟨rfl, fun d _ _ same => ?_⟩⟩
    obtain ⟨before, final, split⟩ := valid_parts d.name
    rw [split] at same
    cases before <;> cases same
  · cases found : Table.get s.subRootMap (front.map Component.normal) with
    | none =>
        refine ⟨0, rfl, .inl ⟨rfl, fun d member directory same => ?_⟩⟩
        have known := built.mapped.complete d member directory
        rw [same, found] at known
        cases known
    | some inode =>
        obtain ⟨j, d, rfl, held, directory, same⟩ := built.mapped.sound front inode top found
        exact ⟨j + 1, rfl, .inr ⟨j, d, rfl, held, directory, same⟩⟩

-- The node at a parent's place is there, and is a directory.
theorem place_directory (s : TreeBuild) (done : List FileDescription) (built : Built s done) (front : List Name) (place : Nat)
    (found : ParentPlace done front place) :
    ∃ node, s.tree[place]? = some node ∧ node.attributes.kind = .directory ∧ node.attributes.inode = place + 1 := by
  rcases found with ⟨rfl, _⟩ | ⟨j, d, rfl, held, directory, _⟩
  · obtain ⟨node, here, inode, kind, _⟩ := built.root
    exact ⟨node, here, kind, inode⟩
  · obtain ⟨node, here, entry⟩ := built.entry j d held
    exact ⟨node, here, entry.kind.trans directory, entry.inode⟩

def grow (tree : List FuseNode) (place inode : Nat) (fresh : FuseNode) : List FuseNode :=
  tree.modify place (FuseNode.addChild inode) ++ [fresh]

theorem grow_old (tree : List FuseNode) (place inode k : Nat) (fresh node : FuseNode) (held : tree[k]? = some node) :
    (grow tree place inode fresh)[k]? = some (if place = k then node.addChild inode else node) := by
  have inside := (List.getElem?_eq_some_iff.mp held).choose
  rw [grow, List.getElem?_append_left (by rwa [List.length_modify]), List.getElem?_modify, held]
  split <;> simp [*]

theorem grow_new (tree : List FuseNode) (place inode : Nat) (fresh : FuseNode) : (grow tree place inode fresh)[tree.length]? = some fresh := by
  rw [grow, List.getElem?_append_right (by rw [List.length_modify]), List.length_modify, Nat.sub_self]
  rfl

theorem grow_cases (tree : List FuseNode) (place inode k : Nat) (fresh node : FuseNode) (held : (grow tree place inode fresh)[k]? = some node) :
    (∃ before, tree[k]? = some before ∧ node = if place = k then before.addChild inode else before) ∨ (k = tree.length ∧ node = fresh) := by
  rcases Nat.lt_trichotomy k tree.length with inside | rfl | outside
  · have before : tree[k]? = some tree[k] := List.getElem?_eq_getElem inside
    left
    exact ⟨tree[k], before, Option.some.inj (held.symm.trans (grow_old tree place inode k fresh _ before))⟩
  · exact .inr ⟨rfl, Option.some.inj (held.symm.trans (grow_new tree place inode fresh))⟩
  · have long : (grow tree place inode fresh).length = tree.length + 1 := by rw [grow, List.length_append, List.length_modify]; rfl
    rw [List.getElem?_eq_none (by omega)] at held
    cases held

theorem addChild_same (node : FuseNode) (place k inode : Nat) :
    (if place = k then node.addChild inode else node).attributes = node.attributes ∧
      (if place = k then node.addChild inode else node).index = node.index ∧ (if place = k then node.addChild inode else node).name = node.name ∧
      (if place = k then node.addChild inode else node).parent = node.parent := by
  split <;> exact ⟨rfl, rfl, rfl, rfl⟩

theorem addChild_children (node : FuseNode) (place k inode other : Nat) :
    other ∈ (if place = k then node.addChild inode else node).children ↔ other ∈ node.children ∨ (place = k ∧ other = inode) := by
  split
  · simp [FuseNode.addChild, *]
  · simp [*]

def freshNode (file : FileDescription) (last : Name) (place inode : Nat) : FuseNode :=
  { FuseNode.fromDescription inode { file with name := last } with parent := some (place + 1) }

-- What adding an entry does to the tree.
theorem add_spec (s : TreeBuild) (done : List FileDescription) (built : Built s done) (file : FileDescription) (front : List Name) (last : Name)
    (valid : validateFileName file.name = .ok ()) (parts : nameParts file.name = front ++ [last]) :
    ∃ place, ParentPlace done front place ∧ s.add file = .ok
      { tree := grow s.tree place (done.length + 2) (freshNode file last place (done.length + 2))
        subRootMap :=
          if file.kind = .directory then Table.insert s.subRootMap ((nameParts file.name).map Component.normal) (done.length + 2)
          else s.subRootMap } := by
  obtain ⟨place, inode, found⟩ := parent_place s done built file.name front last valid parts
  refine ⟨place, found, ?_⟩
  unfold TreeBuild.add
  rw [(valid_file_name file.name front last valid parts).1, inode, built.count, valid_components file.name valid]
  rfl

theorem grown_entry (done : List FileDescription) (tree : List FuseNode) (place inode : Nat) (fresh : FuseNode) (i : Nat) (file more : FileDescription)
    (node : FuseNode) (inside : i < done.length) (entry : EntryNode done tree i file node) :
    EntryNode (done ++ [more]) (grow tree place inode fresh) i file (if place = i + 1 then node.addChild inode else node) := by
  obtain ⟨attributes, index, name, parent⟩ := addChild_same node place (i + 1) inode
  obtain ⟨front, parts, above, parentNode, adopted, before, held, kind, parentInode, found⟩ := entry.named
  obtain ⟨parentAttributes, _, _, _⟩ := addChild_same parentNode place above inode
  refine ⟨?_, ?_, ?_, front, ?_, above, _, ?_, before, grow_old tree place inode above fresh parentNode held, ?_, ?_, ?_⟩
  · rw [attributes, entry.inode]
  · rw [index, entry.index]
  · rw [attributes, entry.kind]
  · rw [name, parts]
  · rw [parent, adopted]
  · rw [parentAttributes, kind]
  · rw [parentAttributes, parentInode]
  · rw [List.take_append_of_le_length (Nat.le_of_lt inside)]
    exact found

theorem parent_bound (s : TreeBuild) (done : List FileDescription) (built : Built s done) (k above : Nat) (node : FuseNode)
    (held : s.tree[k]? = some node) (adopted : node.parent = some (above + 1)) : above < k := by
  cases k with
  | zero =>
      obtain ⟨root, here, _, _, orphan⟩ := built.root
      cases held.symm.trans here
      rw [orphan] at adopted
      cases adopted
  | succ i =>
      have inside := (List.getElem?_eq_some_iff.mp held).choose
      have listed : i < done.length := by
        have count := built.count
        omega
      obtain ⟨known, here, entry⟩ := built.entry i done[i] (List.getElem?_eq_getElem listed)
      cases held.symm.trans here
      obtain ⟨_, _, place, _, same, before, _⟩ := entry.named
      cases same.symm.trans adopted
      exact Nat.lt_succ_of_le before

theorem mapped_insert (map : List (List Component × Nat)) (done : List FileDescription) (file : FileDescription) (mapped : Mapped map done) :
    Mapped (if file.kind = .directory then Table.insert map ((nameParts file.name).map Component.normal) (done.length + 2) else map)
      (done ++ [file]) := by
  have kept : ∀ j d, done[j]? = some d → (done ++ [file])[j]? = some d := fun j d held => by
    rw [List.getElem?_append_left (List.getElem?_eq_some_iff.mp held).choose]
    exact held
  by_cases directory : file.kind = .directory
  · rw [if_pos directory]
    constructor
    · rw [Table.get_insert, if_neg]
      · exact mapped.root
      · intro same
        exact segments_ne_nil _ _ (List.map_eq_nil_iff.mp same.symm)
    · intro front inode named found
      rw [Table.get_insert] at found
      by_cases same : front.map Component.normal = (nameParts file.name).map Component.normal
      · rw [if_pos same] at found
        cases found
        refine ⟨done.length, file, rfl, List.getElem?_concat_length, directory, ?_⟩
        exact List.map_injective_iff.mpr (fun _ _ equal => Component.normal.inj equal) same.symm
      · rw [if_neg same] at found
        obtain ⟨j, d, rfl, held, kind, parts⟩ := mapped.sound front inode named found
        exact ⟨j, d, rfl, kept j d held, kind, parts⟩
    · intro d member kind
      rw [Table.get_insert]
      split
      · rfl
      · rename_i other
        rcases List.mem_append.mp member with before | last
        · exact mapped.complete d before kind
        · rw [List.mem_singleton.mp last] at other
          exact absurd rfl other
  · rw [if_neg directory]
    constructor
    · exact mapped.root
    · intro front inode named found
      obtain ⟨j, d, rfl, held, kind, parts⟩ := mapped.sound front inode named found
      exact ⟨j, d, rfl, kept j d held, kind, parts⟩
    · intro d member kind
      rcases List.mem_append.mp member with before | last
      · exact mapped.complete d before kind
      · rw [List.mem_singleton.mp last] at kind
        exact absurd kind directory

theorem grown_children (s : TreeBuild) (done : List FileDescription) (built : Built s done) (file : FileDescription) (last : Name) (place : Nat)
    (placed : place < s.tree.length) (p : Nat) (node : FuseNode) (inode : Nat)
    (here : (grow s.tree place (s.tree.length + 1) (freshNode file last place (s.tree.length + 1)))[p]? = some node) :
    inode ∈ node.children ↔ ∃ (k : Nat) (child : FuseNode), inode = k + 1 ∧
      (grow s.tree place (s.tree.length + 1) (freshNode file last place (s.tree.length + 1)))[k]? = some child ∧ child.parent = some (p + 1) := by
  rcases grow_cases _ _ _ _ _ _ here with ⟨before, held, rfl⟩ | ⟨rfl, rfl⟩
  · rw [addChild_children, built.children p before inode held]
    constructor
    · rintro (⟨k, child, rfl, listed, adopted⟩ | ⟨rfl, rfl⟩)
      · refine ⟨k, _, rfl, grow_old _ _ _ k _ child listed, ?_⟩
        exact (addChild_same child place k _).2.2.2.trans adopted
      · exact ⟨s.tree.length, _, rfl, grow_new _ _ _ _, rfl⟩
    · rintro ⟨k, child, rfl, listed, adopted⟩
      rcases grow_cases _ _ _ _ _ _ listed with ⟨older, known, rfl⟩ | ⟨rfl, rfl⟩
      · exact .inl ⟨k, older, rfl, known, (addChild_same older place k _).2.2.2.symm.trans adopted⟩
      · cases adopted
        exact .inr ⟨rfl, rfl⟩
  · refine ⟨(fun none => by cases none), ?_⟩
    rintro ⟨k, child, rfl, listed, adopted⟩
    rcases grow_cases _ _ _ _ _ _ listed with ⟨older, known, rfl⟩ | ⟨rfl, rfl⟩
    · have earlier := parent_bound s done built k s.tree.length older known ((addChild_same older place k _).2.2.2.symm.trans adopted)
      have inside := (List.getElem?_eq_some_iff.mp known).choose
      omega
    · cases adopted
      exact absurd placed (Nat.lt_irrefl _)

theorem add_built (s : TreeBuild) (done : List FileDescription) (file : FileDescription) (built : Built s done)
    (valid : validateFileName file.name = .ok ()) : ∃ next, s.add file = .ok next ∧ Built next (done ++ [file]) := by
  obtain ⟨front, last, parts⟩ := valid_parts file.name
  obtain ⟨place, found, added⟩ := add_spec s done built file front last valid parts
  obtain ⟨parentNode, held, kind, parentInode⟩ := place_directory s done built front place found
  have count := built.count
  have placed : place < s.tree.length := (List.getElem?_eq_some_iff.mp held).choose
  refine ⟨_, added, ?_, ?_, ?_, ?_, mapped_insert s.subRootMap done file built.mapped⟩
  · rw [grow, List.length_append, List.length_modify, count, List.length_append]
    rfl
  · obtain ⟨node, here, inode, directory, orphan⟩ := built.root
    obtain ⟨attributes, _, _, parent⟩ := addChild_same node place 0 (done.length + 2)
    exact ⟨_, grow_old _ place _ 0 _ node here, attributes ▸ inode, attributes ▸ directory, parent.trans orphan⟩
  · intro i other listed
    rcases Nat.lt_or_ge i done.length with inside | outside
    · rw [List.getElem?_append_left inside] at listed
      obtain ⟨node, here, entry⟩ := built.entry i other listed
      exact ⟨_, grow_old _ place _ (i + 1) _ node here, grown_entry done s.tree place _ _ i other file node inside entry⟩
    · have bound := (List.getElem?_eq_some_iff.mp listed).choose
      rw [List.length_append, List.length_singleton] at bound
      obtain rfl : i = done.length := by omega
      rw [List.getElem?_concat_length] at listed
      cases listed
      obtain ⟨attributes, _, _, _⟩ := addChild_same parentNode place place (done.length + 2)
      refine ⟨freshNode file last place (done.length + 2), ?_, rfl, rfl, rfl, front, parts, place, _, rfl, by omega,
        grow_old _ place _ place _ parentNode held, attributes ▸ kind, attributes ▸ parentInode, ?_⟩
      · rw [← count]
        exact grow_new s.tree place _ _
      · rw [List.take_left]
        exact found
  · intro p node inode here
    have next : done.length + 2 = s.tree.length + 1 := by omega
    rw [next] at here ⊢
    exact grown_children s done built file last place placed p node inode here

theorem add_all_built (s : TreeBuild) (done files : List FileDescription) (built : Built s done)
    (valid : ∀ file ∈ files, validateFileName file.name = .ok ()) : ∃ final, s.addAll files = .ok final ∧ Built final (done ++ files) := by
  induction files generalizing s done with
  | nil => exact ⟨s, rfl, by rwa [List.append_nil]⟩
  | cons file rest ih =>
      obtain ⟨here, later⟩ := List.forall_mem_cons.mp valid
      obtain ⟨next, added, grown⟩ := add_built s done file built here
      obtain ⟨final, all, whole⟩ := ih next (done ++ [file]) grown later
      refine ⟨final, ?_, by rwa [List.append_assoc, List.singleton_append] at whole⟩
      rw [TreeBuild.addAll, added]
      exact all

theorem build_tree_built (now : Int) (files : List FileDescription) (valid : ∀ file ∈ files, validateFileName file.name = .ok ()) :
    ∃ s, buildTree now files = .ok s.tree ∧ Built s files := by
  obtain ⟨s, all, built⟩ := add_all_built (.start now) [] files (start_built now) valid
  refine ⟨s, ?_, built⟩
  rw [buildTree, all]
  rfl

end GotechDesk.Clipboard
