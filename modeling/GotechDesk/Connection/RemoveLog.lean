import GotechDesk.FileTransfer.WriteJob

set_option autoImplicit false

namespace GotechDesk.Connection.RemoveLog

open GotechDesk.FileTransfer

@[ext]
structure FileRemoveFile where
  id : Int
  path : Name
deriving DecidableEq, Repr

@[ext]
structure FileRemoveDir where
  id : Int
  path : Name
deriving DecidableEq, Repr

structure FileActionLog where
  id : Int
  connId : Int
  path : Name
  dir : Bool
deriving DecidableEq, Repr

-- `instant` is the time of the last removal, in nanoseconds.
structure FileRemoveLogControl where
  connId : Int
  instant : Nat
  removedFiles : List FileRemoveFile
  removedDirs : List FileRemoveDir
deriving DecidableEq, Repr

def second : Nat := 1000000000

def FileRemoveLogControl.new (connId : Int) (now : Nat) : FileRemoveLogControl :=
  { connId := connId, instant := now, removedFiles := [], removedDirs := [] }

-- What a component is compared by: a drive in upper case, and a prefix that is not verbatim
-- with either separator.
def parsed : Component → Component
  | .pfx .disk text => .pfx .disk (text.map Char.toUpper)
  | .pfx .verbatimDisk text => .pfx .verbatimDisk (text.map Char.toUpper)
  | .pfx .unc text => .pfx .unc (slashed text)
  | .pfx .deviceNs text => .pfx .deviceNs (slashed text)
  | part => part

-- PathBuf::from(child).parent() == Some(PathBuf::from(parent))
def directChild (style : Style) (above child : Name) : Bool :=
  decide ((parent (style.components child)).map (List.map parsed) = some ((style.components above).map parsed))

-- FileTransferLog(("remove", ..)) before it is written as text.
def fileTransferLog (id connId : Int) (path : Name) (dir : Bool) : String × FileActionLog :=
  ("remove", { id := id, connId := connId, path := path, dir := dir })

def FileRemoveLogControl.onRemoveFile (c : FileRemoveLogControl) (now : Nat) (f : FileRemoveFile) :
    FileRemoveLogControl × Option (String × FileActionLog) :=
  ({ c with instant := now, removedFiles := c.removedFiles ++ [f] }, some (fileTransferLog f.id c.connId f.path false))

def FileRemoveLogControl.onRemoveDir (style : Style) (c : FileRemoveLogControl) (now : Nat) (d : FileRemoveDir) :
    FileRemoveLogControl × Option (String × FileActionLog) :=
  let removedFiles := c.removedFiles.filter (fun f => !directChild style f.path d.path)
  let removedDirs := c.removedDirs.filter (fun x => !directChild style d.path x.path)
  ({ c with instant := now, removedFiles := removedFiles,
            removedDirs := if removedDirs.any (fun x => directChild style x.path d.path) then removedDirs else removedDirs ++ [d] },
    some (fileTransferLog d.id c.connId d.path true))

def FileRemoveLogControl.onTimer (c : FileRemoveLogControl) (now : Nat) : List (String × FileActionLog) × FileRemoveLogControl :=
  if (now - c.instant) / second < 1 then ([], c)
  else
    (c.removedFiles.map (fun f => fileTransferLog f.id c.connId f.path false) ++
      c.removedDirs.map (fun d => fileTransferLog d.id c.connId d.path true),
      { c with removedFiles := [], removedDirs := [] })

inductive Removal where
  | file (f : FileRemoveFile)
  | dir (d : FileRemoveDir)
deriving DecidableEq, Repr

def Removal.path : Removal → Name
  | .file f => f.path
  | .dir d => d.path

def Removal.log (connId : Int) : Removal → String × FileActionLog
  | .file f => fileTransferLog f.id connId f.path false
  | .dir d => fileTransferLog d.id connId d.path true

def Removal.file? : Removal → Option FileRemoveFile
  | .file f => some f
  | .dir _ => none

def Removal.dir? : Removal → Option FileRemoveDir
  | .file _ => none
  | .dir d => some d

-- What reaches the control: a removal, or the tick of second_timer.
inductive Event where
  | removed (r : Removal)
  | timer
deriving DecidableEq, Repr

def Event.removal? : Event → Option Removal
  | .removed r => some r
  | .timer => none

def FileRemoveLogControl.take (style : Style) (c : FileRemoveLogControl) (event : Nat × Event) : FileRemoveLogControl :=
  match event.2 with
  | .removed (.file f) => (c.onRemoveFile event.1 f).1
  | .removed (.dir d) => (c.onRemoveDir style event.1 d).1
  | .timer => (c.onTimer event.1).2

def after (style : Style) (c : FileRemoveLogControl) (events : List (Nat × Event)) : FileRemoveLogControl :=
  events.foldl (FileRemoveLogControl.take style) c

def removals (events : List (Nat × Event)) : List Removal := events.filterMap (fun event => event.2.removal?)

-- No tick comes a second after the removal before it; `last` is the time of that one.
def Busy : Option Nat → List (Nat × Event) → Prop
  | _, [] => True
  | _, (now, .removed _) :: rest => Busy (some now) rest
  | none, (_, .timer) :: rest => Busy none rest
  | some last, (now, .timer) :: rest => (now - last) / second < 1 ∧ Busy (some last) rest

-- Nothing is removed from a directory that is removed already, and a file holds nothing.
structure Trees (style : Style) (removals : List Removal) : Prop where
  contentsFirst : removals.Pairwise (fun earlier later => ∀ d, earlier = .dir d → directChild style d.path later.path = false)
  leaves : ∀ f r, .file f ∈ removals → r ∈ removals → directChild style f.path r.path = false

-- The parent directory of a removed path was not removed.
def Top (style : Style) (removals : List Removal) (path : Name) : Prop := ∀ d, .dir d ∈ removals → directChild style d.path path = false

-- The reports are the topmost removed paths, each once.
structure Coalesced (style : Style) (removals : List Removal) (connId : Int) (reports : List (String × FileActionLog)) : Prop where
  once : reports.Nodup
  exactly : ∀ report, report ∈ reports ↔ ∃ r ∈ removals, Top style removals r.path ∧ report = r.log connId

def files (removals : List Removal) : List FileRemoveFile := removals.filterMap Removal.file?

def dirs (removals : List Removal) : List FileRemoveDir := removals.filterMap Removal.dir?

def topDirs (style : Style) (removals : List Removal) : List FileRemoveDir :=
  (dirs removals).filter (fun x => !(dirs removals).any (fun d => directChild style d.path x.path))

theorem mem_files (removals : List Removal) (f : FileRemoveFile) : f ∈ files removals ↔ .file f ∈ removals := by
  simp only [files, List.mem_filterMap]
  constructor
  · rintro ⟨r, member, found⟩
    cases r with
    | file g => exact Option.some.inj found ▸ member
    | dir d => cases found
  · exact fun member => ⟨.file f, member, rfl⟩

theorem mem_dirs (removals : List Removal) (d : FileRemoveDir) : d ∈ dirs removals ↔ .dir d ∈ removals := by
  simp only [dirs, List.mem_filterMap]
  constructor
  · rintro ⟨r, member, found⟩
    cases r with
    | file f => cases found
    | dir e => exact Option.some.inj found ▸ member
  · exact fun member => ⟨.dir d, member, rfl⟩

theorem mem_top_dirs (style : Style) (removals : List Removal) (d : FileRemoveDir) :
    d ∈ topDirs style removals ↔ .dir d ∈ removals ∧ Top style removals d.path := by
  simp only [topDirs, List.mem_filter, mem_dirs, Bool.not_eq_true', List.any_eq_false, Bool.not_eq_true, Top]

-- No path is its own parent.
theorem parent_apart (style : Style) (path : Name) : directChild style path path = false := by
  refine decide_eq_false (fun same => ?_)
  cases found : parent (style.components path) with
  | none =>
      rw [found] at same
      cases same
  | some above =>
      rw [found] at same
      have lengths := congrArg List.length (Option.some.inj same)
      rw [List.length_map, List.length_map] at lengths
      unfold parent at found
      split at found
      all_goals cases found
      all_goals
        rename_i last
        have filled : style.components path ≠ [] := by
          rintro none
          rw [none] at last
          cases last
        have positive := List.length_pos_iff.mpr filled
        rw [List.length_dropLast] at lengths
        omega

-- The two lists against everything removed so far.
structure Sound (style : Style) (past : List Removal) (last : Option Nat) (c : FileRemoveLogControl) : Prop where
  files : c.removedFiles = files past
  dirs : c.removedDirs = topDirs style past
  instant : ∀ now, last = some now → c.instant = now
  first : last = none → past = []

section
variable (style : Style) (past : List Removal)

theorem sound_file (last : Option Nat) (c : FileRemoveLogControl) (now : Nat) (f : FileRemoveFile)
    (sound : Sound style past last c) : Sound style (past ++ [.file f]) (some now) (c.onRemoveFile now f).1 := by
  refine ⟨?_, ?_, ?_, nofun⟩
  · simp [FileRemoveLogControl.onRemoveFile, sound.files, files, Removal.file?]
  · simp [FileRemoveLogControl.onRemoveFile, sound.dirs, topDirs, dirs, Removal.dir?]
  · exact fun time same => Option.some.inj same

theorem files_kept (d : FileRemoveDir) (trees : Trees style (past ++ [.dir d])) :
    (files past).filter (fun f => !directChild style f.path d.path) = files past := by
  refine List.filter_eq_self.mpr (fun f member => ?_)
  have leaf := trees.leaves f (.dir d) (List.mem_append_left _ ((mem_files past f).mp member)) (List.mem_append_right _ (List.mem_singleton_self _))
  rw [show directChild style f.path d.path = false from leaf]
  rfl

-- A directory takes its removed sub-directories with it, and none of its own parents is there.
theorem dirs_grow (d : FileRemoveDir) (trees : Trees style (past ++ [.dir d])) :
    (if ((topDirs style past).filter (fun x => !directChild style d.path x.path)).any (fun x => directChild style x.path d.path) then
        (topDirs style past).filter (fun x => !directChild style d.path x.path)
      else (topDirs style past).filter (fun x => !directChild style d.path x.path) ++ [d]) = topDirs style (past ++ [.dir d]) := by
  obtain ⟨_, _, between⟩ := List.pairwise_append.mp trees.contentsFirst
  have above : ∀ x ∈ dirs past, directChild style x.path d.path = false :=
    fun x member => between (.dir x) ((mem_dirs past x).mp member) (.dir d) (List.mem_singleton_self _) x rfl
  have none : ¬ ((topDirs style past).filter (fun x => !directChild style d.path x.path)).any (fun x => directChild style x.path d.path) = true := by
    intro found
    obtain ⟨x, member, child⟩ := List.any_eq_true.mp found
    rw [above x (List.mem_of_mem_filter (List.mem_of_mem_filter member))] at child
    cases child
  have grown : dirs (past ++ [.dir d]) = dirs past ++ [d] := by simp [dirs, Removal.dir?]
  have self : (dirs past ++ [d]).any (fun x => directChild style x.path d.path) = false := by
    refine List.any_eq_false.mpr (fun x member => ?_)
    rcases List.mem_append.mp member with old | new
    · rw [above x old]
      exact Bool.false_ne_true
    · rw [List.mem_singleton.mp new, parent_apart style d.path]
      exact Bool.false_ne_true
  rw [if_neg none, topDirs, topDirs, grown, List.filter_append, List.filter_filter]
  congr 1
  · refine List.filter_congr (fun x _ => ?_)
    rw [List.any_append, Bool.not_or, Bool.and_comm]
    simp
  · simp only [List.filter_cons, self, Bool.not_false, if_true, List.filter_nil]

section
variable (last : Option Nat) (c : FileRemoveLogControl) (now : Nat)

theorem sound_dir (d : FileRemoveDir) (sound : Sound style past last c) (trees : Trees style (past ++ [.dir d])) :
    Sound style (past ++ [.dir d]) (some now) (c.onRemoveDir style now d).1 := by
  refine ⟨?_, ?_, ?_, nofun⟩
  · change c.removedFiles.filter _ = _
    rw [sound.files, files_kept style past d trees]
    simp [files, Removal.file?]
  · rw [← dirs_grow style past d trees]
    simp only [FileRemoveLogControl.onRemoveDir, sound.dirs]
  · exact fun time same => Option.some.inj same

-- A tick within a second of the last removal, or before the first one, changes nothing.
theorem timer_silent (sound : Sound style past last c) (soon : ∀ time, last = some time → (now - time) / second < 1) : c.onTimer now = ([], c) := by
  unfold FileRemoveLogControl.onTimer
  by_cases early : (now - c.instant) / second < 1
  · rw [if_pos early]
  · rw [if_neg early]
    cases known : last with
    | some time => exact absurd (sound.instant time known ▸ soon time known) early
    | none =>
        have nothing := sound.first known
        have files := sound.files
        have dirs := sound.dirs
        rw [nothing] at files dirs
        obtain ⟨connId, instant, removedFiles, removedDirs⟩ := c
        change removedFiles = [] at files
        change removedDirs = [] at dirs
        rw [files, dirs]
        rfl

end

end

theorem trees_front (style : Style) (front rest : List Removal) (trees : Trees style (front ++ rest)) : Trees style front :=
  { contentsFirst := (List.pairwise_append.mp trees.contentsFirst).1
    leaves := fun f r file member => trees.leaves f r (List.mem_append_left _ file) (List.mem_append_left _ member) }

theorem run_sound (style : Style) (events : List (Nat × Event)) (past : List Removal) (last : Option Nat) (c : FileRemoveLogControl)
    (sound : Sound style past last c) (busy : Busy last events) (trees : Trees style (past ++ removals events)) :
    (after style c events).connId = c.connId ∧ ∃ final, Sound style (past ++ removals events) final (after style c events) ∧
      ∀ time, final = some time → last = some time ∨ ∃ r, (time, .removed r) ∈ events := by
  induction events generalizing past last c with
  | nil => exact ⟨rfl, last, by simpa [removals, after] using sound, fun time same => .inl same⟩
  | cons event rest ih =>
      obtain ⟨now, event⟩ := event
      cases event with
      | removed r =>
          have split : past ++ removals ((now, .removed r) :: rest) = (past ++ [r]) ++ removals rest := by simp [removals, Event.removal?]
          rw [split] at trees ⊢
          have front := trees_front style _ _ trees
          have stepped : Sound style (past ++ [r]) (some now) (c.take style (now, .removed r)) := by
            cases r with
            | file f => exact sound_file style past last c now f sound
            | dir d => exact sound_dir style past last c now d sound front
          have own : (c.take style (now, .removed r)).connId = c.connId := by cases r <;> rfl
          have later : Busy (some now) rest := by cases last <;> exact busy
          obtain ⟨conn, final, settled, origin⟩ := ih (past ++ [r]) (some now) _ stepped later trees
          refine ⟨conn.trans own, final, settled, fun time same => ?_⟩
          rcases origin time same with here | ⟨s, member⟩
          · exact .inr ⟨r, by rw [Option.some.inj here]; exact List.mem_cons_self⟩
          · exact .inr ⟨s, List.mem_cons_of_mem _ member⟩
      | timer =>
          have soon : (∀ time, last = some time → (now - time) / second < 1) ∧ Busy last rest := by
            cases last with
            | none => exact ⟨nofun, busy⟩
            | some time => exact ⟨fun other same => Option.some.inj same ▸ busy.1, busy.2⟩
          have same : c.take style (now, .timer) = c := by
            change (c.onTimer now).2 = c
            rw [timer_silent style past last c now sound soon.1]
          have unchanged : removals ((now, .timer) :: rest) = removals rest := rfl
          have next : after style c ((now, .timer) :: rest) = after style c rest := by
            change after style (c.take style (now, .timer)) rest = _
            rw [same]
          rw [unchanged] at trees ⊢
          rw [next]
          obtain ⟨conn, final, settled, origin⟩ := ih past last c sound soon.2 trees
          exact ⟨conn, final, settled, fun time known => (origin time known).imp_right (fun ⟨s, member⟩ => ⟨s, List.mem_cons_of_mem _ member⟩)⟩

theorem log_injective (connId : Int) : Function.Injective (Removal.log connId) := by
  intro r s same
  cases r with
  | file f =>
      cases s with
      | file g => simpa [Removal.log, fileTransferLog, FileRemoveFile.ext_iff] using same
      | dir d => simp [Removal.log, fileTransferLog] at same
  | dir d =>
      cases s with
      | file g => simp [Removal.log, fileTransferLog] at same
      | dir e => simpa [Removal.log, fileTransferLog, FileRemoveDir.ext_iff] using same

-- What the tick after a quiet second reports, as removals.
def reported (style : Style) (removals : List Removal) : List Removal := (files removals).map .file ++ (topDirs style removals).map .dir

theorem mem_reported (style : Style) (removals : List Removal) (r : Removal) :
    r ∈ reported style removals ↔ r ∈ removals ∧ ∀ d, r = .dir d → Top style removals d.path := by
  simp only [reported, List.mem_append, List.mem_map, mem_files, mem_top_dirs]
  constructor
  · rintro (⟨f, member, rfl⟩ | ⟨d, ⟨member, top⟩, rfl⟩)
    · exact ⟨member, nofun⟩
    · exact ⟨member, fun e same => Removal.dir.inj same ▸ top⟩
  · rintro ⟨member, top⟩
    cases r with
    | file f => exact .inl ⟨f, member, rfl⟩
    | dir d => exact .inr ⟨d, ⟨member, top d rfl⟩, rfl⟩

theorem nodup_reported (style : Style) (removals : List Removal) (distinct : removals.Nodup) : (reported style removals).Nodup := by
  have fileNodup : (files removals).Nodup := by
    refine List.Nodup.filterMap ?_ distinct
    intro r s f first second
    cases r <;> cases s <;> simp_all [Removal.file?]
  have dirNodup : (topDirs style removals).Nodup := by
    refine List.Nodup.filter _ (List.Nodup.filterMap ?_ distinct)
    intro r s d first second
    cases r <;> cases s <;> simp_all [Removal.dir?]
  refine List.nodup_append.mpr ⟨fileNodup.map fun _ _ => Removal.file.inj, dirNodup.map fun _ _ => Removal.dir.inj, ?_⟩
  intro r file s dir same
  obtain ⟨f, _, rfl⟩ := List.mem_map.mp file
  obtain ⟨d, _, rfl⟩ := List.mem_map.mp dir
  cases same

theorem report_spec (style : Style) (c : FileRemoveLogControl) (events : List (Nat × Event)) (now : Nat)
    (empty : c.removedFiles = [] ∧ c.removedDirs = []) (busy : Busy none events) (trees : Trees style (removals events))
    (quiet : ∀ time r, (time, .removed r) ∈ events → time + second ≤ now) :
    ((after style c events).onTimer now).1 = (reported style (removals events)).map (Removal.log c.connId) ∧
      ((after style c events).onTimer now).2.removedFiles = [] ∧ ((after style c events).onTimer now).2.removedDirs = [] := by
  have start : Sound style [] none c := ⟨empty.1, empty.2, nofun, fun _ => rfl⟩
  obtain ⟨own, final, sound, origin⟩ := run_sound style events [] none c start busy trees
  rw [List.nil_append] at sound
  generalize after style c events = reached at own sound
  unfold FileRemoveLogControl.onTimer
  by_cases early : (now - reached.instant) / second < 1
  · rw [if_pos early]
    have nothing : removals events = [] := by
      cases known : final with
      | none => exact sound.first known
      | some time =>
          rcases origin time known with same | ⟨r, member⟩
          · cases same
          · rw [sound.instant time known] at early
            have passed := quiet time r member
            have small := (Nat.div_lt_iff_lt_mul (by decide : 0 < second)).mp early
            omega
    have files := sound.files
    have dirs := sound.dirs
    rw [nothing] at files dirs ⊢
    exact ⟨rfl, files, dirs⟩
  · rw [if_neg early]
    refine ⟨?_, rfl, rfl⟩
    simp only [reported, List.map_append, List.map_map, sound.files, sound.dirs, own]
    rfl

-- After a quiet second the reports are the topmost removed paths exactly when no removed file lies
-- directly in a removed directory; both lists are empty in any case.
theorem removals_coalesced (style : Style) (c : FileRemoveLogControl) (events : List (Nat × Event)) (now : Nat)
    (empty : c.removedFiles = [] ∧ c.removedDirs = []) (busy : Busy none events) (trees : Trees style (removals events))
    (distinct : ((removals events).map Removal.path).Nodup) (quiet : ∀ time r, (time, .removed r) ∈ events → time + second ≤ now) :
    (Coalesced style (removals events) c.connId ((after style c events).onTimer now).1 ∧
      ((after style c events).onTimer now).2.removedFiles = [] ∧ ((after style c events).onTimer now).2.removedDirs = []) ↔
      ∀ f d, .file f ∈ removals events → .dir d ∈ removals events → directChild style d.path f.path = false := by
  obtain ⟨reports, noFiles, noDirs⟩ := report_spec style c events now empty busy trees quiet
  rw [reports]
  constructor
  · rintro ⟨coalesced, _⟩ f d file dir
    have listed : Removal.file f ∈ reported style (removals events) := (mem_reported style _ _).mpr ⟨file, nofun⟩
    obtain ⟨r, _, top, same⟩ := (coalesced.exactly _).mp (List.mem_map_of_mem listed)
    obtain rfl := log_injective c.connId same
    exact top d dir
  · intro apart
    refine ⟨⟨(nodup_reported style _ distinct.of_map).map (log_injective c.connId), ?_⟩, noFiles, noDirs⟩
    intro report
    simp only [List.mem_map, mem_reported]
    constructor
    · rintro ⟨r, ⟨member, top⟩, rfl⟩
      refine ⟨r, member, ?_, rfl⟩
      cases r with
      | file f => exact fun d dir => apart f d member dir
      | dir d => exact top d rfl
    · rintro ⟨r, member, top, rfl⟩
      exact ⟨r, ⟨member, fun d same => by cases same; exact top⟩, rfl⟩

-- A tree of empty directories and a file on its own, with a tick in between.
def emptyTree : List (Nat × Event) :=
  [(0, .removed (.dir ⟨1, ['/', 'a', '/', 'b']⟩)), (900000000, .timer), (950000000, .removed (.dir ⟨1, ['/', 'a']⟩)),
    (960000000, .removed (.file ⟨1, ['/', 'f']⟩))]

theorem empty_tree_trees : Trees .unix (removals emptyTree) := by
  refine ⟨?_, ?_⟩
  · simp only [removals, emptyTree, List.filterMap_cons, List.filterMap_nil, Event.removal?, List.pairwise_cons, List.forall_mem_cons, List.Pairwise.nil]
    refine ⟨⟨?_, ?_, nofun⟩, ⟨?_, nofun⟩, nofun, trivial⟩
    all_goals
      intro d same
      cases same
      decide
  · simp only [removals, emptyTree, List.filterMap_cons, List.filterMap_nil, Event.removal?, List.mem_cons, List.not_mem_nil, or_false]
    rintro f r (same | same | same) (rfl | rfl | rfl)
    all_goals cases same
    all_goals decide

theorem removals_coalesced_empty :
    Coalesced .unix (removals emptyTree) 7 ((after .unix (.new 7 0) emptyTree).onTimer 2000000000).1 ∧
      ((after .unix (.new 7 0) emptyTree).onTimer 2000000000).2.removedFiles = [] ∧
      ((after .unix (.new 7 0) emptyTree).onTimer 2000000000).2.removedDirs = [] := by
  refine (removals_coalesced .unix (.new 7 0) emptyTree 2000000000 ⟨rfl, rfl⟩ ⟨by decide, trivial⟩ empty_tree_trees (by decide) ?_).mpr ?_
  · simp only [emptyTree, List.mem_cons, List.not_mem_nil, or_false, Prod.mk.injEq, reduceCtorEq, and_false, false_or]
    rintro time r (⟨rfl, _⟩ | ⟨rfl, _⟩ | ⟨rfl, _⟩) <;> decide
  · simp only [removals, emptyTree, List.filterMap_cons, List.filterMap_nil, Event.removal?, List.mem_cons, List.not_mem_nil, or_false]
    rintro f d (same | same | same) (other | other | other)
    all_goals cases same
    all_goals cases other
    all_goals decide

-- One file and then its directory: both are reported.
def fileInDirectory : List (Nat × Event) := [(0, .removed (.file ⟨1, ['/', 'a', '/', 'f']⟩)), (1, .removed (.dir ⟨1, ['/', 'a']⟩))]

theorem file_in_directory_reported :
    Busy none fileInDirectory ∧ ((removals fileInDirectory).map Removal.path).Nodup ∧ Trees .unix (removals fileInDirectory) ∧
      (∀ time r, (time, .removed r) ∈ fileInDirectory → time + second ≤ 2000000000) ∧
      ¬ Coalesced .unix (removals fileInDirectory) 7 ((after .unix (.new 7 0) fileInDirectory).onTimer 2000000000).1 := by
  refine ⟨trivial, by decide, ⟨?_, ?_⟩, ?_, ?_⟩
  · exact List.pairwise_pair.mpr nofun
  · simp only [removals, fileInDirectory, List.filterMap_cons, List.filterMap_nil, Event.removal?, List.mem_cons, List.not_mem_nil, or_false]
    rintro f r (same | same) (rfl | rfl)
    all_goals cases same
    all_goals decide
  · simp only [fileInDirectory, List.mem_cons, List.not_mem_nil, or_false, Prod.mk.injEq]
    rintro time r (⟨rfl, _⟩ | ⟨rfl, _⟩) <;> decide
  · intro coalesced
    obtain ⟨r, member, top, same⟩ := (coalesced.exactly (Removal.log 7 (.file ⟨1, ['/', 'a', '/', 'f']⟩))).mp (by decide)
    obtain rfl := log_injective 7 same
    exact absurd (top ⟨1, ['/', 'a']⟩ (by decide)) (by decide)

end GotechDesk.Connection.RemoveLog
