import GotechDesk.FileTransfer.PathJoin
import GotechDesk.FileTransfer.WriteJob

set_option autoImplicit false

namespace GotechDesk.FileTransfer

open Segments

def isLink (nodes : Key → Option Node) (key : Key) : Prop := ∃ target, nodes key = some (.link target)

-- The base followed by one or more ordinary segments, with no link among them.
structure Contained (style : Style) (nodes : Key → Option Node) (target : Target) : Prop where
  below : ∃ names : List Name, names ≠ [] ∧ target.key style = style.key target.base ++ names.map Component.normal
  unlinked : ∀ key, key <+: target.key style → (style.key target.base).length < key.length → ¬ isLink nodes key

def AllContained (style : Style) (base : Name) (log : List (Target × (Key → Option Node))) : Prop :=
  ∀ target nodes, (target, nodes) ∈ log → target.base = base ∧ Contained style nodes target

-- The paths the symlink check asks about.
def looked (style : Style) : Name → List Component → List Key
  | _, [] => []
  | current, .normal segment :: rest => style.key (style.push current segment) :: looked style (style.push current segment) rest
  | current, .curDir :: rest => looked style current rest
  | _, _ :: _ => []

-- When a target that passed the check is contained: the join has kept the prefix and the root of the
-- base and added to it, and none of the paths that the check did not ask about is a link.
structure Free (style : Style) (nodes : Key → Option Node) (target : Target) : Prop where
  lead : style.lead (target.path style) = style.lead target.base
  longer : (style.key target.base).length < (target.key style).length
  unlinked : ∀ key, key <+: target.key style → (style.key target.base).length < key.length →
    key ∉ looked style target.base (style.components target.name) → ¬ isLink nodes key

theorem walk_looked (style : Style) (fs : FileSystem) (current : Name) (parts : List Component)
    (walked : walkComponents style fs current parts = .ok ()) : ∀ key ∈ looked style current parts, ¬ isLink fs.node key := by
  induction parts generalizing current with
  | nil =>
      intro key member
      cases member
  | cons part rest ih =>
      cases part with
      | normal segment =>
          unfold walkComponents at walked
          intro key member
          unfold looked at member
          cases seen : fs.symlinkMetadata (style.key (style.push current segment)) with
          | symlink => simp [seen] at walked
          | failed text => simp [seen] at walked
          | notFound | other =>
              simp only [seen] at walked
              obtain same | member := List.mem_cons.mp member
              · rintro ⟨target, linked⟩
                rw [same] at linked
                unfold FileSystem.symlinkMetadata at seen
                split at seen <;> simp_all
              · exact ih _ walked key member
      | curDir =>
          unfold walkComponents at walked
          unfold looked
          exact ih current walked
      | pfx kind text => cases walked
      | rootDir => cases walked
      | parentDir => cases walked

-- What a name that was checked against the nodes is known to be.
structure Checked (style : Style) (nodes : Key → Option Node) (base name : Name) : Prop where
  plain : PlainName style name
  named : name ≠ []
  asked : ∀ key ∈ looked style base (style.components name), ¬ isLink nodes key

theorem checked_of_joined (style : Style) (fs : FileSystem) (base name path : Name) (named : name ≠ [])
    (joined : joinValidatedPath style fs base name = .ok path) : Checked style fs.node base name := by
  unfold joinValidatedPath at joined
  cases valid : validateFileNameNoTraversal style name with
  | error text => simp [valid] at joined
  | ok unit =>
      cases walked : validateNoSymlinkComponents style fs base name with
      | error text => simp [valid, walked] at joined
      | ok unit =>
          refine ⟨plainName_of_validated style name valid, named, ?_⟩
          unfold validateNoSymlinkComponents at walked
          rw [if_neg named] at walked
          exact walk_looked style fs base _ walked

theorem contained_iff (style : Style) (nodes : Key → Option Node) (target : Target) (checked : Checked style nodes target.base target.name) :
    Contained style nodes target ↔ Free style nodes target := by
  constructor
  · intro contained
    obtain ⟨names, some, key⟩ := contained.below
    refine ⟨?_, ?_, fun path inside longer _ => contained.unlinked path inside longer⟩
    · have pathLead := lead_eq_takeWhile style (target.path style)
      have shape : style.key (target.path style) = style.lead target.base ++
          (FileTransfer.names (style.verbatim target.base) (segments (style.bodySep target.base) (style.bodyText target.base)) ++
            names.map Component.normal) := by
        rw [← List.append_assoc, ← key_eq]
        exact key
      rw [pathLead, shape, takeWhile_lead _ _ (lead_isLead style target.base)]
      intro part member
      obtain inBase | inNames := List.mem_append.mp member
      · exact names_not_lead _ _ part inBase
      · obtain ⟨segment, _, rfl⟩ := List.mem_map.mp inNames
        rfl
    · rw [key, List.length_append, List.length_map]
      have := List.length_pos_iff.mpr some
      omega
  · intro free
    refine ⟨key_below style target checked.plain checked.named free.lead free.longer, ?_⟩
    intro key inside longer
    by_cases asked : key ∈ looked style target.base (style.components target.name)
    · exact checked.asked key asked
    · exact free.unlinked key inside longer asked

-- Two states of the nodes with the same links.
def SameLinks (before after : Key → Option Node) : Prop := ∀ key, isLink after key ↔ isLink before key

theorem sameLinks_update (nodes : Key → Option Node) (key : Key) (node : Option Node) (was : ¬ isLink nodes key)
    (isNot : ∀ target, node ≠ some (.link target)) : SameLinks nodes (Function.update nodes key node) := by
  intro other
  by_cases same : other = key
  · constructor
    · rintro ⟨target, linked⟩
      rw [same, Function.update_self] at linked
      exact absurd linked (isNot target)
    · intro linked
      rw [same] at linked
      exact absurd linked was
  · simp [isLink, Function.update_of_ne same]

section
variable (style : Style) (before after : Key → Option Node)

theorem contained_sameLinks (target : Target) (same : SameLinks before after) : Contained style after target ↔ Contained style before target := by
  constructor
  · intro contained
    exact ⟨contained.below, fun key inside longer linked => contained.unlinked key inside longer ((same key).mpr linked)⟩
  · intro contained
    exact ⟨contained.below, fun key inside longer linked => contained.unlinked key inside longer ((same key).mp linked)⟩

theorem free_sameLinks (target : Target) (same : SameLinks before after) : Free style after target ↔ Free style before target := by
  constructor
  · intro free
    exact ⟨free.lead, free.longer, fun key inside longer unasked linked => free.unlinked key inside longer unasked ((same key).mpr linked)⟩
  · intro free
    exact ⟨free.lead, free.longer, fun key inside longer unasked linked => free.unlinked key inside longer unasked ((same key).mp linked)⟩

theorem checked_sameLinks (base name : Name) (same : SameLinks before after)
    (checked : Checked style before base name) : Checked style after base name :=
  ⟨checked.plain, checked.named, fun key member linked => checked.asked key member ((same key).mp linked)⟩

end

-- A contained target is itself no link.
theorem contained_not_link (style : Style) (nodes : Key → Option Node) (target : Target) (contained : Contained style nodes target) :
    ¬ isLink nodes (target.key style) := by
  obtain ⟨names, some, key⟩ := contained.below
  apply contained.unlinked _ (List.prefix_refl _)
  rw [key, List.length_append, List.length_map]
  have := List.length_pos_iff.mpr some
  omega

theorem attempt_touched (fs : FileSystem) (call : Call) (key : Key) (done : Option FileSystem)
    (kept : ∀ after, done = some after → after.touched = fs.touched) : (fs.attempt call key done).1.touched = fs.touched := by
  unfold FileSystem.attempt
  split
  · rfl
  · exact kept _ rfl
  · rfl

section
variable (fs after : FileSystem)

theorem removeAt_touched (key : Key) (done : fs.removeAt key = some after) : after.touched = fs.touched := by
  unfold FileSystem.removeAt at done
  split at done
  · cases done
  · cases done
  · cases done
    rfl

theorem renameTo_touched (source target : Key) (done : fs.renameTo source target = some after) : after.touched = fs.touched := by
  unfold FileSystem.renameTo at done
  split at done
  · cases done
  · split at done
    · cases done
      rfl
    · cases done
  · split at done
    · cases done
    · split at done
      · cases done
        rfl
      · cases done
        rfl

theorem createAt_touched (key : Key) (done : fs.createAt key = some after) : after.touched = fs.touched := by
  unfold FileSystem.createAt at done
  split at done
  · cases done
  · split at done
    · cases done
    · split at done
      · cases done
        rfl
      · cases done

theorem writeFileAt_touched (key : Key) (content : Bytes) (done : fs.writeFileAt key content = some after) : after.touched = fs.touched := by
  unfold FileSystem.writeFileAt at done
  split at done
  · cases done
  · split at done
    · cases done
    · split at done
      · cases done
        rfl
      · cases done

theorem openAt_touched (key : Key) (done : fs.openAt key = some after) : after.touched = fs.touched := by
  unfold FileSystem.openAt at done
  split at done
  · cases done
  · split at done
    · cases done
      rfl
    · cases done

end

section
variable (style : Style) (fs : FileSystem)

theorem removeFile_touched (target : Target) : (fs.removeFile style target).1.touched = fs.touched ++ [(target, fs.node)] :=
  attempt_touched (fs.touch target) _ _ _ (fun after done => removeAt_touched _ after _ done)

theorem rename_touched (source target : Target) :
    (fs.rename style source target).1.touched = fs.touched ++ [(source, fs.node), (target, fs.node)] := by
  have same := attempt_touched ((fs.touch source).touch target) .rename (source.key style) _
    (fun after done => renameTo_touched _ after (source.key style) (target.key style) done)
  exact same.trans (List.append_assoc _ _ _)

theorem create_touched (target : Target) : (fs.create style target).1.touched = fs.touched ++ [(target, fs.node)] :=
  attempt_touched (fs.touch target) _ _ _ (fun after done => createAt_touched _ after _ done)

theorem writeFile_touched (target : Target) (content : Bytes) : (fs.writeFile style target content).1.touched = fs.touched ++ [(target, fs.node)] :=
  attempt_touched (fs.touch target) _ _ _ (fun after done => writeFileAt_touched _ after _ content done)

theorem openWrite_touched (target : Target) : (fs.openWrite style target).1.touched = fs.touched ++ [(target, fs.node)] :=
  attempt_touched (fs.touch target) _ _ _ (fun after done => openAt_touched _ after _ done)

end

theorem attempt_links (fs : FileSystem) (call : Call) (key : Key) (done : Option FileSystem)
    (kept : ∀ after, done = some after → SameLinks fs.node after.node) : SameLinks fs.node (fs.attempt call key done).1.node := by
  unfold FileSystem.attempt
  split
  · exact fun _ => Iff.rfl
  · exact kept _ rfl
  · exact fun _ => Iff.rfl

theorem removeFile_links (style : Style) (fs : FileSystem) (target : Target) (unlinked : ¬ isLink fs.node (target.key style)) :
    SameLinks fs.node (fs.removeFile style target).1.node := by
  apply attempt_links (fs.touch target)
  intro after done
  unfold FileSystem.removeAt at done
  split at done
  · cases done
  · cases done
  · cases done
    exact sameLinks_update fs.node (target.key style) none unlinked (by simp)

theorem real_unlinked (fs : FileSystem) (key : Key) (unlinked : ¬ isLink fs.node key) : fs.real key = some key := by
  unfold FileSystem.real
  unfold follow
  split
  · rename_i target linked
    exact absurd ⟨target, linked⟩ unlinked
  · rfl

theorem create_links (style : Style) (fs : FileSystem) (target : Target) (unlinked : ¬ isLink fs.node (target.key style)) :
    SameLinks fs.node (fs.create style target).1.node := by
  apply attempt_links (fs.touch target)
  intro after done
  unfold FileSystem.createAt at done
  rw [real_unlinked (fs.touch target) (target.key style) unlinked] at done
  dsimp only at done
  split at done
  · cases done
  · split at done
    · cases done
      exact sameLinks_update fs.node (target.key style) _ unlinked (by simp)
    · cases done

-- What a directory creation leaves of the state: no link comes or goes.
def DirsOnly (before after : FileSystem) : Prop := SameLinks before.node after.node ∧ after.touched = before.touched

theorem createDirAll_dirsOnly (fs : FileSystem) (key : Key) : DirsOnly fs (fs.createDirAll key) := by
  refine createDirAll_keeps fs key (DirsOnly fs) ⟨fun _ => Iff.rfl, rfl⟩ ?_
  intro now path _ _ absent kept
  refine ⟨?_, kept.2⟩
  intro other
  have step := sameLinks_update now.node path (some .dir) (by rintro ⟨target, linked⟩; simp [absent] at linked) (by simp)
  exact (step other).trans (kept.1 other)

theorem createParent_dirsOnly (fs : FileSystem) (key : Key) : DirsOnly fs (fs.createParent key) := by
  unfold FileSystem.createParent
  cases parent key with
  | none => exact ⟨fun _ => Iff.rfl, rfl⟩
  | some directory => exact createDirAll_dirsOnly fs directory

theorem validateEach_named (style : Style) (files : List FileEntry) (valid : validateEach style files = .ok ()) :
    ∀ file ∈ files, file.name ≠ [] := by
  induction files with
  | nil => simp
  | cons first rest ih =>
      unfold validateEach at valid
      split at valid
      · cases valid
      · rename_i named
        split at valid
        · cases valid
        · intro file member
          obtain same | member := List.mem_cons.mp member
          · rw [same]
            exact named
          · exact ih valid file member

-- A list of files that was accepted, other than the one file without a name.
structure Accepted (style : Style) (files : List FileEntry) : Prop where
  valid : validateTransferFileNames style files = .ok ()
  several : files.map FileEntry.name ≠ [[]]

theorem accepted_named (style : Style) (files : List FileEntry) (accepted : Accepted style files) : ∀ file ∈ files, file.name ≠ [] := by
  have valid := accepted.valid
  unfold validateTransferFileNames at valid
  split at valid
  · rename_i single
    exfalso
    apply accepted.several
    rw [Bool.and_eq_true, decide_eq_true_eq] at single
    obtain ⟨file, rfl⟩ := List.length_eq_one_iff.mp single.1
    simpa using single.2
  · exact validateEach_named style files valid

section
variable (style : Style) (fs : FileSystem) (job : TransferJob) (entry : FileEntry)

theorem resolved_checked (generic : job.type = .generic) (named : entry.name ≠ []) (path : (job.resolveEntryPath style fs entry.name).isSome = true) :
    Checked style fs.node job.base entry.name := by
  unfold TransferJob.resolveEntryPath at path
  rw [generic] at path
  cases joined : joinValidatedPath style fs job.base entry.name with
  | error text => simp [joined, Except.toOption] at path
  | ok path => exact checked_of_joined style fs job.base entry.name path named joined

theorem resolved_entry (found : job.resolved style fs = some entry) :
    entry ∈ job.files ∧ (job.resolveEntryPath style fs entry.name).isSome = true := by
  unfold TransferJob.resolved at found
  obtain ⟨listed, path⟩ := Option.filter_eq_some_iff.mp found
  exact ⟨List.mem_of_getElem? listed, path⟩

end

-- The first target is removed, the others are used after that: what is asked of the nodes can be
-- asked before the removal, since only a link that goes would make a difference.
theorem contained_after_removal (style : Style) (fs : FileSystem) (first : Target) (others : List Target)
    (checkedFirst : Checked style fs.node first.base first.name) (checked : ∀ target ∈ others, Checked style fs.node target.base target.name) :
    (Contained style fs.node first ∧ ∀ target ∈ others, Contained style (fs.removeFile style first).1.node target) ↔
      (Free style fs.node first ∧ ∀ target ∈ others, Free style fs.node target) := by
  constructor
  · rintro ⟨contained, rest⟩
    have same := removeFile_links style fs first (contained_not_link style fs.node first contained)
    refine ⟨(contained_iff style fs.node first checkedFirst).mp contained, ?_⟩
    intro target member
    exact (contained_iff style fs.node target (checked target member)).mp
      ((contained_sameLinks style fs.node _ target same).mp (rest target member))
  · rintro ⟨free, rest⟩
    have contained := (contained_iff style fs.node first checkedFirst).mpr free
    have same := removeFile_links style fs first (contained_not_link style fs.node first contained)
    refine ⟨contained, ?_⟩
    intro target member
    exact (contained_sameLinks style fs.node _ target same).mpr
      ((contained_iff style fs.node target (checked target member)).mpr (rest target member))

def ModifySafe (style : Style) (fs : FileSystem) (job : TransferJob) : Prop :=
  ∀ entry, job.resolved style fs = some entry → Free style fs.node (job.target entry.name .digest) ∧
    Free style fs.node (job.target entry.name .download) ∧ Free style fs.node (job.target entry.name .entry)

def RemoveSafe (style : Style) (fs : FileSystem) (job : TransferJob) : Prop :=
  ∀ entry, job.resolved style fs = some entry →
    Free style fs.node (job.target entry.name .download) ∧ Free style fs.node (job.target entry.name .digest)

section
variable (style : Style) (fs : FileSystem) (job : TransferJob)

-- What touches one file of the entry, which it removes, and then others.
theorem cleared_contained (next : FileSystem) (first : Role) (others : List Role) (generic : job.type = .generic)
    (named : ∀ file ∈ job.files, file.name ≠ []) (fresh : fs.touched = []) (absent : job.resolved style fs = none → next = fs)
    (touched : ∀ entry, job.resolved style fs = some entry → next.touched = (job.target entry.name first, fs.node) ::
      others.map (fun role => (job.target entry.name role, (fs.removeFile style (job.target entry.name first)).1.node))) :
    AllContained style job.base next.touched ↔ ∀ entry, job.resolved style fs = some entry →
      Free style fs.node (job.target entry.name first) ∧ ∀ role ∈ others, Free style fs.node (job.target entry.name role) := by
  cases found : job.resolved style fs with
  | none => simp [AllContained, absent found, fresh]
  | some entry =>
      obtain ⟨listed, path⟩ := resolved_entry style fs job entry found
      have checked := resolved_checked style fs job entry generic (named entry listed) path
      have both := contained_after_removal style fs (job.target entry.name first) (others.map (job.target entry.name)) checked
        (List.forall_mem_map.mpr (fun _ _ => checked))
      rw [List.forall_mem_map, List.forall_mem_map] at both
      rw [touched entry found]
      constructor
      · intro contained same equal
        obtain rfl := Option.some.inj equal
        exact both.mp ⟨(contained _ _ List.mem_cons_self).2,
          fun role member => (contained _ _ (List.mem_cons_of_mem _ (List.mem_map.mpr ⟨role, member, rfl⟩))).2⟩
      · intro free target nodes member
        obtain ⟨own, rest⟩ := both.mpr (free entry rfl)
        rcases List.mem_cons.mp member with same | later
        · cases same
          exact ⟨rfl, own⟩
        · obtain ⟨role, among, same⟩ := List.mem_map.mp later
          cases same
          exact ⟨rfl, rest role among⟩

theorem modifyTime_contained (generic : job.type = .generic) (named : ∀ file ∈ job.files, file.name ≠ []) (fresh : fs.touched = []) :
    AllContained style job.base (job.modifyTime style fs).touched ↔ ModifySafe style fs job := by
  refine (cleared_contained style fs job _ .digest [.download, .entry] generic named fresh ?_ ?_).trans (by simp [ModifySafe])
  · intro found
    simp [TransferJob.modifyTime, generic, found]
  · intro entry found
    simp [TransferJob.modifyTime, generic, found, rename_touched, removeFile_touched, fresh]

theorem removeDownloadFile_contained (generic : job.type = .generic) (named : ∀ file ∈ job.files, file.name ≠ []) (fresh : fs.touched = []) :
    AllContained style job.base (job.removeDownloadFile style fs).touched ↔ RemoveSafe style fs job := by
  refine (cleared_contained style fs job _ .download [.digest] generic named fresh ?_ ?_).trans (by simp [RemoveSafe])
  · intro found
    simp [TransferJob.removeDownloadFile, generic, found]
  · intro entry found
    simp [TransferJob.removeDownloadFile, generic, found, removeFile_touched, fresh]

end

-- The download is opened only when it and its digest are both found.
def SeekSafe (style : Style) (fs : FileSystem) (job : TransferJob) (fileNum : Nat) : Prop :=
  ∀ entry, job.files[fileNum]? = some entry → (job.resolveEntryPath style fs entry.name).isSome = true →
    fs.exists ((job.target entry.name .download).key style) = true → fs.exists ((job.target entry.name .digest).key style) = true →
    Free style fs.node (job.target entry.name .download)

section
variable (style : Style) (fs : FileSystem) (job : TransferJob)

theorem seekDownload_touched (download : Target) (offset : Nat) :
    (job.seekDownload style fs download offset).2.touched = fs.touched ++ [(download, fs.node)] := by
  have touched := openWrite_touched style fs download
  unfold TransferJob.seekDownload
  generalize fs.openWrite style download = outcome at touched ⊢
  obtain ⟨opened, refused⟩ := outcome
  cases refused with
  | some text => exact touched
  | none =>
      dsimp only
      split <;> exact touched

theorem setStreamOffset_contained (fileNum offset : Nat)
    (generic : job.type = .generic) (named : ∀ file ∈ job.files, file.name ≠ []) (fresh : fs.touched = []) :
    AllContained style job.base (job.setStreamOffset style fs fileNum offset).2.touched ↔ SeekSafe style fs job fileNum := by
  unfold TransferJob.setStreamOffset SeekSafe
  cases found : job.files[fileNum]?.filter (fun entry => (job.resolveEntryPath style fs entry.name).isSome) with
  | none =>
      have none : ∀ entry, job.files[fileNum]? = some entry → ¬ (job.resolveEntryPath style fs entry.name).isSome = true :=
        fun entry listed => Option.filter_eq_none_iff.mp found entry listed
      constructor
      · intro _ entry listed path
        exact absurd path (none entry listed)
      · intro _ target nodes member
        rw [fresh] at member
        cases member
  | some entry =>
      obtain ⟨listed, path⟩ := Option.filter_eq_some_iff.mp found
      have checked := resolved_checked style fs job entry generic (named entry (List.mem_of_getElem? listed)) path
      dsimp only
      by_cases there : (fs.exists ((job.target entry.name .download).key style) && fs.exists ((job.target entry.name .digest).key style)) = true
      · rw [if_pos there]
        rw [Bool.and_eq_true] at there
        have log := seekDownload_touched style fs job (job.target entry.name .download) offset
        rw [fresh, List.nil_append] at log
        unfold AllContained
        rw [log]
        simp only [List.mem_cons, List.not_mem_nil, or_false, Prod.mk.injEq]
        have iff := contained_iff style fs.node (job.target entry.name .download) checked
        constructor
        · intro contained other sameEntry _ _ _
          rw [listed] at sameEntry
          cases sameEntry
          exact iff.mp (contained _ _ ⟨rfl, rfl⟩).2
        · intro free target nodes member
          obtain ⟨rfl, rfl⟩ := member
          exact ⟨rfl, iff.mpr (free entry listed path there.1 there.2)⟩
      · rw [if_neg there]
        have nothing : ∀ outcome : TransferJob × FileSystem, outcome.2 = fs → AllContained style job.base outcome.2.touched := by
          intro outcome same target nodes member
          rw [same, fresh] at member
          cases member
        constructor
        · intro _ other sameEntry _ download digest
          rw [listed] at sameEntry
          cases sameEntry
          simp [download, digest] at there
        · intro _
          split
          · exact nothing (job.seekTo false offset, fs) rfl
          · exact nothing (job, fs) rfl

end

-- When the system removes a file, and when it creates one that is no link.
def FileSystem.removable (fs : FileSystem) (key : Key) : Bool :=
  (fs.fails .removeFile key).isNone && decide (fs.node key ≠ none) && decide (fs.node key ≠ some .dir)

def FileSystem.creatable (fs : FileSystem) (key : Key) : Bool :=
  (fs.fails .create key).isNone && decide (fs.node key ≠ some .dir) && fs.isDir key.dropLast

theorem attempt_outcome (fs : FileSystem) (call : Call) (key : Key) (done : Option FileSystem) :
    (fs.attempt call key done).2 = none ↔ fs.fails call key = none ∧ done.isSome = true := by
  unfold FileSystem.attempt
  cases fs.fails call key with
  | some text => simp
  | none => cases done <;> simp

theorem removeFile_outcome (style : Style) (fs : FileSystem) (target : Target) :
    (fs.removeFile style target).2 = none ↔ fs.removable (target.key style) = true := by
  have done : ((fs.touch target).removeAt (target.key style)).isSome = true ↔
      fs.node (target.key style) ≠ none ∧ fs.node (target.key style) ≠ some .dir := by
    by_cases refused : fs.node (target.key style) = none ∨ fs.node (target.key style) = some .dir
    · rw [removeAt_refused (fs.touch target) (target.key style) refused]
      simpa [or_iff_not_imp_left] using refused
    · obtain ⟨present, plain⟩ := not_or.mp refused
      obtain ⟨found, there⟩ := Option.ne_none_iff_exists'.mp present
      rw [removeAt_done (fs.touch target) (target.key style) found there (fun isDir => plain (isDir ▸ there))]
      simp [present, plain]
  unfold FileSystem.removeFile FileSystem.removable
  rw [attempt_outcome, done]
  simp [FileSystem.touch, and_assoc]

theorem create_outcome (style : Style) (fs : FileSystem) (target : Target) (unlinked : ¬ isLink fs.node (target.key style)) :
    (fs.create style target).2 = none ↔ fs.creatable (target.key style) = true := by
  have done : ((fs.touch target).createAt (target.key style)).isSome = true ↔
      fs.node (target.key style) ≠ some .dir ∧ fs.isDir (target.key style).dropLast = true := by
    have real := real_unlinked (fs.touch target) (target.key style) unlinked
    by_cases isDir : fs.node (target.key style) = some .dir
    · rw [createAt_refused (fs.touch target) (target.key style) real isDir]
      simp [isDir]
    · rw [createAt_real (fs.touch target) (target.key style) real isDir]
      have parent : (fs.touch target).isDir (target.key style).dropLast = fs.isDir (target.key style).dropLast := rfl
      rw [parent]
      cases fs.isDir (target.key style).dropLast <;> simp [isDir]
  unfold FileSystem.create FileSystem.creatable
  rw [attempt_outcome, done]
  simp [FileSystem.touch, and_assoc]

theorem allContained_snoc (style : Style) (base : Name) (log : List (Target × (Key → Option Node))) (target : Target)
    (nodes : Key → Option Node) (ours : target.base = base) :
    AllContained style base (log ++ [(target, nodes)]) ↔ AllContained style base log ∧ Contained style nodes target := by
  constructor
  · intro all
    exact ⟨fun other state member => all other state (List.mem_append_left _ member), (all target nodes (by simp)).2⟩
  · rintro ⟨earlier, last⟩ other state member
    obtain old | new := List.mem_append.mp member
    · exact earlier other state old
    · obtain ⟨rfl, rfl⟩ := Prod.mk.inj (List.mem_singleton.mp new)
      exact ⟨ours, last⟩

-- The digest is removed if it is there, the download is created unless that was refused, and the
-- digest is written if that was done.
def CreateSafe (style : Style) (fs : FileSystem) (job : TransferJob) (name : Name) : Prop :=
  if fs.exists ((job.target name .digest).key style) then
    Free style fs.node (job.target name .digest) ∧
      (fs.removable ((job.target name .digest).key style) = true → Free style fs.node (job.target name .download))
  else
    Free style fs.node (job.target name .download) ∧
      (fs.creatable ((job.target name .download).key style) = true → Free style fs.node (job.target name .digest))

theorem sameLinks_trans (first second third : Key → Option Node) (one : SameLinks first second) (two : SameLinks second third) :
    SameLinks first third := fun key => (two key).trans (one key)

section
variable (style : Style) (json : DigestFormat)

-- The download that is created on a state with the links of an earlier one, and the digest after it.
theorem createPair_contained (fs cleared : FileSystem) (job : TransferJob) (name : Name)
    (same : SameLinks fs.node cleared.node) (checked : Checked style fs.node job.base name) :
    AllContained style job.base (job.createPair style json cleared name).1.touched ↔
      AllContained style job.base cleared.touched ∧ Free style fs.node (job.target name .download) ∧
      (cleared.creatable ((job.target name .download).key style) = true → Free style fs.node (job.target name .digest)) := by
  have checkedHere := checked_sameLinks style fs.node cleared.node job.base name same checked
  have download := (contained_iff style cleared.node (job.target name .download) checkedHere).trans
    (free_sameLinks style fs.node cleared.node (job.target name .download) same)
  have touched := create_touched style cleared (job.target name .download)
  have outcome := create_outcome style cleared (job.target name .download)
  have links := create_links style cleared (job.target name .download)
  unfold TransferJob.createPair
  generalize cleared.create style (job.target name .download) = result at touched outcome links ⊢
  obtain ⟨created, refused⟩ := result
  cases refused with
  | some text =>
      rw [touched, allContained_snoc style job.base _ _ _ rfl, download]
      constructor
      · rintro ⟨earlier, free⟩
        refine ⟨earlier, free, fun creatable => ?_⟩
        have unlinked := contained_not_link style cleared.node _ (download.mpr free)
        exact absurd ((outcome unlinked).mpr creatable) (by simp)
      · rintro ⟨earlier, free, _⟩
        exact ⟨earlier, free⟩
  | none =>
      rw [writeFile_touched, touched, allContained_snoc style job.base _ _ _ rfl, allContained_snoc style job.base _ _ _ rfl, download]
      constructor
      · rintro ⟨⟨earlier, free⟩, contained⟩
        have unlinked := contained_not_link style cleared.node _ (download.mpr free)
        have all := sameLinks_trans fs.node cleared.node created.node same (links unlinked)
        refine ⟨earlier, free, fun _ => ?_⟩
        exact (contained_iff style fs.node (job.target name .digest) checked).mp
          ((contained_sameLinks style fs.node created.node _ all).mp contained)
      · rintro ⟨earlier, free, digest⟩
        have unlinked := contained_not_link style cleared.node _ (download.mpr free)
        have all := sameLinks_trans fs.node cleared.node created.node same (links unlinked)
        refine ⟨⟨earlier, free⟩, ?_⟩
        exact (contained_sameLinks style fs.node created.node _ all).mpr
          ((contained_iff style fs.node (job.target name .digest) checked).mpr (digest ((outcome unlinked).mp rfl)))

theorem createPair_keeps (fs : FileSystem) (job : TransferJob) (name : Name)
    (entry : Target × (Key → Option Node)) (member : entry ∈ fs.touched) : entry ∈ (job.createPair style json fs name).1.touched := by
  have touched := create_touched style fs (job.target name .download)
  unfold TransferJob.createPair
  generalize fs.create style (job.target name .download) = result at touched ⊢
  obtain ⟨created, refused⟩ := result
  have kept : entry ∈ created.touched := by
    rw [show created.touched = _ from touched]
    exact List.mem_append_left _ member
  cases refused with
  | some text => exact kept
  | none =>
      rw [writeFile_touched]
      exact List.mem_append_left _ kept

theorem createDownload_contained (fs : FileSystem) (job : TransferJob) (name : Name) (checked : Checked style fs.node job.base name) :
    AllContained style job.base (job.createDownload style json fs name).1.touched ↔
      AllContained style job.base fs.touched ∧ CreateSafe style fs job name := by
  have digest := contained_iff style fs.node (job.target name .digest) checked
  unfold TransferJob.createDownload FileSystem.dropDigest CreateSafe
  by_cases there : fs.exists ((job.target name .digest).key style) = true
  · rw [if_pos there, if_pos there]
    have touched := removeFile_touched style fs (job.target name .digest)
    have outcome := removeFile_outcome style fs (job.target name .digest)
    have links := removeFile_links style fs (job.target name .digest)
    generalize fs.removeFile style (job.target name .digest) = result at touched outcome links ⊢
    obtain ⟨cleared, refused⟩ := result
    cases refused with
    | some text =>
        rw [touched, allContained_snoc style job.base _ _ _ rfl, digest]
        constructor
        · rintro ⟨earlier, free⟩
          exact ⟨earlier, free, fun removable => absurd (outcome.mpr removable) (by simp)⟩
        · rintro ⟨earlier, free, _⟩
          exact ⟨earlier, free⟩
    | none =>
        have before := allContained_snoc style job.base fs.touched (job.target name .digest) fs.node rfl
        constructor
        · intro all
          have contained : Contained style fs.node (job.target name .digest) := by
            apply (all _ _ (createPair_keeps style json cleared job name _ _)).2
            rw [touched]
            exact List.mem_append_right _ (List.mem_singleton.mpr rfl)
          have step := (createPair_contained style json fs cleared job name (links (contained_not_link style _ _ contained)) checked).mp all
          rw [touched, before, digest] at step
          exact ⟨step.1.1, step.1.2, fun _ => step.2.1⟩
        · rintro ⟨earlier, free, download⟩
          have contained := digest.mpr free
          apply (createPair_contained style json fs cleared job name (links (contained_not_link style _ _ contained)) checked).mpr
          rw [touched, before]
          exact ⟨⟨earlier, contained⟩, download (outcome.mp rfl), fun _ => free⟩
  · rw [if_neg there, if_neg there]
    exact createPair_contained style json fs fs job name (fun _ => Iff.rfl) checked

end

theorem writeHandle_touched (fs : FileSystem) (pos : Nat) (data : Bytes) : (fs.writeHandle pos data).touched = fs.touched := by
  unfold FileSystem.writeHandle
  split
  · rfl
  · split <;> rfl

theorem writeData_touched (codec : Codec) (fs : FileSystem) (job : TransferJob) (block : FileTransferBlock) :
    (job.writeData codec fs block).fs.touched = fs.touched := by
  unfold TransferJob.writeData
  cases job.dataStream with
  | none => rfl
  | some stream =>
      have written : (if stream.writable then fs.writeHandle stream.pos (fs.landed (block.payload codec)) else fs).touched = fs.touched := by
        split
        · exact writeHandle_touched fs _ _
        · rfl
      cases fs.handleFails .write with
      | some text => exact written
      | none => exact written

def WriteSafe (style : Style) (fs : FileSystem) (job : TransferJob) (block : FileTransferBlock) : Prop :=
  ∀ entry, block.id = job.id → job.files[asUsize block.fileNum]? = some entry →
    (asUsize block.fileNum ≠ asUsize job.fileNum ∨ job.dataStream = none) →
    ModifySafe style fs job ∧
      (job.dataStream.bind (fun _ => (job.modifyTime style fs).handleFails .sync) = none →
        ∀ path, joinValidatedPath style (job.modifyTime style fs) job.base entry.name = .ok path →
        CreateSafe style ((job.modifyTime style fs).createParent ((job.target entry.name .entry).key style)) job entry.name)

section
variable (style : Style) (json : DigestFormat) (fs : FileSystem) (job : TransferJob)

theorem createEntry_contained (name : Name) (generic : job.type = .generic) (named : name ≠ []) :
    AllContained style job.base (job.createEntry style json fs name).1.touched ↔
      AllContained style job.base fs.touched ∧ ∀ path, joinValidatedPath style fs job.base name = .ok path →
        CreateSafe style (fs.createParent ((job.target name .entry).key style)) job name := by
  unfold TransferJob.createEntry
  rw [generic]
  cases joined : joinValidatedPath style fs job.base name with
  | error text => simp
  | ok path =>
      have parents := createParent_dirsOnly fs ((job.target name .entry).key style)
      have checked := checked_sameLinks style _ _ _ _ parents.1 (checked_of_joined style fs job.base name path named joined)
      rw [createDownload_contained style json _ job name checked, parents.2]
      simp

theorem openEntry_fs (name : Name) : (job.openEntry style json fs name).fs = (job.createEntry style json fs name).1 := by
  unfold TransferJob.openEntry
  generalize job.createEntry style json fs name = result
  obtain ⟨after, refused⟩ := result
  cases refused <;> rfl

theorem switchEntry_contained (fileNum : Int32) (name : Name) (generic : job.type = .generic) (named : name ≠ []) :
    AllContained style job.base (job.switchEntry style json fs fileNum name).fs.touched ↔
      AllContained style job.base (job.modifyTime style fs).touched ∧
        (job.dataStream.bind (fun _ => (job.modifyTime style fs).handleFails .sync) = none →
          ∀ path, joinValidatedPath style (job.modifyTime style fs) job.base name = .ok path →
          CreateSafe style ((job.modifyTime style fs).createParent ((job.target name .entry).key style)) job name) := by
  unfold TransferJob.switchEntry
  dsimp only
  cases synced : job.dataStream.bind (fun _ => (job.modifyTime style fs).handleFails .sync) with
  | some text => simp
  | none =>
      have created := createEntry_contained style json (job.modifyTime style fs) (job.withFileNum fileNum) name generic named
      rw [openEntry_fs]
      refine created.trans ?_
      simp only [true_implies]
      exact Iff.rfl

end

theorem write_contained (style : Style) (codec : Codec) (json : DigestFormat) (fs : FileSystem) (job : TransferJob)
    (block : FileTransferBlock) (generic : job.type = .generic) (named : ∀ file ∈ job.files, file.name ≠ []) (fresh : fs.touched = []) :
    AllContained style job.base (job.write style codec json fs block).fs.touched ↔ WriteSafe style fs job block := by
  have nothing : AllContained style job.base fs.touched := by
    intro target nodes member
    rw [fresh] at member
    cases member
  unfold TransferJob.write WriteSafe
  by_cases other : block.id ≠ job.id
  · rw [if_pos other]
    exact ⟨fun _ entry same => absurd same other, fun _ => nothing⟩
  · rw [if_neg other]
    have ours : block.id = job.id := not_not.mp other
    cases listed : job.files[asUsize block.fileNum]? with
    | none => simp [nothing]
    | some entry =>
        have entryNamed := named entry (List.mem_of_getElem? listed)
        dsimp only
        by_cases switches : (decide (asUsize block.fileNum ≠ asUsize job.fileNum) || job.dataStream.isNone) = true
        · rw [if_pos switches]
          have log : ((job.switchEntry style json fs block.fileNum entry.name).andThen (fun job fs => job.writeData codec fs block)).fs.touched =
              (job.switchEntry style json fs block.fileNum entry.name).fs.touched := by
            unfold WriteResult.andThen
            split
            · rfl
            · exact writeData_touched codec _ _ block
          rw [log, switchEntry_contained style json fs job block.fileNum entry.name generic entryNamed,
            modifyTime_contained style fs job generic named fresh]
          have condition : asUsize block.fileNum ≠ asUsize job.fileNum ∨ job.dataStream = none := by simpa using switches
          constructor
          · intro safe entry' _ same _
            cases same
            exact safe
          · intro safe
            exact safe entry ours rfl condition
        · rw [if_neg switches, writeData_touched]
          refine ⟨?_, fun _ => nothing⟩
          intro _ entry' _ _ condition
          exact absurd (by simpa using condition) switches

theorem unix_lead_push (base tail : Name) (unrooted : tail.head?.any Style.unix.isSep = false) :
    Style.unix.lead (base ++ (Style.unix.pushSep base ++ tail)) = Style.unix.lead base := by
  cases base with
  | nil => simp [Style.lead, Style.parsePrefix, Style.hasPhysicalRoot, Style.body, Style.pushSep, unrooted]
  | cons c rest => simp [Style.lead, Style.parsePrefix, Style.hasPhysicalRoot, Style.body]

theorem unix_key_push (base tail : Name) (unrooted : tail.head?.any Style.unix.isSep = false) :
    Style.unix.key (base ++ (Style.unix.pushSep base ++ tail)) = Style.unix.key base ++ names false (segments Style.unix.isSep tail) :=
  key_push_plain .unix base tail rfl (unix_lead_push base tail unrooted)

-- A segment as the components of a name have it.
structure PlainSegment (segment : Name) : Prop where
  some : segment ≠ []
  notDot : segment ≠ ['.']
  notUp : segment ≠ ['.', '.']
  whole : ∀ c ∈ segment, Style.unix.isSep c = false

theorem plainSegment_names (segment : Name) (plain : PlainSegment segment) : names false (segments Style.unix.isSep segment) = [.normal segment] := by
  rw [segments_plain _ _ plain.whole]
  simp [names, parseSingleComponent, plain.some, plain.notDot, plain.notUp]

theorem plainSegment_unrooted (segment : Name) (plain : PlainSegment segment) : segment.head?.any Style.unix.isSep = false := by
  cases segment with
  | nil => rfl
  | cons c rest => exact plain.whole c (by simp)

theorem unix_key_segment (current segment : Name) (plain : PlainSegment segment) :
    Style.unix.key (Style.unix.push current segment) = Style.unix.key current ++ [.normal segment] := by
  have unrooted := plainSegment_unrooted segment plain
  have name : PlainName .unix segment := by
    refine ⟨?_, unrooted, rfl⟩
    rw [segments_plain _ _ plain.whole]
    simpa using plain.notUp
  rw [push_plain .unix current segment name rfl, List.append_assoc, unix_key_push current segment unrooted, plainSegment_names segment plain]

-- On Unix the check asks about every path between the base and the entry.
theorem unix_looked (current : Name) (parts : List Component)
    (ordinary : ∀ part ∈ parts, part = .curDir ∨ ∃ segment, part = .normal segment ∧ PlainSegment segment) (count : Nat)
    (inside : count < (parts.filter (fun part => part ≠ .curDir)).length) :
    Style.unix.key current ++ (parts.filter (fun part => part ≠ .curDir)).take (count + 1) ∈ looked .unix current parts := by
  induction parts generalizing current count with
  | nil => simp at inside
  | cons part rest ih =>
      have others := fun current count => ih current (fun other member => ordinary other (by simp [member])) count
      obtain rfl | ⟨segment, rfl, plain⟩ := ordinary part (by simp)
      · exact others current count inside
      · unfold looked
        rw [unix_key_segment current segment plain]
        have kept : (Component.normal segment :: rest).filter (fun part => part ≠ .curDir) =
            .normal segment :: rest.filter (fun part => part ≠ .curDir) := by simp
        rw [kept] at inside ⊢
        cases count with
        | zero => simp
        | succ count =>
            have member := others (Style.unix.push current segment) count (by simpa using inside)
            rw [unix_key_segment current segment plain] at member
            rw [List.take_succ_cons]
            simp only [List.append_assoc, List.singleton_append] at member
            exact List.mem_cons_of_mem _ member

theorem unix_components (name : Name) (plain : PlainName .unix name) :
    ∀ part ∈ Style.unix.components name, part = .curDir ∨ ∃ segment, part = .normal segment ∧ PlainSegment segment := by
  intro part member
  by_cases dot : part = .curDir
  · exact .inl dot
  · have inKey : part ∈ Style.unix.key name := List.mem_filter.mpr ⟨member, by simpa using dot⟩
    rw [key_plainName .unix name plain] at inKey
    obtain ⟨segment, listed, rfl⟩ := List.mem_map.mp inKey
    obtain ⟨inName, kept⟩ := List.mem_filter.mp listed
    simp only [decide_eq_true_eq] at kept
    exact .inr ⟨segment, rfl, kept.1, kept.2, plain.down segment inName, mem_segments_plain _ name segment inName⟩

-- Every path from the base down to the entry, both counted from below the base.
theorem unix_asked (base name : Name) (plain : PlainName .unix name) (key : Key)
    (inside : key <+: Style.unix.key base ++ Style.unix.key name) (longer : (Style.unix.key base).length < key.length) :
    key ∈ looked .unix base (Style.unix.components name) := by
  have shape := List.prefix_iff_eq_take.mp inside
  have bound := inside.length_le
  rw [List.length_append] at bound
  have member := unix_looked base (Style.unix.components name) (unix_components name plain) (key.length - (Style.unix.key base).length - 1)
    (by change _ < (Style.unix.key name).length; omega)
  change Style.unix.key base ++ (Style.unix.key name).take _ ∈ _ at member
  have size : key.length - (Style.unix.key base).length - 1 + 1 = key.length - (Style.unix.key base).length := by omega
  rw [size] at member
  have same : key = Style.unix.key base ++ (Style.unix.key name).take (key.length - (Style.unix.key base).length) := by
    rw [List.take_append, List.take_of_length_le (by omega)] at shape
    exact shape
  rw [same]
  exact same ▸ member

theorem suffixed_unrooted (name : Name) (role : Role) (plain : PlainName .unix name) (named : name ≠ []) :
    (name ++ role.suffix).head?.any Style.unix.isSep = false := by
  cases name with
  | nil => exact absurd rfl named
  | cons c rest => exact plain.unrooted

theorem unix_target_path (target : Target) (plain : PlainName .unix target.name) (named : target.name ≠ []) :
    target.path .unix = target.base ++ (Style.unix.pushSep target.base ++ (target.name ++ target.role.suffix)) := by
  simp [Target.path, join, named, push_plain .unix target.base target.name plain rfl]

-- A sibling hangs below a path that leads to the entry.
theorem unix_sibling_key (target : Target) (plain : PlainName .unix target.name) (named : target.name ≠ []) (sibling : target.role ≠ .entry) :
    ∃ init segment, target.key .unix = Style.unix.key target.base ++ init ++ [.normal segment] ∧ init <+: Style.unix.key target.name := by
  have noSep : ∀ c ∈ target.role.suffix, Style.unix.isSep c = false := fun c member => (role_suffix_plain .unix target.role c member).1
  have pieces := List.dropLast_append_getLast (segments_ne_nil Style.unix.isSep target.name)
  refine ⟨names false (segments Style.unix.isSep target.name).dropLast,
    (segments Style.unix.isSep target.name).getLast?.getD [] ++ target.role.suffix, ?_, ?_⟩
  · unfold Target.key
    rw [unix_target_path target plain named, unix_key_push _ _ (suffixed_unrooted target.name target.role plain named),
      segments_append_plain _ _ _ noSep, extendLast, names_append, List.append_assoc]
    simp [names, role_suffix_parsed false target.role _ sibling]
  · have body : Style.unix.key target.name = names false (segments Style.unix.isSep target.name) := by
      rw [key_body .unix target.name rfl, lead_plainName .unix target.name plain]
      rfl
    rw [body]
    conv_rhs => rw [← pieces]
    rw [names_append]
    exact List.prefix_append _ _

-- What the condition comes to on Unix: an entry has to have a segment of its own, and a sibling must
-- not be a link itself.
theorem unix_free (nodes : Key → Option Node) (target : Target) (checked : Checked .unix nodes target.base target.name) :
    Free .unix nodes target ↔
      (target.role = .entry → nameSegments .unix target.name ≠ []) ∧ (target.role ≠ .entry → ¬ isLink nodes (target.key .unix)) := by
  have unrooted := suffixed_unrooted target.name target.role checked.plain checked.named
  have lead : Style.unix.lead (target.path .unix) = Style.unix.lead target.base := by
    rw [unix_target_path target checked.plain checked.named]
    exact unix_lead_push _ _ unrooted
  by_cases entry : target.role = .entry
  · have key : target.key .unix = Style.unix.key target.base ++ Style.unix.key target.name := by
      unfold Target.key
      rw [unix_target_path target checked.plain checked.named, unix_key_push _ _ unrooted, entry, entry_suffix, List.append_nil,
        key_body .unix target.name rfl, lead_plainName .unix target.name checked.plain]
      rfl
    have segmentsKey := key_plainName .unix target.name checked.plain
    simp only [entry, true_implies, ne_eq, not_true_eq_false, false_implies, and_true]
    constructor
    · intro free none
      have longer := free.longer
      rw [key, segmentsKey, none] at longer
      simp at longer
    · intro some
      refine ⟨lead, ?_, ?_⟩
      · rw [key, segmentsKey, List.length_append, List.length_map]
        have := List.length_pos_iff.mpr some
        omega
      · intro path inside longer unasked
        rw [key] at inside
        exact absurd (unix_asked target.base target.name checked.plain path inside longer) unasked
  · obtain ⟨init, segment, key, within⟩ := unix_sibling_key target checked.plain checked.named entry
    simp only [entry, false_implies, true_and, ne_eq, not_false_eq_true, true_implies]
    have longer : (Style.unix.key target.base).length < (target.key .unix).length := by
      rw [key]
      simp only [List.length_append, List.length_cons, List.length_nil]
      omega
    constructor
    · intro free linked
      by_cases asked : target.key .unix ∈ looked .unix target.base (Style.unix.components target.name)
      · exact checked.asked _ asked linked
      · exact free.unlinked _ (List.prefix_refl _) longer asked linked
    · intro unlinked
      refine ⟨lead, longer, ?_⟩
      intro path inside pathLonger unasked linked
      rw [key, List.prefix_concat_iff] at inside
      obtain whole | proper := inside
      · rw [whole, ← key] at linked
        exact unlinked linked
      · apply unasked
        apply unix_asked target.base target.name checked.plain path _ pathLonger
        exact proper.trans (List.prefix_append_right_inj _ |>.mpr within)

theorem setFiles_accepted (style : Style) (fs : FileSystem) (job ready : TransferJob) (files : List FileEntry)
    (accepted : job.setFiles style fs files = .ok ready) (several : files.map FileEntry.name ≠ [[]]) : Accepted style files := by
  refine ⟨?_, several⟩
  unfold TransferJob.setFiles at accepted
  cases valid : validateTransferFileNames style files with
  | error text => simp [valid] at accepted
  | ok unit => rfl

theorem written_paths_contained (style : Style) (codec : Codec) (json : DigestFormat) (before fs : FileSystem)
    (earlier ready job : TransferJob) (generic : job.type = .generic) (accepted : earlier.setFiles style before job.files = .ok ready)
    (several : job.files.map FileEntry.name ≠ [[]]) (fresh : fs.touched = []) :
    (AllContained style job.base (job.modifyTime style fs).touched ↔ ModifySafe style fs job) ∧
    (AllContained style job.base (job.removeDownloadFile style fs).touched ↔ RemoveSafe style fs job) ∧
    (∀ fileNum offset, AllContained style job.base (job.setStreamOffset style fs fileNum offset).2.touched ↔ SeekSafe style fs job fileNum) ∧
    (∀ block, AllContained style job.base (job.write style codec json fs block).fs.touched ↔ WriteSafe style fs job block) := by
  have named := accepted_named style job.files (setFiles_accepted style before earlier ready job.files accepted several)
  refine ⟨?_, ?_, ?_, ?_⟩
  · exact modifyTime_contained style fs job generic named fresh
  · exact removeDownloadFile_contained style fs job generic named fresh
  · intro fileNum offset
    exact setStreamOffset_contained style fs job fileNum offset generic named fresh
  · intro block
    exact write_contained style codec json fs job block generic named fresh

def Unlinked (nodes : Key → Option Node) : Prop := ∀ key, ¬ isLink nodes key

theorem unlinked_free (nodes : Key → Option Node) (target : Target) (checked : Checked .unix nodes target.base target.name)
    (unlinked : Unlinked nodes) (some : nameSegments .unix target.name ≠ []) : Free .unix nodes target :=
  (unix_free nodes target checked).mpr ⟨fun _ => some, fun _ => unlinked _⟩

theorem renameTo_unlinked (fs after : FileSystem) (source target : Key) (unlinked : Unlinked fs.node)
    (done : fs.renameTo source target = some after) : Unlinked after.node := by
  unfold FileSystem.renameTo at done
  split at done
  · cases done
  · split at done
    · cases done
      rintro key ⟨linkTarget, linked⟩
      dsimp only at linked
      split at linked
      · exact unlinked _ ⟨linkTarget, linked⟩
      · split at linked
        · cases linked
        · exact unlinked _ ⟨linkTarget, linked⟩
    · cases done
  · rename_i node _ found
    split at done
    · cases done
    · split at done
      · cases done
        exact unlinked
      · cases done
        rintro key ⟨linkTarget, linked⟩
        simp only [FileSystem.put, Function.update_apply] at linked
        split at linked
        · cases linked
        · split at linked
          · exact unlinked source ⟨linkTarget, found.trans linked⟩
          · exact unlinked _ ⟨linkTarget, linked⟩

theorem modifyTime_unlinked (style : Style) (fs : FileSystem) (job : TransferJob) (unlinked : Unlinked fs.node) :
    Unlinked (job.modifyTime style fs).node := by
  unfold TransferJob.modifyTime
  split
  · rename_i entry _ _
    have cleared : Unlinked (fs.removeFile style (job.target entry.name .digest)).1.node :=
      fun key linked => unlinked key ((removeFile_links style fs (job.target entry.name .digest) (unlinked _) key).mp linked)
    unfold FileSystem.rename FileSystem.attempt
    dsimp only
    split
    · exact cleared
    · rename_i after _ done
      exact renameTo_unlinked (((fs.removeFile style (job.target entry.name .digest)).1.touch _).touch _) after _ _ cleared done
    · exact cleared
  · exact unlinked

def plainFormat : DigestFormat := { encode := fun _ => [], decode := fun _ => none }

def codecOff : Codec := { compress := id, decompress := id }

-- A directory `/b` with nothing in it, and one with a link `x.download` that leads out of it.
def emptyTree : FileSystem :=
  { node := fun key => if key = [.rootDir] || key = [.rootDir, .normal ['b']] then some .dir else none, fails := fun _ _ => none,
    lands := none, handle := none, touched := [] }

def linkedTree : FileSystem := emptyTree.put [.rootDir, .normal ['b'], .normal "x.download".toList] (some (.link [.rootDir, .normal ['s']]))

def oneFile : TransferJob :=
  { newWrite 1 .generic ['/', 'b'] 0 true with files := [{ name := ['x'], size := 1, modifiedTime := 7 }], totalSize := 1 }

def firstBlock : FileTransferBlock := { id := 1, fileNum := 0, data := [65], compressed := false }

theorem emptyTree_unlinked : Unlinked emptyTree.node := by
  rintro key ⟨target, linked⟩
  simp only [emptyTree] at linked
  split at linked <;> cases linked

theorem oneFile_checked (fs : FileSystem) (unlinked : Unlinked fs.node) : Checked .unix fs.node oneFile.base ['x'] :=
  ⟨plainName_of_validated .unix ['x'] rfl, by simp, fun key _ => unlinked key⟩

theorem oneFile_free (fs : FileSystem) (unlinked : Unlinked fs.node) (role : Role) : Free .unix fs.node (oneFile.target ['x'] role) :=
  unlinked_free fs.node (oneFile.target ['x'] role) (oneFile_checked fs unlinked) unlinked (by change nameSegments .unix ['x'] ≠ []; decide)

theorem written_paths_contained_first_block : AllContained .unix ['/', 'b'] (oneFile.write .unix codecOff plainFormat emptyTree firstBlock).fs.touched ∧
    (oneFile.write .unix codecOff plainFormat emptyTree firstBlock).fs.node [.rootDir, .normal ['b'], .normal "x.download".toList] =
      some (.file [65]) := by
  have several : oneFile.files.map FileEntry.name ≠ [[]] := by decide
  have accepted : (newWrite 1 .generic ['/', 'b'] 0 true).setFiles .unix emptyTree oneFile.files = .ok oneFile := rfl
  have whole := written_paths_contained .unix codecOff plainFormat emptyTree emptyTree _ _ oneFile rfl accepted several rfl
  have kept := modifyTime_unlinked .unix emptyTree oneFile emptyTree_unlinked
  refine ⟨(whole.2.2.2 firstBlock).mpr ?_, by decide⟩
  intro entry _ listed _
  have same : entry = { name := ['x'], size := 1, modifiedTime := 7 } := (Option.some.inj listed).symm
  rw [same]
  refine ⟨?_, ?_⟩
  · intro other found
    have otherName : other.name = ['x'] := by
      obtain ⟨member, _⟩ := resolved_entry .unix emptyTree oneFile other found
      rw [List.mem_singleton.mp member]
    rw [otherName]
    exact ⟨oneFile_free emptyTree emptyTree_unlinked _, oneFile_free emptyTree emptyTree_unlinked _, oneFile_free emptyTree emptyTree_unlinked _⟩
  · intro _ path _
    have parents := createParent_dirsOnly (oneFile.modifyTime .unix emptyTree) ((oneFile.target ['x'] .entry).key .unix)
    have unlinked : Unlinked ((oneFile.modifyTime .unix emptyTree).createParent ((oneFile.target ['x'] .entry).key .unix)).node :=
      fun key linked => kept key ((parents.1 key).mp linked)
    unfold CreateSafe
    split
    · exact ⟨oneFile_free _ unlinked _, fun _ => oneFile_free _ unlinked _⟩
    · exact ⟨oneFile_free _ unlinked _, fun _ => oneFile_free _ unlinked _⟩

def endsAtLink (entry : Target × (Key → Option Node)) : Bool :=
  match entry.2 (entry.1.key .unix) with
  | some (.link _) => true
  | _ => false

def secondOfTwo : TransferJob :=
  { oneFile with files := [{ name := ['y'], size := 1, modifiedTime := 7 }, { name := ['x'], size := 1, modifiedTime := 7 }] }

def secondBlock : FileTransferBlock := { firstBlock with fileNum := 1 }

-- The download of the second entry is a link: it passes the check of the names, and the block goes to
-- where it leads.
theorem download_link_followed : (oneFile.setFiles .unix linkedTree secondOfTwo.files).isOk = true ∧
    (secondOfTwo.write .unix codecOff plainFormat linkedTree secondBlock).fs.node [.rootDir, .normal ['s']] = some (.file [65]) ∧
    ¬ AllContained .unix ['/', 'b'] (secondOfTwo.write .unix codecOff plainFormat linkedTree secondBlock).fs.touched := by
  refine ⟨by decide, by decide, ?_⟩
  intro all
  have reached : (secondOfTwo.write .unix codecOff plainFormat linkedTree secondBlock).fs.touched.any endsAtLink = true := by decide
  obtain ⟨⟨target, nodes⟩, member, linked⟩ := List.any_eq_true.mp reached
  obtain ⟨_, contained⟩ := all target nodes member
  apply contained_not_link .unix nodes target contained
  unfold endsAtLink at linked
  split at linked
  · rename_i other found
    exact ⟨other, found⟩
  · cases linked

end GotechDesk.FileTransfer
