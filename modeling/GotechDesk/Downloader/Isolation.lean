import GotechDesk.Downloader.Downloads

set_option autoImplicit false

namespace GotechDesk.Downloader

def Call.own : Call → Option Nat
  | .staleAfter own _ _ | .removingAfter own _ _ | .spawning own => some own
  | _ => none

structure Sound (host : Host) : Prop where
  entry : ∀ id entry, host.entries id = some entry → entry.job < host.nextJob ∧ (host.jobs entry.job).url = id ∧
    entry.path = (host.jobs entry.job).path ∧ (∀ source ∈ entry.sources, source = entry.job) ∧
      ∀ job, job < host.nextJob → (host.jobs job).url = id → job ≤ entry.job
  order : ∀ job other, job < other → other < host.nextJob → (host.jobs other).url = (host.jobs job).url → (host.jobs job).phase = .done
  paths : ∀ job other path, host.live job → host.live other → (host.jobs job).path = some path → (host.jobs other).path = some path → job = other
  files : ∀ inode job, job ∈ (host.inodes inode).jobs → job < host.nextJob ∧ (host.jobs job).phase ≠ .pending
  held : ∀ call job, (host.calls call).own = some job →
    job < host.nextJob ∧ (host.jobs job).phase = .pending ∧ ∀ other, (host.calls other).own = some job → other = call
  stale : ∀ call job path, (host.calls call).pending = some (job, path) → job < host.nextJob ∧
    ∀ other, other < host.nextJob → job < other → (host.jobs other).url = (host.jobs job).url → (host.jobs other).path = some path →
      (host.calls call).own = some other
  unborn : ∀ job, host.nextJob ≤ job → (host.jobs job).phase = .done
  apart : host.trespasses = []

section
variable (host : Host)

theorem sound_isolated (sound : Sound host) : Isolated host := by
  refine ⟨sound.apart, ?_, ?_⟩
  · intro id entry is
    exact (sound.entry id entry is).2.2.2.1
  · intro job other path alive otherAlive own otherOwn _ _
    exact sound.paths job other path alive otherAlive own otherOwn

theorem later_iff (job other : Nat) : host.later job other = true ↔ job < other ∧ (host.jobs other).url = (host.jobs job).url := by
  unfold Host.later
  rw [Bool.and_eq_true, decide_eq_true_eq, decide_eq_true_eq]

theorem trespass_none (job : Nat) (touched : List Nat) (none_ : ∀ other ∈ touched, ¬ host.later job other = true) :
    host.trespass job touched = host := by
  unfold Host.trespass
  rw [List.filter_eq_nil_iff.mpr none_, List.map_nil, List.append_nil]

-- A job with later ones is over.
theorem none_later (job other : Nat) (sound : Sound host) (alive : (host.jobs job).phase ≠ .done) (known : other < host.nextJob) :
    ¬ host.later job other = true := by
  intro later
  obtain ⟨after, same⟩ := (later_iff host job other).mp later
  exact alive (sound.order job other after known same)

theorem entry_own (job : Nat) (entry : Entry) (sound : Sound host) (alive : (host.jobs job).phase ≠ .done)
    (is : host.entries (host.jobs job).url = some entry) : entry.job = job := by
  have known : job < host.nextJob := by
    by_contra unborn
    exact alive (sound.unborn job (Nat.le_of_not_lt unborn))
  obtain ⟨there, url, _, _, last⟩ := sound.entry _ entry is
  obtain before | same := Nat.lt_or_eq_of_le (last job known rfl)
  · exact absurd (sound.order job entry.job before there url) alive
  · exact same.symm

-- The state of one job changes, which was not waiting for its thread and is not now.
theorem sound_job (job : Nat) (state : Job) (sound : Sound host) (url : state.url = (host.jobs job).url)
    (path : state.path = (host.jobs job).path) (pending : state.phase = .pending ↔ (host.jobs job).phase = .pending)
    (done : (host.jobs job).phase = .done → state.phase = .done) : Sound (host.setJob job state) := by
  have urls : ∀ other, ((host.setJob job state).jobs other).url = (host.jobs other).url := by
    intro other
    change (Function.update host.jobs job state other).url = _
    rw [Function.update_apply]
    split
    · rename_i same
      rw [same, url]
    · rfl
  have paths : ∀ other, ((host.setJob job state).jobs other).path = (host.jobs other).path := by
    intro other
    change (Function.update host.jobs job state other).path = _
    rw [Function.update_apply]
    split
    · rename_i same
      rw [same, path]
    · rfl
  have waits : ∀ other, ((host.setJob job state).jobs other).phase = .pending ↔ (host.jobs other).phase = .pending := by
    intro other
    change (Function.update host.jobs job state other).phase = _ ↔ _
    rw [Function.update_apply]
    split
    · rename_i same
      rw [same, pending]
    · rfl
  have beyond : ∀ other, (host.jobs other).phase = .done → ((host.setJob job state).jobs other).phase = .done := by
    intro other was
    change (Function.update host.jobs job state other).phase = _
    rw [Function.update_apply]
    split
    · rename_i same
      exact done (same ▸ was)
    · exact was
  have alive : ∀ other, (host.setJob job state).live other → host.live other :=
    fun other lives => ⟨lives.1, fun was => lives.2 (beyond other was)⟩
  constructor
  · intro id entry is
    obtain ⟨known, own, ownPath, sources, last⟩ := sound.entry id entry is
    exact ⟨known, (urls _).trans own, ownPath.trans (paths _).symm, sources, fun other there same => last other there ((urls other).symm.trans same)⟩
  · intro one other before known same
    rw [urls, urls] at same
    exact beyond one (sound.order one other before known same)
  · intro one other text lives otherLives own otherOwn
    rw [paths] at own otherOwn
    exact sound.paths one other text (alive one lives) (alive other otherLives) own otherOwn
  · intro inode other listed
    obtain ⟨known, started⟩ := sound.files inode other listed
    exact ⟨known, fun is => started ((waits other).mp is)⟩
  · intro call other own
    obtain ⟨known, is, unique⟩ := sound.held call other own
    exact ⟨known, (waits other).mpr is, unique⟩
  · intro call other text is
    obtain ⟨known, blocked⟩ := sound.stale call other text is
    refine ⟨known, fun one there after same own => blocked one there after ?_ ?_⟩
    · rwa [urls, urls] at same
    · rwa [paths] at own
  · intro other unborn
    exact beyond other (sound.unborn other unborn)
  · exact sound.apart

theorem sound_phase (job : Nat) (phase : Phase) (sound : Sound host) (alive : (host.jobs job).phase ≠ .done)
    (started : (host.jobs job).phase ≠ .pending) (next : phase ≠ .pending) : Sound (host.setPhase job phase) :=
  sound_job host job _ sound rfl rfl (iff_of_false next started) (fun done => absurd done alive)

theorem sound_removed (id : String) (sound : Sound host) : Sound (host.setEntry id none) := by
  refine { sound with entry := ?_ }
  intro other entry is
  change Function.update host.entries id none other = some entry at is
  rw [Function.update_apply] at is
  split at is
  · cases is
  · exact sound.entry other entry is

theorem report_own (job : Nat) (change : Entry → Entry) (sound : Sound host) (alive : (host.jobs job).phase ≠ .done)
    (same : ∀ entry, (change entry).job = entry.job ∧ (change entry).path = entry.path) :
    Sound (host.report job change) ∧ (host.report job change).jobs = host.jobs := by
  unfold Host.report
  split
  · exact ⟨sound, rfl⟩
  · rename_i entry is
    have own := entry_own host job entry sound alive is
    obtain ⟨known, url, path, sources, last⟩ := sound.entry _ entry is
    rw [trespass_none host job [entry.job] (List.forall_mem_singleton.mpr (none_later host job entry.job sound alive known))]
    refine ⟨{ sound with entry := ?_ }, rfl⟩
    intro id other there
    change Function.update host.entries (host.jobs job).url _ id = some other at there
    rw [Function.update_apply] at there
    split at there
    · rename_i sameId
      obtain rfl := Option.some.inj there
      obtain ⟨sameJob, samePath⟩ := same entry
      rw [sameJob, samePath, sameId]
      refine ⟨known, url, path, ?_, last⟩
      exact List.forall_mem_append.mpr ⟨sources, List.forall_mem_singleton.mpr own.symm⟩
    · exact sound.entry id other there

theorem touched_by_live (job inode : Nat) (touched : List Nat) (sound : Sound host) (alive : (host.jobs job).phase ≠ .done)
    (there : ∀ other ∈ touched, other ∈ (host.inodes inode).jobs) : host.trespass job touched = host := by
  apply trespass_none
  intro other listed
  exact none_later host job other sound alive (sound.files inode other (there other listed)).1

theorem sound_unlinked (path : String) (sound : Sound host) : Sound { host with files := Function.update host.files path none } :=
  { sound with }

theorem sound_unlink (job : Nat) (path : String) (sound : Sound host) (alive : (host.jobs job).phase ≠ .done) :
    Sound (host.removeFile job path) ∧ (host.removeFile job path).jobs = host.jobs := by
  unfold Host.removeFile
  split
  · exact ⟨sound, rfl⟩
  · rename_i inode is
    rw [touched_by_live host job inode _ sound alive (fun other listed => (List.mem_filter.mp listed).1)]
    exact ⟨sound_unlinked host path sound, rfl⟩

-- A call that removes a stale file removes it for a job that no later one has followed there.
theorem sound_stale_unlink (call job : Nat) (path : String) (sound : Sound host) (is : (host.calls call).pending = some (job, path)) :
    Sound (host.removeFile job path) ∧ (host.removeFile job path).calls = host.calls := by
  unfold Host.removeFile
  split
  · exact ⟨sound, rfl⟩
  · rename_i inode there
    rw [trespass_none]
    · exact ⟨sound_unlinked host path sound, rfl⟩
    · intro other listed later
      obtain ⟨opened, own⟩ := List.mem_filter.mp listed
      obtain ⟨after, same⟩ := (later_iff host job other).mp later
      obtain ⟨known, started⟩ := sound.files inode other opened
      have held := (sound.stale call job path is).2 other known after same (of_decide_eq_true own)
      exact started (sound.held call other held).2.1

-- The file of a live job is created or written, and no later job has it.
theorem sound_inode (job inode : Nat) (content : List UInt8) (jobs : List Nat) (files : String → Option Nat) (nextInode : Nat)
    (sound : Sound host) (known : job < host.nextJob) (started : (host.jobs job).phase ≠ .pending)
    (fewer : ∀ other ∈ jobs, other = job ∨ other ∈ (host.inodes inode).jobs) :
    Sound { host with inodes := Function.update host.inodes inode { content := content, jobs := jobs }, files := files, nextInode := nextInode } := by
  refine { sound with files := ?_ }
  intro one other listed
  change other ∈ (Function.update host.inodes inode _ one).jobs at listed
  rw [Function.update_apply] at listed
  split at listed
  · obtain rfl | old := fewer other listed
    · exact ⟨known, started⟩
    · exact sound.files inode other old
  · exact sound.files one other listed

theorem live_known (job : Nat) (sound : Sound host) (alive : (host.jobs job).phase ≠ .done) : job < host.nextJob := by
  by_contra unborn
  exact alive (sound.unborn job (Nat.le_of_not_lt unborn))

-- A job that runs goes on to another phase of its run, or ends.
theorem sound_run (job : Nat) (state : Job) (sound : Sound host) (alive : (host.jobs job).phase ≠ .done)
    (started : (host.jobs job).phase ≠ .pending) (url : state.url = (host.jobs job).url) (path : state.path = (host.jobs job).path)
    (next : state.phase ≠ .pending) : Sound (host.setJob job state) :=
  sound_job host job state sound url path (iff_of_false next started) (fun done => absurd done alive)

theorem sound_create (job : Nat) (path : String) (sound : Sound host) (alive : (host.jobs job).phase ≠ .done)
    (started : (host.jobs job).phase ≠ .pending) : Sound (host.createFile job path) := by
  have known := live_known host job sound alive
  unfold Host.createFile
  split
  · rename_i inode is
    rw [touched_by_live host job inode _ sound alive (fun _ listed => listed)]
    have moved := sound_run host job { host.jobs job with phase := .looping, handle := some (inode, 0) } sound alive started rfl rfl nofun
    refine sound_inode (host.setJob job _) job inode [] _ _ _ moved known ?_ ?_
    · change (Function.update host.jobs job _ job).phase ≠ _
      rw [Function.update_self]
      exact nofun
    · intro other listed
      obtain old | new := List.mem_append.mp listed
      · exact Or.inr old
      · exact Or.inl (List.mem_singleton.mp new)
  · have moved := sound_run host job { host.jobs job with phase := .looping, handle := some (host.nextInode, 0) } sound alive started rfl rfl nofun
    refine sound_inode (host.setJob job _) job host.nextInode [] _ _ _ moved known ?_ ?_
    · change (Function.update host.jobs job _ job).phase ≠ _
      rw [Function.update_self]
      exact nofun
    · exact fun other listed => Or.inl (List.mem_singleton.mp listed)

theorem sound_write (job inode offset : Nat) (bytes : List UInt8) (phase : Phase) (sound : Sound host)
    (alive : (host.jobs job).phase ≠ .done) (started : (host.jobs job).phase ≠ .pending) (next : phase ≠ .pending) :
    Sound (host.writeFile job inode offset bytes phase) := by
  unfold Host.writeFile
  rw [touched_by_live host job inode _ sound alive (fun _ listed => listed)]
  have moved := sound_run host job { host.jobs job with phase := phase, handle := some (inode, offset + bytes.length) } sound alive started rfl rfl next
  refine sound_inode (host.setJob job _) job inode _ _ _ _ moved (live_known host job sound alive) ?_ (fun _ listed => Or.inr listed)
  change (Function.update host.jobs job _ job).phase ≠ _
  rw [Function.update_self]
  exact next

theorem sound_report (job : Nat) (change : Entry → Entry) (phase : Phase) (sound : Sound host)
    (alive : (host.jobs job).phase ≠ .done) (started : (host.jobs job).phase ≠ .pending) (next : phase ≠ .pending)
    (same : ∀ entry, (change entry).job = entry.job ∧ (change entry).path = entry.path) :
    Sound ((host.report job change).setPhase job phase) := by
  obtain ⟨reported, jobs⟩ := report_own host job change sound alive same
  apply sound_phase (host.report job change) job phase reported _ _ next
  · rw [jobs]
    exact alive
  · rw [jobs]
    exact started

end

theorem or_fail_started (result : Except String Unit) (phase : Phase) (next : phase ≠ .pending) : orFail result phase ≠ .pending := by
  cases result with
  | ok done => exact next
  | error error => exact nofun

theorem sound_worker (host next : Host) (job : Nat) (event : Event) (sound : Sound host) (taken : host.workerStep job event = some next) :
    Sound next := by
  unfold Host.workerStep at taken
  have alive : ∀ phase, (host.jobs job).phase = phase → phase ≠ .done → (host.jobs job).phase ≠ .done := fun phase is other => is ▸ other
  have started : ∀ phase, (host.jobs job).phase = phase → phase ≠ .pending → (host.jobs job).phase ≠ .pending := fun phase is other => is ▸ other
  split at taken
  case h_1 result here =>
      obtain rfl := Option.some.inj taken
      exact sound_phase host job _ sound (alive _ here nofun) (started _ here nofun) (or_fail_started result .head nofun)
  case h_2 result here =>
      obtain rfl := Option.some.inj taken
      apply sound_phase host job _ sound (alive _ here nofun) (started _ here nofun)
      split <;> exact nofun
  case h_3 here | h_6 here | h_8 here =>
      obtain ⟨_, rfl⟩ := Option.ite_some_none_eq_some.mp taken
      exact sound_phase host job _ sound (alive _ here nofun) (started _ here nofun) nofun
  case h_4 totalSize here =>
      obtain rfl := Option.some.inj taken
      exact sound_report host job _ .get sound (alive _ here nofun) (started _ here nofun) nofun (fun _ => ⟨rfl, rfl⟩)
  case h_5 result here =>
      obtain rfl := Option.some.inj taken
      apply sound_phase host job _ sound (alive _ here nofun) (started _ here nofun)
      apply or_fail_started
      split <;> exact nofun
  case h_7 result here =>
      split at taken
      · rename_i path _ _
        obtain rfl := Option.some.inj taken
        exact sound_create host job path sound (alive _ here nofun) (started _ here nofun)
      · obtain rfl := Option.some.inj taken
        exact sound_phase host job _ sound (alive _ here nofun) (started _ here nofun) nofun
      · cases taken
  case h_9 result here =>
      obtain rfl := Option.some.inj taken
      apply sound_phase host job _ sound (alive _ here nofun) (started _ here nofun)
      split
      · split <;> exact nofun
      · exact nofun
      · exact nofun
  case h_10 chunk result count here =>
      split at taken
      · rename_i inode offset _
        obtain rfl := Option.some.inj taken
        split
        · exact sound_write host job inode offset chunk _ sound (alive _ here nofun) (started _ here nofun) nofun
        · exact sound_write host job inode offset (chunk.take count) _ sound (alive _ here nofun) (started _ here nofun) nofun
      · cases taken
  case h_11 chunk here =>
      obtain rfl := Option.some.inj taken
      exact sound_report host job _ .looping sound (alive _ here nofun) (started _ here nofun) nofun (fun _ => ⟨rfl, rfl⟩)
  case h_12 all result here =>
      obtain rfl := Option.some.inj taken
      exact sound_run host job _ sound (alive _ here nofun) (started _ here nofun) rfl rfl (or_fail_started result (.finishing all) nofun)
  case h_13 all here =>
      obtain rfl := Option.some.inj taken
      exact sound_report host job _ (.reporting all) sound (alive _ here nofun) (started _ here nofun) nofun (fun _ => ⟨rfl, rfl⟩)
  case h_14 all here =>
      obtain rfl := Option.some.inj taken
      apply sound_phase host job _ sound (alive _ here nofun) (started _ here nofun)
      split <;> exact nofun
  case h_15 here =>
      obtain rfl := Option.some.inj taken
      split
      · exact sound_phase host job .done sound (alive _ here nofun) (started _ here nofun) nofun
      · rename_i entry is
        have known := (sound.entry _ entry is).1
        rw [trespass_none host job [entry.job] (List.forall_mem_singleton.mpr (none_later host job entry.job sound (alive _ here nofun) known))]
        apply sound_phase (host.setEntry (host.jobs job).url none) job _ (sound_removed host _ sound) (alive _ here nofun) (started _ here nofun)
        split <;> exact nofun
  case h_16 path here =>
      obtain rfl := Option.some.inj taken
      apply sound_phase host job _ sound (alive _ here nofun) (started _ here nofun)
      split <;> exact nofun
  case h_17 path here =>
      obtain rfl := Option.some.inj taken
      obtain ⟨unlinked, jobs⟩ := sound_unlink host job path sound (alive _ here nofun)
      apply sound_phase (host.removeFile job path) job .done unlinked _ _ nofun
      · rw [jobs]
        exact alive _ here nofun
      · rw [jobs]
        exact started _ here nofun
  case h_18 error here =>
      obtain rfl := Option.some.inj taken
      obtain ⟨reported, jobs⟩ := report_own host job (fun entry => { entry with error := some error }) sound (alive _ here nofun) (fun _ => ⟨rfl, rfl⟩)
      rw [← jobs] at here
      refine sound_run (host.report job _) job _ reported (here ▸ nofun) (here ▸ nofun) ?_ ?_ nofun
      · rw [jobs]
      · rw [jobs]
  case h_19 => cases taken

-- A call goes on, and what it holds and has to remove only gets less.
theorem sound_call (host : Host) (call : Nat) (phase : Call) (sound : Sound host) (own : ∀ job, phase.own = some job → (host.calls call).own = some job)
    (pending : ∀ job path, phase.pending = some (job, path) → (host.calls call).pending = some (job, path) ∧ phase.own = (host.calls call).own) :
    Sound (host.setCall call phase) := by
  have owns : ∀ other job, ((host.setCall call phase).calls other).own = some job → (host.calls other).own = some job := by
    intro other job is
    change (Function.update host.calls call phase other).own = some job at is
    rw [Function.update_apply] at is
    split at is
    · rename_i same
      rw [same]
      exact own job is
    · exact is
  refine { sound with held := ?_, stale := ?_ }
  · intro other job is
    obtain ⟨known, waits, unique⟩ := sound.held other job (owns other job is)
    exact ⟨known, waits, fun one holds => unique one (owns one job holds)⟩
  · intro other job path is
    change (Function.update host.calls call phase other).pending = _ at is
    rw [Function.update_apply] at is
    split at is
    · rename_i same
      obtain ⟨was, keeps⟩ := pending job path is
      obtain ⟨known, blocked⟩ := sound.stale call job path was
      refine ⟨known, fun one there after sameUrl onePath => ?_⟩
      change (Function.update host.calls call phase other).own = some one
      rw [same, Function.update_self, keeps]
      exact blocked one there after sameUrl onePath
    · rename_i differs
      obtain ⟨known, blocked⟩ := sound.stale other job path is
      refine ⟨known, fun one there after sameUrl onePath => ?_⟩
      change (Function.update host.calls call phase other).own = some one
      rw [Function.update_of_ne differs]
      exact blocked one there after sameUrl onePath

theorem sound_look_up (host : Host) (call : Nat) (url : String) (path : Option String) (sound : Sound host) :
    Sound (host.lookUp call url path) := by
  unfold Host.lookUp
  split
  · exact sound_call host call _ sound nofun nofun
  · rename_i entry is
    split
    · exact sound_call host call _ sound nofun nofun
    · obtain ⟨known, entryUrl, _, _, last⟩ := sound.entry url entry is
      have removed := sound_removed host url sound
      split
      swap
      · exact sound_call (host.setEntry url none) call _ removed nofun nofun
      rename_i stalePath _
      refine { removed with held := ?_, stale := ?_ }
      · intro other job own
        change (Function.update host.calls call (.stale url path entry.job stalePath) other).own = some job at own
        rw [Function.update_apply] at own
        split at own
        · cases own
        · obtain ⟨there, waits, unique⟩ := sound.held other job own
          refine ⟨there, waits, fun one holds => unique one ?_⟩
          change (Function.update host.calls call (.stale url path entry.job stalePath) one).own = some job at holds
          rw [Function.update_apply] at holds
          split at holds
          · cases holds
          · exact holds
      · intro other job text pends
        change (Function.update host.calls call (.stale url path entry.job stalePath) other).pending = some (job, text) at pends
        rw [Function.update_apply] at pends
        split at pends
        · obtain ⟨rfl, rfl⟩ := Prod.mk.inj (Option.some.inj pends)
          refine ⟨known, fun one there after same _ => ?_⟩
          exact absurd (last one there (same.trans entryUrl)) (Nat.not_le_of_lt after)
        · rename_i differs
          obtain ⟨there, blocked⟩ := sound.stale other job text pends
          refine ⟨there, fun one oneThere after same onePath => ?_⟩
          change (Function.update host.calls call (.stale url path entry.job stalePath) other).own = some one
          rw [Function.update_of_ne differs]
          exact blocked one oneThere after same onePath

section
variable (host : Host) (url : String) (path : Option String)

theorem inserted_old (job : Nat) (known : job < host.nextJob) :
    (host.insertJob url path).jobs job = host.jobs job := Function.update_of_ne (Nat.ne_of_lt known) _ _

theorem inserted_new :
    (host.insertJob url path).jobs host.nextJob = { url := url, path := path, phase := .pending, handle := none, cancelSent := false } :=
  Function.update_self _ _ _

theorem inserted_live (job : Nat) (known : job < host.nextJob) (lives : (host.insertJob url path).live job) : host.live job := by
  refine ⟨known, fun done => lives.2 ?_⟩
  rw [inserted_old host url path job known]
  exact done

end

section
variable (host : Host) (call : Nat) (url : String) (path : Option String)

-- The new job is the last one of its url, the only live one of its url and path, and known to its call alone.
theorem sound_inserted (phase : Call) (sound : Sound host)
    (free : ∀ job, host.live job → (host.jobs job).url ≠ url ∧ (path ≠ none → (host.jobs job).path ≠ path))
    (others : ∀ other stale stalePath, other ≠ call → (host.calls other).pending = some (stale, stalePath) → path ≠ some stalePath)
    (own : phase.own = some host.nextJob)
    (pending : ∀ job stalePath, phase.pending = some (job, stalePath) → job < host.nextJob ∧
      ∀ other, other < host.nextJob → job < other → (host.jobs other).url ≠ (host.jobs job).url) :
    Sound ((host.insertJob url path).setCall call phase) := by
  have older : ∀ job, job < host.nextJob + 1 → job ≠ host.nextJob → job < host.nextJob := fun job known differs => by omega
  constructor
  · intro id entry is
    change Function.update host.entries url _ id = some entry at is
    rw [Function.update_apply] at is
    split at is
    · rename_i sameId
      obtain rfl := Option.some.inj is
      refine ⟨Nat.lt_succ_self _, ?_, ?_, nofun, fun job known _ => Nat.le_of_lt_succ known⟩
      · exact (congrArg Job.url (inserted_new host url path)).trans sameId.symm
      · exact (congrArg Job.path (inserted_new host url path)).symm
    · rename_i otherId
      obtain ⟨known, entryUrl, entryPath, sources, last⟩ := sound.entry id entry is
      refine ⟨Nat.lt_succ_of_lt known, ?_, ?_, sources, ?_⟩
      · exact (congrArg Job.url (inserted_old host url path entry.job known)).trans entryUrl
      · exact entryPath.trans (congrArg Job.path (inserted_old host url path entry.job known)).symm
      · intro job jobKnown same
        by_cases new : job = host.nextJob
        · rw [new] at same
          exact absurd ((congrArg Job.url (inserted_new host url path)).symm.trans same).symm otherId
        · exact last job (older job jobKnown new) ((congrArg Job.url (inserted_old host url path job (older job jobKnown new))).symm.trans same)
  · intro job other before known same
    have jobKnown : job < host.nextJob := Nat.lt_of_lt_of_le before (Nat.le_of_lt_succ known)
    have jobSame := inserted_old host url path job jobKnown
    refine (congrArg Job.phase jobSame).trans ?_
    by_cases new : other = host.nextJob
    · rw [new] at same
      have urls : url = (host.jobs job).url :=
        (congrArg Job.url (inserted_new host url path)).symm.trans (same.trans (congrArg Job.url jobSame))
      by_contra alive
      exact (free job ⟨jobKnown, alive⟩).1 urls.symm
    · have otherSame := inserted_old host url path other (older other known new)
      exact sound.order job other before (older other known new)
        ((congrArg Job.url otherSame).symm.trans (same.trans (congrArg Job.url jobSame)))
  · intro job other text lives otherLives jobPath otherPath
    by_cases jobNew : job = host.nextJob
    · by_cases otherNew : other = host.nextJob
      · exact jobNew.trans otherNew.symm
      · have known := older other otherLives.1 otherNew
        rw [jobNew] at jobPath
        have mine : path = some text := (congrArg Job.path (inserted_new host url path)).symm.trans jobPath
        have theirs : (host.jobs other).path = some text := (congrArg Job.path (inserted_old host url path other known)).symm.trans otherPath
        have apart := (free other (inserted_live host url path other known otherLives)).2 (by rw [mine]; exact nofun)
        exact absurd (theirs.trans mine.symm) apart
    · have known := older job lives.1 jobNew
      have theirs : (host.jobs job).path = some text := (congrArg Job.path (inserted_old host url path job known)).symm.trans jobPath
      by_cases otherNew : other = host.nextJob
      · rw [otherNew] at otherPath
        have mine : path = some text := (congrArg Job.path (inserted_new host url path)).symm.trans otherPath
        have apart := (free job (inserted_live host url path job known lives)).2 (by rw [mine]; exact nofun)
        exact absurd (theirs.trans mine.symm) apart
      · have otherKnown := older other otherLives.1 otherNew
        exact sound.paths job other text (inserted_live host url path job known lives) (inserted_live host url path other otherKnown otherLives)
          theirs ((congrArg Job.path (inserted_old host url path other otherKnown)).symm.trans otherPath)
  · intro inode job listed
    obtain ⟨known, started⟩ := sound.files inode job listed
    refine ⟨Nat.lt_succ_of_lt known, fun waits => started ?_⟩
    exact (congrArg Job.phase (inserted_old host url path job known)).symm.trans waits
  · intro other job holds
    change (Function.update host.calls call phase other).own = some job at holds
    rw [Function.update_apply] at holds
    split at holds
    · rename_i same
      obtain rfl := Option.some.inj (own.symm.trans holds)
      refine ⟨Nat.lt_succ_self _, congrArg Job.phase (inserted_new host url path), ?_⟩
      intro one oneHolds
      change (Function.update host.calls call phase one).own = _ at oneHolds
      rw [Function.update_apply] at oneHolds
      split at oneHolds
      · rename_i oneSame
        exact oneSame.trans same.symm
      · exact absurd (sound.held one _ oneHolds).1 (Nat.lt_irrefl _)
    · rename_i differs
      obtain ⟨known, waits, unique⟩ := sound.held other job holds
      refine ⟨Nat.lt_succ_of_lt known, (congrArg Job.phase (inserted_old host url path job known)).trans waits, ?_⟩
      intro one oneHolds
      change (Function.update host.calls call phase one).own = _ at oneHolds
      rw [Function.update_apply] at oneHolds
      split at oneHolds
      · obtain rfl := Option.some.inj (own.symm.trans oneHolds)
        exact absurd known (Nat.lt_irrefl _)
      · exact unique one oneHolds
  · intro other job text pends
    change (Function.update host.calls call phase other).pending = some (job, text) at pends
    rw [Function.update_apply] at pends
    split at pends
    · rename_i same
      obtain ⟨known, alone⟩ := pending job text pends
      refine ⟨Nat.lt_succ_of_lt known, fun one there after sameUrl onePath => ?_⟩
      change (Function.update host.calls call phase other).own = some one
      rw [same, Function.update_self]
      by_cases new : one = host.nextJob
      · rw [new]
        exact own
      · have oneKnown := older one there new
        exact absurd ((congrArg Job.url (inserted_old host url path one oneKnown)).symm.trans
          (sameUrl.trans (congrArg Job.url (inserted_old host url path job known)))) (alone one oneKnown after)
    · rename_i differs
      obtain ⟨known, blocked⟩ := sound.stale other job text pends
      refine ⟨Nat.lt_succ_of_lt known, fun one there after sameUrl onePath => ?_⟩
      change (Function.update host.calls call phase other).own = some one
      rw [Function.update_of_ne differs]
      by_cases new : one = host.nextJob
      · rw [new] at onePath
        exact absurd ((congrArg Job.path (inserted_new host url path)).symm.trans onePath) (others other job text differs pends)
      · have oneKnown := older one there new
        refine blocked one oneKnown after ?_ ?_
        · exact (congrArg Job.url (inserted_old host url path one oneKnown)).symm.trans
            (sameUrl.trans (congrArg Job.url (inserted_old host url path job known)))
        · exact (congrArg Job.path (inserted_old host url path one oneKnown)).symm.trans onePath
  · intro job unborn
    change (Function.update host.jobs host.nextJob _ job).phase = .done
    have later : host.nextJob + 1 ≤ job := unborn
    rw [Function.update_of_ne (by omega)]
    exact sound.unborn job (by omega)
  · exact sound.apart

theorem sound_insert (sound : Sound host) (alone : (host.entries url).all (fun entry => entry.error.isSome) = true →
      (∀ job, host.live job → (host.jobs job).url ≠ url ∧ (path ≠ none → (host.jobs job).path ≠ path)) ∧
        ∀ other stale stalePath, other ≠ call → (host.calls other).pending = some (stale, stalePath) → path ≠ some stalePath) :
    Sound (host.insert call url path) := by
  unfold Host.insert
  split
  · rename_i none_
    obtain ⟨free, others⟩ := alone (by rw [none_]; rfl)
    exact sound_inserted host call url path _ sound free others rfl nofun
  · rename_i existing is
    split
    · exact sound_call host call _ sound nofun nofun
    · rename_i failed
      obtain ⟨free, others⟩ := alone (by rw [is]; exact Option.isSome_iff_ne_none.mpr failed)
      split
      swap
      · exact sound_inserted host call url path _ sound free others rfl nofun
      refine sound_inserted host call url path _ sound free others rfl ?_
      intro job stalePath pends
      obtain ⟨rfl, rfl⟩ := Prod.mk.inj (Option.some.inj pends)
      obtain ⟨known, entryUrl, _, _, last⟩ := sound.entry url existing is
      exact ⟨known, fun other there after same => absurd (last other there (same.trans entryUrl)) (Nat.not_le_of_lt after)⟩

end

-- The call starts the thread of the job that only it knows of.
theorem sound_spawn (host : Host) (call own : Nat) (result : Except String String) (sound : Sound host) (here : host.calls call = .spawning own) :
    Sound ((host.setPhase own .client).setCall call (.returned result)) := by
  obtain ⟨known, waits, unique⟩ := sound.held call own (by rw [here]; rfl)
  have urls : ∀ job, ((host.setPhase own .client).jobs job).url = (host.jobs job).url ∧ ((host.setPhase own .client).jobs job).path = (host.jobs job).path := by
    intro job
    change (Function.update host.jobs own _ job).url = _ ∧ (Function.update host.jobs own _ job).path = _
    rw [Function.update_apply]
    split
    · rename_i same
      rw [same]
      exact ⟨rfl, rfl⟩
    · exact ⟨rfl, rfl⟩
  have phases : ∀ job, job ≠ own → ((host.setPhase own .client).jobs job).phase = (host.jobs job).phase :=
    fun job differs => congrArg Job.phase (Function.update_of_ne differs _ _)
  have alive : ∀ job, (host.setPhase own .client).live job → host.live job := by
    intro job lives
    refine ⟨lives.1, ?_⟩
    by_cases same : job = own
    · rw [same, waits]
      exact nofun
    · rw [← phases job same]
      exact lives.2
  have owns : ∀ other job, (((host.setPhase own .client).setCall call (.returned result)).calls other).own = some job →
      other ≠ call ∧ (host.calls other).own = some job := by
    intro other job is
    change (Function.update host.calls call (.returned result) other).own = some job at is
    rw [Function.update_apply] at is
    split at is
    · cases is
    · rename_i differs
      exact ⟨differs, is⟩
  constructor
  · intro id entry is
    obtain ⟨there, entryUrl, path, sources, last⟩ := sound.entry id entry is
    exact ⟨there, (urls _).1.trans entryUrl, path.trans (urls _).2.symm, sources, fun job jobThere same => last job jobThere ((urls job).1.symm.trans same)⟩
  · intro job other before there same
    have done := sound.order job other before there ((urls other).1.symm.trans (same.trans (urls job).1))
    have differs : job ≠ own := by
      rintro rfl
      rw [waits] at done
      cases done
    exact (phases job differs).trans done
  · intro job other text lives otherLives jobPath otherPath
    exact sound.paths job other text (alive job lives) (alive other otherLives) ((urls job).2.symm.trans jobPath) ((urls other).2.symm.trans otherPath)
  · intro inode job listed
    obtain ⟨there, started⟩ := sound.files inode job listed
    refine ⟨there, fun is => started ?_⟩
    have differs : job ≠ own := by
      rintro rfl
      exact started waits
    exact (phases job differs).symm.trans is
  · intro other job holds
    obtain ⟨differs, was⟩ := owns other job holds
    obtain ⟨there, pending, others⟩ := sound.held other job was
    have unlike : job ≠ own := by
      rintro rfl
      exact differs (unique other was)
    exact ⟨there, (phases job unlike).trans pending, fun one oneHolds => others one (owns one job oneHolds).2⟩
  · intro other job text pends
    change (Function.update host.calls call (.returned result) other).pending = some (job, text) at pends
    rw [Function.update_apply] at pends
    split at pends
    · cases pends
    · rename_i differs
      obtain ⟨there, blocked⟩ := sound.stale other job text pends
      refine ⟨there, fun one oneThere after same onePath => ?_⟩
      change (Function.update host.calls call (.returned result) other).own = some one
      rw [Function.update_of_ne differs]
      exact blocked one oneThere after ((urls one).1.symm.trans (same.trans (urls job).1)) ((urls one).2.symm.trans onePath)
  · intro job unborn
    have differs : job ≠ own := by
      rintro rfl
      exact absurd known (Nat.not_lt_of_le unborn)
    exact (phases job differs).trans (sound.unborn job unborn)
  · exact sound.apart

theorem sound_call_step (host next : Host) (call : Nat) (prepared : Except String Unit) (sound : Sound host)
    (alone : Alone host (.call call prepared)) (taken : host.callStep call prepared = some next) : Sound next := by
  unfold Host.callStep at taken
  dsimp only [Alone] at alone
  cases here : host.calls call with
  | absent =>
      rw [here] at taken
      cases taken
  | returned result =>
      rw [here] at taken
      cases taken
  | called url path =>
      rw [here] at taken
      obtain rfl := Option.some.inj taken
      exact sound_look_up host call url path sound
  | stale url path job stalePath =>
      rw [here] at taken
      obtain rfl := Option.some.inj taken
      split
      · refine sound_call host call _ sound nofun (fun one text is => ?_)
        rw [here]
        exact ⟨is, rfl⟩
      · exact sound_call host call _ sound nofun nofun
  | removing url path job stalePath =>
      rw [here] at taken
      obtain rfl := Option.some.inj taken
      exact sound_call _ call _ (sound_stale_unlink host call job stalePath sound (by rw [here]; rfl)).1 nofun nofun
  | checking url path =>
      rw [here] at taken
      obtain rfl := Option.some.inj taken
      split
      · split
        · exact sound_call host call _ sound nofun nofun
        · exact sound_call host call _ sound nofun nofun
      · exact sound_call host call _ sound nofun nofun
  | preparing url path =>
      rw [here] at taken
      obtain rfl := Option.some.inj taken
      split
      · exact sound_call host call _ sound nofun nofun
      · exact sound_call host call _ sound nofun nofun
  | inserting url path =>
      rw [here] at taken alone
      obtain rfl := Option.some.inj taken
      exact sound_insert host call url path sound alone
  | staleAfter own job stalePath =>
      rw [here] at taken
      obtain rfl := Option.some.inj taken
      split
      · refine sound_call host call _ sound (fun one is => ?_) (fun one text is => ?_)
        · rw [here]
          exact is
        · rw [here]
          exact ⟨is, rfl⟩
      · refine sound_call host call _ sound (fun one is => ?_) nofun
        rw [here]
        exact is
  | removingAfter own job stalePath =>
      rw [here] at taken
      obtain rfl := Option.some.inj taken
      obtain ⟨unlinked, calls⟩ := sound_stale_unlink host call job stalePath sound (by rw [here]; rfl)
      refine sound_call _ call _ unlinked (fun one is => ?_) nofun
      rw [calls, here]
      exact is
  | spawning own =>
      rw [here] at taken
      obtain rfl := Option.some.inj taken
      exact sound_spawn host call own _ sound here

theorem sound_step (host : Host) (label : Label) (next : Host) (sound : Sound host) (alone : Alone host label)
    (taken : step host label = some next) : Sound next := by
  cases label with
  | downloadFile call url path =>
      dsimp only [step] at taken
      split at taken
      · obtain rfl := Option.some.inj taken
        exact sound_call host call _ sound nofun nofun
      · cases taken
  | call call prepared => exact sound_call_step host next call prepared sound alone taken
  | worker job event => exact sound_worker host next job event sound taken
  | cancel id =>
      dsimp only [step] at taken
      split at taken
      · obtain rfl := Option.some.inj taken
        exact sound_job host _ _ sound rfl rfl Iff.rfl (fun done => done)
      · obtain rfl := Option.some.inj taken
        exact sound
  | remove id =>
      obtain rfl := Option.some.inj taken
      exact sound_removed host id sound

theorem sound_start (files : String → Option Nat) (nextInode : Nat) : Sound (start files nextInode) :=
  ⟨nofun, fun _ other _ known => absurd known (Nat.not_lt_zero other), fun job _ _ lives => absurd lives.1 (Nat.not_lt_zero job),
    nofun, nofun, nofun, fun _ _ => rfl, rfl⟩

theorem downloads_isolated (files : String → Option Nat) (nextInode : Nat) (past : List (Host × Label)) (host : Host)
    (traced : Machine.Traced step (start files nextInode) past host) (alone : ∀ entry ∈ past, Alone entry.1 entry.2) :
    (∀ entry ∈ past, Isolated entry.1) ∧ Isolated host := by
  obtain ⟨before, here⟩ := Machine.traced_kept step Sound Alone (start files nextInode) host past (sound_start files nextInode) sound_step traced alone
  exact ⟨fun entry listed => sound_isolated entry.1 (before entry listed), sound_isolated host here⟩

-- One download into memory, from the call to the end of its worker.
def oneDownload : List Label :=
  [.downloadFile 0 "u" none, .call 0 (.ok ()), .call 0 (.ok ()), .call 0 (.ok ()), .call 0 (.ok ()), .worker 0 (.client (.ok ())),
   .worker 0 (.head (.ok 2)), .worker 0 .go, .worker 0 (.get (.ok ())), .worker 0 (.chunk (.ok (some [7, 8]))), .worker 0 .go,
   .worker 0 (.chunk (.ok none)), .worker 0 (.flush (.ok ())), .worker 0 .go, .worker 0 .go]

theorem one_download_runs : (Machine.run step (start (fun _ => none) 0) oneDownload).isSome = true := by decide

theorem one_download_alone : ∀ entry ∈ Machine.trace step (start (fun _ => none) 0) oneDownload, Alone entry.1 entry.2 := by
  refine List.forall_mem_cons.mpr ⟨trivial, List.forall_mem_cons.mpr ⟨trivial, List.forall_mem_cons.mpr ⟨trivial, List.forall_mem_cons.mpr ⟨?_, ?_⟩⟩⟩⟩
  · exact fun _ => ⟨fun job lives => absurd lives.1 (Nat.not_lt_zero job), fun _ _ _ _ _ => nofun⟩
  · repeat (refine List.forall_mem_cons.mpr ⟨trivial, ?_⟩)
    exact nofun

theorem downloads_isolated_once :
    getDownloadData ((Machine.run step (start (fun _ => none) 0) oneDownload).get one_download_runs) "u" =
        .ok { data := [7, 8], path := none, totalSize := some 2, downloadedSize := 2, error := none } ∧
      (∀ entry ∈ Machine.trace step (start (fun _ => none) 0) oneDownload, Isolated entry.1) ∧
        Isolated ((Machine.run step (start (fun _ => none) 0) oneDownload).get one_download_runs) := by
  refine ⟨by decide +kernel, ?_⟩
  exact downloads_isolated (fun _ => none) 0 _ _ (Machine.traced_run step (start (fun _ => none) 0) oneDownload one_download_runs) one_download_alone

-- The entry of a running job is removed and made again before its worker notices.
def recreated : List Label :=
  [.downloadFile 0 "u" none, .call 0 (.ok ()), .call 0 (.ok ()), .call 0 (.ok ()), .call 0 (.ok ()), .worker 0 (.client (.ok ())), .remove "u",
   .downloadFile 1 "u" none, .call 1 (.ok ()), .call 1 (.ok ()), .call 1 (.ok ()), .call 1 (.ok ()),
   .worker 0 .cancelled, .worker 0 .go, .worker 0 .go]

theorem recreated_trespass : (Machine.run step (start (fun _ => none) 0) recreated).map (fun host => (host.trespasses, (host.entries "u").isSome)) =
    some ([(0, 1)], false) := by
  decide +kernel

theorem late_worker_removes : ∃ host, Machine.Reachable step (start (fun _ => none) 0) host ∧ ¬ Isolated host := by
  obtain ⟨host, ran, state⟩ := Option.map_eq_some_iff.mp recreated_trespass
  refine ⟨host, ⟨recreated, ran⟩, fun isolated => ?_⟩
  have apart := isolated.apart
  rw [(Prod.mk.inj state).1] at apart
  cases apart

end GotechDesk.Downloader
