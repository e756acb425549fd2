import GotechDesk.FileTransfer.ReadCompletion
import GotechDesk.FileTransfer.Delegated

set_option autoImplicit false

namespace GotechDesk.FileTransfer

-- The direct path: the connection reads the files itself.
structure Direct where
  readJobs : List TransferJob
  received : List PeerResponse
deriving DecidableEq, Repr

section
variable {Wire : Type}

def createAndStartReadJob (setup : Setup Wire) (id : Int32) (path : Name) (fileNum : Int32) (listed : Except String (List FileEntry)) :
    Option TransferJob × PeerResponse :=
  match listed with
  | .error err => (none, .file (.error id err 0))
  | .ok files =>
      match checkFileCountLimit setup.maxFiles files.length with
      | .error msg => (none, .file (.error id msg (-1)))
      | .ok _ =>
          (some (newRead id .generic path fileNum setup.overwriteDetection files), .dir { id := id, path := path, entries := files })

def TransferJob.hasId (id : Int32) (job : TransferJob) : Bool := job.id = id

def Direct.onMessage (setup : Setup Wire) (state : Direct) (listed : Except String (List FileEntry)) (fs : FileSystem) : PeerMessage → Direct
  | .send id path fileNum =>
      let started := createAndStartReadJob setup id path fileNum listed
      { readJobs := state.readJobs ++ started.1.toList, received := state.received ++ [started.2] }
  | .confirm r =>
      { state with readJobs := changeFirst (TransferJob.hasId r.id) (fun job => (job.confirm setup.style fs r).1) state.readJobs }
  | .cancel id => { state with readJobs := state.readJobs.eraseP (TransferJob.hasId id) }

def TransferJob.initTick (style : Style) (disk : Disk) (job : TransferJob) : TransferJob × List FileResponse :=
  if job.isLastJob then (job, [])
  else
    match job.initDataStream style disk with
    | (after, .error text) => (after, [.error after.id text after.fileNum])
    | (after, .ok responses) => (after, responses)

structure DirectRead where
  jobs : List TransferJob
  responses : List FileResponse
  finished : List Int32

def TransferJob.readTick (setup : Setup Wire) (disk : Disk) (job : TransferJob) : TransferJob × List FileResponse × Bool :=
  match job.read setup.style setup.codec disk with
  | (after, .error text) => (after, [.error after.id text after.fileNum], false)
  | (after, .ok (some block)) => (after, [.block block], false)
  | (after, .ok none) => if after.jobCompleted then (after, [after.lastResponse], true) else (after, [], false)

def readFirstJob (setup : Setup Wire) (disk : Disk) : List TransferJob → DirectRead
  | [] => { jobs := [], responses := [], finished := [] }
  | job :: rest =>
      if job.isLastJob then
        let after := readFirstJob setup disk rest
        { after with jobs := job :: after.jobs }
      else
        let read := job.readTick setup disk
        { jobs := read.1 :: rest, responses := read.2.1, finished := if read.2.2 then [job.id] else [] }

def Direct.tick (setup : Setup Wire) (state : Direct) (disks : Nat → Disk) (disk : Disk) : Direct :=
  let begun := state.readJobs.mapIdx (fun place job => job.initTick setup.style (disks place))
  let read := readFirstJob setup disk (begun.map Prod.fst)
  { readJobs := removeJobs TransferJob.hasId read.finished read.jobs,
    received := state.received ++ (begun.flatMap Prod.snd ++ read.responses).map .file }

-- Both paths side by side. The direct one takes a message when the manager does.
structure Compared (Wire : Type) where
  delegated : Delegated Wire
  direct : Direct

def noCompared (Wire : Type) : Compared Wire := { delegated := noDelegated Wire, direct := { readJobs := [], received := [] } }

def PeerMessage.id : PeerMessage → Int32
  | .send id _ _ => id
  | .confirm r => r.id
  | .cancel id => id

-- All the messages are about one job.
def Compared.step (setup : Setup Wire) (id : Int32) (state : Compared Wire) (label : DelegatedLabel) : Option (Compared Wire) :=
  match label with
  | .message asked => if asked.id = id then some { state with delegated := state.delegated.onMessage setup asked } else none
  | .take listed fs =>
      state.delegated.toCm.head?.bind (fun request =>
        (state.delegated.take setup listed fs).map (fun after =>
          { delegated := after, direct := state.direct.onMessage setup listed fs request.asked }))
  | .tick disks disk => some { delegated := state.delegated.tick setup disks disk, direct := state.direct.tick setup disks disk }
  | .deliver => (state.delegated.deliver setup).map (fun after => { state with delegated := after })

structure Mirrors (state : Compared Wire) : Prop where
  sofar : state.delegated.received.map Receipt.response <+: state.direct.received
  whole : state.delegated.fromCm = [] → state.delegated.received.map Receipt.response = state.direct.received

-- The disk answers what a tick asks it for the current entry of a job.
structure Answered (style : Style) (start disk : Disk) (job : TransferJob) : Prop where
  opens : ∀ entry, job.entry = some entry → job.dataStream = none → start.opens (join style job.base entry.name) = none
  dates : ∀ entry stream, job.entry = some entry → ∃ found, start.metadata (join style job.base entry.name) stream = .ok found
  reads : ∀ entry call stream space, job.entry = some entry → ∃ data, disk.reads (join style job.base entry.name) call stream space = .ok data

def Named (setup : Setup Wire) (jobs : List TransferJob) (listed : Except String (List FileEntry)) : PeerMessage → Prop
  | .send _ _ _ =>
      match listed with
      | .ok files => files.length ≤ setup.maxFiles
      | .error _ => False
  | .confirm r => ∀ job ∈ jobs, r.fileNum = job.fileNum ∧ r.union.isSome = true
  | .cancel _ => True

instance (setup : Setup Wire) (jobs : List TransferJob) (listed : Except String (List FileEntry)) (asked : PeerMessage) :
    Decidable (Named setup jobs listed asked) :=
  match asked, listed with
  | .send _ _ _, .ok files => inferInstanceAs (Decidable (files.length ≤ setup.maxFiles))
  | .send _ _ _, .error _ => inferInstanceAs (Decidable False)
  | .confirm r, _ => inferInstanceAs (Decidable (∀ job ∈ jobs, r.fileNum = job.fileNum ∧ r.union.isSome = true))
  | .cancel _, _ => inferInstanceAs (Decidable True)

-- No Send or Cancel crosses a result, the listing is good, and a confirmation names the current file.
def InOrder (setup : Setup Wire) (state : Compared Wire) : DelegatedLabel → Prop
  | .message (.send _ _ _) => state.delegated.toCm = [] ∧ state.delegated.fromCm = [] ∧ state.direct.readJobs = []
  | .message (.confirm _) => True
  | .message (.cancel _) => state.delegated.toCm = [] ∧ state.delegated.fromCm = []
  | .take listed _ => ∀ request ∈ state.delegated.toCm.head?.toList, Named setup state.direct.readJobs listed request.asked
  | .tick _ _ => ∀ job ∈ state.direct.readJobs, ∀ request ∈ state.delegated.toCm, request.asked ≠ .cancel job.id
  | .deliver => True

instance (setup : Setup Wire) (state : Compared Wire) (label : DelegatedLabel) : Decidable (InOrder setup state label) :=
  match label with
  | .message (.send _ _ _) =>
      inferInstanceAs (Decidable (state.delegated.toCm = [] ∧ state.delegated.fromCm = [] ∧ state.direct.readJobs = []))
  | .message (.confirm _) => inferInstanceAs (Decidable True)
  | .message (.cancel _) => inferInstanceAs (Decidable (state.delegated.toCm = [] ∧ state.delegated.fromCm = []))
  | .take listed _ =>
      inferInstanceAs (Decidable (∀ request ∈ state.delegated.toCm.head?.toList, Named setup state.direct.readJobs listed request.asked))
  | .tick _ _ =>
      inferInstanceAs (Decidable (∀ job ∈ state.direct.readJobs, ∀ request ∈ state.delegated.toCm, request.asked ≠ .cancel job.id))
  | .deliver => inferInstanceAs (Decidable True)

def Readable (setup : Setup Wire) (state : Compared Wire) : DelegatedLabel → Prop
  | .tick disks disk => ∀ place job, state.direct.readJobs[place]? = some job → Answered setup.style (disks place) disk job
  | _ => True

structure Plain (setup : Setup Wire) (state : Compared Wire) (label : DelegatedLabel) : Prop where
  inOrder : InOrder setup state label
  readable : Readable setup state label

inductive InitEcho : TransferJob × Except String (List FileResponse) → TransferJob × Except String (List (Data Wire)) → Prop where
  | failed (job : TransferJob) (text : String) : InitEcho (job, .error text) (job, .error text)
  | quiet (job : TransferJob) : InitEcho (job, .ok []) (job, .ok [])
  | asks (job : TransferJob) (found : Nat × Nat) :
      InitEcho (job, .ok [job.digestMessage found]) (job, .ok [.fileDigestFromCM job.id job.fileNum found.1 found.2 job.isResume])

theorem init_echo (Wire : Type) (style : Style) (disk : Disk) (job : TransferJob) :
    InitEcho (job.initDataStream style disk) (initReadJobForCm style disk job : TransferJob × Except String (List (Data Wire))) := by
  unfold initReadJobForCm TransferJob.initDataStream TransferJob.initDataStreamForCm
  generalize job.openDataStream style disk = outcome
  obtain ⟨opened, text | passed | more⟩ := outcome
  · exact .failed opened text
  · dsimp only
    by_cases asks : opened.needsDigest = true
    · rw [if_pos asks, if_pos asks]
      cases opened.getCurrentDigest style disk with
      | error text => exact .failed opened text
      | ok found => exact .asks { opened with fileIsWaiting := true } found
    · rw [if_neg asks, if_neg asks]
      exact .quiet opened
  · exact .quiet opened

-- A job that differs from another in its stream and flags only.
structure KeptJob (job after : TransferJob) : Prop where
  id : after.id = job.id
  isLastJob : after.isLastJob = job.isLastJob

theorem init_answered (style : Style) (start disk : Disk) (job : TransferJob) (answered : Answered style start disk job) :
    ∃ opened responses, job.initDataStream style start = (opened, .ok responses) ∧ KeptJob job opened ∧ opened.entry = job.entry ∧
      opened.base = job.base ∧ (opened.entry.isSome = true → opened.dataStream.isSome = true) := by
  have shape := initDataStream_cases style start job
  generalize job.initDataStream style start = outcome at shape
  have openedHas : ∀ opened, Opened style start job opened →
      KeptJob job opened ∧ opened.entry = job.entry ∧ opened.base = job.base ∧ opened.dataStream.isSome = true := by
    intro opened isOpen
    cases isOpen with
    | already entry stream listed isOpen => exact ⟨⟨rfl, rfl⟩, rfl, rfl, by rw [isOpen]; rfl⟩
    | fresh entry listed closed opens => exact ⟨⟨rfl, rfl⟩, rfl, rfl, rfl⟩
  cases shape with
  | done passed =>
      refine ⟨_, _, rfl, ⟨rfl, rfl⟩, rfl, rfl, fun listed => ?_⟩
      have none : ({ job with dataStream := none } : TransferJob).entry = job.entry := rfl
      rw [none, passed] at listed
      cases listed
  | unopened entry text listed closed refused => exact absurd refused (by rw [answered.opens entry listed closed]; nofun)
  | quiet opened isOpen unasked =>
      obtain ⟨same, entry, base, stream⟩ := openedHas opened isOpen
      exact ⟨opened, [], rfl, same, entry, base, fun _ => stream⟩
  | undigested opened text isOpen asked refused =>
      obtain ⟨same, entry, base, streaming⟩ := openedHas opened isOpen
      obtain ⟨stream, isStream⟩ := Option.isSome_iff_exists.mp streaming
      have listed : ∃ current, job.entry = some current := by
        cases isOpen with
        | already current stream listed isOpen => exact ⟨current, listed⟩
        | fresh current listed closed opens => exact ⟨current, listed⟩
      obtain ⟨current, listed⟩ := listed
      obtain ⟨found, dated⟩ := answered.dates current stream listed
      rw [TransferJob.getCurrentDigest, isStream, entry, listed, base] at refused
      exact absurd refused (by simp [dated])
  | waiting opened found isOpen =>
      obtain ⟨same, entry, base, stream⟩ := openedHas opened isOpen
      exact ⟨_, _, rfl, ⟨same.id, same.isLastJob⟩, entry, base, fun _ => stream⟩

theorem fill_answered (reads : Nat → DataStream → Nat → Except String Bytes) (answers : ∀ call stream space, ∃ data, reads call stream space = .ok data)
    (stream : DataStream) (turns call : Nat) (buf : Bytes) : ∃ filled, fill reads stream turns call buf = .ok filled := by
  induction turns generalizing call buf with
  | zero => exact ⟨buf, rfl⟩
  | succ turns ih =>
      obtain ⟨data, answer⟩ := answers call { stream with pos := stream.pos + buf.length } (bufSize - buf.length)
      rw [fill, answer]
      dsimp only
      split
      · exact ⟨_, rfl⟩
      · exact ih (call + 1) _

theorem read_answered (style : Style) (codec : Codec) (disk : Disk) (job : TransferJob)
    (streams : job.entry.isSome = true → job.dataStream.isSome = true)
    (reads : ∀ entry call stream space, job.entry = some entry → ∃ data, disk.reads (join style job.base entry.name) call stream space = .ok data) :
    ∃ after block, job.read style codec disk = (after, .ok block) ∧ KeptJob job after ∧ ∀ found ∈ block, found.id = job.id := by
  unfold TransferJob.read
  split
  · exact ⟨job, none, rfl, ⟨rfl, rfl⟩, nofun⟩
  · cases listed : job.entry with
    | none => exact ⟨_, none, rfl, ⟨rfl, rfl⟩, nofun⟩
    | some entry =>
        obtain ⟨stream, isStream⟩ := Option.isSome_iff_exists.mp (streams (by rw [listed]; rfl))
        obtain ⟨filled, isFilled⟩ := fill_answered (disk.reads (join style job.base entry.name))
          (fun call stream space => reads entry call stream space listed) stream bufSize 0 []
        rw [isStream]
        dsimp only
        rw [isFilled]
        cases filled with
        | nil => exact ⟨_, _, rfl, ⟨rfl, rfl⟩, by rintro found ⟨⟩; rfl⟩
        | cons byte rest => exact ⟨_, _, rfl, ⟨rfl, rfl⟩, by rintro found ⟨⟩; rfl⟩

-- The results of one tick of one job: those that leave the job running, and the one that ends it.
structure Ongoing (format : DirectoryFormat Wire) (id : Int32) (data : List (Data Wire)) : Prop where
  owned : ∀ result ∈ data, result.id = id
  lasts : ∀ result ∈ data, result.last format = false

theorem tick_mirrors (setup : Setup Wire) (disks : Nat → Disk) (disk : Disk) (entry : CmJob) (received : List PeerResponse)
    (active : entry.job.isLastJob = false) (answered : Answered setup.style (disks 0) disk entry.job) :
    ∃ job more, KeptJob entry.job job ∧ Ongoing setup.format entry.job.id more ∧
      ((tickJobs setup disks disk 0 [entry] = { jobs := [{ entry with job := job }], results := stamp entry.serial more, finished := [] } ∧
          Direct.tick setup { readJobs := [entry.job], received := received } disks disk =
            { readJobs := [job], received := received ++ more.map (Data.response setup.format) }) ∨
        ∃ last, last.id = entry.job.id ∧ last.last setup.format = true ∧
          tickJobs setup disks disk 0 [entry] =
            { jobs := [{ entry with job := job }], results := stamp entry.serial (more ++ [last]), finished := [job.id] } ∧
          Direct.tick setup { readJobs := [entry.job], received := received } disks disk =
            { readJobs := [], received := received ++ (more ++ [last]).map (Data.response setup.format) }) := by
  obtain ⟨opened, responses, began, same, listed, base, streams⟩ := init_answered setup.style (disks 0) disk entry.job answered
  obtain ⟨after, block, isRead, sameRead, blocks⟩ := read_answered setup.style setup.codec disk opened streams (by
    rw [listed, base]
    exact answered.reads)
  have lasting : opened.isLastJob = false := same.isLastJob.trans active
  have echo : ∃ sent : List (Data Wire), initReadJobForCm setup.style (disks 0) entry.job = (opened, .ok sent) ∧
      Ongoing setup.format entry.job.id sent ∧ responses.map PeerResponse.file = sent.map (Data.response setup.format) := by
    have echoed := init_echo Wire setup.style (disks 0) entry.job
    rw [began] at echoed
    generalize (initReadJobForCm setup.style (disks 0) entry.job : TransferJob × Except String (List (Data Wire))) = outcome at echoed
    cases echoed with
    | quiet => exact ⟨[], rfl, ⟨by simp, by simp⟩, rfl⟩
    | asks found => exact ⟨[_], rfl, ⟨by simp [Data.id, same.id], by simp [Data.last]⟩, rfl⟩
  obtain ⟨sent, beganCm, ongoing, matching⟩ := echo
  have cm : tickJobs setup disks disk 0 [entry] =
      { jobs := [{ entry with job := (readForCm setup disk opened : ReadTurn Wire).job }],
        results := stamp entry.serial (sent ++ (readForCm setup disk opened).sent),
        finished := if (readForCm setup disk opened : ReadTurn Wire).finished then [(readForCm setup disk opened : ReadTurn Wire).job.id] else [] } := by
    rw [tickJobs, if_neg (by rw [active]; exact Bool.false_ne_true), beganCm]
  have begun : entry.job.initTick setup.style (disks 0) = (opened, responses) := by
    rw [TransferJob.initTick, if_neg (by rw [active]; exact Bool.false_ne_true), began]
  have direct : Direct.tick setup { readJobs := [entry.job], received := received } disks disk =
      { readJobs := removeJobs TransferJob.hasId (if (opened.readTick setup disk).2.2 then [opened.id] else []) [(opened.readTick setup disk).1],
        received := received ++ (responses ++ (opened.readTick setup disk).2.1).map .file } := by
    simp only [Direct.tick, List.mapIdx_cons, List.mapIdx_nil, begun, List.map_cons, List.map_nil, List.flatMap_cons, List.flatMap_nil,
      List.append_nil, readFirstJob, lasting, Bool.false_eq_true, if_false]
  have moved : KeptJob entry.job after := ⟨sameRead.id.trans same.id, sameRead.isLastJob.trans same.isLastJob⟩
  rw [List.map_append, matching] at direct
  cases block with
  | some found =>
      have turned : (readForCm setup disk opened : ReadTurn Wire) =
          { job := after, sent := [.fileBlockFromCM found.id found.fileNum found.data found.compressed], finished := false } := by
        rw [readForCm, isRead]
      have read : opened.readTick setup disk = (after, [.block found], false) := by rw [TransferJob.readTick, isRead]
      rw [turned] at cm
      rw [read] at direct
      refine ⟨after, sent ++ [.fileBlockFromCM found.id found.fileNum found.data found.compressed], moved, ?_, .inl ⟨cm, ?_⟩⟩
      · exact
          { owned := List.forall_mem_append.mpr ⟨ongoing.owned, by simp [Data.id, blocks found rfl, same.id]⟩
            lasts := List.forall_mem_append.mpr ⟨ongoing.lasts, by simp [Data.last]⟩ }
      · rw [direct, List.map_append]
        rfl
  | none =>
      by_cases completed : after.jobCompleted = true
      · have turned : (readForCm setup disk opened : ReadTurn Wire) = { job := after, sent := [after.lastData], finished := true } := by
          rw [readForCm, isRead]
          exact if_pos completed
        have read : opened.readTick setup disk = (after, [after.lastResponse], true) := by
          rw [TransferJob.readTick, isRead]
          exact if_pos completed
        rw [turned] at cm
        rw [read] at direct
        refine ⟨after, sent, moved, ongoing, .inr ⟨after.lastData, ?_, ?_, cm, ?_⟩⟩
        · unfold TransferJob.lastData
          cases after.jobError <;> exact moved.id
        · unfold TransferJob.lastData
          cases after.jobError <;> rfl
        · have gone : removeJobs TransferJob.hasId [opened.id] [after] = [] := by
            simp [removeJobs, TransferJob.hasId, sameRead.id]
          have response : PeerResponse.file after.lastResponse = (after.lastData : Data Wire).response setup.format := by
            unfold TransferJob.lastResponse TransferJob.lastData
            cases after.jobError <;> rfl
          rw [direct]
          simp only [if_true, gone, List.map_append, List.map_cons, List.map_nil, response]
      · have turned : (readForCm setup disk opened : ReadTurn Wire) = { job := after, sent := [], finished := false } := by
          rw [readForCm, isRead]
          exact if_neg completed
        have read : opened.readTick setup disk = (after, [], false) := by
          rw [TransferJob.readTick, isRead]
          exact if_neg completed
        rw [turned, List.append_nil] at cm
        rw [read] at direct
        refine ⟨after, sent, moved, ongoing, .inl ⟨cm, ?_⟩⟩
        rw [direct, List.map_nil, List.append_nil]
        rfl

section
variable (style : Style) (fs : FileSystem) (job : TransferJob) (r : FileTransferSendConfirmRequest)

theorem confirm_same : KeptJob job (job.confirm style fs r).1 := by
  unfold TransferJob.confirm
  by_cases other : job.fileNum ≠ r.fileNum
  · rw [if_pos other]
    exact ⟨rfl, rfl⟩
  · rw [if_neg other]
    obtain none | ⟨skipped | skipped⟩ | ⟨offset⟩ := r.union
    · exact ⟨rfl, rfl⟩
    · exact ⟨rfl, rfl⟩
    · exact ⟨rfl, rfl⟩
    · dsimp only
      split
      · obtain unmoved | ⟨writable, sought⟩ := setStreamOffset_frame style fs (job.setFileConfirmed true) (asUsize r.fileNum) offset
        · rw [unmoved]
          exact ⟨rfl, rfl⟩
        · rw [sought]
          exact ⟨rfl, rfl⟩
      · exact ⟨rfl, rfl⟩

-- What the manager makes of a confirmation that names the current file and says something.
theorem confirm_read (names : r.fileNum = job.fileNum) (spoken : r.union.isSome = true) :
    (job.confirm style fs (confirmForRead r.id job.fileNum r.skip r.offsetBlk)).1 = (job.confirm style fs r).1 := by
  unfold TransferJob.confirm confirmForRead FileTransferSendConfirmRequest.skip FileTransferSendConfirmRequest.offsetBlk
  rw [if_neg (not_not_intro rfl), if_neg (not_not_intro names.symm)]
  generalize r.union = union at spoken ⊢
  obtain none | ⟨skipped | skipped⟩ | ⟨offset⟩ := union
  · cases spoken
  · rfl
  · rfl
  · dsimp only
    rw [if_neg Bool.false_ne_true, names]

end

theorem start_agrees (setup : Setup Wire)
    (faithful : ∀ dir, ∃ wire, setup.format.writeToBytes dir = .ok wire ∧ setup.format.parseFromBytes wire = .ok dir)
    (id : Int32) (path : Name) (fileNum : Int32) (files : List FileEntry) (few : files.length ≤ setup.maxFiles) :
    ∃ job data, job.id = id ∧ job.isLastJob = false ∧ data.id = id ∧ data.last setup.format = false ∧
      startReadJob setup path fileNum id setup.overwriteDetection (.ok files) = (some job, data) ∧
      createAndStartReadJob setup id path fileNum (.ok files) = (some job, data.response setup.format) := by
  obtain ⟨wire, written, parsed⟩ := faithful { id := id, path := path, entries := files }
  have counted : checkFileCountLimit setup.maxFiles files.length = .ok () := if_neg (by omega)
  refine ⟨newRead id .generic path fileNum setup.overwriteDetection files, .readJobInitResult id (.ok wire), rfl, rfl, rfl, ?_, ?_, ?_⟩
  · simp only [Data.last, parsed]
  · simp only [startReadJob, counted, written]
  · simp only [createAndStartReadJob, counted, Data.response, parsed]

def Request.Forwarded (id : Int32) (request : Request) : Prop :=
  ∃ r, r.id = id ∧ request.asked = .confirm r ∧ request.fs = .sendConfirmForRead r.id r.fileNum r.skip r.offsetBlk

def Request.Confirms (id : Int32) (request : Request) : Prop :=
  request.Forwarded id ∨ ∃ r, r.id = id ∧ request.asked = .confirm r ∧ request.fs = .sendConfirm r

theorem stamp_data (serial : Nat) (sent : List (Data Wire)) : (stamp serial sent).map Result.data = sent := by simp [stamp, Function.comp_def]

theorem ongoing_append (format : DirectoryFormat Wire) (id : Int32) (results : List (Result Wire)) (serial : Nat) (more : List (Data Wire))
    (before : Ongoing format id (results.map Result.data)) (after : Ongoing format id more) :
    Ongoing format id ((results ++ stamp serial more).map Result.data) := by
  rw [List.map_append, stamp_data]
  exact ⟨List.forall_mem_append.mpr ⟨before.owned, after.owned⟩, List.forall_mem_append.mpr ⟨before.lasts, after.lasts⟩⟩

-- Where the one job stands, by what the connection knows, what is on its way in the two
-- directions, and what runs.
inductive Standing (setup : Setup Wire) (id : Int32) (ids : Finset Int32) : List Request → List (Result Wire) → List TransferJob → Prop where
  | idle (waiting : List Request) (unknown : id ∉ ids) (confirms : ∀ request ∈ waiting, request.Confirms id) :
      Standing setup id ids waiting [] []
  | starting (path : Name) (fileNum : Int32) (request : Request) (waiting : List Request) (known : id ∈ ids)
      (asked : request.asked = .send id path fileNum) (fs : request.fs = .readFile path id fileNum setup.overwriteDetection)
      (forwarded : ∀ request ∈ waiting, request.Forwarded id) : Standing setup id ids (request :: waiting) [] []
  | running (waiting : List Request) (results : List (Result Wire)) (job : TransferJob) (known : id ∈ ids)
      (forwarded : ∀ request ∈ waiting, request.Forwarded id) (ongoing : Ongoing setup.format id (results.map Result.data))
      (own : job.id = id) (active : job.isLastJob = false) : Standing setup id ids waiting results [job]
  | ended (waiting : List Request) (results : List (Result Wire)) (last : Result Wire) (known : id ∈ ids)
      (confirms : ∀ request ∈ waiting, request.Confirms id) (ongoing : Ongoing setup.format id (results.map Result.data))
      (own : last.data.id = id) (ends : last.data.last setup.format = true) : Standing setup id ids waiting (results ++ [last]) []
  | stopping (request : Request) (waiting : List Request) (jobs : List TransferJob) (unknown : id ∉ ids)
      (asked : request.asked = .cancel id) (fs : request.fs = .cancelRead id) (confirms : ∀ request ∈ waiting, request.Confirms id)
      (own : ∀ job ∈ jobs, job.id = id) (single : jobs.length ≤ 1) : Standing setup id ids (request :: waiting) [] jobs

structure Mirrored (setup : Setup Wire) (id : Int32) (state : Compared Wire) : Prop where
  same : state.delegated.readJobs.map CmJob.job = state.direct.readJobs
  told : state.direct.received =
    state.delegated.received.map Receipt.response ++ state.delegated.fromCm.map (fun result => result.data.response setup.format)
  stands : Standing setup id state.delegated.cmReadJobIds state.delegated.toCm state.delegated.fromCm state.direct.readJobs

section
variable (setup : Setup Wire) (id : Int32) (state : Compared Wire)

theorem confirm_mirrored (r : FileTransferSendConfirmRequest) (own : r.id = id)
    (mirrored : Mirrored setup id state) : Mirrored setup id { state with delegated := state.delegated.confirm r } := by
  obtain ⟨⟨ids, toCm, fromCm, readJobs, received, forgotten, sends, latest⟩, ⟨jobs, heard⟩⟩ := state
  obtain ⟨same, told, stands⟩ := mirrored
  unfold Delegated.confirm
  by_cases known : r.id ∈ ids
  · rw [if_pos known]
    have forwarded : Request.Forwarded id { asked := .confirm r, serial := sends, fs := .sendConfirmForRead r.id r.fileNum r.skip r.offsetBlk } :=
      ⟨r, own, rfl, rfl⟩
    rw [own] at known
    refine ⟨same, told, ?_⟩
    cases stands with
    | idle waiting unknown confirms => exact absurd known unknown
    | starting path fileNum request waiting known asked fs earlier =>
        exact .starting path fileNum request _ known asked fs (List.forall_mem_append.mpr ⟨earlier, by simpa using forwarded⟩)
    | running waiting results job known earlier ongoing own active =>
        exact .running _ _ job known (List.forall_mem_append.mpr ⟨earlier, by simpa using forwarded⟩) ongoing own active
    | ended waiting results last known earlier ongoing own ends =>
        exact .ended _ results last known (List.forall_mem_append.mpr ⟨earlier, by simpa using .inl forwarded⟩) ongoing own ends
    | stopping request waiting jobs unknown asked fs earlier own single => exact absurd known unknown
  · rw [if_neg known]
    have confirms : Request.Confirms id { asked := .confirm r, serial := sends, fs := .sendConfirm r } := .inr ⟨r, own, rfl, rfl⟩
    rw [own] at known
    refine ⟨same, told, ?_⟩
    cases stands with
    | idle waiting unknown earlier => exact .idle _ unknown (List.forall_mem_append.mpr ⟨earlier, by simpa using confirms⟩)
    | starting path fileNum request waiting isKnown asked fs earlier => exact absurd isKnown known
    | running waiting results job isKnown earlier ongoing own active => exact absurd isKnown known
    | ended waiting results last isKnown earlier ongoing own ends => exact absurd isKnown known
    | stopping request waiting jobs unknown asked fs earlier own single =>
        exact .stopping request _ jobs unknown asked fs (List.forall_mem_append.mpr ⟨earlier, by simpa using confirms⟩) own single

theorem send_mirrored (path : Name) (fileNum : Int32)
    (plain : Plain setup state (.message (.send id path fileNum))) (mirrored : Mirrored setup id state) :
    Mirrored setup id { state with delegated := state.delegated.send setup id path fileNum } := by
  obtain ⟨⟨ids, toCm, fromCm, readJobs, received, forgotten, sends, latest⟩, ⟨jobs, heard⟩⟩ := state
  obtain ⟨same, told, stands⟩ := mirrored
  obtain ⟨rfl, rfl, rfl⟩ := plain.inOrder
  refine ⟨same, told, ?_⟩
  exact .starting path fileNum _ [] (Finset.mem_insert_self id ids) rfl rfl nofun

theorem cancel_mirrored (plain : Plain setup state (.message (.cancel id)))
    (mirrored : Mirrored setup id state) : Mirrored setup id { state with delegated := state.delegated.cancel id } := by
  obtain ⟨⟨ids, toCm, fromCm, readJobs, received, forgotten, sends, latest⟩, ⟨jobs, heard⟩⟩ := state
  obtain ⟨same, told, stands⟩ := mirrored
  obtain ⟨rfl, rfl⟩ := plain.inOrder
  refine ⟨same, told, ?_⟩
  have own : (∀ job ∈ jobs, job.id = id) ∧ jobs.length ≤ 1 := by
    generalize found : ([] : List (Result Wire)) = fromCm at stands
    cases stands with
    | idle waiting unknown earlier => exact ⟨nofun, by simp⟩
    | running waiting results job known earlier ongoing own active => exact ⟨by simpa using own, by simp⟩
    | ended waiting results last known earlier ongoing own ends => exact ⟨nofun, by simp⟩
  exact .stopping _ [] jobs (Finset.notMem_erase id ids) rfl rfl nofun own.1 own.2

theorem deliver_mirrored (after : Delegated Wire) (mirrored : Mirrored setup id state) (taken : state.delegated.deliver setup = some after) :
    Mirrored setup id { state with delegated := after } := by
  obtain ⟨⟨ids, toCm, fromCm, readJobs, received, forgotten, sends, latest⟩, ⟨jobs, heard⟩⟩ := state
  obtain ⟨same, told, stands⟩ := mirrored
  dsimp only at same told stands ⊢
  cases fromCm with
  | nil => cases taken
  | cons result rest =>
      cases taken
      generalize found : result :: rest = fromCm at stands
      cases stands with
      | idle waiting unknown confirms => cases found
      | starting path fileNum request waiting known asked fs forwarded => cases found
      | stopping request waiting jobs unknown asked fs confirms own single => cases found
      | running waiting results job known forwarded ongoing own active =>
          cases found
          have here : result.data.id = id := ongoing.owned result.data (by simp)
          have stays : result.data.last setup.format = false := ongoing.lasts result.data (by simp)
          have handled := handle_known setup.format ids result.data (by rw [here]; exact known)
          rw [stays, if_neg Bool.false_ne_true] at handled
          refine ⟨same, ?_, ?_⟩
          · simp [told, handled]
          · dsimp only
            rw [handled]
            exact .running toCm rest job known forwarded
              ⟨fun data member => ongoing.owned data (List.mem_cons_of_mem _ member),
                fun data member => ongoing.lasts data (List.mem_cons_of_mem _ member)⟩ own active
      | ended waiting results last known confirms ongoing own ends =>
          cases results with
          | nil =>
              cases found
              have handled := handle_known setup.format ids result.data (by rw [own]; exact known)
              rw [ends, if_pos rfl] at handled
              refine ⟨same, ?_, ?_⟩
              · simp [told, handled]
              · dsimp only
                rw [handled, own]
                exact .idle toCm (Finset.notMem_erase id ids) confirms
          | cons first more =>
              cases found
              have here : result.data.id = id := ongoing.owned result.data (by simp)
              have stays : result.data.last setup.format = false := ongoing.lasts result.data (by simp)
              have handled := handle_known setup.format ids result.data (by rw [here]; exact known)
              rw [stays, if_neg Bool.false_ne_true] at handled
              refine ⟨same, ?_, ?_⟩
              · simp [told, handled]
              · dsimp only
                rw [handled]
                exact .ended toCm more last known confirms
                  ⟨fun data member => ongoing.owned data (List.mem_cons_of_mem _ member),
                    fun data member => ongoing.lasts data (List.mem_cons_of_mem _ member)⟩ own ends

end

section
variable (setup : Setup Wire)

-- A confirmation that finds no job changes nothing on either side.
theorem confirms_nothing (id : Int32) (listed : Except String (List FileEntry)) (fs : FileSystem) (request : Request)
    (heard : List PeerResponse) (confirms : request.Confirms id) :
    handleFs setup listed fs request.serial [] request.fs = ([], []) ∧
      Direct.onMessage setup { readJobs := [], received := heard } listed fs request.asked = { readJobs := [], received := heard } := by
  obtain ⟨r, own, asked, forwarded⟩ | ⟨r, own, asked, forwarded⟩ := confirms
  · rw [asked, forwarded]
    exact ⟨rfl, rfl⟩
  · rw [asked, forwarded]
    exact ⟨rfl, rfl⟩

theorem take_mirrored (faithful : ∀ dir, ∃ wire, setup.format.writeToBytes dir = .ok wire ∧ setup.format.parseFromBytes wire = .ok dir)
    (id : Int32) (state : Compared Wire) (listed : Except String (List FileEntry)) (fs : FileSystem) (request : Request) (rest : List Request)
    (waits : state.delegated.toCm = request :: rest) (named : Named setup state.direct.readJobs listed request.asked)
    (mirrored : Mirrored setup id state) :
    Mirrored setup id
      { delegated :=
          { state.delegated with
            toCm := rest
            readJobs := (handleFs setup listed fs request.serial state.delegated.readJobs request.fs).1
            fromCm := state.delegated.fromCm ++ (handleFs setup listed fs request.serial state.delegated.readJobs request.fs).2 },
        direct := state.direct.onMessage setup listed fs request.asked } := by
  obtain ⟨⟨ids, toCm, fromCm, readJobs, received, forgotten, sends, latest⟩, ⟨jobs, heard⟩⟩ := state
  obtain ⟨same, told, stands⟩ := mirrored
  dsimp only at same told stands waits named ⊢
  cases stands with
  | idle waiting unknown confirms =>
      subst waits
      obtain rfl : readJobs = [] := List.map_eq_nil_iff.mp same
      obtain ⟨handled, direct⟩ := confirms_nothing setup id listed fs request heard (confirms request List.mem_cons_self)
      rw [handled, direct]
      exact ⟨rfl, told, .idle rest unknown (fun other member => confirms other (List.mem_cons_of_mem _ member))⟩
  | starting path fileNum first waiting known asked fs' forwarded =>
      obtain ⟨rfl, rfl⟩ := List.cons.inj waits
      obtain rfl : readJobs = [] := List.map_eq_nil_iff.mp same
      rw [asked] at named ⊢
      obtain ⟨files, rfl, few⟩ : ∃ files, listed = .ok files ∧ files.length ≤ setup.maxFiles := by
        cases listed with
        | error text => exact named.elim
        | ok files => exact ⟨files, rfl, named⟩
      obtain ⟨job, data, own, active, ownData, lasts, started, created⟩ := start_agrees setup faithful id path fileNum files few
      rw [fs']
      simp only [handleFs, Direct.onMessage, started, created]
      refine ⟨rfl, ?_, ?_⟩
      · simp [told, stamp]
      · exact .running waiting _ job known forwarded ⟨by simpa [stamp] using ownData, by simpa [stamp] using lasts⟩ own active
  | running waiting results job known forwarded ongoing own active =>
      subst waits
      obtain ⟨entry, rfl, rfl⟩ := List.map_eq_singleton_iff.mp same
      obtain ⟨r, ownRequest, asked, sent⟩ := forwarded request List.mem_cons_self
      rw [asked] at named
      obtain ⟨names, spoken⟩ := named entry.job List.mem_cons_self
      have found : r.id = entry.job.id := ownRequest.trans own.symm
      have agrees := confirm_read setup.style fs entry.job r names spoken
      have moved := confirm_same setup.style fs entry.job r
      rw [asked, sent]
      have managed : (handleFs setup listed fs request.serial [entry] (.sendConfirmForRead r.id r.fileNum r.skip r.offsetBlk) :
          List CmJob × List (Result Wire)) = ([{ entry with job := (entry.job.confirm setup.style fs r).1 }], []) := by
        simp only [handleFs, changeFirst, CmJob.hasId, found, decide_true, if_true, CmJob.confirm, ← agrees]
      have direct : Direct.onMessage setup { readJobs := [entry.job], received := heard } listed fs (.confirm r) =
          { readJobs := [(entry.job.confirm setup.style fs r).1], received := heard } := by
        simp only [Direct.onMessage, changeFirst, TransferJob.hasId, found, decide_true, if_true]
      rw [managed, direct, List.append_nil]
      refine ⟨rfl, told, ?_⟩
      exact .running rest _ _ known (fun other member => forwarded other (List.mem_cons_of_mem _ member)) ongoing (moved.id.trans own)
        (moved.isLastJob.trans active)
  | ended waiting results last known confirms ongoing own ends =>
      subst waits
      obtain rfl : readJobs = [] := List.map_eq_nil_iff.mp same
      obtain ⟨handled, direct⟩ := confirms_nothing setup id listed fs request heard (confirms request List.mem_cons_self)
      rw [handled, direct, List.append_nil]
      exact ⟨rfl, told, .ended rest _ last known (fun other member => confirms other (List.mem_cons_of_mem _ member)) ongoing own ends⟩
  | stopping first waiting jobs unknown asked fs' confirms own single =>
      obtain ⟨rfl, rfl⟩ := List.cons.inj waits
      rw [asked, fs']
      have gone : jobs.eraseP (TransferJob.hasId id) = [] ∧ readJobs.eraseP (CmJob.hasId id) = [] := by
        cases readJobs with
        | nil =>
            obtain rfl : [] = jobs := same
            exact ⟨rfl, rfl⟩
        | cons entry more =>
            rw [← same] at own single ⊢
            obtain rfl : more = [] := by
              apply List.eq_nil_of_length_eq_zero
              simpa using single
            have ownEntry : entry.job.id = id := own entry.job List.mem_cons_self
            exact ⟨by simp [TransferJob.hasId, ownEntry], by simp [CmJob.hasId, ownEntry]⟩
      simp only [handleFs, Direct.onMessage, gone.1, gone.2, List.append_nil]
      exact ⟨rfl, told, .idle waiting unknown confirms⟩

theorem tick_keeps_mirrored (id : Int32) (state : Compared Wire) (disks : Nat → Disk) (disk : Disk)
    (plain : Plain setup state (.tick disks disk)) (mirrored : Mirrored setup id state) :
    Mirrored setup id { delegated := state.delegated.tick setup disks disk, direct := state.direct.tick setup disks disk } := by
  obtain ⟨⟨ids, toCm, fromCm, readJobs, received, forgotten, sends, latest⟩, ⟨jobs, heard⟩⟩ := state
  obtain ⟨same, told, stands⟩ := mirrored
  dsimp only at same told stands ⊢
  by_cases idle : jobs = []
  · subst idle
    obtain rfl : readJobs = [] := List.map_eq_nil_iff.mp same
    refine ⟨rfl, ?_, ?_⟩
    · simpa [Direct.tick, Delegated.tick, tickJobs, readFirstJob] using told
    · simpa [Direct.tick, Delegated.tick, tickJobs, readFirstJob, removeJobs] using stands
  · cases stands with
    | idle waiting unknown confirms => exact absurd rfl idle
    | starting path fileNum request waiting known asked fs forwarded => exact absurd rfl idle
    | ended waiting results last known confirms ongoing own ends => exact absurd rfl idle
    | stopping request waiting jobs unknown asked fs confirms own single =>
        obtain ⟨job, more, rfl⟩ := List.exists_cons_of_ne_nil idle
        refine absurd ?_ (plain.inOrder job List.mem_cons_self request List.mem_cons_self)
        rw [asked, own job List.mem_cons_self]
    | running waiting results job known forwarded ongoing own active =>
        obtain ⟨entry, rfl, rfl⟩ := List.map_eq_singleton_iff.mp same
        obtain ⟨job, more, moved, running, ⟨ticked, direct⟩ | ⟨last, ownLast, ends, ticked, direct⟩⟩ :=
          tick_mirrors setup disks disk entry heard active (plain.readable 0 entry.job rfl)
        · rw [direct]
          unfold Delegated.tick
          rw [ticked]
          refine ⟨rfl, ?_, ?_⟩
          · simp [told, stamp, Function.comp_def]
          · exact .running toCm _ job known forwarded
              (ongoing_append setup.format id fromCm entry.serial more ongoing (own ▸ running))
              (moved.id.trans own) (moved.isLastJob.trans active)
        · rw [direct]
          unfold Delegated.tick
          rw [ticked]
          have gone : removeJobs CmJob.hasId [job.id] [{ entry with job := job }] = [] := by simp [removeJobs, CmJob.hasId]
          dsimp only
          rw [gone]
          refine ⟨rfl, ?_, ?_⟩
          · simp [told, stamp, Function.comp_def]
          · have results : stamp entry.serial (more ++ [last]) = stamp entry.serial more ++ [{ serial := entry.serial, data := last }] := by
              simp [stamp]
            rw [results, ← List.append_assoc]
            exact .ended toCm _ _ known (fun request member => .inl (forwarded request member))
              (ongoing_append setup.format id fromCm entry.serial more ongoing (own ▸ running))
              (ownLast.trans own) ends

theorem step_mirrored (faithful : ∀ dir, ∃ wire, setup.format.writeToBytes dir = .ok wire ∧ setup.format.parseFromBytes wire = .ok dir)
    (id : Int32) (state : Compared Wire) (label : DelegatedLabel) (next : Compared Wire) (mirrored : Mirrored setup id state) (plain : Plain setup state label)
    (taken : state.step setup id label = some next) : Mirrored setup id next := by
  cases label with
  | message asked =>
      obtain ⟨own, rfl⟩ := Option.ite_some_none_eq_some.mp taken
      cases asked with
      | send sent path fileNum =>
          obtain rfl : sent = id := own
          exact send_mirrored setup sent state path fileNum plain mirrored
      | confirm r => exact confirm_mirrored setup id state r own mirrored
      | cancel stopped =>
          obtain rfl : stopped = id := own
          exact cancel_mirrored setup stopped state plain mirrored
  | take listed fs =>
      cases waits : state.delegated.toCm with
      | nil => simp [Compared.step, waits] at taken
      | cons request rest =>
          have kept := take_mirrored setup faithful id state listed fs request rest waits (plain.inOrder request (by rw [waits]; exact List.mem_cons_self)) mirrored
          simp only [Compared.step, Delegated.take, waits, List.head?_cons, Option.bind_some, Option.map_some, Option.some.injEq] at taken
          exact taken ▸ kept
  | tick disks disk =>
      cases taken
      exact tick_keeps_mirrored setup id state disks disk plain mirrored
  | deliver =>
      obtain ⟨after, delivered, rfl⟩ := Option.map_eq_some_iff.mp taken
      exact deliver_mirrored setup id state after mirrored delivered

theorem mirrored_mirrors (id : Int32) (state : Compared Wire) (mirrored : Mirrored setup id state) : Mirrors state := by
  constructor
  · rw [mirrored.told]
    exact List.prefix_append _ _
  · intro quiet
    rw [mirrored.told, quiet, List.map_nil, List.append_nil]

end

-- With files, listing and confirmations in order, and no Send or Cancel crossing a result, the
-- peer hears the same from both paths.
theorem delegated_reads_mirror (setup : Setup Wire)
    (faithful : ∀ dir, ∃ wire, setup.format.writeToBytes dir = .ok wire ∧ setup.format.parseFromBytes wire = .ok dir)
    (id : Int32) (past : List (Compared Wire × DelegatedLabel)) (state : Compared Wire)
    (traced : Machine.Traced (Compared.step setup id) (noCompared Wire) past state) (plain : ∀ entry ∈ past, Plain setup entry.1 entry.2) :
    (∀ entry ∈ past, Mirrors entry.1) ∧ Mirrors state := by
  have start : Mirrored setup id (noCompared Wire) := ⟨rfl, rfl, .idle [] (Finset.notMem_empty id) nofun⟩
  obtain ⟨before, here⟩ := Machine.traced_kept (Compared.step setup id) (Mirrored setup id) (Plain setup) (noCompared Wire) state past start
    (step_mirrored setup faithful id) traced plain
  exact ⟨fun entry member => mirrored_mirrors setup id entry.1 (before entry member), mirrored_mirrors setup id state here⟩

end

def directoryAsIs : DirectoryFormat FileDirectory := { writeToBytes := .ok, parseFromBytes := .ok }

def detecting : Setup FileDirectory :=
  { style := .unix, codec := plainCodec, format := directoryAsIs, maxFiles := 10000, overwriteDetection := true }

def wholeDisk : Disk :=
  { opens := fun _ => none, metadata := fun _ _ => .ok (7, 1), reads := fun _ _ stream _ => .ok (if stream.pos = 0 then [65] else []) }

theorem wholeDisk_answers (style : Style) (job : TransferJob) : Answered style wholeDisk wholeDisk job :=
  { opens := fun _ _ _ => rfl, dates := fun _ _ _ => ⟨(7, 1), rfl⟩, reads := fun _ _ _ _ _ => ⟨_, rfl⟩ }

def wholeTick : DelegatedLabel := .tick (fun _ => wholeDisk) wholeDisk

def takeListed (files : List FileEntry) : DelegatedLabel := .take (.ok files) emptySystem

def sendDirectory : DelegatedLabel := .message (.send 1 ['/', 's'] 0)

def confirmFirst (union : ConfirmUnion) : DelegatedLabel := .message (.confirm { id := 1, fileNum := 0, union := some union })

def oneConfirmed : List DelegatedLabel :=
  [sendDirectory, takeListed twoFiles, .deliver, wholeTick, .deliver, confirmFirst (.offsetBlk 0), takeListed [], wholeTick, wholeTick, .deliver,
   .deliver, .message (.cancel 1), takeListed []]

theorem delegated_reads_mirror_confirmed :
    (∀ entry ∈ Machine.trace (Compared.step detecting 1) (noCompared FileDirectory) oneConfirmed, Mirrors entry.1) ∧
      Mirrors ((Machine.run (Compared.step detecting 1) (noCompared FileDirectory) oneConfirmed).get (by decide +kernel)) := by
  apply delegated_reads_mirror detecting (fun dir => ⟨dir, rfl, rfl⟩) 1 _ _ (Machine.traced_run _ _ _ (by decide))
  intro entry member
  have inOrder : ∀ entry ∈ Machine.trace (Compared.step detecting 1) (noCompared FileDirectory) oneConfirmed, InOrder detecting entry.1 entry.2 := by
    decide
  refine ⟨inOrder entry member, ?_⟩
  have label := Machine.trace_labels _ _ _ entry member
  obtain ⟨state, asked | listed | ⟨disks, disk⟩ | _⟩ := entry
  · trivial
  · trivial
  · intro place job found
    simp only [oneConfirmed, sendDirectory, takeListed, wholeTick, confirmFirst, List.mem_cons, DelegatedLabel.tick.injEq, List.not_mem_nil,
      reduceCtorEq, false_or, or_false, or_self] at label
    obtain ⟨rfl, rfl⟩ := label
    exact wholeDisk_answers _ job
  · trivial

def skippedTwice : List DelegatedLabel :=
  [sendDirectory, takeListed twoFiles, .deliver, wholeTick, .deliver, confirmFirst (.skip true), takeListed [], wholeTick, .deliver,
   confirmFirst (.skip true), takeListed [], wholeTick, .deliver]

theorem delegated_reads_differ : ∃ state, Machine.Reachable (Compared.step detecting 1) (noCompared FileDirectory) state ∧ ¬ Mirrors state := by
  refine ⟨_, Machine.reachable_run _ _ skippedTwice (by decide), fun mirrors => ?_⟩
  have same := mirrors.whole (by decide)
  exact absurd same (by decide)

end GotechDesk.FileTransfer
