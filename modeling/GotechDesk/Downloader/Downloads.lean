import GotechDesk.Machine

set_option autoImplicit false

namespace GotechDesk.Downloader

structure DownloadData where
  data : List UInt8
  path : Option String
  totalSize : Option Nat
  downloadedSize : Nat
  error : Option String
deriving DecidableEq

-- `job` and `sources` are ghost: the call that made the entry, and the jobs that reported into it.
structure Entry where
  data : List UInt8
  path : Option String
  totalSize : Option Nat
  downloadedSize : Nat
  error : Option String
  finished : Bool
  job : Nat
  sources : List Nat
deriving DecidableEq

-- A file by its content, with the jobs that opened it for writing.
structure Inode where
  content : List UInt8
  jobs : List Nat
deriving DecidableEq

-- `download_file` between two uses of the lock or of the file system; a stale path comes with the
-- job it was of, and a number is the job the call has made an entry for.
inductive Call where
  | absent
  | called (url : String) (path : Option String)
  | stale (url : String) (path : Option String) (job : Nat) (stalePath : String)
  | removing (url : String) (path : Option String) (job : Nat) (stalePath : String)
  | checking (url : String) (path : Option String)
  | preparing (url : String) (path : Option String)
  | inserting (url : String) (path : Option String)
  | staleAfter (own : Nat) (job : Nat) (stalePath : String)
  | removingAfter (own : Nat) (job : Nat) (stalePath : String)
  | spawning (own : Nat)
  | returned (result : Except String String)

inductive Phase where
  | pending
  | client
  | head
  | sized (totalSize : Nat)
  | get
  | creating
  | looping
  | writing (chunk : List UInt8)
  | counting (chunk : List UInt8)
  | flushing (all : Bool)
  | finishing (all : Bool)
  | reporting (all : Bool)
  | removing
  | unlinking (path : String)
  | deleting (path : String)
  | failing (error : String)
  | done
deriving DecidableEq

structure Job where
  url : String
  path : Option String
  phase : Phase
  handle : Option (Nat × Nat)
  cancelSent : Bool

structure Host where
  entries : String → Option Entry
  files : String → Option Nat
  inodes : Nat → Inode
  nextInode : Nat
  jobs : Nat → Job
  nextJob : Nat
  calls : Nat → Call
  trespasses : List (Nat × Nat)

inductive Event where
  | client (result : Except String Unit)
  | head (result : Except String Nat)
  | cancelled
  | get (result : Except String Unit)
  | create (result : Except String Unit)
  | chunk (result : Except String (Option (List UInt8)))
  | write (result : Except String Unit) (count : Nat)
  | flush (result : Except String Unit)
  | go

inductive Label where
  | downloadFile (call : Nat) (url : String) (path : Option String)
  | call (call : Nat) (prepared : Except String Unit)
  | worker (job : Nat) (event : Event)
  | cancel (id : String)
  | remove (id : String)

def getDownloadData (host : Host) (id : String) : Except String DownloadData :=
  match host.entries id with
  | some downloader =>
      .ok { data := if downloader.totalSize.getD 0 = downloader.downloadedSize ∧ downloader.path = none then downloader.data else [],
            path := downloader.path, totalSize := downloader.totalSize, downloadedSize := downloader.downloadedSize, error := downloader.error }
  | none => .error "Downloader not found"

-- A later job for the same url.
def Host.later (host : Host) (job other : Nat) : Bool := job < other && (host.jobs other).url = (host.jobs job).url

def Host.trespass (host : Host) (job : Nat) (touched : List Nat) : Host :=
  { host with trespasses := host.trespasses ++ (touched.filter (host.later job)).map (fun other => (job, other)) }

def Host.setCall (host : Host) (call : Nat) (phase : Call) : Host := { host with calls := Function.update host.calls call phase }

def Host.setJob (host : Host) (job : Nat) (state : Job) : Host := { host with jobs := Function.update host.jobs job state }

def Host.setPhase (host : Host) (job : Nat) (phase : Phase) : Host := host.setJob job { host.jobs job with phase := phase }

def Host.setEntry (host : Host) (id : String) (entry : Option Entry) : Host := { host with entries := Function.update host.entries id entry }

-- `DOWNLOADERS.lock().unwrap().get_mut(id).map(..)` of the worker of a job.
def Host.report (host : Host) (job : Nat) (change : Entry → Entry) : Host :=
  match host.entries (host.jobs job).url with
  | none => host
  | some entry => (host.trespass job [entry.job]).setEntry (host.jobs job).url (some { change entry with sources := entry.sources ++ [job] })

-- The file of a path is gone; a handle to it goes on with a file that has no name.
def Host.removeFile (host : Host) (job : Nat) (path : String) : Host :=
  match host.files path with
  | none => host
  | some inode =>
      { host.trespass job ((host.inodes inode).jobs.filter (fun other => (host.jobs other).path = some path)) with
        files := Function.update host.files path none }

def Host.createFile (host : Host) (job : Nat) (path : String) : Host :=
  match host.files path with
  | some inode =>
      { (host.trespass job (host.inodes inode).jobs).setJob job { host.jobs job with phase := .looping, handle := some (inode, 0) } with
        inodes := Function.update host.inodes inode { content := [], jobs := (host.inodes inode).jobs ++ [job] } }
  | none =>
      { host.setJob job { host.jobs job with phase := .looping, handle := some (host.nextInode, 0) } with
        inodes := Function.update host.inodes host.nextInode { content := [], jobs := [job] },
        files := Function.update host.files path (some host.nextInode), nextInode := host.nextInode + 1 }

def patch (content : List UInt8) (offset : Nat) (bytes : List UInt8) : List UInt8 :=
  (content ++ List.replicate (offset - content.length) 0).take offset ++ bytes ++ content.drop (offset + bytes.length)

def Host.writeFile (host : Host) (job inode offset : Nat) (bytes : List UInt8) (phase : Phase) : Host :=
  { (host.trespass job (host.inodes inode).jobs).setJob job { host.jobs job with phase := phase, handle := some (inode, offset + bytes.length) } with
    inodes := Function.update host.inodes inode
      { content := patch (host.inodes inode).content offset bytes, jobs := (host.inodes inode).jobs } }

-- The receiver of a job is woken by a message, and when the entry with its sender is dropped.
def Host.canCancel (host : Host) (job : Nat) : Bool :=
  (host.jobs job).cancelSent || !(host.entries (host.jobs job).url).any (fun entry => entry.job = job)

-- The first look: an entry without an error is used again, one with an error goes.
def Host.lookUp (host : Host) (call : Nat) (url : String) (path : Option String) : Host :=
  match host.entries url with
  | none => host.setCall call (.checking url path)
  | some entry =>
      if entry.error = none then host.setCall call (.returned (.ok url))
      else (host.setEntry url none).setCall call (match entry.path with
        | some stalePath => .stale url path entry.job stalePath
        | none => .checking url path)

def Host.newEntry (host : Host) (path : Option String) : Entry :=
  { data := [], path := path, totalSize := none, downloadedSize := 0, error := none, finished := false, job := host.nextJob, sources := [] }

def Host.insertJob (host : Host) (url : String) (path : Option String) : Host :=
  { (host.setEntry url (some (host.newEntry path))).setJob host.nextJob
      { url := url, path := path, phase := .pending, handle := none, cancelSent := false } with nextJob := host.nextJob + 1 }

def Host.insert (host : Host) (call : Nat) (url : String) (path : Option String) : Host :=
  match host.entries url with
  | none => (host.insertJob url path).setCall call (.spawning host.nextJob)
  | some existing =>
      if existing.error = none then host.setCall call (.returned (.ok url))
      else (host.insertJob url path).setCall call (match existing.path with
        | some stalePath => .staleAfter host.nextJob existing.job stalePath
        | none => .spawning host.nextJob)

def alreadyExists (path : String) : String := "File " ++ path ++ " already exists"

def Host.callStep (host : Host) (call : Nat) (prepared : Except String Unit) : Option Host :=
  match host.calls call with
  | .absent | .returned _ => none
  | .called url path => some (host.lookUp call url path)
  | .stale url path job stalePath =>
      some (host.setCall call (if (host.files stalePath).isSome then .removing url path job stalePath else .checking url path))
  | .removing url path job stalePath => some ((host.removeFile job stalePath).setCall call (.checking url path))
  | .checking url path => some (host.setCall call (match path with
      | some path => if (host.files path).isSome then .returned (.error (alreadyExists path)) else .preparing url (some path)
      | none => .inserting url none))
  | .preparing url path => some (host.setCall call (match prepared with
      | .ok _ => .inserting url path
      | .error error => .returned (.error error)))
  | .inserting url path => some (host.insert call url path)
  | .staleAfter own job stalePath =>
      some (host.setCall call (if (host.files stalePath).isSome then .removingAfter own job stalePath else .spawning own))
  | .removingAfter own job stalePath => some ((host.removeFile job stalePath).setCall call (.spawning own))
  | .spawning own => some ((host.setPhase own .client).setCall call (.returned (.ok (host.jobs own).url)))

def orFail (result : Except String Unit) (phase : Phase) : Phase :=
  match result with
  | .ok _ => phase
  | .error error => .failing error

-- One step of the thread that runs `do_download` and of what it does with the result. The task
-- that would drop the entry after `auto_del_dur` is dropped itself with the runtime of `do_download`.
def Host.workerStep (host : Host) (job : Nat) (event : Event) : Option Host :=
  match (host.jobs job).phase, event with
  | .client, .client result => some (host.setPhase job (orFail result .head))
  | .head, .head result => some (host.setPhase job (match result with
      | .ok totalSize => .sized totalSize
      | .error error => .failing error))
  | .head, .cancelled => if host.canCancel job then some (host.setPhase job (.reporting false)) else none
  | .sized totalSize, .go => some ((host.report job (fun entry => { entry with totalSize := some totalSize })).setPhase job .get)
  | .get, .get result =>
      some (host.setPhase job (orFail result (if (host.jobs job).path.isSome then .creating else .looping)))
  | .get, .cancelled => if host.canCancel job then some (host.setPhase job (.reporting false)) else none
  | .creating, .create result => match (host.jobs job).path, result with
      | some path, .ok _ => some (host.createFile job path)
      | some _, .error error => some (host.setPhase job (.failing error))
      | none, _ => none
  | .looping, .cancelled => if host.canCancel job then some (host.setPhase job (.flushing false)) else none
  | .looping, .chunk result => some (host.setPhase job (match result with
      | .ok (some chunk) => if (host.jobs job).handle.isSome then .writing chunk else .counting chunk
      | .ok none => .flushing true
      | .error error => .failing error))
  | .writing chunk, .write result count => match (host.jobs job).handle with
      | some (inode, offset) => some (match result with
          | .ok _ => host.writeFile job inode offset chunk (.counting chunk)
          | .error error => host.writeFile job inode offset (chunk.take count) (.failing error))
      | none => none
  | .counting chunk, .go =>
      some ((host.report job (fun entry =>
        { entry with data := if (host.jobs job).handle.isSome then entry.data else entry.data ++ chunk,
                     downloadedSize := entry.downloadedSize + chunk.length })).setPhase job .looping)
  | .flushing all, .flush result => some (host.setJob job { host.jobs job with phase := orFail result (.finishing all), handle := none })
  | .finishing all, .go => some ((host.report job (fun entry => { entry with finished := true })).setPhase job (.reporting all))
  | .reporting all, .go => some (host.setPhase job (if all then .done else .removing))
  | .removing, .go => some (match host.entries (host.jobs job).url with
      | none => host.setPhase job .done
      | some entry => ((host.trespass job [entry.job]).setEntry (host.jobs job).url none).setPhase job (match entry.path with
          | some path => .unlinking path
          | none => .done))
  | .unlinking path, .go => some (host.setPhase job (if (host.files path).isSome then .deleting path else .done))
  | .deleting path, .go => some ((host.removeFile job path).setPhase job .done)
  | .failing error, .go =>
      some ((host.report job (fun entry => { entry with error := some error })).setJob job { host.jobs job with phase := .done, handle := none })
  | _, _ => none

def step (host : Host) : Label → Option Host
  | .downloadFile call url path => match host.calls call with
    | .absent => some (host.setCall call (.called url path))
    | _ => none
  | .call call prepared => host.callStep call prepared
  | .worker job event => host.workerStep job event
  | .cancel id => match host.entries id with
    | some entry => some (host.setJob entry.job { host.jobs entry.job with cancelSent := true })
    | none => some host
  | .remove id => some (host.setEntry id none)

-- Files that were there before belong to no job.
def start (files : String → Option Nat) (nextInode : Nat) : Host :=
  { entries := fun _ => none, files := files, inodes := fun _ => { content := [], jobs := [] }, nextInode := nextInode,
    jobs := fun _ => { url := "", path := none, phase := .done, handle := none, cancelSent := false }, nextJob := 0,
    calls := fun _ => .absent, trespasses := [] }

def Host.live (host : Host) (job : Nat) : Prop := job < host.nextJob ∧ (host.jobs job).phase ≠ .done

structure Isolated (host : Host) : Prop where
  apart : host.trespasses = []
  own : ∀ id entry, host.entries id = some entry → ∀ source ∈ entry.sources, source = entry.job
  writers : ∀ job other path, host.live job → host.live other → (host.jobs job).path = some path → (host.jobs other).path = some path →
    (host.jobs job).handle.isSome = true → (host.jobs other).handle.isSome = true → job = other

-- The path a call has still to remove, with the job it was of.
def Call.pending : Call → Option (Nat × String)
  | .stale _ _ job path | .removing _ _ job path | .staleAfter _ job path | .removingAfter _ job path => some (job, path)
  | _ => none

-- A new entry is only made when no worker for its url or its path is left, and no other call has its path to remove.
def Alone (host : Host) : Label → Prop
  | .call call _ => match host.calls call with
    | .inserting url path =>
        (host.entries url).all (fun entry => entry.error.isSome) = true →
          (∀ job, host.live job → (host.jobs job).url ≠ url ∧ (path ≠ none → (host.jobs job).path ≠ path)) ∧
            ∀ other stale stalePath, other ≠ call → (host.calls other).pending = some (stale, stalePath) → path ≠ some stalePath
    | _ => True
  | _ => True

end GotechDesk.Downloader
