import GotechDesk.FileTransfer.Path

set_option autoImplicit false

namespace GotechDesk.FileTransfer

abbrev Bytes := List UInt8

-- What a path names. Links above the last component are not followed: the code looks at
-- every component below the base, and the base itself is one fixed place.
abbrev Key := List Component

inductive Node where
  | file (content : Bytes)
  | dir
  | link (target : Key)
deriving DecidableEq, Repr

inductive Role where
  | entry
  | download
  | digest
deriving DecidableEq, Repr

-- A path a job makes out of its base and one of its names.
structure Target where
  base : Name
  name : Name
  role : Role
deriving DecidableEq, Repr

def join (style : Style) (base name : Name) : Name := if name = [] then base else style.push base name

def Role.suffix : Role → Name
  | .entry => []
  | .download => ".download".toList
  | .digest => ".digest".toList

def Target.path (style : Style) (target : Target) : Name := join style target.base target.name ++ target.role.suffix

def Target.key (style : Style) (target : Target) : Key := style.key (target.path style)

inductive Call where
  | symlinkMetadata
  | metadata
  | readToString
  | createDir
  | removeFile
  | rename
  | create
  | open
  | seek
  | write
  | sync
deriving DecidableEq, Repr

-- `fails` is what the system answers to a call that it does not carry out, and `lands` how much
-- of the data of a write reaches the file when not all of it does. `handle` is where the file that
-- the job has open for writing is now: a rename takes it along, a removal leaves it without a name.
-- `touched` lists the paths handed to a call that creates, opens for writing, renames or deletes,
-- each with the nodes as they were at that moment.
structure FileSystem where
  node : Key → Option Node
  fails : Call → Key → Option String
  lands : Option Nat
  handle : Option Key
  touched : List (Target × (Key → Option Node))

def FileSystem.touch (fs : FileSystem) (target : Target) : FileSystem := { fs with touched := fs.touched ++ [(target, fs.node)] }

def FileSystem.put (fs : FileSystem) (key : Key) (node : Option Node) : FileSystem := { fs with node := Function.update fs.node key node }

def follow (node : Key → Option Node) : Nat → Key → Option Key
  | 0, _ => none
  | fuel + 1, key =>
      match node key with
      | some (.link target) => follow node fuel target
      | _ => some key

def maxLinks : Nat := 40

def FileSystem.real (fs : FileSystem) (key : Key) : Option Key := follow fs.node (maxLinks + 1) key

def FileSystem.stat (fs : FileSystem) (key : Key) : Option Node := (fs.real key).bind fs.node

def FileSystem.exists (fs : FileSystem) (key : Key) : Bool := (fs.stat key).isSome

def FileSystem.isDir (fs : FileSystem) (key : Key) : Bool := key = [] || fs.stat key = some .dir

inductive LinkMetadata where
  | notFound
  | symlink
  | other
  | failed (text : String)
deriving DecidableEq, Repr

def FileSystem.symlinkMetadata (fs : FileSystem) (key : Key) : LinkMetadata :=
  match fs.fails .symlinkMetadata key with
  | some text => .failed text
  | none =>
      match fs.node key with
      | none => .notFound
      | some (.link _) => .symlink
      | some _ => .other

-- What the system says to a call on a path: its own refusal first, else what the nodes allow.
def FileSystem.attempt (fs : FileSystem) (call : Call) (key : Key) (done : Option FileSystem) : FileSystem × Option String :=
  match fs.fails call key, done with
  | some text, _ => (fs, some text)
  | none, some after => (after, none)
  | none, none => (fs, some "os error")

-- create_dir_all on a directory given by its key, parents first; it stops at a file in the way.
def FileSystem.createDirAll (fs : FileSystem) (key : Key) : FileSystem :=
  (key.inits.foldl (fun progress path =>
    if progress.2 then
      match progress.1.node path with
      | none =>
          if path = [] then progress
          else if (fs.fails .createDir path).isSome then (progress.1, false)
          else (progress.1.put path (some .dir), true)
      | some (.file _) => (progress.1, false)
      | some _ => progress
    else progress) (fs, true)).1

-- One directory of the way: kept when it is there, made when nothing is.
def FileSystem.makeDir (asked : FileSystem) (progress : FileSystem × Bool) (path : Key) : FileSystem × Bool :=
  if progress.2 then
    match progress.1.node path with
    | none =>
        if path = [] then progress
        else if (asked.fails .createDir path).isSome then (progress.1, false)
        else (progress.1.put path (some .dir), true)
    | some (.file _) => (progress.1, false)
    | some _ => progress
  else progress

-- A step leaves the nodes alone or makes one directory where nothing was.
theorem makeDir_changes (asked : FileSystem) (progress : FileSystem × Bool) (path : Key) : (asked.makeDir progress path).1 = progress.1 ∨
    progress.1.node path = none ∧ path ≠ [] ∧ (asked.makeDir progress path).1 = progress.1.put path (some .dir) := by
  unfold FileSystem.makeDir
  split
  · split
    · rename_i absent
      split
      · exact .inl rfl
      · rename_i below
        split
        · exact .inl rfl
        · exact .inr ⟨absent, below, rfl⟩
    · exact .inl rfl
    · exact .inl rfl
  · exact .inl rfl

-- What making one missing directory of the way keeps, making all of them keeps.
theorem createDirAll_keeps (fs : FileSystem) (place : Key) (Kept : FileSystem → Prop) (start : Kept fs)
    (made : ∀ now path, path <+: place → path ≠ [] → now.node path = none → Kept now → Kept (now.put path (some .dir))) :
    Kept (fs.createDirAll place) := by
  have whole : ∀ (paths : List Key) (progress : FileSystem × Bool), (∀ path ∈ paths, path <+: place) → Kept progress.1 →
      Kept (paths.foldl fs.makeDir progress).1 := by
    intro paths
    induction paths with
    | nil =>
        intro progress _ kept
        exact kept
    | cons path rest ih =>
        intro progress ways kept
        apply ih _ (fun other member => ways other (by simp [member]))
        obtain same | ⟨absent, below, put⟩ := makeDir_changes fs progress path
        · rw [same]
          exact kept
        · rw [put]
          exact made progress.1 path (ways path (by simp)) below absent kept
  exact whole place.inits (fs, true) (fun path member => (List.mem_inits path place).mp member) start

-- File::create: through a link, truncating what is there.
def FileSystem.createAt (fs : FileSystem) (key : Key) : Option FileSystem :=
  match fs.real key with
  | none => none
  | some key =>
      match fs.node key with
      | some .dir => none
      | _ => if fs.isDir key.dropLast then some { fs.put key (some (.file [])) with handle := some key } else none

-- fs::write: as a create, with the content at once and no handle kept.
def FileSystem.writeFileAt (fs : FileSystem) (key : Key) (content : Bytes) : Option FileSystem :=
  match fs.real key with
  | none => none
  | some key =>
      match fs.node key with
      | some .dir => none
      | _ => if fs.isDir key.dropLast then some (fs.put key (some (.file content))) else none

theorem createAt_real (fs : FileSystem) (key : Key) (real : fs.real key = some key) (free : fs.node key ≠ some .dir) :
    fs.createAt key =
      if fs.isDir key.dropLast then some { fs.put key (some (.file [])) with handle := some key } else none := by
  unfold FileSystem.createAt
  rw [real]
  dsimp only
  cases node : fs.node key with
  | none => rfl
  | some found =>
      cases found with
      | dir => exact absurd node free
      | file content => rfl
      | link target => rfl

theorem createAt_refused (fs : FileSystem) (key : Key) (real : fs.real key = some key) (isDir : fs.node key = some .dir) :
    fs.createAt key = none := by
  unfold FileSystem.createAt
  rw [real]
  dsimp only
  rw [isDir]

-- An open for writing that neither truncates nor needs to create: the file is there.
def FileSystem.openAt (fs : FileSystem) (key : Key) : Option FileSystem :=
  match fs.real key with
  | none => none
  | some key =>
      match fs.node key with
      | some (.file _) => some { fs with handle := some key }
      | _ => none

def FileSystem.removeAt (fs : FileSystem) (key : Key) : Option FileSystem :=
  match fs.node key with
  | none | some .dir => none
  | some _ => some { fs.put key none with handle := if fs.handle = some key then none else fs.handle }

theorem removeAt_refused (fs : FileSystem) (key : Key) (refused : fs.node key = none ∨ fs.node key = some .dir) : fs.removeAt key = none := by
  unfold FileSystem.removeAt
  obtain absent | isDir := refused
  · rw [absent]
  · rw [isDir]

theorem removeAt_done (fs : FileSystem) (key : Key) (found : Node) (there : fs.node key = some found) (plain : found ≠ .dir) :
    fs.removeAt key = some { fs.put key none with handle := if fs.handle = some key then none else fs.handle } := by
  unfold FileSystem.removeAt
  rw [there]
  cases found with
  | dir => exact absurd rfl plain
  | file content => rfl
  | link target => rfl

-- Where a key is after everything at and below one place has moved to another.
def moved (source target key : Key) : Key := if source <+: key then target ++ key.drop source.length else key

-- rename(2): a file or a link replaces a file or a link; a directory takes its contents along
-- and only goes where nothing is.
def FileSystem.renameTo (fs : FileSystem) (source target : Key) : Option FileSystem :=
  match fs.node source with
  | none => none
  | some .dir =>
      if (fs.node target).isNone && fs.isDir target.dropLast && !(source <+: target) then
        some { fs with node := fun key =>
                         if target <+: key then fs.node (source ++ key.drop target.length)
                         else if source <+: key then none else fs.node key,
                       handle := fs.handle.map (moved source target) }
      else none
  | some node =>
      if fs.node target = some .dir || !fs.isDir target.dropLast then none
      else if source = target then some fs
      else
        some { (fs.put target (some node)).put source none with
          handle := if fs.handle = some source then some target else if fs.handle = some target then none else fs.handle }

def splice (content : Bytes) (pos : Nat) (data : Bytes) : Bytes :=
  content.take pos ++ List.replicate (pos - content.length) 0 ++ data ++ content.drop (pos + data.length)

-- A write through the open handle reaches the file wherever its name has gone.
def FileSystem.writeHandle (fs : FileSystem) (pos : Nat) (data : Bytes) : FileSystem :=
  match fs.handle with
  | none => fs
  | some key =>
      match fs.node key with
      | some (.file content) => fs.put key (some (.file (splice content pos data)))
      | _ => fs

end GotechDesk.FileTransfer
