import GotechDesk.FileTransfer.Containment

set_option autoImplicit false

namespace GotechDesk.FileTransfer

-- What the environment gives a call: no call of the job changes it.
structure SameEnv (before after : FileSystem) : Prop where
  fails : after.fails = before.fails
  lands : after.lands = before.lands

theorem sameEnv_refl (fs : FileSystem) : SameEnv fs fs := ⟨rfl, rfl⟩

theorem sameEnv_trans (first second third : FileSystem) (one : SameEnv first second) (two : SameEnv second third) : SameEnv first third :=
  ⟨two.fails.trans one.fails, two.lands.trans one.lands⟩

-- A removal does nothing, or takes the name away from a file or a link.
inductive Removal (fs : FileSystem) (key : Key) : FileSystem × Option String → Prop where
  | refused (after : FileSystem) (text : String) (nodes : after.node = fs.node) (handle : after.handle = fs.handle) (env : SameEnv fs after) :
      Removal fs key (after, some text)
  | done (after : FileSystem) (there : fs.node key ≠ none) (file : fs.node key ≠ some .dir) (willing : fs.fails .removeFile key = none)
      (nodes : after.node = Function.update fs.node key none) (handle : after.handle = if fs.handle = some key then none else fs.handle)
      (env : SameEnv fs after) : Removal fs key (after, none)

theorem removeFile_cases (style : Style) (fs : FileSystem) (target : Target) : Removal fs (target.key style) (fs.removeFile style target) := by
  unfold FileSystem.removeFile FileSystem.attempt
  split
  · exact .refused _ _ rfl rfl ⟨rfl, rfl⟩
  · rename_i after willing done
    unfold FileSystem.removeAt at done
    split at done
    · cases done
    · cases done
    · rename_i found notDir there
      have node : fs.node (target.key style) = some found := there
      cases done
      refine .done _ ?_ ?_ willing rfl rfl ⟨rfl, rfl⟩
      · rw [node]
        simp
      · rw [node]
        intro isDir
        exact notDir (Option.some.inj isDir)
  · exact .refused _ _ rfl rfl ⟨rfl, rfl⟩

-- A creation of a file that is no link: nothing, or an empty file with the handle on it.
inductive Creation (fs : FileSystem) (key : Key) : FileSystem × Option String → Prop where
  | refused (after : FileSystem) (text : String) (nodes : after.node = fs.node) (handle : after.handle = fs.handle) (env : SameEnv fs after) :
      Creation fs key (after, some text)
  | done (after : FileSystem) (free : fs.node key ≠ some .dir) (under : fs.isDir key.dropLast = true)
      (nodes : after.node = Function.update fs.node key (some (.file []))) (handle : after.handle = some key) (env : SameEnv fs after) :
      Creation fs key (after, none)

theorem create_cases (style : Style) (fs : FileSystem) (target : Target) (unlinked : ¬ isLink fs.node (target.key style)) :
    Creation fs (target.key style) (fs.create style target) := by
  unfold FileSystem.create FileSystem.attempt
  split
  · exact .refused _ _ rfl rfl ⟨rfl, rfl⟩
  · rename_i after willing done
    unfold FileSystem.createAt at done
    rw [real_unlinked (fs.touch target) (target.key style) unlinked] at done
    dsimp only at done
    split at done
    · cases done
    · rename_i file
      split at done
      · rename_i under
        cases done
        exact .done _ (fun isDir => file isDir) under rfl rfl ⟨rfl, rfl⟩
      · cases done
  · exact .refused _ _ rfl rfl ⟨rfl, rfl⟩

-- A file written at once, through no link: nothing, or the content; the handle stays where it is.
inductive Writing (fs : FileSystem) (key : Key) (content : Bytes) : FileSystem → Prop where
  | refused (after : FileSystem) (nodes : after.node = fs.node) (handle : after.handle = fs.handle) (env : SameEnv fs after) :
      Writing fs key content after
  | done (after : FileSystem) (free : fs.node key ≠ some .dir) (nodes : after.node = Function.update fs.node key (some (.file content)))
      (handle : after.handle = fs.handle) (env : SameEnv fs after) : Writing fs key content after

theorem writeFile_cases (style : Style) (fs : FileSystem) (target : Target) (content : Bytes) (unlinked : ¬ isLink fs.node (target.key style)) :
    Writing fs (target.key style) content (fs.writeFile style target content).1 := by
  unfold FileSystem.writeFile FileSystem.attempt
  split
  · exact .refused _ rfl rfl ⟨rfl, rfl⟩
  · rename_i after willing done
    unfold FileSystem.writeFileAt at done
    rw [real_unlinked (fs.touch target) (target.key style) unlinked] at done
    dsimp only at done
    split at done
    · cases done
    · rename_i file
      split at done
      · cases done
        exact .done _ (fun isDir => file isDir) rfl rfl ⟨rfl, rfl⟩
      · cases done
  · exact .refused _ rfl rfl ⟨rfl, rfl⟩

-- An open for writing of a file that is there, through no link: nothing, or the handle on it.
inductive Handing (fs : FileSystem) (key : Key) : FileSystem × Option String → Prop where
  | refused (after : FileSystem) (text : String) (nodes : after.node = fs.node) (handle : after.handle = fs.handle) (env : SameEnv fs after) :
      Handing fs key (after, some text)
  | done (after : FileSystem) (nodes : after.node = fs.node) (handle : after.handle = some key) (env : SameEnv fs after) :
      Handing fs key (after, none)

theorem openWrite_cases (style : Style) (fs : FileSystem) (target : Target) (unlinked : ¬ isLink fs.node (target.key style)) :
    Handing fs (target.key style) (fs.openWrite style target) := by
  unfold FileSystem.openWrite FileSystem.attempt
  split
  · exact .refused _ _ rfl rfl ⟨rfl, rfl⟩
  · rename_i after willing done
    unfold FileSystem.openAt at done
    rw [real_unlinked (fs.touch target) (target.key style) unlinked] at done
    dsimp only at done
    split at done
    · cases done
      exact .done _ rfl rfl ⟨rfl, rfl⟩
    · cases done
  · exact .refused _ _ rfl rfl ⟨rfl, rfl⟩

-- A rename of what is not a directory: nothing, or the node moves and takes the handle along.
inductive Renaming (fs : FileSystem) (source target : Key) : FileSystem → Prop where
  | same (after : FileSystem) (nodes : after.node = fs.node) (handle : after.handle = fs.handle) (env : SameEnv fs after) :
      Renaming fs source target after
  | moved (after : FileSystem) (node : Node) (found : fs.node source = some node) (free : fs.node target ≠ some .dir)
      (nodes : after.node = Function.update (Function.update fs.node target (some node)) source none)
      (handle : after.handle = if fs.handle = some source then some target else if fs.handle = some target then none else fs.handle)
      (env : SameEnv fs after) : Renaming fs source target after

theorem rename_cases (style : Style) (fs : FileSystem) (source target : Target) (file : fs.node (source.key style) ≠ some .dir) :
    Renaming fs (source.key style) (target.key style) (fs.rename style source target).1 := by
  unfold FileSystem.rename FileSystem.attempt
  dsimp only
  split
  · exact .same _ rfl rfl ⟨rfl, rfl⟩
  · rename_i after willing done
    unfold FileSystem.renameTo at done
    split at done
    · cases done
    · rename_i isDir
      exact absurd isDir file
    · rename_i node _ found
      split at done
      · cases done
      · rename_i free
        split at done
        · cases done
          exact .same _ rfl rfl ⟨rfl, rfl⟩
        · cases done
          refine .moved _ node found ?_ rfl rfl ⟨rfl, rfl⟩
          intro isDir
          apply free
          rw [Bool.or_eq_true]
          exact .inl (decide_eq_true isDir)
  · exact .same _ rfl rfl ⟨rfl, rfl⟩

-- Directories made on the way to a place: they only take places where nothing was.
structure NewDirs (place : Key) (before after : FileSystem) : Prop where
  node : ∀ key, after.node key = before.node key ∨ (before.node key = none ∧ after.node key = some .dir ∧ key <+: place ∧ key ≠ [])
  handle : after.handle = before.handle
  env : SameEnv before after

theorem newDirs_refl (place : Key) (fs : FileSystem) : NewDirs place fs fs := ⟨fun _ => .inl rfl, rfl, sameEnv_refl fs⟩

theorem newDirs_put (place : Key) (before fs : FileSystem) (key : Key) (dirs : NewDirs place before fs) (absent : fs.node key = none)
    (onTheWay : key <+: place) (below : key ≠ []) : NewDirs place before (fs.put key (some .dir)) := by
  refine ⟨?_, dirs.handle, dirs.env.fails, dirs.env.lands⟩
  intro other
  by_cases same : other = key
  · have earlier := dirs.node other
    rw [same, absent] at earlier
    right
    rw [same]
    refine ⟨?_, by simp [FileSystem.put], onTheWay, below⟩
    obtain kept | ⟨_, isDir, _⟩ := earlier
    · exact kept.symm
    · cases isDir
  · have kept : (fs.put key (some .dir)).node other = fs.node other := Function.update_of_ne same _ _
    rw [kept]
    exact dirs.node other

theorem createDirAll_newDirs (fs : FileSystem) (place : Key) : NewDirs place fs (fs.createDirAll place) :=
  createDirAll_keeps fs place (NewDirs place fs) (newDirs_refl place fs)
    fun now path way below absent kept => newDirs_put place fs now path kept absent way below

theorem parent_dropLast (key directory : Key) (found : parent key = some directory) : key ≠ [] ∧ directory = key.dropLast := by
  unfold parent at found
  cases last : key.getLast? with
  | none => simp [last] at found
  | some part =>
      have some : key ≠ [] := by
        intro empty
        rw [empty] at last
        cases last
      rw [last] at found
      cases part <;> simp_all

theorem createParent_newDirs (fs : FileSystem) (key : Key) : NewDirs key.dropLast fs (fs.createParent key) := by
  unfold FileSystem.createParent
  cases found : parent key with
  | none => exact newDirs_refl key.dropLast fs
  | some directory =>
      rw [(parent_dropLast key directory found).2]
      exact createDirAll_newDirs fs key.dropLast

theorem splice_end (content data : Bytes) : splice content content.length data = content ++ data := by
  simp [splice]

end GotechDesk.FileTransfer
