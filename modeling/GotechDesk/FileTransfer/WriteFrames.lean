import GotechDesk.FileTransfer.WriteRun

set_option autoImplicit false

namespace GotechDesk.FileTransfer

theorem update_isLink (nodes : Key → Option Node) (place key : Key) (node : Option Node) (isNot : ∀ target, node ≠ some (.link target))
    (linked : isLink (Function.update nodes place node) key) : isLink nodes key := by
  obtain ⟨target, found⟩ := linked
  by_cases same : key = place
  · rw [same, Function.update_self] at found
    exact absurd found (isNot target)
  · rw [Function.update_of_ne same] at found
    exact ⟨target, found⟩

-- What leaving an entry does to the nodes: the digest goes, the download takes the final path.
structure Tidy (fs after : FileSystem) (final download digest : Key) : Prop where
  elsewhere : ∀ key, key ≠ final → key ≠ download → key ≠ digest → after.node key = fs.node key
  final : after.node final = fs.node final ∨ ∃ content, fs.node download = some (.file content) ∧ after.node final = some (.file content)
  links : ∀ key, isLink after.node key → isLink fs.node key
  env : SameEnv fs after

theorem tidy_refl (fs : FileSystem) (final download digest : Key) : Tidy fs fs final download digest :=
  ⟨fun _ _ _ _ => rfl, .inl rfl, fun _ linked => linked, sameEnv_refl fs⟩

theorem removal_tidy (fs : FileSystem) (key : Key) (outcome : FileSystem × Option String) (removal : Removal fs key outcome) :
    (∀ other, other ≠ key → outcome.1.node other = fs.node other) ∧ (∀ other, isLink outcome.1.node other → isLink fs.node other) ∧
      (outcome.1.node key = fs.node key ∨ outcome.1.node key = none) ∧ SameEnv fs outcome.1 := by
  cases removal with
  | refused after text nodes handle env => exact ⟨fun other _ => by rw [nodes], fun other linked => by rwa [nodes] at linked, .inl (by rw [nodes]), env⟩
  | done after there file willing nodes handle env =>
      dsimp only
      rw [nodes]
      refine ⟨fun other different => Function.update_of_ne different _ _, ?_, .inr (Function.update_self _ _ _), env⟩
      intro other linked
      exact update_isLink fs.node key other none (by simp) linked

theorem modifyTime_tidy (style : Style) (fs : FileSystem) (job : TransferJob) (entry : FileEntry) (listed : job.entry = some entry)
    (apart : job.placeOf style .entry entry ≠ job.placeOf style .digest entry)
    (apart' : job.placeOf style .entry entry ≠ job.placeOf style .download entry)
    (download : ∀ node, fs.node (job.placeOf style .download entry) = some node → ∃ content, node = .file content) :
    Tidy fs (job.modifyTime style fs) (job.placeOf style .entry entry) (job.placeOf style .download entry) (job.placeOf style .digest entry) := by
  cases found : job.resolved style fs with
  | none =>
      have same : job.modifyTime style fs = fs := by unfold TransferJob.modifyTime; rw [found]; cases job.type <;> rfl
      rw [same]
      exact tidy_refl fs _ _ _
  | some other =>
      have sameEntry : other = entry := by
        have kept := (Option.filter_eq_some_iff.mp found).1
        rw [listed] at kept
        exact (Option.some.inj kept).symm
      cases type : job.type with
      | printer =>
          have same : job.modifyTime style fs = fs := by unfold TransferJob.modifyTime; rw [found, type]
          rw [same]
          exact tidy_refl fs _ _ _
      | generic =>
          have shape : job.modifyTime style fs = ((fs.removeFile style (job.target entry.name .digest)).1.rename style
              (job.target entry.name .download) (job.target entry.name .entry)).1 := by
            unfold TransferJob.modifyTime
            rw [found, type, sameEntry]
          rw [shape]
          have removal := removal_tidy fs (job.placeOf style .digest entry) _ (removeFile_cases style fs (job.target entry.name .digest))
          generalize (fs.removeFile style (job.target entry.name .digest)).1 = cleared at removal ⊢
          obtain ⟨elsewhere, links, atDigest, env⟩ := removal
          have fileHere : ∀ node, cleared.node (job.placeOf style .download entry) = some node →
              (∃ content, node = .file content) ∧ fs.node (job.placeOf style .download entry) = some node := by
            intro node here
            by_cases same : job.placeOf style .download entry = job.placeOf style .digest entry
            · obtain kept | gone := atDigest
              · rw [same, kept, ← same] at here
                exact ⟨download node here, here⟩
              · rw [same, gone] at here
                cases here
            · rw [elsewhere _ same] at here
              exact ⟨download node here, here⟩
          have moving := rename_cases style cleared (job.target entry.name .download) (job.target entry.name .entry) (by
            intro isDir
            obtain ⟨⟨content, file⟩, _⟩ := fileHere .dir isDir
            cases file)
          generalize (cleared.rename style (job.target entry.name .download) (job.target entry.name .entry)).1 = after at moving ⊢
          cases moving with
          | same nodes handle envRename =>
              refine ⟨?_, ?_, ?_, sameEnv_trans _ _ _ env envRename⟩
              · intro key _ _ notDigest
                rw [nodes]
                exact elsewhere key notDigest
              · rw [nodes]
                exact .inl (elsewhere _ apart)
              · intro key linked
                rw [nodes] at linked
                exact links key linked
          | moved node there free nodes handle envRename =>
              obtain ⟨⟨content, rfl⟩, source⟩ := fileHere node there
              change after.node = Function.update (Function.update cleared.node (job.placeOf style .entry entry) _)
                (job.placeOf style .download entry) none at nodes
              refine ⟨?_, ?_, ?_, sameEnv_trans _ _ _ env envRename⟩
              · intro key notFinal notDownload notDigest
                rw [nodes, Function.update_of_ne notDownload, Function.update_of_ne notFinal]
                exact elsewhere key notDigest
              · right
                refine ⟨content, source, ?_⟩
                rw [nodes, Function.update_of_ne apart', Function.update_self]
              · intro key linked
                rw [nodes] at linked
                exact links key (update_isLink _ _ _ _ (by simp) (update_isLink _ _ _ _ (by simp) linked))

-- What opening an entry does to the nodes, besides the directories on the way.
structure Begun (fs after : FileSystem) (final download digest : Key) : Prop where
  elsewhere : ∀ key, key ≠ download → key ≠ digest →
    after.node key = fs.node key ∨ (fs.node key = none ∧ after.node key = some .dir ∧ key <+: final.dropLast ∧ key ≠ [])
  links : ∀ key, isLink after.node key → isLink fs.node key
  env : SameEnv fs after

theorem newDirs_begun (fs made : FileSystem) (final download digest : Key) (dirs : NewDirs final.dropLast fs made) :
    Begun fs made final download digest := by
  refine ⟨fun key _ _ => dirs.node key, ?_, dirs.env⟩
  rintro key ⟨target, linked⟩
  obtain same | ⟨_, isDir, _⟩ := dirs.node key
  · exact ⟨target, same ▸ linked⟩
  · rw [isDir] at linked
    cases linked

theorem begun_then (fs middle after : FileSystem) (final download digest : Key) (begun : Begun fs middle final download digest)
    (elsewhere : ∀ key, key ≠ download → key ≠ digest → after.node key = middle.node key)
    (links : ∀ key, isLink after.node key → isLink middle.node key) (env : SameEnv middle after) : Begun fs after final download digest := by
  refine ⟨?_, fun key linked => begun.links key (links key linked), sameEnv_trans _ _ _ begun.env env⟩
  intro key notDownload notDigest
  rw [elsewhere key notDownload notDigest]
  exact begun.elsewhere key notDownload notDigest

theorem createPair_begun (style : Style) (json : DigestFormat) (fs : FileSystem) (job : TransferJob) (entry : FileEntry)
    (unlinked : ∀ role, role ≠ .entry → ¬ isLink fs.node (job.placeOf style role entry))
    (pair : job.placeOf style .download entry ≠ job.placeOf style .digest entry) :
    (∀ key, key ≠ job.placeOf style .download entry → key ≠ job.placeOf style .digest entry →
      (job.createPair style json fs entry.name).1.node key = fs.node key) ∧
    (∀ key, isLink (job.createPair style json fs entry.name).1.node key → isLink fs.node key) ∧
    SameEnv fs (job.createPair style json fs entry.name).1 ∧
    ((job.createPair style json fs entry.name).2 = none →
      (job.createPair style json fs entry.name).1.node (job.placeOf style .download entry) = some (.file []) ∧
      (job.createPair style json fs entry.name).1.handle = some (job.placeOf style .download entry)) := by
  have creation := create_cases style fs (job.target entry.name .download) (unlinked .download (by simp))
  unfold TransferJob.createPair
  generalize fs.create style (job.target entry.name .download) = outcome at creation ⊢
  cases creation with
  | refused after text nodes handle env =>
      refine ⟨fun key _ _ => by rw [nodes], fun key linked => by rwa [nodes] at linked, env, ?_⟩
      intro impossible
      cases impossible
  | done after free under nodes handle env =>
      change after.node = Function.update fs.node (job.placeOf style .download entry) _ at nodes
      have notLinked : ¬ isLink after.node (job.placeOf style .digest entry) := by
        rw [nodes]
        intro linked
        exact unlinked .digest (by simp) (update_isLink _ _ _ _ (by simp) linked)
      have writing := writeFile_cases style after (job.target entry.name .digest) (json.encode job.digest) notLinked
      dsimp only
      generalize (after.writeFile style (job.target entry.name .digest) (json.encode job.digest)).1 = last at writing ⊢
      cases writing with
      | refused written keptHandle envWrite =>
          rw [written, nodes, keptHandle, handle]
          refine ⟨?_, ?_, sameEnv_trans _ _ _ env envWrite, fun _ => ⟨Function.update_self _ _ _, rfl⟩⟩
          · intro key notDownload _
            exact Function.update_of_ne notDownload _ _
          · intro key linked
            exact update_isLink _ _ _ _ (by simp) linked
      | done freeDigest written keptHandle envWrite =>
          change last.node = Function.update after.node (job.placeOf style .digest entry) _ at written
          rw [written, nodes, keptHandle, handle]
          refine ⟨?_, ?_, sameEnv_trans _ _ _ env envWrite, fun _ => ⟨?_, rfl⟩⟩
          · intro key notDownload notDigest
            rw [Function.update_of_ne notDigest, Function.update_of_ne notDownload]
          · intro key linked
            exact update_isLink _ _ _ _ (by simp) (update_isLink _ _ _ _ (by simp) linked)
          · rw [Function.update_of_ne pair, Function.update_self]

-- What has become of the entry that was to be opened.
structure Opening (style : Style) (fs : FileSystem) (job : TransferJob) (entry : FileEntry) (outcome : FileSystem × Option String) : Prop where
  begun : Begun fs outcome.1 (job.placeOf style .entry entry) (job.placeOf style .download entry) (job.placeOf style .digest entry)
  created : outcome.2 = none → outcome.1.node (job.placeOf style .download entry) = some (.file []) ∧
    outcome.1.handle = some (job.placeOf style .download entry)

theorem createDownload_opening (style : Style) (json : DigestFormat) (fs made : FileSystem) (job : TransferJob) (entry : FileEntry)
    (begun : Begun fs made (job.placeOf style .entry entry) (job.placeOf style .download entry) (job.placeOf style .digest entry))
    (unlinked : ∀ role, role ≠ .entry → ¬ isLink made.node (job.placeOf style role entry))
    (pair : job.placeOf style .download entry ≠ job.placeOf style .digest entry) :
    Opening style fs job entry (job.createDownload style json made entry.name) := by
  have onCleared : ∀ cleared : FileSystem,
      Begun fs cleared (job.placeOf style .entry entry) (job.placeOf style .download entry) (job.placeOf style .digest entry) →
      (∀ role, role ≠ .entry → ¬ isLink cleared.node (job.placeOf style role entry)) →
      Opening style fs job entry (job.createPair style json cleared entry.name) := by
    intro cleared begunHere unlinkedHere
    obtain ⟨elsewhere, links, env, created⟩ := createPair_begun style json cleared job entry unlinkedHere pair
    exact ⟨begun_then fs cleared _ _ _ _ begunHere elsewhere links env, created⟩
  unfold TransferJob.createDownload FileSystem.dropDigest
  by_cases there : made.exists ((job.target entry.name .digest).key style) = true
  · rw [if_pos there]
    have removal := removal_tidy made (job.placeOf style .digest entry) _ (removeFile_cases style made (job.target entry.name .digest))
    generalize made.removeFile style (job.target entry.name .digest) = outcome at removal ⊢
    obtain ⟨cleared, refused⟩ := outcome
    obtain ⟨elsewhere, links, _, env⟩ := removal
    have begunCleared := begun_then fs made cleared _ _ _ begun (fun key _ notDigest => elsewhere key notDigest) links env
    cases refused with
    | some text =>
        refine ⟨begunCleared, ?_⟩
        intro impossible
        cases impossible
    | none => exact onCleared cleared begunCleared (fun role sibling linked => unlinked role sibling (links _ linked))
  · rw [if_neg there]
    exact onCleared made begun unlinked

theorem createEntry_opening (style : Style) (json : DigestFormat) (fs : FileSystem) (job : TransferJob) (entry : FileEntry)
    (generic : job.type = .generic) (unlinked : ∀ role, role ≠ .entry → ¬ isLink fs.node (job.placeOf style role entry))
    (pair : job.placeOf style .download entry ≠ job.placeOf style .digest entry) :
    Opening style fs job entry (job.createEntry style json fs entry.name) := by
  unfold TransferJob.createEntry
  rw [generic]
  dsimp only
  have dirs := createParent_newDirs fs (job.placeOf style .entry entry)
  have begun := newDirs_begun fs _ _ (job.placeOf style .download entry) (job.placeOf style .digest entry) dirs
  cases joinValidatedPath style fs job.base entry.name with
  | error text =>
      refine ⟨newDirs_begun fs fs _ _ _ (newDirs_refl _ fs), ?_⟩
      intro impossible
      cases impossible
  | ok path =>
      exact createDownload_opening style json fs _ job entry begun
        (fun role sibling linked => unlinked role sibling (begun.links _ linked)) pair

end GotechDesk.FileTransfer
