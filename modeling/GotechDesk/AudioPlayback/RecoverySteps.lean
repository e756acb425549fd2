import GotechDesk.AudioPlayback.Recovery

set_option autoImplicit false

namespace GotechDesk.AudioPlayback

-- An output that plays a format: its own stream, with its own flag and error queue.
structure Plays (opened : Nat) (out : Output) (f : AudioFormat) : Prop where
  own : ∃ id, out.stream = some id ∧ out.errors = some id ∧ out.status = some id ∧ id < opened
  rate : out.sampleRate.1 = f.sampleRate
  channels : out.channels = f.channels
  format : out.format = some f
  settled : out.retryAt = none

-- The next restart of this output is not due before the interval after the last attempt is over.
def Paced (s : Handler) (out : Output) : Prop :=
  ∃ attempt due, s.lastAttempt = some attempt ∧ out.restartNotBefore = some due ∧ attempt + recoveryInterval ≤ due

-- The last attempt failed, and the output in place was kept with the pace of an earlier attempt.
def KeptAfterFailure (s : Handler) : Prop := ∃ attempt, s.lastAttempt = some attempt ∧ s.keptAt = some attempt

-- Where the handler stands between two calls.
inductive Standing (s : Handler) : Prop where
  | fresh : s.accepted = none → s.active = {} → s.pending = none → s.keptAt = none → Standing s
  | playing (f : AudioFormat) : s.accepted = some f → Plays s.opened s.active f → s.active.audioDecoder = some f.decoder → s.pending = none →
      (s.keptAt = none ∧ Paced s s.active ∨ KeptAfterFailure s) → Standing s
  | replacing (f : AudioFormat) (candidate : Output) : s.accepted = some f → Plays s.opened s.active f → s.active.audioDecoder = some f.decoder →
      s.pending = some candidate → Plays s.opened candidate f → Paced s candidate → s.keptAt = none → Standing s
  | waiting (f : AudioFormat) (attempt due : Nat) : s.accepted = some f → s.active.format = some f → s.active.stream = none →
      s.active.errors = none → s.active.awaitingCallback = false → s.active.retryAt = some due → s.lastAttempt = some attempt →
      attempt + recoveryInterval ≤ due → s.pending = none → Standing s

-- An output that has just failed: what is left to do is to retire it.
structure Failed (s : Handler) (now : Nat) : Prop where
  format : ∃ f, s.accepted = some f ∧ s.active.format = some f
  paced : s.keptAt = none ∧ Paced s s.active ∨ ∃ attempt, s.lastAttempt = some attempt ∧ s.keptAt = some attempt ∧ attempt + recoveryInterval ≤ now

def PacedRestarts (s : Handler) : Prop :=
  ∀ entry ∈ s.restarts, ∀ attempt, entry.1 = some attempt → attempt + recoveryInterval ≤ entry.2

section
variable (s : Handler)

theorem unread_drained (errors : Option Nat) : (s.drain errors).unread errors = [] := by
  cases errors with
  | none => rfl
  | some id =>
      simp only [Handler.unread, Handler.drain, Option.elim_some, Table.get_insert, if_pos, Option.getD_some]

-- Draining a queue never brings an error into another.
theorem unread_drain (errors other : Option Nat) : (s.drain errors).unread other = [] ∨ (s.drain errors).unread other = s.unread other := by
  cases errors with
  | none => exact .inr rfl
  | some id =>
      cases other with
      | none => exact .inl rfl
      | some number =>
          simp only [Handler.unread, Handler.drain, Option.elim_some, Table.get_insert]
          by_cases same : number = id
          · rw [if_pos same]
            exact .inl rfl
          · rw [if_neg same]
            exact .inr rfl

theorem reports_drain (errors other : Option Nat) (reported : (s.drain errors).reports other = true) : s.reports other = true := by
  rw [Handler.reports] at reported ⊢
  rcases unread_drain s errors other with none | same
  · rw [none] at reported
    cases reported
  · rw [← same]
    exact reported

theorem reports_drained (errors : Option Nat) : (s.drain errors).reports errors = false := by
  rw [Handler.reports, unread_drained]
  rfl

theorem fails_drain (errors : Option Nat) (out : Output) (now : Nat) (fails : (s.drain errors).fails out now = true) : s.fails out now = true := by
  have same : (s.drain errors).timedOut out now = s.timedOut out now := rfl
  rw [Handler.fails, same, Bool.or_eq_true] at fails
  rw [Handler.fails, Bool.or_eq_true]
  rcases fails with reported | late
  · exact .inl (reports_drain s errors _ reported)
  · exact .inr late

-- An output that did not fail is left as it is; one that did keeps its stream and its format.
theorem judged_sound (out : Output) (now : Nat) (sound : s.fails out now = false) : s.judged out now = out := by
  rw [Handler.judged, if_neg]
  rw [Handler.fails, Bool.or_eq_false_iff] at sound
  rw [sound.2, Bool.and_false]
  exact Bool.false_ne_true

theorem judged_fields (out : Output) (now : Nat) :
    (s.judged out now).stream = out.stream ∧ (s.judged out now).errors = out.errors ∧ (s.judged out now).status = out.status ∧
      (s.judged out now).sampleRate = out.sampleRate ∧ (s.judged out now).channels = out.channels ∧
      (s.judged out now).format = out.format ∧ (s.judged out now).retryAt = out.retryAt ∧
      (s.judged out now).audioDecoder = out.audioDecoder ∧ (s.judged out now).restartNotBefore = out.restartNotBefore := by
  rw [Handler.judged]
  split <;> exact ⟨rfl, rfl, rfl, rfl, rfl, rfl, rfl, rfl, rfl⟩

theorem judged_plays (out : Output) (now : Nat) (f : AudioFormat) (plays : Plays s.opened out f) : Plays s.opened (s.judged out now) f := by
  obtain ⟨stream, errors, status, rate, channels, format, settled, _, _⟩ := judged_fields s out now
  refine ⟨?_, ?_, ?_, ?_, ?_⟩
  · rw [stream, errors, status]
    exact plays.own
  · rw [rate]
    exact plays.rate
  · rw [channels]
    exact plays.channels
  · rw [format]
    exact plays.format
  · rw [settled]
    exact plays.settled

end

-- What resolving a pending output comes to.
inductive Resolved (s : Handler) (candidate : Output) (now : Nat) : Handler × Option Bool → Prop where
  | candidateFailed (queues : List (Nat × List StreamError)) (active : Output) (failed : Bool) :
      active = { (s.drain candidate.errors).judged s.active now with restartNotBefore := candidate.restartNotBefore } →
      failed = (s.drain candidate.errors).fails s.active now →
      Resolved s candidate now ({ s with queues, active, pending := none }, some failed)
  | committed (queues : List (Nat × List StreamError)) :
      s.isReady candidate.status = true ∨ (s.drain candidate.errors).fails s.active now = true →
      Resolved s candidate now ({ s with queues, active := { candidate with audioDecoder := s.active.audioDecoder }, pending := none }, some false)
  | waits (queues : List (Nat × List StreamError)) : (s.drain candidate.errors).fails s.active now = false →
      Resolved s candidate now ({ s with queues }, some false)

theorem resolve_cases (s : Handler) (candidate : Output) (now : Nat) (held : s.pending = some candidate) :
    Resolved s candidate now (s.resolvePendingPlayback now) := by
  have decoder : ((s.drain candidate.errors).judged s.active now).audioDecoder = s.active.audioDecoder :=
    (judged_fields _ s.active now).2.2.2.2.2.2.2.1
  rw [Handler.resolvePendingPlayback, held]
  dsimp only
  by_cases candidateFailed : s.fails candidate now = true
  · rw [if_pos candidateFailed]
    exact .candidateFailed _ _ _ rfl rfl
  · rw [if_neg candidateFailed]
    by_cases commits : (s.isReady candidate.status || (s.drain candidate.errors).fails s.active now) = true
    · rw [if_pos commits, decoder]
      exact .committed _ (Bool.or_eq_true _ _ ▸ commits)
    · rw [if_neg commits]
      rw [Bool.or_eq_true, not_or, Bool.not_eq_true, Bool.not_eq_true] at commits
      rw [judged_sound _ s.active now commits.2, ← held]
      exact .waits _ commits.2

def Clean (s : Handler) : Prop := s.reports s.active.errors = false

theorem unread_queues (s other : Handler) (errors : Option Nat) (same : other.queues = s.queues) : other.unread errors = s.unread errors := by
  rw [Handler.unread, Handler.unread, same]

theorem clean_queues (s other : Handler) (errors : Option Nat) (same : other.queues = s.queues) (empty : s.unread errors = []) :
    other.reports errors = false := by
  rw [Handler.reports, unread_queues s other errors same, empty]
  rfl

theorem resolve_clean (s : Handler) (candidate : Output) (now : Nat) (held : s.pending = some candidate) :
    Clean (s.resolvePendingPlayback now).1 := by
  have drained := unread_drained (s.drain candidate.errors) s.active.errors
  have errors : ((s.drain candidate.errors).judged s.active now).errors = s.active.errors := (judged_fields _ s.active now).2.1
  rw [Handler.resolvePendingPlayback, held]
  dsimp only
  split
  · apply clean_queues ((s.drain candidate.errors).drain s.active.errors)
    · rfl
    · dsimp only
      rw [errors]
      exact drained
  · split
    · apply clean_queues ((s.drain candidate.errors).drain s.active.errors)
      · rfl
      · rcases unread_drain (s.drain candidate.errors) s.active.errors candidate.errors with none | same
        · exact none
        · exact same.trans (unread_drained s candidate.errors)
    · apply clean_queues ((s.drain candidate.errors).drain s.active.errors)
      · rfl
      · dsimp only
        rw [errors]
        exact drained

-- The output in place is let go only for one that is ready, or because it has failed.
def Released (s : Handler) (now : Nat) (result : Handler) : Prop :=
  s.fails s.active now = true ∨ (result.active.stream.isSome = true ∧ result.isReady result.active.status = true)

-- What an inspection leaves: a handler that stands, or a failed output to retire.
structure Inspected (s : Handler) (now : Nat) (result : Handler × Bool) : Prop where
  stands : result.2 = false → Standing result.1
  failed : result.2 = true → Failed result.1 now ∧ s.fails s.active now = true
  clean : Clean result.1
  same : result.1.restarts = s.restarts ∧ result.1.accepted = s.accepted ∧ result.1.ready = s.ready
  kept : result.2 = false → result.1.active.stream = s.active.stream ∨ Released s now result.1

theorem inspect_alone (s : Handler) (now : Nat) (alone : s.pending = none) :
    s.inspect now = ({ s.drain s.active.errors with active := s.judged s.active now }, s.fails s.active now) := by
  have resolved : s.resolvePendingPlayback now = (s, none) := by
    rw [Handler.resolvePendingPlayback, alone]
  rw [Handler.inspect, resolved]

theorem inspect_pending (s : Handler) (now : Nat) (candidate : Output) (held : s.pending = some candidate) :
    ∃ failed, (s.resolvePendingPlayback now).2 = some failed ∧ s.inspect now = ((s.resolvePendingPlayback now).1, failed) := by
  have resolved := resolve_cases s candidate now held
  rw [Handler.inspect]
  generalize s.resolvePendingPlayback now = result at resolved
  cases resolved with
  | candidateFailed queues active failed judged asked => exact ⟨failed, rfl, rfl⟩
  | committed queues ready => exact ⟨false, rfl, rfl⟩
  | waits queues sound => exact ⟨false, rfl, rfl⟩

theorem plays_decoder (opened : Nat) (out : Output) (f : AudioFormat) (decoder : Option AudioDecoder) (plays : Plays opened out f) :
    Plays opened { out with audioDecoder := decoder } f := { plays with }

theorem plays_pace (opened : Nat) (out : Output) (f : AudioFormat) (due : Option Nat) (plays : Plays opened out f) :
    Plays opened { out with restartNotBefore := due } f := { plays with }

section
variable (s : Handler)

theorem inspect_playing (now : Nat) (f : AudioFormat) (accepted : s.accepted = some f) (plays : Plays s.opened s.active f)
    (decoder : s.active.audioDecoder = some f.decoder) (alone : s.pending = none) (paced : s.keptAt = none ∧ Paced s s.active ∨ KeptAfterFailure s)
    (timely : ∀ attempt, s.keptAt = some attempt → s.fails s.active now = true → attempt + recoveryInterval ≤ now) :
    Inspected s now (s.inspect now) := by
  obtain ⟨stream, errors, _, _, _, format, _, kept, due⟩ := judged_fields s s.active now
  rw [inspect_alone s now alone]
  refine ⟨?_, ?_, ?_, ⟨rfl, rfl, rfl⟩, fun _ => .inl stream⟩
  · intro sound
    rw [judged_sound s s.active now sound]
    exact .playing f accepted plays decoder alone paced
  · intro failed
    refine ⟨⟨⟨f, accepted, format.trans plays.format⟩, ?_⟩, failed⟩
    rcases paced with ⟨none, attempt, next, last, held, interval⟩ | ⟨attempt, last, held⟩
    · exact .inl ⟨none, attempt, next, last, due.trans held, interval⟩
    · exact .inr ⟨attempt, last, held, timely attempt held failed⟩
  · apply clean_queues (s.drain s.active.errors)
    · rfl
    · dsimp only
      rw [errors]
      exact unread_drained s s.active.errors

theorem inspect_replacing (now : Nat) (f : AudioFormat) (candidate : Output) (accepted : s.accepted = some f)
    (plays : Plays s.opened s.active f) (decoder : s.active.audioDecoder = some f.decoder) (held : s.pending = some candidate) (also : Plays s.opened candidate f)
    (paced : Paced s candidate) (none : s.keptAt = none) : Inspected s now (s.inspect now) := by
  have clean := resolve_clean s candidate now held
  have resolved := resolve_cases s candidate now held
  obtain ⟨failed, asked, inspected⟩ := inspect_pending s now candidate held
  rw [inspected]
  generalize s.resolvePendingPlayback now = result at resolved asked clean
  obtain ⟨attempt, next, last, due, interval⟩ := paced
  cases resolved with
  | committed queues why =>
      obtain rfl := Option.some.inj asked
      refine ⟨?_, fun failed => Bool.noConfusion failed, clean, ⟨rfl, rfl, rfl⟩, ?_⟩
      · intro _
        exact .playing f accepted (plays_decoder _ candidate f _ also) decoder rfl (.inl ⟨none, attempt, next, last, due, interval⟩)
      · intro _
        right
        rcases why with ready | failed
        · obtain ⟨id, stream, _⟩ := also.own
          exact .inr ⟨by rw [stream]; rfl, ready⟩
        · exact .inl (fails_drain s candidate.errors s.active now failed)
  | waits queues sound =>
      obtain rfl := Option.some.inj asked
      refine ⟨?_, fun failed => Bool.noConfusion failed, clean, ⟨rfl, rfl, rfl⟩, fun _ => .inl rfl⟩
      intro _
      exact .replacing f candidate accepted plays decoder held also ⟨attempt, next, last, due, interval⟩ none
  | candidateFailed queues active found judged same =>
      obtain rfl := Option.some.inj asked
      have stays := judged_plays (s.drain candidate.errors) s.active now f plays
      obtain ⟨stream, _, _, _, _, _, _, history, _⟩ := judged_fields (s.drain candidate.errors) s.active now
      refine ⟨?_, ?_, clean, ⟨rfl, rfl, rfl⟩, ?_⟩
      · intro _
        refine .playing f accepted ?_ ?_ rfl (.inl ⟨none, attempt, next, last, ?_, interval⟩)
        · rw [judged]
          exact plays_pace _ _ f _ stays
        · rw [judged]
          exact history.trans decoder
        · rw [judged]
          exact due
      · intro failed
        refine ⟨⟨⟨f, accepted, ?_⟩, .inl ⟨none, attempt, next, last, ?_, interval⟩⟩, ?_⟩
        · rw [judged]
          exact stays.format
        · rw [judged]
          exact due
        · exact fails_drain s candidate.errors s.active now (same.symm.trans failed)
      · intro _
        left
        rw [judged]
        exact stream

theorem inspect_silent (now : Nat) (stands : Standing s) (alone : s.pending = none) (sound : s.fails s.active now = false)
    (none : s.active.errors = none) : Inspected s now (s.inspect now) := by
  have same : s.drain s.active.errors = s := by rw [none]; rfl
  rw [inspect_alone s now alone, judged_sound s s.active now sound, same, sound]
  refine ⟨fun _ => stands, fun failed => Bool.noConfusion failed, ?_, ⟨rfl, rfl, rfl⟩, fun _ => .inl rfl⟩
  rw [Clean, Handler.reports, none]
  rfl

theorem inspect_spec (now : Nat) (stands : Standing s)
    (timely : ∀ attempt, s.keptAt = some attempt → s.fails s.active now = true → attempt + recoveryInterval ≤ now) :
    Inspected s now (s.inspect now) := by
  have again := stands
  cases stands with
  | fresh accepted active alone kept =>
      refine inspect_silent s now again alone ?_ (by rw [active])
      rw [active]
      rfl
  | playing f accepted plays decoder alone paced => exact inspect_playing s now f accepted plays decoder alone paced timely
  | replacing f candidate accepted plays decoder held also paced none =>
      exact inspect_replacing s now f candidate accepted plays decoder held also paced none
  | waiting f attempt due accepted format stream errors awaiting retry last interval alone =>
      refine inspect_silent s now again alone ?_ errors
      rw [Handler.fails, Handler.reports, errors, Handler.timedOut, awaiting]
      rfl

theorem retire_waits (now : Nat) (failed : Failed s now) : Standing (s.retire now) := by
  obtain ⟨f, accepted, format⟩ := failed.format
  rcases failed.paced with ⟨_, attempt, due, last, held, interval⟩ | ⟨attempt, last, _, interval⟩
  · refine .waiting f attempt (max due now) accepted format rfl rfl rfl ?_ last (Nat.le_trans interval (Nat.le_max_left _ _)) rfl
    have kept : s.clearPlaybackStream.active.restartNotBefore = some due := held
    rw [Handler.retire, kept]
    rfl
  · cases held : s.active.restartNotBefore with
    | none =>
        refine .waiting f attempt now accepted format rfl rfl rfl ?_ last interval rfl
        have kept : s.clearPlaybackStream.active.restartNotBefore = none := held
        rw [Handler.retire, kept]
        rfl
    | some due =>
        refine .waiting f attempt (max due now) accepted format rfl rfl rfl ?_ last (Nat.le_trans interval (Nat.le_max_right _ _)) rfl
        have kept : s.clearPlaybackStream.active.restartNotBefore = some due := held
        rw [Handler.retire, kept]
        rfl

theorem confirm_cases : s.confirm = s ∨ s.confirm = { s with active := { s.active with awaitingCallback := false, startupDeadline := none } } := by
  rw [Handler.confirm]
  split
  · exact .inr rfl
  · exact .inl rfl

theorem confirm_stands (stands : Standing s) (clean : Clean s) : Standing s.confirm ∧ Clean s.confirm := by
  rcases confirm_cases s with same | same
  · rw [same]
    exact ⟨stands, clean⟩
  · rw [same]
    refine ⟨?_, clean⟩
    cases stands with
    | fresh accepted active alone kept => exact .fresh accepted (by rw [active]) alone kept
    | playing f accepted plays decoder alone paced =>
        exact .playing f accepted { plays with } decoder alone paced
    | replacing f candidate accepted plays decoder held also paced none =>
        exact .replacing f candidate accepted { plays with } decoder held also paced none
    | waiting f attempt due accepted format stream errors awaiting retry last interval alone =>
        exact .waiting f attempt due accepted format stream errors rfl retry last interval alone

theorem finish_started (f : AudioFormat) (now : Nat) (accepted : s.accepted = some f) (plays : Plays s.opened s.active f)
    (decoder : s.active.audioDecoder = some f.decoder) (alone : s.pending = none) : Standing (s.finishPlaybackStart true now) :=
  .playing f accepted { plays with settled := rfl } decoder alone
    (.inl ⟨rfl, now, now + recoveryInterval, rfl, rfl, Nat.le_refl _⟩)

theorem finish_failed (f : AudioFormat) (now : Nat) (accepted : s.accepted = some f) (format : s.active.format = some f) :
    Standing (s.finishPlaybackStart false now) :=
  .waiting f now (now + recoveryInterval) accepted format rfl rfl rfl rfl rfl (Nat.le_refl _) rfl

theorem start_plays (f : AudioFormat) (stream : Opened) (channels : s.active.channels = f.channels) (format : s.active.format = some f)
    (settled : s.active.retryAt = none) : Plays (s.startAudio f stream).opened (s.startAudio f stream).active f :=
  ⟨⟨s.opened, rfl, rfl, rfl, Nat.lt_succ_self _⟩, rfl, channels, format, settled⟩

end

section
variable (decodes : AudioFormat → Bool)

-- A handler between two calls of which nothing wrong is left unread.
structure Steady (s : Handler) : Prop where
  stands : Standing s
  clean : Clean s
  paced : PacedRestarts s

section
variable (s : Handler)

theorem restart_cases (f : AudioFormat) (stream : Option Nat) :
    s.restartPlayback decodes f stream = (s, false) ∨ ∃ rate, s.restartPlayback decodes f stream =
      ({ s.startAudio f { outputRate := rate } with
          active := { (s.startAudio f { outputRate := rate }).active with channels := f.channels, audioDecoder := some f.decoder } }, true) := by
  by_cases known : decodes f = true
  · cases stream with
    | none =>
        left
        simp only [Handler.restartPlayback, if_pos known]
    | some rate =>
        right
        refine ⟨rate, ?_⟩
        simp only [Handler.restartPlayback, if_pos known]
  · left
    simp only [Handler.restartPlayback, if_neg known]

theorem retry_later (now finished : Nat) (stream : Option Nat) (later : ∀ due, s.active.retryAt = some due → ¬ due ≤ now) :
    s.retry decodes now stream finished = s := by
  rw [Handler.retry, if_neg]
  intro due
  rw [Option.any_eq_true] at due
  obtain ⟨held, known, passed⟩ := due
  exact later held known (of_decide_eq_true passed)

-- A restart of an output that waited its time.
theorem retry_due (f : AudioFormat) (attempt due now finished : Nat) (stream : Option Nat) (accepted : s.accepted = some f)
    (format : s.active.format = some f) (retry : s.active.retryAt = some due) (last : s.lastAttempt = some attempt)
    (interval : attempt + recoveryInterval ≤ due) (alone : s.pending = none) (passed : due ≤ now) (paced : PacedRestarts s) :
    Steady (s.retry decodes now stream finished) := by
  have logged : PacedRestarts { s with restarts := s.restarts ++ [(s.lastAttempt, now)] } := by
    intro entry member held before
    rcases List.mem_append.mp member with old | new
    · exact paced entry old held before
    · rw [List.mem_singleton.mp new] at before ⊢
      obtain rfl : attempt = held := Option.some.inj (last.symm.trans before)
      exact Nat.le_trans interval passed
  have asked : s.active.retryAt.any (fun due => decide (due ≤ now)) = true := by
    rw [retry]
    exact decide_eq_true passed
  rw [Handler.retry, if_pos asked, format]
  dsimp only
  rcases restart_cases decodes { s with restarts := s.restarts ++ [(s.lastAttempt, now)] } f stream with refused | ⟨rate, opened⟩
  · rw [refused]
    exact ⟨finish_failed _ f finished accepted format, rfl, logged⟩
  · rw [opened]
    refine ⟨.playing f accepted ⟨⟨s.opened, rfl, rfl, rfl, Nat.lt_succ_self _⟩, rfl, rfl, format, rfl⟩ rfl alone
      (.inl ⟨rfl, finished, finished + recoveryInterval, rfl, rfl, Nat.le_refl _⟩), ?_, logged⟩
    apply clean_queues ({ s with queues := Table.insert s.queues s.opened [] })
    · rfl
    · simp only [Handler.unread, Handler.finishPlaybackStart, Handler.startAudio, if_true, Option.elim_some, Table.get_insert, Option.getD_some]

theorem retry_spec (now finished : Nat) (stream : Option Nat) (stands : Standing s) (clean : Clean s) (paced : PacedRestarts s) :
    Steady (s.retry decodes now stream finished) ∧ (s.active.stream.isSome = true → s.retry decodes now stream finished = s) := by
  have steady : Steady s := ⟨stands, clean, paced⟩
  have settled : s.active.retryAt = none → s.retry decodes now stream finished = s := by
    intro none
    apply retry_later
    intro due held
    rw [none] at held
    cases held
  cases stands with
  | fresh accepted active alone kept =>
      have same := settled (by rw [active])
      exact ⟨by rw [same]; exact steady, fun _ => same⟩
  | playing f accepted plays decoder alone pace | replacing f candidate accepted plays decoder held also pace none =>
      have same := settled plays.settled
      exact ⟨by rw [same]; exact steady, fun _ => same⟩
  | waiting f attempt due accepted format idle errors awaiting retry last interval alone =>
      refine ⟨?_, ?_⟩
      · by_cases passed : due ≤ now
        · exact retry_due decodes s f attempt due now finished stream accepted format retry last interval alone passed paced
        · have same : s.retry decodes now stream finished = s := by
            apply retry_later
            intro other held
            obtain rfl := Option.some.inj (retry.symm.trans held)
            exact passed
          rw [same]
          exact steady
      · rw [idle]
        exact fun some => Bool.noConfusion some

theorem retry_accepted (now finished : Nat) (stream : Option Nat) : (s.retry decodes now stream finished).accepted = s.accepted := by
  rw [Handler.retry]
  split
  · cases format : s.active.format with
    | none => rfl
    | some f =>
        dsimp only
        rcases restart_cases decodes { s with restarts := s.restarts ++ [(s.lastAttempt, now)] } f stream with refused | ⟨rate, opened⟩
        · rw [refused]
          rfl
        · rw [opened]
          rfl
  · rfl

theorem confirm_keeps : s.confirm.active.stream = s.active.stream ∧ s.confirm.accepted = s.accepted ∧ s.confirm.restarts = s.restarts := by
  rcases confirm_cases s with same | same
  · rw [same]
    exact ⟨rfl, rfl, rfl⟩
  · rw [same]
    exact ⟨rfl, rfl, rfl⟩

-- One recovery: the handler stands with nothing unread, and keeps its output unless it may let it go.
theorem recover_spec (now finished : Nat) (stream : Option Nat) (stands : Standing s) (paced : PacedRestarts s)
    (timely : ∀ attempt, s.keptAt = some attempt → s.fails s.active now = true → attempt + recoveryInterval ≤ now) :
    Steady (s.recoverPlayback decodes now stream finished) ∧ (s.recoverPlayback decodes now stream finished).accepted = s.accepted ∧
      ∀ id, s.active.stream = some id → (s.recoverPlayback decodes now stream finished).active.stream = some id ∨
        Released s now (s.recoverPlayback decodes now stream finished) := by
  have inspected := inspect_spec s now stands timely
  obtain ⟨restarts, accepted, _⟩ := inspected.same
  rw [Handler.recoverPlayback]
  cases failed : (s.inspect now).2 with
  | true =>
      obtain ⟨broken, fails⟩ := inspected.failed failed
      rw [if_pos rfl]
      have pacedAgain : PacedRestarts ((s.inspect now).1.retire now) := by
        intro entry member
        exact paced entry (restarts ▸ member)
      obtain ⟨stood, clean⟩ := confirm_stands _ (retire_waits (s.inspect now).1 now broken) rfl
      obtain ⟨_, sameAccepted, sameRestarts⟩ := confirm_keeps ((s.inspect now).1.retire now)
      refine ⟨(retry_spec decodes _ now finished stream stood clean ?_).1, ?_, fun _ _ => .inr (.inl fails)⟩
      · rw [PacedRestarts, sameRestarts]
        exact pacedAgain
      · rw [retry_accepted, sameAccepted]
        exact accepted
  | false =>
      rw [if_neg Bool.false_ne_true]
      obtain ⟨stood, clean⟩ := confirm_stands _ (inspected.stands failed) inspected.clean
      obtain ⟨sameStream, sameAccepted, sameRestarts⟩ := confirm_keeps (s.inspect now).1
      obtain ⟨steady, still⟩ := retry_spec decodes _ now finished stream stood clean (by
        rw [PacedRestarts, sameRestarts, restarts]
        exact paced)
      refine ⟨steady, ?_, ?_⟩
      · rw [retry_accepted, sameAccepted]
        exact accepted
      · intro id held
        rcases inspected.kept failed with same | released
        · left
          rw [still (by rw [sameStream, same, held]; rfl), sameStream, same]
          exact held
        · right
          rcases released with fails | ⟨some, ready⟩
          · exact .inl fails
          · right
            rw [still (by rw [sameStream]; exact some)]
            refine ⟨by rw [sameStream]; exact some, ?_⟩
            rcases confirm_cases (s.inspect now).1 with same | same
            · rw [same]
              exact ready
            · rw [same]
              exact ready

end

end

end GotechDesk.AudioPlayback
