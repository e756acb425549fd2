import GotechDesk.AudioPlayback.RecoverySteps

set_option autoImplicit false

namespace GotechDesk.AudioPlayback

def PendingReady (s : Handler) : Prop := ∃ candidate, s.pending = some candidate ∧ s.isReady candidate.status = true

-- What superseding the pending output leaves in place: the output that was there, unless the
-- pending one was ready for it or it had failed.
structure Superseded (s : Handler) (now : Nat) (result : Handler × Bool) : Prop where
  alone : result.1.pending = none
  same : result.1.restarts = s.restarts ∧ result.1.ready = s.ready ∧ result.1.opened = s.opened
  plays : result.1.active.stream = none ∨ ∃ f, Plays s.opened result.1.active f
  kept : (∃ due, result.1.active = { s.active with restartNotBefore := due }) ∨ s.fails s.active now = true ∨ PendingReady s
  failed : result.2 = true → s.fails s.active now = true
  found : result.1.reports result.1.active.errors = true → s.reports s.active.errors = true

theorem standing_plays (s : Handler) (stands : Standing s) : s.active.stream = none ∨ ∃ f, Plays s.opened s.active f := by
  cases stands with
  | fresh accepted active alone kept => exact .inl (by rw [active])
  | playing f accepted plays decoder alone paced => exact .inr ⟨f, plays⟩
  | replacing f candidate accepted plays decoder held also paced none => exact .inr ⟨f, plays⟩
  | waiting f attempt due accepted format stream errors awaiting retry last interval alone => exact .inl stream

theorem cancel_alone (s : Handler) (now : Nat) (stands : Standing s) (alone : s.pending = none) : Superseded s now (s.cancelPendingPlayback now) := by
  have resolved : s.resolvePendingPlayback now = (s, none) := by
    rw [Handler.resolvePendingPlayback, alone]
  rw [Handler.cancelPendingPlayback, resolved]
  rw [alone]
  exact ⟨rfl, ⟨rfl, rfl, rfl⟩, standing_plays s stands, .inl ⟨s.active.restartNotBefore, rfl⟩, fun failed => Bool.noConfusion failed,
    fun reported => reported⟩

theorem cancel_replacing (s : Handler) (now : Nat) (f : AudioFormat) (candidate : Output) (plays : Plays s.opened s.active f)
    (held : s.pending = some candidate) (also : Plays s.opened candidate f) : Superseded s now (s.cancelPendingPlayback now) := by
  have clean := resolve_clean s candidate now held
  have resolved := resolve_cases s candidate now held
  rw [Handler.cancelPendingPlayback]
  generalize s.resolvePendingPlayback now = result at resolved clean
  have unfound : (result.1.drain (result.1.pending.bind (fun candidate => candidate.errors))).reports result.1.active.errors = true →
      s.reports s.active.errors = true := by
    intro reported
    have stale := reports_drain result.1 _ _ reported
    rw [clean] at stale
    cases stale
  cases resolved with
  | candidateFailed queues active failed judged asked =>
      refine ⟨rfl, ⟨rfl, rfl, rfl⟩, .inr ⟨f, ?_⟩, ?_, ?_, unfound⟩
      · rw [judged]
        exact plays_pace _ _ f _ (judged_plays (s.drain candidate.errors) s.active now f plays)
      · cases fails : (s.drain candidate.errors).fails s.active now with
        | true => exact .inr (.inl (fails_drain s candidate.errors s.active now fails))
        | false =>
            left
            refine ⟨candidate.restartNotBefore, ?_⟩
            rw [judged, judged_sound _ s.active now fails]
            rfl
      · intro said
        exact fails_drain s candidate.errors s.active now (asked.symm.trans said)
  | committed queues why =>
      refine ⟨rfl, ⟨rfl, rfl, rfl⟩, .inr ⟨f, plays_decoder _ candidate f _ also⟩, ?_, fun failed => Bool.noConfusion failed, unfound⟩
      rcases why with ready | fails
      · exact .inr (.inr ⟨candidate, held, ready⟩)
      · exact .inr (.inl (fails_drain s candidate.errors s.active now fails))
  | waits queues sound =>
      exact ⟨rfl, ⟨rfl, rfl, rfl⟩, .inr ⟨f, plays⟩, .inl ⟨s.active.restartNotBefore, rfl⟩, fun failed => Bool.noConfusion failed, unfound⟩

theorem cancel_spec (s : Handler) (now : Nat) (stands : Standing s) : Superseded s now (s.cancelPendingPlayback now) := by
  have again := stands
  cases stands with
  | fresh accepted active alone kept => exact cancel_alone s now again alone
  | playing f accepted plays decoder alone paced => exact cancel_alone s now again alone
  | replacing f candidate accepted plays decoder held also paced none => exact cancel_replacing s now f candidate plays held also
  | waiting f attempt due accepted format stream errors awaiting retry last interval alone => exact cancel_alone s now again alone

theorem plays_later (opened later : Nat) (out : Output) (f : AudioFormat) (plays : Plays opened out f) (more : opened ≤ later) : Plays later out f := by
  obtain ⟨id, stream, errors, status, known⟩ := plays.own
  exact { plays with own := ⟨id, stream, errors, status, Nat.lt_of_lt_of_le known more⟩ }

-- What plays one format and is compatible with another plays that format.
theorem plays_same (opened : Nat) (out : Output) (f : AudioFormat) (plays : out.plays f = true)
    (quiet : out.stream = none ∨ ∃ g, Plays opened out g) : Plays opened out f := by
  simp only [Output.plays, Bool.and_eq_true, decide_eq_true_eq] at plays
  rcases quiet with idle | ⟨g, held⟩
  · rw [idle] at plays
    cases plays.1.1
  · have same : g = f := by
      obtain ⟨rate, channels⟩ := g
      obtain ⟨rate', channels'⟩ := f
      rw [AudioFormat.mk.injEq]
      exact ⟨held.rate.symm.trans plays.1.2, held.channels.symm.trans plays.2⟩
    rw [← same]
    exact held

section
variable (decodes : AudioFormat → Bool)

-- The output in place is gone by the end of a replacement because it was seen to fail late, or
-- because the new one is ready.
theorem replace_spec (s : Handler) (f : AudioFormat) (previous : Output) (handling : Handling) (accepted : s.accepted = some f)
    (plays : Plays s.opened s.active f) (decoder : s.active.audioDecoder = some f.decoder) (also : Plays s.opened previous f)
    (paced : PacedRestarts s) :
    let result := s.finishPlaybackReplacement decodes true (some previous) handling
    Standing result ∧ PacedRestarts result ∧ result.accepted = some f ∧ ∀ id, previous.stream = some id → result.active.stream = some id ∨
      s.fails previous handling.recovered = true ∨ result.isReady result.active.status = true := by
  rw [Handler.finishPlaybackReplacement]
  generalize made : ({ s.finishPlaybackStart true handling.finished with
    active := { previous with audioDecoder := (s.finishPlaybackStart true handling.finished).active.audioDecoder }
    pending := some { (s.finishPlaybackStart true handling.finished).active with audioDecoder := none } } : Handler) = swapped
  have stands : Standing swapped := by
    rw [← made]
    refine .replacing f _ accepted (plays_decoder _ previous f _ also) decoder rfl ?_ ?_ rfl
    · exact { plays with settled := rfl }
    · exact ⟨handling.finished, handling.finished + recoveryInterval, rfl, rfl, Nat.le_refl _⟩
  have pacedStill : PacedRestarts swapped := by
    rw [← made]
    exact paced
  have never : ∀ attempt, swapped.keptAt = some attempt → swapped.fails swapped.active handling.recovered = true →
      attempt + recoveryInterval ≤ handling.recovered := by
    intro attempt held
    rw [← made] at held
    cases held
  obtain ⟨steady, same, kept⟩ := recover_spec decodes swapped handling.recovered handling.done handling.restarted stands pacedStill never
  refine ⟨steady.stands, steady.paced, ?_, ?_⟩
  · rw [same, ← made]
    exact accepted
  · intro id held
    rcases kept id (by rw [← made]; exact held) with stays | fails | ⟨_, ready⟩
    · exact .inl stays
    · right
      left
      rw [← made] at fails
      exact fails
    · exact .inr (.inr ready)

-- The handler while the new output is opened, with the output in place put aside.
def Handler.opening (s : Handler) (f : AudioFormat) (stream : Option Opened) (handling : Handling) : Handler :=
  let cancelled := s.cancelPendingPlayback handling.cancelled
  let opening := { ({ cancelled.1 with accepted := some f } : Handler).push cancelled.1.active.errors handling.reported with active := f.prepared }
  stream.elim opening (fun stream => opening.startAudio f stream)

theorem opening_fields (s : Handler) (f : AudioFormat) (stream : Option Opened) (handling : Handling) (stands : Standing s) :
    (s.opening f stream handling).accepted = some f ∧ (s.opening f stream handling).pending = none ∧
      (s.opening f stream handling).restarts = s.restarts ∧ s.opened ≤ (s.opening f stream handling).opened ∧
      (s.opening f stream handling).active.format = some f ∧ (s.opening f stream handling).active.audioDecoder = some f.decoder ∧
      ∀ id, id ∈ s.ready → id ∈ (s.opening f stream handling).ready := by
  have superseded := cancel_spec s handling.cancelled stands
  obtain ⟨restarts, ready, opened⟩ := superseded.same
  cases stream with
  | none =>
      refine ⟨rfl, superseded.alone, restarts, Nat.le_of_eq opened.symm, rfl, rfl, ?_⟩
      intro id member
      exact (ready ▸ member : id ∈ (s.cancelPendingPlayback handling.cancelled).1.ready)
  | some stream =>
      refine ⟨rfl, superseded.alone, restarts, Nat.le_succ_of_le (Nat.le_of_eq opened.symm), rfl, rfl, ?_⟩
      intro id member
      have before : id ∈ (s.cancelPendingPlayback handling.cancelled).1.ready := ready ▸ member
      simp only [Handler.opening, Option.elim_some, Handler.startAudio]
      split
      · exact List.mem_cons_of_mem _ before
      · exact before

-- What the output put aside is seen to have reported, it had reported before or reported meanwhile.
theorem opening_reports (s : Handler) (f : AudioFormat) (stream : Option Opened) (handling : Handling) (stands : Standing s)
    (numbered : ∀ id, (s.cancelPendingPlayback handling.cancelled).1.active.errors = some id → id < s.opened)
    (reports : (s.opening f stream handling).reports (s.cancelPendingPlayback handling.cancelled).1.active.errors = true) :
    s.reports s.active.errors = true ∨ handling.reported.any StreamError.terminal = true := by
  have superseded := cancel_spec s handling.cancelled stands
  cases aside : (s.cancelPendingPlayback handling.cancelled).1.active.errors with
  | none =>
      rw [aside] at reports
      cases reports
  | some id =>
      have own : id < (s.cancelPendingPlayback handling.cancelled).1.opened := by
        rw [superseded.same.2.2]
        exact numbered id aside
      have unread : (s.opening f stream handling).unread (some id) =
          (s.cancelPendingPlayback handling.cancelled).1.unread (some id) ++ handling.reported := by
        cases stream with
        | none => simp only [Handler.opening, Option.elim_none, Handler.unread, Handler.push, aside, Option.elim_some, Table.get_insert, if_pos,
            Option.getD_some]
        | some stream =>
            have other : ¬ id = (s.cancelPendingPlayback handling.cancelled).1.opened := Nat.ne_of_lt own
            simp only [Handler.opening, Option.elim_some, Handler.startAudio, Handler.unread, Handler.push, aside, Table.get_insert, if_neg other, if_pos,
              Option.getD_some]
      rw [aside, Handler.reports, unread, List.any_append, Bool.or_eq_true] at reports
      rcases reports with before | meanwhile
      · exact .inl (superseded.found (by rw [aside]; exact before))
      · exact .inr meanwhile

theorem format_cases (s : Handler) (f : AudioFormat) (stream : Option Opened) (handling : Handling)
    (supported : (f.supportedChannels && decodes f) = true) :
    let cancelled := s.cancelPendingPlayback handling.cancelled
    let opened := s.opening f stream handling
    let keeps := cancelled.1.active.plays f && !cancelled.2
    let read := if keeps then opened.drain cancelled.1.active.errors else opened
    s.handleFormat decodes f stream handling =
      if keeps && !opened.reports cancelled.1.active.errors then
        if stream.isSome then read.finishPlaybackReplacement decodes true (some cancelled.1.active) handling
        else
          { read with active := { cancelled.1.active with audioDecoder := read.active.audioDecoder }
                      lastAttempt := some handling.finished, keptAt := some handling.finished }
      else read.finishPlaybackReplacement decodes stream.isSome none handling := by
  rw [Handler.handleFormat, if_pos supported]
  rfl

-- The output in place fails before the new one is opened or while it is, or has not begun by the end.
def FailsDuring (s : Handler) (handling : Handling) : Prop :=
  s.fails s.active handling.cancelled = true ∨ handling.reported.any StreamError.terminal = true ∨ s.timedOut s.active handling.recovered = true

-- Why a compatible output may be gone after a format: its replacement is ready, or it has failed.
def Excused (s result : Handler) (handling : Handling) : Prop :=
  PendingReady s ∨ result.isReady result.active.status = true ∨ FailsDuring s handling

theorem timed_out_later (s later : Handler) (out : Output) (due : Option Nat) (now : Nat) (more : ∀ id, id ∈ s.ready → id ∈ later.ready)
    (late : later.timedOut { out with restartNotBefore := due } now = true) : s.timedOut out now = true := by
  simp only [Handler.timedOut, Bool.and_eq_true, Bool.not_eq_true'] at late ⊢
  refine ⟨⟨late.1.1, ?_⟩, late.2⟩
  cases status : out.status with
  | none => rfl
  | some id =>
      have unready : decide (id ∈ later.ready) = false := by simpa [Handler.isReady, status] using late.1.2
      exact decide_eq_false (fun member => of_decide_eq_false unready (more id member))

-- A compatible format: the output in place is put beside the new one, stays alone when there is
-- none, or gives way because it has failed.
theorem compatible_spec (s : Handler) (f : AudioFormat) (stream : Option Opened) (handling : Handling) (stands : Standing s)
    (paced : PacedRestarts s) (supported : (f.supportedChannels && decodes f) = true)
    (keeps : ((s.cancelPendingPlayback handling.cancelled).1.active.plays f && !(s.cancelPendingPlayback handling.cancelled).2) = true)
    (sound : (s.opening f stream handling).reports (s.cancelPendingPlayback handling.cancelled).1.active.errors = false) :
    let result := s.handleFormat decodes f stream handling
    Standing result ∧ PacedRestarts result ∧ ∀ id, s.active.stream = some id → result.active.stream = some id ∨ Excused s result handling := by
  have superseded := cancel_spec s handling.cancelled stands
  obtain ⟨accepted, alone, restarts, opened, format, decoder, ready⟩ := opening_fields s f stream handling stands
  have compatible : (s.cancelPendingPlayback handling.cancelled).1.active.plays f = true := (Bool.and_eq_true _ _ ▸ keeps).1
  have aside := plays_same s.opened _ f compatible superseded.plays
  rw [format_cases decodes s f stream handling supported, keeps, sound]
  have clear := reports_drained (s.opening f stream handling) (s.cancelPendingPlayback handling.cancelled).1.active.errors
  cases stream with
  | some stream =>
      have begun : Plays (s.opening f (some stream) handling).opened (s.opening f (some stream) handling).active f :=
        start_plays _ f stream rfl rfl rfl
      obtain ⟨stood, pacedStill, same, kept⟩ := replace_spec decodes
        ((s.opening f (some stream) handling).drain (s.cancelPendingPlayback handling.cancelled).1.active.errors) f
        (s.cancelPendingPlayback handling.cancelled).1.active handling accepted begun decoder
        (plays_later s.opened _ _ f aside opened) (fun entry member => paced entry (restarts ▸ member))
      refine ⟨stood, pacedStill, ?_⟩
      intro id held
      rcases superseded.kept with ⟨due, same⟩ | fails | ready
      · rcases kept id (by rw [same]; exact held) with stays | fails | ready
        · exact .inl stays
        · refine .inr (.inr (.inr (.inr (.inr ?_))))
          rw [Handler.fails, clear, Bool.false_or, same] at fails
          exact timed_out_later s _ s.active due handling.recovered ready fails
        · exact .inr (.inr (.inl ready))
      · exact .inr (.inr (.inr (.inl fails)))
      · exact .inr (.inl ready)
  | none =>
      refine ⟨?_, fun entry member => paced entry (restarts ▸ member), ?_⟩
      · exact .playing f accepted (plays_decoder _ _ f _ (plays_later s.opened _ _ f aside opened)) decoder alone
          (.inr ⟨handling.finished, rfl, rfl⟩)
      · intro id held
        rcases superseded.kept with ⟨due, same⟩ | fails | ready
        · left
          rw [same]
          exact held
        · exact .inr (.inr (.inr (.inl fails)))
        · exact .inr (.inl ready)

theorem incompatible_spec (s : Handler) (f : AudioFormat) (stream : Option Opened) (handling : Handling) (stands : Standing s)
    (paced : PacedRestarts s) (supported : (f.supportedChannels && decodes f) = true)
    (apart : ((s.cancelPendingPlayback handling.cancelled).1.active.plays f && !(s.cancelPendingPlayback handling.cancelled).2 &&
      !(s.opening f stream handling).reports (s.cancelPendingPlayback handling.cancelled).1.active.errors) = false) :
    let result := s.handleFormat decodes f stream handling
    Standing result ∧ PacedRestarts result ∧ (s.active.plays f = true → Excused s result handling) := by
  have superseded := cancel_spec s handling.cancelled stands
  obtain ⟨accepted, alone, restarts, opened, format, decoder, _⟩ := opening_fields s f stream handling stands
  rw [format_cases decodes s f stream handling supported, apart, if_neg Bool.false_ne_true]
  generalize readAs : (if ((s.cancelPendingPlayback handling.cancelled).1.active.plays f && !(s.cancelPendingPlayback handling.cancelled).2) = true
    then (s.opening f stream handling).drain (s.cancelPendingPlayback handling.cancelled).1.active.errors
    else s.opening f stream handling) = read
  have same : read.accepted = some f ∧ read.pending = none ∧ read.restarts = s.restarts ∧ read.active = (s.opening f stream handling).active ∧
      read.opened = (s.opening f stream handling).opened := by
    rw [← readAs]
    split
    · exact ⟨accepted, alone, restarts, rfl, rfl⟩
    · exact ⟨accepted, alone, restarts, rfl, rfl⟩
  obtain ⟨readAccepted, readAlone, readRestarts, active, numbered⟩ := same
  have pacedStill : PacedRestarts read := fun entry member => paced entry (readRestarts ▸ member)
  refine ⟨?_, ?_, ?_⟩
  · cases stream with
    | some stream =>
        refine finish_started read f handling.finished readAccepted ?_ ?_ readAlone
        · rw [active, numbered]
          exact start_plays _ f stream rfl rfl rfl
        · rw [active]
          exact decoder
    | none =>
        refine finish_failed read f handling.finished readAccepted ?_
        rw [active]
        exact format
  · cases stream <;> exact pacedStill
  · intro compatible
    rcases superseded.kept with ⟨due, kept⟩ | fails | ready
    · refine .inr (.inr ?_)
      have plays : (s.cancelPendingPlayback handling.cancelled).1.active.plays f = true := by
        rw [kept]
        exact compatible
      have aside := plays_same s.opened _ f plays superseded.plays
      rw [plays, Bool.true_and, Bool.and_eq_false_iff, Bool.not_eq_false', Bool.not_eq_false'] at apart
      rcases apart with failed | reports
      · exact .inl (superseded.failed failed)
      · have own : ∀ id, (s.cancelPendingPlayback handling.cancelled).1.active.errors = some id → id < s.opened := by
          obtain ⟨stream, _, errors, _, known⟩ := aside.own
          intro id held
          obtain rfl := Option.some.inj (errors.symm.trans held)
          exact known
        rcases opening_reports s f stream handling stands own reports with before | meanwhile
        · left
          rw [Handler.fails, before]
          rfl
        · exact .inr (.inl meanwhile)
    · exact .inr (.inr (.inl fails))
    · exact .inl ready

theorem format_spec (s : Handler) (f : AudioFormat) (stream : Option Opened) (handling : Handling) (stands : Standing s) (paced : PacedRestarts s) :
    let result := s.handleFormat decodes f stream handling
    Standing result ∧ PacedRestarts result ∧ ∀ id, s.active.stream = some id → s.active.plays f = true →
      result.active.stream = some id ∨ Excused s result handling := by
  by_cases supported : (f.supportedChannels && decodes f) = true
  · cases keeps : ((s.cancelPendingPlayback handling.cancelled).1.active.plays f && !(s.cancelPendingPlayback handling.cancelled).2) with
    | true =>
        cases sound : (s.opening f stream handling).reports (s.cancelPendingPlayback handling.cancelled).1.active.errors with
        | false =>
            obtain ⟨stood, still, kept⟩ := compatible_spec decodes s f stream handling stands paced supported keeps sound
            exact ⟨stood, still, fun id held _ => kept id held⟩
        | true =>
            obtain ⟨stood, still, excused⟩ := incompatible_spec decodes s f stream handling stands paced supported (by rw [keeps, sound]; rfl)
            exact ⟨stood, still, fun _ _ compatible => .inr (excused compatible)⟩
    | false =>
        obtain ⟨stood, still, excused⟩ := incompatible_spec decodes s f stream handling stands paced supported (by rw [keeps]; rfl)
        exact ⟨stood, still, fun _ _ compatible => .inr (excused compatible)⟩
  · rw [Handler.handleFormat, if_neg supported]
    exact ⟨stands, paced, fun id held _ => .inl held⟩

-- All that a call can read of the outputs and their queues.
def Handler.heard (s : Handler) : Output × Option Output × List StreamError × Option (List StreamError) :=
  (s.active, s.pending, s.unread s.active.errors, s.pending.map (fun candidate => s.unread candidate.errors))

theorem push_other (s : Handler) (id : Nat) (reported : List StreamError) (errors : Option Nat) (other : errors ≠ some id) :
    (s.push (some id) reported).unread errors = s.unread errors := by
  cases errors with
  | none => rfl
  | some number =>
      have apart : ¬ number = id := fun same => other (by rw [same])
      simp only [Handler.push, Handler.unread, Option.elim_some, Table.get_insert, if_neg apart]

theorem plays_errors (opened id : Nat) (out : Output) (f : AudioFormat) (plays : Plays opened out f) (other : out.stream ≠ some id) :
    out.errors ≠ some id := by
  obtain ⟨own, stream, errors, _⟩ := plays.own
  rw [errors, ← stream]
  exact other

-- What a stream reports that is no longer in use stays unheard.
theorem retired_unheard (s : Handler) (id : Nat) (error : StreamError) (stands : Standing s) (gone : s.active.stream ≠ some id)
    (apart : ∀ candidate, s.pending = some candidate → candidate.stream ≠ some id) : (s.push (some id) [error]).heard = s.heard := by
  have active : s.active.errors ≠ some id := by
    cases stands with
    | fresh accepted active alone kept =>
        rw [active]
        exact (fun same => by cases same)
    | playing f accepted plays decoder alone paced => exact plays_errors _ id _ f plays gone
    | replacing f candidate accepted plays decoder held also paced none => exact plays_errors _ id _ f plays gone
    | waiting f attempt due accepted format stream errors awaiting retry last interval alone =>
        rw [errors]
        exact (fun same => by cases same)
  have pending : s.pending.map (fun candidate => (s.push (some id) [error]).unread candidate.errors) =
      s.pending.map (fun candidate => s.unread candidate.errors) := by
    cases held : s.pending with
    | none => rfl
    | some candidate =>
        have other : candidate.errors ≠ some id := by
          cases stands with
          | replacing f found accepted plays decoder known also paced none =>
              obtain rfl := Option.some.inj (held.symm.trans known)
              exact plays_errors _ id _ f also (apart candidate held)
          | fresh _ _ alone _ | playing _ _ _ _ alone _ | waiting _ _ _ _ _ _ _ _ _ _ _ alone =>
              rw [held] at alone
              cases alone
        rw [Option.map_some, Option.map_some, push_other s id [error] candidate.errors other]
  have same : (s.push (some id) [error]).unread s.active.errors = s.unread s.active.errors := push_other s id [error] _ active
  exact Prod.ext rfl (Prod.ext rfl (Prod.ext same pending))

-- With a format accepted, its output is in place with nothing unread, or a retry with it is due.
def Settled (s : Handler) : Prop := ∀ f, s.accepted = some f →
  (∃ id, s.active.stream = some id ∧ s.active.errors = some id ∧ s.active.status = some id ∧ s.active.audioDecoder = some f.decoder ∧
    s.active.channels = f.channels ∧ s.active.sampleRate.1 = f.sampleRate ∧ s.reports (some id) = false) ∨
  ∃ due, s.active.retryAt = some due ∧ s.active.format = some f

theorem steady_settled (s : Handler) (steady : Steady s) : Settled s := by
  intro f wanted
  have playing : ∀ g, s.accepted = some g → Plays s.opened s.active g → s.active.audioDecoder = some g.decoder →
      ∃ id, s.active.stream = some id ∧ s.active.errors = some id ∧ s.active.status = some id ∧ s.active.audioDecoder = some f.decoder ∧
        s.active.channels = f.channels ∧ s.active.sampleRate.1 = f.sampleRate ∧ s.reports (some id) = false := by
    intro g accepted plays decoder
    obtain rfl := Option.some.inj (wanted.symm.trans accepted)
    obtain ⟨id, stream, errors, status, _⟩ := plays.own
    refine ⟨id, stream, errors, status, decoder, plays.channels, plays.rate, ?_⟩
    rw [← errors]
    exact steady.clean
  cases steady.stands with
  | fresh accepted active alone kept =>
      rw [accepted] at wanted
      cases wanted
  | playing g accepted plays decoder alone paced => exact .inl (playing g accepted plays decoder)
  | replacing g candidate accepted plays decoder held also paced none => exact .inl (playing g accepted plays decoder)
  | waiting g attempt due accepted format stream errors awaiting retry last interval alone =>
      obtain rfl := Option.some.inj (wanted.symm.trans accepted)
      exact .inr ⟨due, retry, format⟩

-- The output that was kept when a start failed does not fail within the interval after that start.
def Fits (s : Handler) : Label → Prop
  | .recover now _ _ => s.keptAt.all (fun attempt => !s.fails s.active now || decide (attempt + recoveryInterval ≤ now)) = true
  | _ => True

instance (s : Handler) (label : Label) : Decidable (Fits s label) :=
  match label with
  | .recover now _ _ => inferInstanceAs (Decidable (s.keptAt.all
      (fun attempt => !s.fails s.active now || decide (attempt + recoveryInterval ≤ now)) = true))
  | .format _ _ _ | .frame | .error _ _ | .callback _ => inferInstanceAs (Decidable True)

def Label.lets (s next : Handler) : Label → Prop
  | .format f _ handling => s.active.plays f = true → Excused s next handling
  | .recover now _ _ => Released s now next
  | _ => False

-- What the handler does at every call: it never falls silent, hears only what is in use, keeps
-- its pace and keeps its output.
structure Good (s : Handler) (label : Label) (next : Handler) : Prop where
  settled : ∀ now stream finished, label = .recover now stream finished → Settled next
  retired : ∀ id error, label = .error id error → s.active.stream ≠ some id →
    (∀ candidate, s.pending = some candidate → candidate.stream ≠ some id) → next.heard = s.heard
  paced : PacedRestarts next
  kept : ∀ id, s.active.stream = some id → next.active.stream = some id ∨ label.lets s next

structure Between (s : Handler) : Prop where
  stands : Standing s
  paced : PacedRestarts s

theorem between_init : Between {} := ⟨.fresh rfl rfl rfl rfl, fun _ member => by cases member⟩

theorem timely_fits (s : Handler) (now finished : Nat) (stream : Option Nat) (fits : Fits s (.recover now stream finished)) (attempt : Nat)
    (held : s.keptAt = some attempt) (fails : s.fails s.active now = true) : attempt + recoveryInterval ≤ now := by
  rw [Fits, held] at fits
  simpa [fails] using fits

-- Errors and callbacks change what is shared, not where the handler stands.
theorem standing_shared (s : Handler) (queues : List (Nat × List StreamError)) (ready : List Nat) (stands : Standing s) :
    Standing { s with queues, ready } := by
  cases stands with
  | fresh accepted active alone kept => exact .fresh accepted active alone kept
  | playing f accepted plays decoder alone paced => exact .playing f accepted plays decoder alone paced
  | replacing f candidate accepted plays decoder held also paced none => exact .replacing f candidate accepted plays decoder held also paced none
  | waiting f attempt due accepted format stream errors awaiting retry last interval alone =>
      exact .waiting f attempt due accepted format stream errors awaiting retry last interval alone

theorem step_good (s next : Handler) (label : Label) (between : Between s) (fits : Fits s label) (taken : s.step decodes label = some next) :
    Between next ∧ Good s label next := by
  obtain ⟨stands, paced⟩ := between
  cases label with
  | format f stream handling =>
      obtain rfl := Option.some.inj taken
      obtain ⟨stood, still, kept⟩ := format_spec decodes s f stream handling stands paced
      refine ⟨⟨stood, still⟩, ⟨(fun _ _ _ same => by cases same), (fun _ _ same => by cases same), still, ?_⟩⟩
      intro id held
      by_cases compatible : s.active.plays f = true
      · rcases kept id held compatible with stays | excused
        · exact .inl stays
        · exact .inr (fun _ => excused)
      · exact .inr (fun plays => absurd plays compatible)
  | frame =>
      obtain rfl := Option.some.inj taken
      exact ⟨⟨stands, paced⟩, ⟨(fun _ _ _ same => by cases same), (fun _ _ same => by cases same), paced, fun _ held => .inl held⟩⟩
  | error id error =>
      obtain ⟨_, rfl⟩ := Option.ite_some_none_eq_some.mp taken
      refine ⟨⟨standing_shared s _ s.ready stands, paced⟩, ⟨(fun _ _ _ same => by cases same), ?_, paced, fun _ held => .inl held⟩⟩
      intro other reported same gone apart
      obtain ⟨rfl, rfl⟩ := Label.error.inj same
      exact retired_unheard s id error stands gone apart
  | callback id =>
      obtain ⟨_, rfl⟩ := Option.ite_some_none_eq_some.mp taken
      exact ⟨⟨standing_shared s s.queues _ stands, paced⟩,
        ⟨(fun _ _ _ same => by cases same), (fun _ _ same => by cases same), paced, fun _ held => .inl held⟩⟩
  | recover now stream finished =>
      obtain rfl := Option.some.inj taken
      obtain ⟨steady, _, kept⟩ := recover_spec decodes s now finished stream stands paced (timely_fits s now finished stream fits)
      refine ⟨⟨steady.stands, steady.paced⟩, ⟨?_, (fun _ _ same => by cases same), steady.paced, kept⟩⟩
      exact fun _ _ _ _ => steady_settled _ steady

-- Every call of a run whose calls all fit is good.
theorem playback_recovers (past : List (Handler × Label)) (s next : Handler) (label : Label)
    (traced : Machine.Traced (Handler.step decodes) {} past s) (fitting : ∀ entry ∈ past, Fits entry.1 entry.2) (fits : Fits s label)
    (taken : s.step decodes label = some next) : Good s label next := by
  have between := (Machine.traced_kept (Handler.step decodes) Between Fits {} s past between_init
    (fun state label after between fits taken => (step_good decodes state after label between fits taken).1) traced fitting).2
  exact (step_good decodes s next label between fits taken).2

end

def handlingAt (time : Nat) : Handling := { cancelled := time, finished := time, recovered := time, done := time }

-- An output starts and is ready; a second start for the same format fails and leaves it in
-- place, and then it fails itself.
def keptOutput : List Label :=
  [.format ⟨48000, 2⟩ (some { outputRate := 48000, ready := true }) (handlingAt 0), .recover 100 none 100, .frame,
    .format ⟨48000, 2⟩ none (handlingAt 10000), .error 0 .deviceNotAvailable]

def allDecode : AudioFormat → Bool := fun _ => true

theorem kept_output_runs : (Machine.run (Handler.step allDecode) {} keptOutput).isSome = true := by decide

def keptHandler : Handler := (Machine.run (Handler.step allDecode) {} keptOutput).get kept_output_runs

theorem playback_recovers_kept :
    Good keptHandler (.recover 11000 (some 48000) 11000) (keptHandler.recoverPlayback allDecode 11000 (some 48000) 11000) :=
  playback_recovers allDecode _ keptHandler _ _ (Machine.traced_run (Handler.step allDecode) {} keptOutput kept_output_runs)
    (by decide) (by decide) rfl

-- It is restarted a tenth of a second after the failed start.
def restartedEarly : List Label := keptOutput ++ [.recover 10100 (some 48000) 10100]

theorem restarted_early_runs : (Machine.run (Handler.step allDecode) {} restartedEarly).isSome = true := by decide

theorem playback_restarts_early : ∃ s, Machine.Reachable (Handler.step allDecode) {} s ∧ ¬ PacedRestarts s := by
  refine ⟨(Machine.run (Handler.step allDecode) {} restartedEarly).get restarted_early_runs,
    Machine.reachable_run _ _ _ restarted_early_runs, ?_⟩
  intro paced
  have early := paced (some 10000, 10100) (by decide)
  exact absurd early (by decide)

end GotechDesk.AudioPlayback
