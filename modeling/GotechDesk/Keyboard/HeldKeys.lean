import GotechDesk.Keyboard.RemoteKeys

set_option autoImplicit false

namespace GotechDesk.Keyboard

open GotechDesk.Machine

-- A release of the key is still to be sent to that session by the job.
def ReleaseJob.Owes (job : ReleaseJob) (session : SessionId) (key : Key) : Prop :=
  ⟨key, some session⟩ ∈ job.rest ∨ job.stage = some (.release key (some session))

-- Every key that is down is recorded for the owner of the grab or owed by a job.
def Client.Covers (client : Client) (session : SessionId) (key : Key) : Prop :=
  (client.gs.owner = some session ∧ ⟨key, some session⟩ ∈ client.toRelease) ∨ ∃ job ∈ client.releasing, job.Owes session key

structure Accounted (client : Client) : Prop where
  down : ∀ session key, held client.sent session key = true → client.Covers session key
  drawn : ∀ event ∈ client.sent, event.down = false → ∀ origin, event.drawn = some origin → origin = some event.session

theorem accounted_released (client : Client) (accounted : Accounted client) : Released client := by
  refine ⟨?_, accounted.drawn⟩
  intro idle session other key
  cases down : held client.sent session key with
  | false => rfl
  | true =>
      obtain ⟨own, _⟩ | ⟨job, listed, _⟩ := accounted.down session key down
      · exact absurd own other
      · rw [idle] at listed
        exact absurd listed List.not_mem_nil

theorem init_accounted (now : Nat) : Accounted (Client.init now) :=
  { down := fun _ _ impossible => absurd impossible Bool.false_ne_true
    drawn := fun event listed => absurd listed List.not_mem_nil }

section
variable (client : Client) (target : Option SessionId) (key : Key) (down : Bool) (drawn : Option (Option SessionId))

theorem event_ignored (long : client.isLongPress key down = true) : client.processEvent target key down drawn = client := if_pos long

theorem event_taken (short : client.isLongPress key down = false) :
    client.processEvent target key down drawn = ((client.updateModifiersState key down).record target key down).send target key down drawn :=
  if_neg (by rw [short]; exact Bool.false_ne_true)

theorem modifiers_frame : (client.updateModifiersState key down).toRelease = client.toRelease ∧
    (client.updateModifiersState key down).sent = client.sent ∧ (client.updateModifiersState key down).gs = client.gs ∧
      (client.updateModifiersState key down).releasing = client.releasing := by
  unfold Client.updateModifiersState
  split <;> exact ⟨rfl, rfl, rfl, rfl⟩

theorem record_frame : (client.record target key down).sent = client.sent ∧ (client.record target key down).gs = client.gs ∧
    (client.record target key down).releasing = client.releasing := by
  unfold Client.record
  split <;> exact ⟨rfl, rfl, rfl⟩

theorem send_frame : (client.send target key down drawn).toRelease = client.toRelease ∧ (client.send target key down drawn).gs = client.gs ∧
    (client.send target key down drawn).releasing = client.releasing := by
  unfold Client.send
  split <;> exact ⟨rfl, rfl, rfl⟩

-- Only the records of the grab's keys and what was sent change with an event.
theorem event_frame : (client.processEvent target key down drawn).gs = client.gs ∧
    (client.processEvent target key down drawn).releasing = client.releasing := by
  cases long : client.isLongPress key down with
  | true =>
      rw [event_ignored client target key down drawn long]
      exact ⟨rfl, rfl⟩
  | false =>
      rw [event_taken client target key down drawn long]
      obtain ⟨_, gs, jobs⟩ := send_frame ((client.updateModifiersState key down).record target key down) target key down drawn
      obtain ⟨_, gsRecord, jobsRecord⟩ := record_frame (client.updateModifiersState key down) target key down
      obtain ⟨_, _, gsState, jobsState⟩ := modifiers_frame client key down
      exact ⟨gs.trans (gsRecord.trans gsState), jobs.trans (jobsRecord.trans jobsState)⟩

theorem event_records (short : client.isLongPress key down = false) : (client.processEvent target key down drawn).toRelease =
    if down = true then forgetKey key client.toRelease ++ [Record.mk key target] else forgetKey key client.toRelease := by
  rw [event_taken client target key down drawn short, (send_frame _ target key down drawn).1]
  unfold Client.record
  rw [(modifiers_frame client key down).1]
  split <;> rfl

theorem event_sent (short : client.isLongPress key down = false) : (client.processEvent target key down drawn).sent =
    target.elim client.sent (fun session => Sent.mk session key down drawn :: client.sent) := by
  rw [event_taken client target key down drawn short]
  cases target with
  | none =>
      unfold Client.send
      exact (record_frame _ none key down).1.trans (modifiers_frame client key down).2.1
  | some session =>
      unfold Client.send
      simp only [(record_frame (client.updateModifiersState key down) (some session) key down).1, (modifiers_frame client key down).2.1,
        Option.elim]

theorem event_pressed (short : client.isLongPress key down = false) (pressed : down = true) :
    (client.processEvent target key down drawn).pressed key = target := by
  rw [event_taken client target key down drawn short]
  have same : ((client.updateModifiersState key down).record target key down).pressed key = target := by
    unfold Client.record
    rw [if_pos pressed]
    simp
  unfold Client.send
  split <;> exact same

theorem kept_record (record : Record) (listed : record ∈ client.toRelease) (other : record.key ≠ key) :
    record ∈ forgetKey key client.toRelease := by
  unfold forgetKey
  rw [List.mem_filter]
  exact ⟨listed, by simpa using other⟩

theorem event_kept (record : Record) (listed : record ∈ client.toRelease) (other : record.key ≠ key) :
    record ∈ (client.processEvent target key down drawn).toRelease := by
  cases long : client.isLongPress key down with
  | true =>
      rw [event_ignored client target key down drawn long]
      exact listed
  | false =>
      rw [event_records client target key down drawn long]
      split
      · exact List.mem_append_left _ (kept_record client key record listed other)
      · exact kept_record client key record listed other

-- What is down after an event: what the event itself pressed, or what was down before and keeps
-- its record.
theorem event_held (follows : client.Follows target key) (session : SessionId) (which : Key)
    (after : held (client.processEvent target key down drawn).sent session which = true) :
    (down = true ∧ target = some session ∧ which = key ∧ ⟨key, some session⟩ ∈ (client.processEvent target key down drawn).toRelease ∧
        (client.processEvent target key down drawn).pressed key = some session) ∨
      (held client.sent session which = true ∧ ¬ (down = false ∧ target = some session ∧ which = key) ∧
        (⟨which, some session⟩ ∈ client.toRelease → ⟨which, some session⟩ ∈ (client.processEvent target key down drawn).toRelease)) := by
  cases long : client.isLongPress key down with
  | true =>
      have pressed : down = true := by
        cases down with
        | true => rfl
        | false => cases long
      rw [event_ignored client target key down drawn long] at after ⊢
      exact Or.inr ⟨after, fun released => Bool.noConfusion (pressed.symm.trans released.1), id⟩
  | false =>
      have records := event_records client target key down drawn long
      rw [event_sent client target key down drawn long] at after
      by_cases here : target = some session ∧ which = key
      · obtain ⟨goes, rfl⟩ := here
        rw [goes] at after
        have pressed : down = true := by simpa [held] using after
        left
        refine ⟨pressed, goes, rfl, ?_, ?_⟩
        · rw [records, if_pos pressed, goes]
          exact List.mem_append_right _ (List.mem_singleton_self _)
        · rw [event_pressed client target which down drawn long pressed]
          exact goes
      · right
        have before : held client.sent session which = true := by
          cases goes : target with
          | none =>
              rw [goes] at after
              exact after
          | some other =>
              rw [goes] at after
              have elsewhere : ¬ (other = session ∧ key = which) := by
                rintro ⟨same, this⟩
                exact here ⟨goes.trans (congrArg some same), this.symm⟩
              simpa [held, elsewhere] using after
        refine ⟨before, fun released => here released.2, fun listed => ?_⟩
        by_cases same : which = key
        · have goes := follows ⟨which, some session⟩ listed same rfl
          exact absurd ⟨goes, same⟩ here
        · exact event_kept client target key down drawn ⟨which, some session⟩ listed same

theorem event_drawn (matching : ∀ origin, drawn = some origin → target = origin)
    (before : ∀ event ∈ client.sent, event.down = false → ∀ origin, event.drawn = some origin → origin = some event.session) :
    ∀ event ∈ (client.processEvent target key down drawn).sent, event.down = false → ∀ origin, event.drawn = some origin →
      origin = some event.session := by
  cases long : client.isLongPress key down with
  | true =>
      rw [event_ignored client target key down drawn long]
      exact before
  | false =>
      rw [event_sent client target key down drawn long]
      cases goes : target with
      | none => exact before
      | some session =>
          intro event listed up origin marked
          obtain rfl | earlier := List.mem_cons.mp listed
          · exact (matching origin marked).symm.trans goes
          · exact before event earlier up origin marked

end

-- An event of the local keyboard.
theorem event_accounted (client : Client) (target : Option SessionId) (key : Key) (down : Bool) (accounted : Accounted client)
    (fits : client.FitsEvent target key down) : Accounted (client.processEvent target key down none) := by
  obtain ⟨follows, into⟩ := fits
  obtain ⟨gs, jobs⟩ := event_frame client target key down none
  refine ⟨?_, event_drawn client target key down none (fun origin marked => by cases marked) accounted.drawn⟩
  intro session which after
  unfold Client.Covers
  rw [gs, jobs]
  obtain ⟨pressed, goes, rfl, recorded, _⟩ | ⟨before, _, kept⟩ := event_held client target key down none follows session which after
  · exact Or.inl ⟨(into pressed (by rw [goes]; rfl)).symm.trans goes, recorded⟩
  · obtain ⟨own, recorded⟩ | owed := accounted.down session which before
    · exact Or.inl ⟨own, kept recorded⟩
    · exact Or.inr owed

section
variable (client : Client) (index : Nat) (job after : ReleaseJob)

-- The job a step has worked on owes the same as before, apart from what the step has sent.
theorem set_job_owes (session : SessionId) (key : Key)
    (found : client.releasing[index]? = some job) (owed : ∃ other ∈ client.releasing, other.Owes session key)
    (moved : job.Owes session key → after.Owes session key) : ∃ other ∈ (client.setJob index after).releasing, other.Owes session key := by
  obtain ⟨other, listed, owes⟩ := owed
  obtain ⟨place, there⟩ := List.getElem?_of_mem listed
  unfold Client.setJob
  by_cases empty : after.rest = [] ∧ after.stage = none
  · rw [if_pos empty]
    refine ⟨other, List.mem_eraseIdx_iff_getElem?.mpr ⟨place, ?_, there⟩, owes⟩
    rintro rfl
    obtain rfl := Option.some.inj (found.symm.trans there)
    obtain rest | stage := moved owes
    · rw [empty.1] at rest
      exact absurd rest List.not_mem_nil
    · rw [empty.2] at stage
      cases stage
  · rw [if_neg empty]
    by_cases same : place = index
    · subst same
      obtain rfl := Option.some.inj (found.symm.trans there)
      obtain ⟨inside, _⟩ := List.getElem?_eq_some_iff.mp there
      exact ⟨after, List.mem_of_getElem? (List.getElem?_set_self inside), moved owes⟩
    · refine ⟨other, List.mem_of_getElem? (i := place) ?_, owes⟩
      rw [List.getElem?_set_ne (Ne.symm same)]
      exact there

-- A release that a job sends while the session of the press is current.
theorem drawn_accounted (key : Key) (matching : Option SessionId)
    (accounted : Accounted client) (found : client.releasing[index]? = some job) (follows : client.Follows client.current key)
    (current : client.current = matching)
    (moved : ∀ session which, ¬ (matching = some session ∧ which = key) → job.Owes session which → after.Owes session which) :
    Accounted ((client.processEvent client.current key false (some matching)).setJob index after) := by
  obtain ⟨gs, jobs⟩ := event_frame client client.current key false (some matching)
  refine ⟨?_, event_drawn client client.current key false (some matching) (fun origin marked => current.trans (Option.some.inj marked)) accounted.drawn⟩
  intro session which down
  obtain ⟨pressed, _⟩ | ⟨before, other, kept⟩ := event_held client client.current key false (some matching) follows session which down
  · cases pressed
  · obtain ⟨own, recorded⟩ | owed := accounted.down session which before
    · exact Or.inl ⟨gs ▸ own, kept recorded⟩
    · right
      apply set_job_owes _ index job after session which (by rw [jobs]; exact found) (by rw [jobs]; exact owed)
      exact moved session which (fun sent => other ⟨rfl, current.trans sent.1, sent.2⟩)

end

theorem release_accounted (client next : Client) (index pick : Nat) (job : ReleaseJob) (accounted : Accounted client)
    (found : client.releasing[index]? = some job) (fits : client.FitsRelease pick job) (taken : client.release index pick job = some next) :
    Accounted next := by
  unfold Client.FitsRelease at fits
  unfold Client.release at taken
  cases stage : job.stage with
  | none =>
      rw [stage] at fits taken
      obtain ⟨record, picked, rfl⟩ := Option.map_eq_some_iff.mp taken
      obtain ⟨follows, current⟩ := fits record picked
      refine drawn_accounted client index job _ record.key record.origin accounted found follows current ?_
      intro session which other owes
      obtain rest | staged := owes
      · left
        apply mem_erased job.rest pick record _ picked rest
        rintro rfl
        exact other ⟨rfl, rfl⟩
      · rw [stage] at staged
        cases staged
  | some stage' =>
      cases stage' with
      | release key matching =>
          rw [stage] at fits taken
          obtain rfl := Option.some.inj taken
          refine drawn_accounted client index job _ key matching accounted found fits.1 fits.2 ?_
          intro session which other owes
          obtain rest | staged := owes
          · exact Or.inl rest
          · rw [stage] at staged
            injection Option.some.inj staged with same matched
            exact absurd ⟨matched, same.symm⟩ other
      | press key =>
          rw [stage] at fits taken
          obtain rfl := Option.some.inj taken
          obtain ⟨gs, jobs⟩ := event_frame client client.current key true none
          refine ⟨?_, event_drawn client client.current key true none (fun origin marked => by cases marked) accounted.drawn⟩
          intro session which down
          have kept : job.Owes session which → ReleaseJob.Owes
              { job with stage := some (.release key ((client.processEvent client.current key true none).pressed key)) } session which := by
            intro owes
            obtain rest | staged := owes
            · exact Or.inl rest
            · rw [stage] at staged
              cases staged
          obtain ⟨_, _, rfl, _, pressed⟩ | ⟨before, _, recorded⟩ := event_held client client.current key true none fits session which down
          · right
            obtain ⟨inside, _⟩ := List.getElem?_eq_some_iff.mp found
            refine ⟨{ job with stage := some (.release which ((client.processEvent client.current which true none).pressed which)) }, ?_,
              Or.inr (congrArg (fun origin => some (AltStage.release which origin)) pressed)⟩
            unfold Client.setJob
            rw [if_neg (fun empty => by cases empty.2), jobs]
            exact List.mem_of_getElem? (List.getElem?_set_self inside)
          · obtain ⟨own, listed⟩ | owed := accounted.down session which before
            · exact Or.inl ⟨gs ▸ own, recorded listed⟩
            · right
              exact set_job_owes _ index job _ session which (by rw [jobs]; exact found) (by rw [jobs]; exact owed) kept

section
variable (client : Client)

-- What the owner's leave takes from TO_RELEASE is owed from then on.
theorem taken_accounted (gs : GrabOwnerState) (sleepers : List Sleeper) (accounted : Accounted client) :
    Accounted { client.takeRemoteKeys with gs := gs, sleepers := sleepers } := by
  refine ⟨?_, accounted.drawn⟩
  intro session key down
  right
  unfold Client.takeRemoteKeys
  dsimp only
  obtain ⟨_, listed⟩ | ⟨job, listed, owes⟩ := accounted.down session key down
  · rw [if_neg (List.ne_nil_of_mem listed)]
    exact ⟨_, List.mem_append_right _ (List.mem_singleton_self _), Or.inl listed⟩
  · refine ⟨job, ?_, owes⟩
    split
    · exact listed
    · exact List.mem_append_left _ listed

theorem wait_accounted (session : SessionId) (accounted : Accounted client) : Accounted (client.wait session) := by
  unfold Client.wait
  obtain ⟨_, waited⟩ | ⟨_, _, _, waited⟩ | ⟨_, _, _, waited⟩ | ⟨_, _, waited⟩ := wait_cases client.gs session client.now
  · rw [waited]
    exact accounted
  · rw [waited]
    exact accounted
  · rw [waited]
    exact ⟨accounted.down, accounted.drawn⟩
  · rw [waited]
    exact taken_accounted client GrabOwnerState.default client.sleepers accounted

theorem deferred_accounted (index : Nat) (sleeper : Sleeper) (accounted : Accounted client) : Accounted (client.deferredStep index sleeper) := by
  unfold Client.deferredStep
  split
  · exact taken_accounted client _ _ accounted
  · exact ⟨accounted.down, accounted.drawn⟩

theorem run_accounted (session : SessionId) (accounted : Accounted client) (fits : KeyFits client (.run session)) :
    Accounted { client with gs := (client.gs.run session client.now).1 } := by
  refine ⟨?_, accounted.drawn⟩
  intro held key down
  obtain ⟨own, listed⟩ | owed := accounted.down held key down
  · obtain refreshed | handed := fits
    · exact Or.inl ⟨(run_owner client.gs session client.now).trans (refreshed.symm.trans own), listed⟩
    · exact absurd own.symm (handed ⟨key, some held⟩ listed rfl)
  · exact Or.inr owed

theorem step_accounted (label : KeyLabel) (next : Client) (accounted : Accounted client) (fits : KeyFits client label)
    (taken : keyStep client label = some next) : Accounted next := by
  cases label with
  | tick passed | setCurrent session =>
      obtain rfl := Option.some.inj taken
      exact ⟨accounted.down, accounted.drawn⟩
  | event key down =>
      obtain rfl := Option.some.inj taken
      exact event_accounted client client.current key down accounted fits
  | eventFor session key down =>
      obtain rfl := Option.some.inj taken
      exact event_accounted client (some session) key down accounted fits
  | run session =>
      obtain rfl := Option.some.inj taken
      exact run_accounted client session accounted fits
  | wait session =>
      obtain rfl := Option.some.inj taken
      exact wait_accounted client session accounted
  | deferred index =>
      obtain ⟨sleeper, _, rfl⟩ := Option.map_eq_some_iff.mp taken
      exact deferred_accounted client index sleeper accounted
  | release index pick =>
      obtain ⟨job, found, released⟩ := Option.bind_eq_some_iff.mp taken
      exact release_accounted client next index pick job accounted found (fits job found) released

end

-- In a run whose steps all fit, every state has the keys of the sessions that do not own the grab
-- released, and every drawn release went where its press went.
theorem keys_released (now : Nat) (past : List (Client × KeyLabel)) (client : Client) (traced : Traced keyStep (Client.init now) past client)
    (fitting : ∀ entry ∈ past, KeyFits entry.1 entry.2) : (∀ entry ∈ past, Released entry.1) ∧ Released client := by
  have accounted := traced_kept keyStep Accounted KeyFits (Client.init now) client past (init_accounted now) step_accounted traced fitting
  exact ⟨fun entry listed => accounted_released entry.1 (accounted.1 entry listed), accounted_released client accounted.2⟩

-- A key and Alt pressed into the owner are released by its leave, the Alt with one more stroke.
def leave : List KeyLabel := [.setCurrent (some 7), .run 7, .event (.other 30) true, .event .alt true, .tick 400000000, .wait 7, .release 0 1,
  .release 0 0, .release 0 0, .release 0 0]

theorem keys_released_leave :
    held ((run keyStep (Client.init 0) leave).get (by decide)).sent 7 .alt = false ∧
      held ((run keyStep (Client.init 0) leave).get (by decide)).sent 7 (.other 30) = false := by
  have ran := keys_released 0 (trace keyStep (Client.init 0) leave) ((run keyStep (Client.init 0) leave).get (by decide))
    (traced_run keyStep (Client.init 0) leave (by decide)) (by decide)
  exact ⟨ran.2.up (by decide) 7 (by decide) .alt, ran.2.up (by decide) 7 (by decide) (.other 30)⟩

-- The second session takes the grab over while a modifier is down, and the first one's Wait is stale.
def staleWait : List KeyLabel := [.setCurrent (some 7), .run 7, .event .metaLeft true, .setCurrent (some 8), .run 8, .wait 7]

theorem modifier_stuck : ¬ ∀ (now : Nat) (client : Client), Reachable keyStep (Client.init now) client → Released client := by
  intro claimed
  have released := claimed 0 _ (reachable_run keyStep (Client.init 0) staleWait (by decide))
  have stuck := released.up (by decide) 7 (by decide) .metaLeft
  exact absurd stuck (by decide)

end GotechDesk.Keyboard
