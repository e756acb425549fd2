import GotechDesk.Machine
import GotechDesk.Keyboard.Grab

set_option autoImplicit false

namespace GotechDesk.Keyboard

open GotechDesk.Machine

inductive Call where
  | run
  | wait
deriving DecidableEq

-- A deferred-release thread that sleeps. `runs` says how many Runs came before it was scheduled.
structure Deferred where
  session : SessionId
  snapshot : Option Nat
  runs : Nat
deriving DecidableEq

-- A call made after the unlock which waits for GRAB_OP_LOCK.
inductive After where
  | applyRunGrabIfOwner (session : SessionId) (disableFirst : Bool)
  | disableGrabIfReleased
deriving DecidableEq

-- What the holder of GRAB_OP_LOCK is about to do to the X11 grab after it has read GRAB_STATE.
inductive GrabOp where
  | enable (disableFirst : Bool)
  | disable
deriving DecidableEq

-- `runs`, `lastRun` and `lastCall` only record the history: how many Runs there were, the instant
-- the last one read, and what each session called last.
structure Desk where
  gs : GrabOwnerState
  hooked : Bool
  grabbed : Bool
  now : Nat
  deferred : List Deferred
  afters : List After
  op : Option GrabOp
  runs : Nat
  lastRun : Option Nat
  lastCall : SessionId → Option Call

def Desk.init (now : Nat) : Desk :=
  { gs := GrabOwnerState.default, hooked := false, grabbed := false, now := now, deferred := [], afters := [], op := none, runs := 0,
    lastRun := none, lastCall := fun _ => none }

inductive Label where
  | tick (passed : Nat)
  | run (session : SessionId)
  | wait (session : SessionId)
  | deferred (index : Nat)
  | begins (index : Nat)
  | finish
deriving DecidableEq

def Desk.called (desk : Desk) (session : SessionId) (call : Call) : Desk :=
  { desk with lastCall := Function.update desk.lastCall session (some call) }

-- No two Runs read the same instant.
def Desk.freshInstant (desk : Desk) : Bool := desk.lastRun.all (fun last => last < desk.now)

def Desk.run (desk : Desk) (session : SessionId) : Desk :=
  let ran := { desk with gs := (desk.gs.run session desk.now).1, runs := desk.runs + 1, lastRun := some desk.now }
  match (desk.gs.run session desk.now).2 with
  | none => ran.called session .run
  | some hadOwner => { ran.called session .run with hooked := true, afters := desk.afters ++ [After.applyRunGrabIfOwner session hadOwner] }

def Desk.wait (desk : Desk) (session : SessionId) : Desk :=
  match desk.gs.wait session desk.now with
  | (_, .ignored) => desk.called session .wait
  | (_, .debounced) => desk.called session .wait
  | (gs, .scheduled snapshot) =>
      { desk.called session .wait with gs := gs, deferred := desk.deferred ++ [Deferred.mk session snapshot desk.runs] }
  | (gs, .released) =>
      { desk.called session .wait with gs := gs, hooked := false, afters := desk.afters ++ [After.disableGrabIfReleased] }

def Desk.deferredStep (desk : Desk) (index : Nat) (thread : Deferred) : Desk :=
  if (desk.gs.deferredRelease thread.session thread.snapshot).2 = true then
    { desk with gs := (desk.gs.deferredRelease thread.session thread.snapshot).1, hooked := false, deferred := desk.deferred.eraseIdx index,
                afters := desk.afters ++ [After.disableGrabIfReleased] }
  else { desk with deferred := desk.deferred.eraseIdx index }

-- What a call decides once it has GRAB_OP_LOCK, from GRAB_STATE as it is then.
def After.decides (gs : GrabOwnerState) : After → Option GrabOp
  | .applyRunGrabIfOwner session disableFirst => if gs.owner = some session then some (.enable disableFirst) else none
  | .disableGrabIfReleased => if gs.owner.isNone = true ∧ gs.lastGrab.isNone = true then some .disable else none

def GrabOp.leaves : GrabOp → Bool
  | .enable _ => true
  | .disable => false

def step (desk : Desk) : Label → Option Desk
  | .tick passed => some { desk with now := desk.now + passed }
  | .run session => if desk.freshInstant = true then some (desk.run session) else none
  | .wait session => some (desk.wait session)
  | .deferred index => (desk.deferred[index]?).map (fun thread => desk.deferredStep index thread)
  | .begins index =>
      if desk.op = none then
        (desk.afters[index]?).map (fun after => { desk with afters := desk.afters.eraseIdx index, op := after.decides desk.gs })
      else none
  | .finish => desk.op.map (fun op => { desk with op := none, grabbed := op.leaves })

-- A deferred release with the snapshot of the grab in force waits for its turn.
def Desk.Leaving (desk : Desk) (session : SessionId) : Prop :=
  ∃ thread ∈ desk.deferred, thread.session = session ∧ thread.snapshot = desk.gs.lastGrab

-- The call that waits for GRAB_OP_LOCK would bring the X11 grab to what the ownership says.
def After.fits (owner : Option SessionId) : After → Prop
  | .applyRunGrabIfOwner session _ => owner = some session
  | .disableGrabIfReleased => owner = none

def Desk.Settled (desk : Desk) : Prop := desk.op.elim desk.grabbed GrabOp.leaves = desk.gs.owner.isSome

-- A snapshot is that of the last Run, and then no Run came after the thread was scheduled, or it is older.
def Desk.Dates (desk : Desk) (thread : Deferred) : Prop :=
  ∃ since last, thread.snapshot = some since ∧ desk.lastRun = some last ∧ (since < last ∨ since = last ∧ thread.runs = desk.runs)

structure Coherent (desk : Desk) : Prop where
  hooked : desk.hooked = desk.gs.owner.isSome
  timed : desk.gs.lastGrab.isSome = desk.gs.owner.isSome
  latest : desk.gs.owner.isSome = true → desk.gs.lastGrab = desk.lastRun
  dated : ∀ thread ∈ desk.deferred, desk.Dates thread
  pending : ∀ owner, desk.gs.owner = some owner → desk.gs.deferredPending = true → desk.Leaving owner
  left : ∀ owner, desk.gs.owner = some owner → desk.lastCall owner = some .wait → desk.Leaving owner
  grab : (∃ after ∈ desk.afters, after.fits desk.gs.owner) ∨ desk.Settled

theorem init_coherent (now : Nat) : Coherent (Desk.init now) :=
  { hooked := rfl
    timed := rfl
    latest := fun owned => absurd owned Bool.false_ne_true
    dated := fun thread listed => absurd listed List.not_mem_nil
    pending := fun owner owned => by cases owned
    left := fun owner owned => by cases owned
    grab := Or.inr rfl }

section
variable (desk : Desk)

-- After a release nobody owns the grab, and the call that takes the X11 grab back is under way.
theorem released_coherent (deferred : List Deferred) (lastCall : SessionId → Option Call) (coherent : Coherent desk)
    (kept : ∀ thread ∈ deferred, thread ∈ desk.deferred) :
    Coherent { desk with gs := GrabOwnerState.default, hooked := false, deferred := deferred, lastCall := lastCall,
                         afters := desk.afters ++ [After.disableGrabIfReleased] } :=
  { hooked := rfl
    timed := rfl
    latest := fun owned => absurd owned Bool.false_ne_true
    dated := fun thread listed => coherent.dated thread (kept thread listed)
    pending := fun owner owned => by cases owned
    left := fun owner owned => by cases owned
    grab := Or.inl ⟨.disableGrabIfReleased, List.mem_append_right _ (List.mem_singleton_self _), rfl⟩ }

-- A Wait that leaves the grab: only the owner's own leave is new.
theorem called_coherent (session : SessionId) (coherent : Coherent desk)
    (leaving : desk.gs.owner = some session → desk.Leaving session) : Coherent (desk.called session .wait) := by
  refine { coherent with left := ?_ }
  intro owner owned called
  by_cases same : owner = session
  · exact same ▸ leaving (same ▸ owned)
  · apply coherent.left owner owned
    rw [← called]
    exact (Function.update_of_ne same _ _).symm

theorem scheduled_coherent (session : SessionId) (coherent : Coherent desk) (own : desk.gs.owner = some session) :
    Coherent { desk.called session .wait with gs := { desk.gs with deferredPending := true },
                                              deferred := desk.deferred ++ [Deferred.mk session desk.gs.lastGrab desk.runs] } := by
  have owned : desk.gs.owner.isSome = true := by rw [own]; rfl
  have leaving : ∀ owner, desk.gs.owner = some owner →
      ∃ thread ∈ desk.deferred ++ [Deferred.mk session desk.gs.lastGrab desk.runs],
        thread.session = owner ∧ thread.snapshot = desk.gs.lastGrab := by
    intro owner same
    refine ⟨_, List.mem_append_right _ (List.mem_singleton_self _), ?_, rfl⟩
    exact Option.some.inj (own.symm.trans same)
  refine { coherent with dated := ?_, pending := fun owner same _ => leaving owner same, left := fun owner same _ => leaving owner same }
  intro thread listed
  obtain earlier | new := List.mem_append.mp listed
  · exact coherent.dated thread earlier
  · obtain rfl := List.mem_singleton.mp new
    obtain ⟨last, now⟩ := Option.isSome_iff_exists.mp (coherent.timed.trans owned)
    exact ⟨last, last, now, (coherent.latest owned).symm.trans now, Or.inr ⟨rfl, rfl⟩⟩

theorem wait_coherent (session : SessionId) (coherent : Coherent desk) : Coherent (desk.wait session) := by
  unfold Desk.wait
  obtain ⟨other, waited⟩ | ⟨own, _, pending, waited⟩ | ⟨own, _, _, waited⟩ | ⟨own, _, waited⟩ := wait_cases desk.gs session desk.now
  · rw [waited]
    exact called_coherent desk session coherent (fun own => absurd own other)
  · rw [waited]
    exact called_coherent desk session coherent (fun own => coherent.pending session own pending)
  · rw [waited]
    exact scheduled_coherent desk session coherent own
  · rw [waited]
    exact released_coherent desk desk.deferred _ coherent (fun _ listed => listed)

-- A Run dates every snapshot taken before it.
theorem aged (thread : Deferred) (dates : desk.Dates thread) (fresh : desk.freshInstant = true) :
    ∃ since last, thread.snapshot = some since ∧ some desk.now = some last ∧ (since < last ∨ since = last ∧ thread.runs = desk.runs + 1) := by
  obtain ⟨since, last, snapshot, ran, within⟩ := dates
  have later : last < desk.now := by simpa [Desk.freshInstant, ran] using fresh
  refine ⟨since, desk.now, snapshot, rfl, Or.inl ?_⟩
  obtain older | ⟨same, _⟩ := within <;> omega

theorem run_coherent (session : SessionId) (coherent : Coherent desk) (fresh : desk.freshInstant = true) : Coherent (desk.run session) := by
  have dated : ∀ thread ∈ desk.deferred, ∃ since last, thread.snapshot = some since ∧ some desk.now = some last ∧
      (since < last ∨ since = last ∧ thread.runs = desk.runs + 1) := fun thread listed => aged desk thread (coherent.dated thread listed) fresh
  have recent : ∀ owner, some session = some owner → Function.update desk.lastCall session (some Call.run) owner ≠ some .wait := by
    intro owner same
    rw [← Option.some.inj same, Function.update_self]
    simp
  by_cases own : desk.gs.owner = some session
  · have ran : desk.gs.run session desk.now = ({ desk.gs with lastGrab := some desk.now, deferredPending := false }, none) := if_pos own
    have owned : desk.gs.owner.isSome = true := by rw [own]; rfl
    unfold Desk.run
    rw [ran]
    exact
      { hooked := coherent.hooked
        timed := owned.symm
        latest := fun _ => rfl
        dated := dated
        pending := fun owner _ impossible => absurd impossible Bool.false_ne_true
        left := fun owner same called => absurd called (recent owner (own.symm.trans same))
        grab := coherent.grab }
  · have ran : desk.gs.run session desk.now =
        ({ owner := some session, lastGrab := some desk.now, deferredPending := false }, some desk.gs.owner.isSome) := if_neg own
    unfold Desk.run
    rw [ran]
    exact
      { hooked := rfl
        timed := rfl
        latest := fun _ => rfl
        dated := dated
        pending := fun owner _ impossible => absurd impossible Bool.false_ne_true
        left := fun owner same called => absurd called (recent owner same)
        grab := Or.inl ⟨_, List.mem_append_right _ (List.mem_singleton_self _), rfl⟩ }

theorem deferred_coherent (index : Nat) (thread : Deferred) (coherent : Coherent desk) (found : desk.deferred[index]? = some thread) :
    Coherent (desk.deferredStep index thread) := by
  have rest : ∀ other ∈ desk.deferred.eraseIdx index, other ∈ desk.deferred := fun other listed => List.mem_of_mem_eraseIdx listed
  unfold Desk.deferredStep
  by_cases current : desk.gs.owner = some thread.session ∧ desk.gs.lastGrab = thread.snapshot
  · rw [deferred_released desk.gs thread.session thread.snapshot current, if_pos rfl]
    exact released_coherent desk (desk.deferred.eraseIdx index) desk.lastCall coherent rest
  · rw [deferred_cancelled desk.gs thread.session thread.snapshot current, if_neg Bool.false_ne_true]
    -- The thread that goes is not the one the owner's leave rests on.
    have leaving : ∀ owner, desk.gs.owner = some owner → desk.Leaving owner →
        ∃ other ∈ desk.deferred.eraseIdx index, other.session = owner ∧ other.snapshot = desk.gs.lastGrab := by
      rintro owner owned ⟨other, listed, leaves, snapshot⟩
      refine ⟨other, mem_erased desk.deferred index thread other found listed ?_, leaves, snapshot⟩
      rintro rfl
      exact current ⟨owned.trans (congrArg some leaves.symm), snapshot.symm⟩
    exact
      { coherent with
        dated := fun other listed => coherent.dated other (rest other listed)
        pending := fun owner owned pending => leaving owner owned (coherent.pending owner owned pending)
        left := fun owner owned called => leaving owner owned (coherent.left owner owned called) }

end

-- A call reads GRAB_STATE under GRAB_OP_LOCK: the one that fits decides for the state in force,
-- and any other decides for nothing.
theorem decides_cases (gs : GrabOwnerState) (after : After) (timed : gs.lastGrab.isSome = gs.owner.isSome) :
    (∃ op, after.decides gs = some op ∧ op.leaves = gs.owner.isSome) ∨ (¬ after.fits gs.owner ∧ after.decides gs = none) := by
  cases after with
  | applyRunGrabIfOwner session disableFirst =>
      by_cases own : gs.owner = some session
      · exact Or.inl ⟨.enable disableFirst, if_pos own, by rw [own]; rfl⟩
      · exact Or.inr ⟨own, if_neg own⟩
  | disableGrabIfReleased =>
      by_cases free : gs.owner = none
      · have idle : gs.lastGrab.isNone = true := by simpa [free] using timed
        exact Or.inl ⟨.disable, if_pos ⟨by rw [free]; rfl, idle⟩, by rw [free]; rfl⟩
      · exact Or.inr ⟨free, if_neg (fun both => free (Option.isNone_iff_eq_none.mp both.1))⟩

theorem begins_coherent (desk : Desk) (index : Nat) (after : After) (coherent : Coherent desk) (idle : desk.op = none)
    (found : desk.afters[index]? = some after) :
    Coherent { desk with afters := desk.afters.eraseIdx index, op := after.decides desk.gs } := by
  refine { coherent with grab := ?_ }
  obtain ⟨op, decided, leaves⟩ | ⟨other, decided⟩ := decides_cases desk.gs after coherent.timed
  · right
    rw [decided]
    exact leaves
  · obtain ⟨fitting, listed, fits⟩ | settled := coherent.grab
    · left
      refine ⟨fitting, mem_erased desk.afters index after fitting found listed ?_, fits⟩
      rintro rfl
      exact other fits
    · right
      rw [Desk.Settled, idle] at settled
      rw [decided]
      exact settled

theorem finish_coherent (desk : Desk) (op : GrabOp) (coherent : Coherent desk) (busy : desk.op = some op) :
    Coherent { desk with op := none, grabbed := op.leaves } := by
  refine { coherent with grab := ?_ }
  obtain fitting | settled := coherent.grab
  · exact Or.inl fitting
  · rw [Desk.Settled, busy] at settled
    exact Or.inr settled

theorem step_coherent (desk : Desk) (label : Label) (next : Desk) (coherent : Coherent desk) (taken : step desk label = some next) :
    Coherent next := by
  cases label with
  | tick passed =>
      obtain rfl := Option.some.inj taken
      exact { coherent with }
  | run session =>
      obtain ⟨fresh, rfl⟩ := Option.ite_some_none_eq_some.mp taken
      exact run_coherent desk session coherent fresh
  | wait session =>
      obtain rfl := Option.some.inj taken
      exact wait_coherent desk session coherent
  | deferred index =>
      obtain ⟨thread, found, rfl⟩ := Option.map_eq_some_iff.mp taken
      exact deferred_coherent desk index thread coherent found
  | begins index =>
      obtain ⟨idle, began⟩ := Option.ite_none_right_eq_some.mp taken
      obtain ⟨after, found, rfl⟩ := Option.map_eq_some_iff.mp began
      exact begins_coherent desk index after coherent idle found
  | finish =>
      obtain ⟨op, busy, rfl⟩ := Option.map_eq_some_iff.mp taken
      exact finish_coherent desk op coherent busy

theorem reachable_coherent (now : Nat) (desk : Desk) (reach : Reachable step (Desk.init now) desk) : Coherent desk :=
  reachable_invariant step Coherent (Desk.init now) desk (init_coherent now) step_coherent reach

-- A thread scheduled before the last Run finds another snapshot and leaves the grab alone.
theorem stale_thread (desk : Desk) (index : Nat) (thread : Deferred) (coherent : Coherent desk) (found : desk.deferred[index]? = some thread)
    (later : thread.runs < desk.runs) : desk.deferredStep index thread = { desk with deferred := desk.deferred.eraseIdx index } := by
  have stale : ¬ (desk.gs.owner = some thread.session ∧ desk.gs.lastGrab = thread.snapshot) := by
    rintro ⟨own, same⟩
    obtain ⟨since, last, snapshot, ran, older | ⟨_, runs⟩⟩ := coherent.dated thread (List.mem_of_getElem? found)
    · have latest := coherent.latest (by rw [own]; rfl)
      rw [same, snapshot, ran] at latest
      have equal := Option.some.inj latest
      omega
    · omega
  unfold Desk.deferredStep
  rw [deferred_cancelled desk.gs thread.session thread.snapshot stale]
  exact if_neg Bool.false_ne_true

theorem leaving_thread (desk : Desk) (session : SessionId) (owned : desk.gs.owner = some session) (leaving : desk.Leaving session) :
    ∃ index next, step desk (.deferred index) = some next ∧ next.gs.owner = none ∧ next.hooked = false := by
  obtain ⟨thread, listed, own, snapshot⟩ := leaving
  obtain ⟨index, found⟩ := List.getElem?_of_mem listed
  have released := deferred_released desk.gs thread.session thread.snapshot ⟨owned.trans (congrArg some own.symm), snapshot.symm⟩
  have stepped : desk.deferredStep index thread =
      { desk with gs := GrabOwnerState.default, hooked := false, deferred := desk.deferred.eraseIdx index,
                  afters := desk.afters ++ [After.disableGrabIfReleased] } := by
    unfold Desk.deferredStep
    rw [released]
    exact if_pos rfl
  refine ⟨index, desk.deferredStep index thread, ?_, by rw [stepped]; rfl, by rw [stepped]⟩
  rw [step, found, Option.map_some]

-- A stale Wait is only remembered; a deferred release takes away no grab that a Run acquired or
-- refreshed after it was scheduled; hook, owner and timer agree; the owner's leave waits in a
-- thread that will end the grab; and when no call waits for GRAB_OP_LOCK the X11 grab is on
-- exactly while there is an owner.
theorem grab_owned (now : Nat) (desk : Desk) (reach : Reachable step (Desk.init now) desk) :
    (∀ session, desk.gs.owner ≠ some session → step desk (.wait session) = some (desk.called session .wait)) ∧
      (∀ index thread, desk.deferred[index]? = some thread → thread.runs < desk.runs →
        step desk (.deferred index) = some { desk with deferred := desk.deferred.eraseIdx index }) ∧
      (desk.hooked = desk.gs.owner.isSome ∧ desk.gs.lastGrab.isSome = desk.gs.owner.isSome) ∧
      (∀ session, desk.gs.owner = some session → desk.lastCall session = some .wait →
        ∃ index next, step desk (.deferred index) = some next ∧ next.gs.owner = none ∧ next.hooked = false) ∧
      (desk.op = none → desk.afters = [] → desk.grabbed = desk.gs.owner.isSome) := by
  have coherent := reachable_coherent now desk reach
  refine ⟨?_, ?_, ⟨coherent.hooked, coherent.timed⟩, ?_, ?_⟩
  · intro session other
    rw [step, Desk.wait, wait_stale desk.gs session desk.now other]
  · intro index thread found later
    rw [step, found, Option.map_some, stale_thread desk index thread coherent found later]
  · intro session owned called
    exact leaving_thread desk session owned (coherent.left session owned called)
  · intro idle none
    obtain ⟨after, listed, _⟩ | settled := coherent.grab
    · rw [none] at listed
      exact absurd listed List.not_mem_nil
    · rwa [Desk.Settled, idle] at settled

-- The stale Wait of the first session comes after the second one took over; the second one's own
-- leave is debounced, and its thread ends the grab.
def handover : List Label := [.tick 1, .run 7, .begins 0, .finish, .tick 50000000, .run 8, .wait 7, .begins 0, .finish, .wait 8, .deferred 0, .begins 0, .finish]

theorem grab_owned_handover :
    let desk := (run step (Desk.init 0) handover).get (by decide)
    desk.gs.owner = none ∧ desk.grabbed = false ∧ step desk (.wait 8) = some (desk.called 8 .wait) := by
  have ran := grab_owned 0 ((run step (Desk.init 0) handover).get (by decide)) (reachable_run step (Desk.init 0) handover (by decide))
  refine ⟨by decide, ?_, ran.1 8 (by decide)⟩
  exact (ran.2.2.2.2 (by decide) (by decide)).trans (by decide)

end GotechDesk.Keyboard
