import GotechDesk.Machine
import GotechDesk.Keyboard.Grab

set_option autoImplicit false

namespace GotechDesk.Keyboard

open GotechDesk.Machine

-- The keys MODIFIERS_STATE follows, and all others by their code.
inductive Key where
  | alt
  | altGr
  | shiftLeft
  | shiftRight
  | controlLeft
  | controlRight
  | metaLeft
  | metaRight
  | other (code : Nat)
deriving DecidableEq

def Key.isModifier : Key → Bool
  | .other _ => false
  | _ => true

def Key.isAlt : Key → Bool
  | .alt | .altGr => true
  | _ => false

-- A press in TO_RELEASE. `origin` records the session it was sent to; the code keeps no such field.
structure Record where
  key : Key
  origin : Option SessionId
deriving DecidableEq

-- What is left of the Alt key that is being released: one more press and its release.
inductive AltStage where
  | press (key : Key)
  | release (key : Key) (matching : Option SessionId)
deriving DecidableEq

-- A call of release_remote_keys_for_events on the keys it has taken.
structure ReleaseJob where
  rest : List Record
  stage : Option AltStage
deriving DecidableEq

-- A key event sent to the peer of a session. `drawn` marks a release drawn from TO_RELEASE, with
-- the session its press was sent to.
structure Sent where
  session : SessionId
  key : Key
  down : Bool
  drawn : Option (Option SessionId)
deriving DecidableEq

structure Sleeper where
  session : SessionId
  snapshot : Option Nat
deriving DecidableEq

-- `pressed` says where the last press of each key went, and `sent` what the peers were sent, newest first.
structure Client where
  gs : GrabOwnerState
  now : Nat
  sleepers : List Sleeper
  current : Option SessionId
  modifiersState : Key → Bool
  toRelease : List Record
  releasing : List ReleaseJob
  pressed : Key → Option SessionId
  sent : List Sent

def Client.init (now : Nat) : Client :=
  { gs := GrabOwnerState.default, now := now, sleepers := [], current := none, modifiersState := fun _ => false, toRelease := [],
    releasing := [], pressed := fun _ => none, sent := [] }

-- A key is down on a peer when the last event it was sent for that key is a press.
def held : List Sent → SessionId → Key → Bool
  | [], _, _ => false
  | event :: rest, session, key => if event.session = session ∧ event.key = key then event.down else held rest session key

def Client.isLongPress (client : Client) (key : Key) (down : Bool) : Bool := down && key.isModifier && client.modifiersState key

def Client.updateModifiersState (client : Client) (key : Key) (down : Bool) : Client :=
  if key.isModifier = true then { client with modifiersState := Function.update client.modifiersState key down } else client

-- TO_RELEASE is a map: a press replaces the record of its key, a release drops it.
def forgetKey (key : Key) (records : List Record) : List Record := records.filter (fun record => record.key ≠ key)

def Client.record (client : Client) (target : Option SessionId) (key : Key) (down : Bool) : Client :=
  if down = true then
    { client with toRelease := forgetKey key client.toRelease ++ [Record.mk key target], pressed := Function.update client.pressed key target }
  else { client with toRelease := forgetKey key client.toRelease }

def Client.send (client : Client) (target : Option SessionId) (key : Key) (down : Bool) (drawn : Option (Option SessionId)) : Client :=
  match target with
  | none => client
  | some session => { client with sent := Sent.mk session key down drawn :: client.sent }

-- process_event and process_event_with_session in Map mode, where every key maps to one key event.
def Client.processEvent (client : Client) (target : Option SessionId) (key : Key) (down : Bool) (drawn : Option (Option SessionId)) : Client :=
  if client.isLongPress key down = true then client
  else ((client.updateModifiersState key down).record target key down).send target key down drawn

-- The keys are taken under GRAB_STATE and released after the unlock, one event at a time.
def Client.takeRemoteKeys (client : Client) : Client :=
  { client with
    toRelease := []
    releasing := if client.toRelease = [] then client.releasing else client.releasing ++ [ReleaseJob.mk client.toRelease none] }

def Client.wait (client : Client) (session : SessionId) : Client :=
  match client.gs.wait session client.now with
  | (_, .ignored) => client
  | (_, .debounced) => client
  | (gs, .scheduled snapshot) => { client with gs := gs, sleepers := client.sleepers ++ [Sleeper.mk session snapshot] }
  | (gs, .released) => { client.takeRemoteKeys with gs := gs }

def Client.deferredStep (client : Client) (index : Nat) (sleeper : Sleeper) : Client :=
  if (client.gs.deferredRelease sleeper.session sleeper.snapshot).2 = true then
    { client.takeRemoteKeys with
      gs := (client.gs.deferredRelease sleeper.session sleeper.snapshot).1
      sleepers := client.sleepers.eraseIdx index }
  else { client with sleepers := client.sleepers.eraseIdx index }

def Client.setJob (client : Client) (index : Nat) (job : ReleaseJob) : Client :=
  { client with
    releasing := if job.rest = [] ∧ job.stage = none then client.releasing.eraseIdx index else client.releasing.set index job }

-- The next event of a job goes to the session that is current when it is sent. `pick` is the key
-- the map yields next.
def Client.release (client : Client) (index pick : Nat) (job : ReleaseJob) : Option Client :=
  match job.stage with
  | some (.press key) =>
      let struck := client.processEvent client.current key true none
      some (struck.setJob index { job with stage := some (.release key (struck.pressed key)) })
  | some (.release key matching) =>
      some ((client.processEvent client.current key false (some matching)).setJob index { job with stage := none })
  | none =>
      (job.rest[pick]?).map (fun record =>
        (client.processEvent client.current record.key false (some record.origin)).setJob index
          { rest := job.rest.eraseIdx pick, stage := if record.key.isAlt = true then some (.press record.key) else none })

inductive KeyLabel where
  | tick (passed : Nat)
  | setCurrent (session : Option SessionId)
  | event (key : Key) (down : Bool)
  | eventFor (session : SessionId) (key : Key) (down : Bool)
  | run (session : SessionId)
  | wait (session : SessionId)
  | deferred (index : Nat)
  | release (index pick : Nat)
deriving DecidableEq

def keyStep (client : Client) : KeyLabel → Option Client
  | .tick passed => some { client with now := client.now + passed }
  | .setCurrent session => some { client with current := session }
  | .event key down => some (client.processEvent client.current key down none)
  | .eventFor session key down => some (client.processEvent (some session) key down none)
  | .run session => some { client with gs := (client.gs.run session client.now).1 }
  | .wait session => some (client.wait session)
  | .deferred index => (client.sleepers[index]?).map (fun sleeper => client.deferredStep index sleeper)
  | .release index pick => (client.releasing[index]?).bind (fun job => client.release index pick job)

-- No key is left down on the peer of a session that does not own the grab, once nothing is left
-- to release; and a release drawn from TO_RELEASE goes where its press went.
structure Released (client : Client) : Prop where
  up : client.releasing = [] → ∀ session, client.gs.owner ≠ some session → ∀ key, held client.sent session key = false
  drawn : ∀ event ∈ client.sent, event.down = false → ∀ origin, event.drawn = some origin → origin = some event.session

-- An event of a key that TO_RELEASE has recorded goes to the session the recorded press went to.
def Client.Follows (client : Client) (target : Option SessionId) (key : Key) : Prop :=
  ∀ record ∈ client.toRelease, record.key = key → record.origin.isSome = true → target = record.origin

instance (client : Client) (target : Option SessionId) (key : Key) : Decidable (client.Follows target key) := by
  unfold Client.Follows
  infer_instance

def Client.FitsEvent (client : Client) (target : Option SessionId) (key : Key) (down : Bool) : Prop :=
  client.Follows target key ∧ (down = true → target.isSome = true → target = client.gs.owner)

instance (client : Client) (target : Option SessionId) (key : Key) (down : Bool) : Decidable (client.FitsEvent target key down) := by
  unfold Client.FitsEvent
  infer_instance

def Client.FitsRelease (client : Client) (pick : Nat) (job : ReleaseJob) : Prop :=
  match job.stage with
  | some (.press key) => client.Follows client.current key
  | some (.release key matching) => client.Follows client.current key ∧ client.current = matching
  | none => ∀ record ∈ job.rest[pick]?, client.Follows client.current record.key ∧ client.current = record.origin

instance (client : Client) (pick : Nat) (job : ReleaseJob) : Decidable (client.FitsRelease pick job) := by
  unfold Client.FitsRelease
  split <;> infer_instance

-- Keys are pressed into the session that owns the grab; the grab is not handed over while a key
-- pressed into its owner is recorded; and a drawn release is sent while the session its press went
-- to is current.
def KeyFits (client : Client) : KeyLabel → Prop
  | .event key down => client.FitsEvent client.current key down
  | .eventFor session key down => client.FitsEvent (some session) key down
  | .run session => client.gs.owner = some session ∨ ∀ record ∈ client.toRelease, record.origin.isSome = true → record.origin ≠ client.gs.owner
  | .release index pick => ∀ job ∈ client.releasing[index]?, client.FitsRelease pick job
  | _ => True

instance (client : Client) (label : KeyLabel) : Decidable (KeyFits client label) := by
  cases label <;> (unfold KeyFits; infer_instance)

end GotechDesk.Keyboard
