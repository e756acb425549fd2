import GotechDesk.Machine
import GotechDesk.Privacy.PrivacyMode

set_option autoImplicit false

namespace GotechDesk.Privacy

-- Where a connection is between two uses of the lock. `waiting` is for the thread with that ticket,
-- and `closed` is after the clean-up of the loop's exit.
inductive Phase where
  | absent
  | idle
  | called (implKey : String)
  | calling (implKey : String)
  | waiting (ticket : Nat)
  | checking
  | failed
  | clearing
  | revoking
  | leaving
  | releasing
  | closed
deriving DecidableEq

structure Conn where
  phase : Phase
  authedRemote : Bool
  privacyMode : Bool
deriving DecidableEq

-- A turn-on in a thread of its own; it goes on when nobody waits for it any more.
structure TurnOnThread where
  ticket : Nat
  connId : Int32
  implKey : String
deriving DecidableEq

-- `lost` says who ended or replaced whose privacy mode; none is the local user interface.
structure Host where
  mode : Option PrivacyMode
  conn : Int32 → Conn
  threads : List TurnOnThread
  tickets : Nat
  lost : List (Int32 × Option Int32)

inductive Label where
  | accept (connId : Int32) (authedRemote privacyMode : Bool)
  | turnOn (connId : Int32) (implKey : String)
  | decide (connId : Int32)
  | call (connId : Int32) (outcome : OnOutcome)
  | thread (index : Nat) (outcome : OnOutcome)
  | giveUp (connId : Int32)
  | check (connId : Int32) (fine : Bool) (outcome : Except String Unit)
  | look (connId : Int32)
  | clear (connId : Int32) (outcome : Except String Unit)
  | turnOff (connId : Int32) (outcome : Except String Unit)
  | permit (connId : Int32)
  | revoke (connId : Int32)
  | revokeOff (connId : Int32) (outcome : Except String Unit)
  | leave (connId : Int32)
  | cleanUp (connId : Int32)
  | release (connId : Int32) (outcome : Except String Unit)
  | localOff (outcome : Except String Unit)
  | localSwitch (implKey : String)

def Host.phase (host : Host) (connId : Int32) : Phase := (host.conn connId).phase

def Host.setPhase (host : Host) (connId : Int32) (phase : Phase) : Host :=
  { host with conn := Function.update host.conn connId { host.conn connId with phase := phase } }

def Host.setPermission (host : Host) (connId : Int32) (enabled : Bool) : Host :=
  { host with conn := Function.update host.conn connId { host.conn connId with phase := .idle, privacyMode := enabled } }

def Host.turnOff (host : Host) (connId : Int32) (outcome : Except String Unit) : Host :=
  { host with mode := turnOffPrivacy host.mode connId outcome }

def Host.holder (host : Host) : Int32 := getPrivacyModeConnId host.mode

-- After the answer to a turn-on: the test of its success, the look after its failure, or nothing.
def afterTurnOn : Option (Except String Bool) → Phase
  | some (.ok true) => .checking
  | some (.ok false) => .idle
  | some (.error _) => .failed
  | none => .idle

-- The connection named by a label is in the phase the step starts from.
def Host.at (host : Host) (connId : Int32) (phase : Phase) (next : Host) : Option Host :=
  if host.phase connId = phase then some next else none

section
variable (setup : Setup)

def Host.turnOnDone (host : Host) (connId : Int32) (implKey : String) (outcome : OnOutcome) : Host :=
  { host with mode := (turnOnPrivacySync setup host.mode implKey connId outcome).1 }

-- The thread's answer only reaches a requester that still waits for it.
def Host.answer (host : Host) (thread : TurnOnThread) (result : Option (Except String Bool)) : Host :=
  if host.phase thread.connId = .waiting thread.ticket then host.setPhase thread.connId (afterTurnOn result) else host

def Host.finishThread (host : Host) (index : Nat) (thread : TurnOnThread) (outcome : OnOutcome) : Host :=
  let done := { host.turnOnDone setup thread.connId thread.implKey outcome with threads := host.threads.eraseIdx index }
  done.answer thread (turnOnPrivacySync setup host.mode thread.implKey thread.connId outcome).2

def Host.spawn (host : Host) (connId : Int32) (implKey : String) : Host :=
  { host.setPhase connId (.waiting host.tickets) with
    threads := host.threads ++ [{ ticket := host.tickets, connId := connId, implKey := implKey }], tickets := host.tickets + 1 }

def act (host : Host) : Label → Option Host
  | .accept connId authedRemote privacyMode =>
      if connId ≠ invalidPrivacyModeConnId ∧ host.phase connId = .absent then
        some { host with conn := Function.update host.conn connId { phase := .idle, authedRemote := authedRemote, privacyMode := privacyMode } }
      else none
  | .turnOn connId implKey =>
      host.at connId .idle
        (if (host.conn connId).authedRemote && (host.conn connId).privacyMode && setup.supported then host.setPhase connId (.called implKey)
         else host)
  | .decide connId =>
      match host.phase connId with
      | .called implKey => some (if isAsyncPrivacyMode host.mode then host.spawn connId implKey else host.setPhase connId (.calling implKey))
      | _ => none
  | .call connId outcome =>
      match host.phase connId with
      | .calling implKey =>
          some ((host.turnOnDone setup connId implKey outcome).setPhase connId
            (afterTurnOn (turnOnPrivacySync setup host.mode implKey connId outcome).2))
      | _ => none
  | .thread index outcome => (host.threads[index]?).map (fun thread => host.finishThread setup index thread outcome)
  | .giveUp connId =>
      match host.phase connId with
      | .waiting _ => some (host.setPhase connId .failed)
      | _ => none
  | .check connId fine outcome =>
      host.at connId .checking (if fine then host.setPhase connId .idle else (host.turnOff connId outcome).setPhase connId .idle)
  | .look connId => host.at connId .failed (host.setPhase connId (if isInPrivacyMode host.mode then .clearing else .idle))
  | .clear connId outcome => host.at connId .clearing ((host.turnOff invalidPrivacyModeConnId outcome).setPhase connId .idle)
  | .turnOff connId outcome => host.at connId .idle (if setup.supported then host.turnOff connId outcome else host)
  | .permit connId => host.at connId .idle (host.setPermission connId true)
  | .revoke connId =>
      host.at connId .idle (if host.holder = connId then host.setPhase connId .revoking else host.setPermission connId false)
  | .revokeOff connId outcome =>
      host.at connId .revoking
        (if outcome.isOk then (host.turnOff connId outcome).setPermission connId false else (host.turnOff connId outcome).setPhase connId .idle)
  | .leave connId => host.at connId .idle (host.setPhase connId .leaving)
  | .cleanUp connId => host.at connId .leaving (host.setPhase connId (if host.holder = connId then .releasing else .closed))
  | .release connId outcome => host.at connId .releasing ((host.turnOff connId outcome).setPhase connId .closed)
  | .localOff outcome => some (host.turnOff invalidPrivacyModeConnId outcome)
  | .localSwitch implKey => some { host with mode := switch setup host.mode implKey }

def actor (host : Host) : Label → Option Int32
  | .accept connId _ _ | .turnOn connId _ | .decide connId | .call connId _ | .giveUp connId | .check connId _ _ | .look connId
  | .clear connId _ | .turnOff connId _ | .permit connId | .revoke connId | .revokeOff connId _ | .leave connId | .cleanUp connId
  | .release connId _ => some connId
  | .thread index _ => (host.threads[index]?).map TurnOnThread.connId
  | .localOff _ | .localSwitch _ => none

def losses (before after : Option PrivacyMode) (actor : Option Int32) : List (Int32 × Option Int32) :=
  if getPrivacyModeConnId before ≠ invalidPrivacyModeConnId ∧
      (getPrivacyModeConnId after ≠ getPrivacyModeConnId before ∨ curImplKey after ≠ curImplKey before) then
    [(getPrivacyModeConnId before, actor)]
  else []

def step (host : Host) (label : Label) : Option Host :=
  (act setup host label).map (fun next => { next with lost := host.lost ++ losses host.mode next.mode (actor host label) })

-- Only the holder or the local user interface takes privacy mode away, and no closed
-- connection holds it.
structure Owned (host : Host) : Prop where
  lost : ∀ entry ∈ host.lost, entry.2 = some entry.1 ∨ entry.2 = none
  closed : ∀ connId, host.phase connId = .closed → host.holder ≠ connId

-- A turn-off with the wildcard id comes from the holder or finds nothing on, and no thread turns
-- privacy mode on for a connection that is closed.
def Orderly (host : Host) : Label → Prop
  | .clear connId _ => host.holder = invalidPrivacyModeConnId ∨ host.holder = connId
  | .thread index outcome => ∀ thread ∈ host.threads[index]?, host.phase thread.connId = .closed → ¬ Takes setup host.mode thread.implKey outcome
  | _ => True

instance (host : Host) (label : Label) : Decidable (Orderly setup host label) := by
  cases label <;> (unfold Orderly; infer_instance)

end

def Fair (before after : Option PrivacyMode) (actor : Option Int32) : Prop :=
  ∀ entry ∈ losses before after actor, entry.2 = some entry.1 ∨ entry.2 = none

theorem fair_same (mode : Option PrivacyMode) (actor : Option Int32) : Fair mode mode actor := by
  intro entry listed
  rw [losses, if_neg (fun lost => lost.2.elim (fun changed => changed rfl) (fun changed => changed rfl))] at listed
  exact absurd listed List.not_mem_nil

section
variable (before after : Option PrivacyMode)

theorem fair_local : Fair before after none := by
  intro entry listed
  unfold losses at listed
  split at listed
  · rw [List.mem_singleton.mp listed]
    exact Or.inr rfl
  · exact absurd listed List.not_mem_nil

theorem fair_own (connId : Int32)
    (own : getPrivacyModeConnId before = invalidPrivacyModeConnId ∨ getPrivacyModeConnId before = connId) : Fair before after (some connId) := by
  intro entry listed
  unfold losses at listed
  split at listed
  · rename_i lost
    rw [List.mem_singleton.mp listed]
    obtain free | own := own
    · exact absurd free lost.1
    · exact Or.inl (congrArg some own.symm)
  · exact absurd listed List.not_mem_nil

-- The holder may only be deprived by itself.
theorem unfair_ended (connId : Int32) (held : getPrivacyModeConnId before ≠ invalidPrivacyModeConnId)
    (other : getPrivacyModeConnId before ≠ connId) (ended : getPrivacyModeConnId after = invalidPrivacyModeConnId) :
    ¬ Fair before after (some connId) := by
  intro fair
  have lost : losses before after (some connId) = [(getPrivacyModeConnId before, some connId)] :=
    if_pos ⟨held, Or.inl (fun same => held (same.symm.trans ended))⟩
  obtain own | wild := fair (getPrivacyModeConnId before, some connId) (by rw [lost]; exact List.mem_singleton_self _)
  · exact other (Option.some.inj own).symm
  · cases wild

end

-- What a connection of its own does to the mode: it changes it only while nobody else holds it,
-- and then only to hold it itself or to end it.
structure Own (before after : Option PrivacyMode) (connId : Int32) : Prop where
  fair : Fair before after (some connId)
  holder : getPrivacyModeConnId after = getPrivacyModeConnId before ∨ getPrivacyModeConnId after = invalidPrivacyModeConnId ∨
    getPrivacyModeConnId after = connId

section
variable (mode : Option PrivacyMode) (connId : Int32)

theorem own_same : Own mode mode connId := ⟨fair_same mode _, Or.inl rfl⟩

theorem own_turn_off (outcome : Except String Unit) (named : connId ≠ invalidPrivacyModeConnId) :
    Own mode (turnOffPrivacy mode connId outcome) connId := by
  by_cases free : getPrivacyModeConnId mode = invalidPrivacyModeConnId
  · exact ⟨fair_own mode _ connId (Or.inl free), Or.inr (Or.inl (turn_off_holder mode connId outcome (Or.inl free)))⟩
  by_cases own : getPrivacyModeConnId mode = connId
  · exact ⟨fair_own mode _ connId (Or.inr own), Or.inr (Or.inl (turn_off_holder mode connId outcome (Or.inr (Or.inr own))))⟩
  rw [turn_off_other mode connId outcome free named own]
  exact own_same mode connId

theorem turned_off (outcome : Except String Unit) (named : connId ≠ invalidPrivacyModeConnId) :
    getPrivacyModeConnId (turnOffPrivacy mode connId outcome) ≠ connId := by
  by_cases free : getPrivacyModeConnId mode = invalidPrivacyModeConnId
  · rw [turn_off_holder mode connId outcome (Or.inl free)]
    exact named.symm
  by_cases own : getPrivacyModeConnId mode = connId
  · rw [turn_off_holder mode connId outcome (Or.inr (Or.inr own))]
    exact named.symm
  rw [turn_off_other mode connId outcome free named own]
  exact own

end

section
variable (setup : Setup)

theorem own_turn_on (mode : Option PrivacyMode) (implKey : String) (connId : Int32) (outcome : OnOutcome)
    (named : connId ≠ invalidPrivacyModeConnId) : Own mode (turnOnPrivacySync setup mode implKey connId outcome).1 connId := by
  by_cases free : getPrivacyModeConnId mode = invalidPrivacyModeConnId
  · refine ⟨fair_own mode _ connId (Or.inl free), Or.inr ?_⟩
    rw [turn_on_sync_free setup mode implKey connId outcome named free]
    by_cases takes : Takes setup mode implKey outcome
    · exact Or.inr (if_pos takes)
    · exact Or.inl (if_neg takes)
  by_cases own : getPrivacyModeConnId mode = connId
  · exact ⟨fair_own mode _ connId (Or.inr own), Or.inr (turn_on_sync_own setup mode implKey connId outcome named own).symm⟩
  rw [turn_on_sync_other setup mode implKey connId outcome free own]
  exact own_same mode connId

end

theorem phase_set (host : Host) (connId other : Int32) (phase : Phase) :
    (host.setPhase connId phase).phase other = if other = connId then phase else host.phase other := by
  unfold Host.phase Host.setPhase
  dsimp only
  rw [Function.update_apply]
  split <;> rfl

theorem phase_permission (host : Host) (connId other : Int32) (enabled : Bool) :
    (host.setPermission connId enabled).phase other = if other = connId then .idle else host.phase other := by
  unfold Host.phase Host.setPermission
  dsimp only
  rw [Function.update_apply]
  split <;> rfl

theorem after_turn_on_open (result : Option (Except String Bool)) : afterTurnOn result ≠ .closed := by
  unfold afterTurnOn
  split <;> exact nofun

-- No connection has the wildcard for its id.
structure Distinct (host : Host) : Prop where
  conns : host.phase invalidPrivacyModeConnId = .absent
  threads : ∀ thread ∈ host.threads, thread.connId ≠ invalidPrivacyModeConnId

theorem distinct_named (host : Host) (distinct : Distinct host) (connId : Int32) (present : host.phase connId ≠ .absent) :
    connId ≠ invalidPrivacyModeConnId := by
  rintro rfl
  exact present distinct.conns

-- What a step of one connection, or of a thread for it, leaves of the rest.
structure Moved (host acted : Host) (connId : Int32) : Prop where
  named : connId ≠ invalidPrivacyModeConnId
  holder : acted.holder = host.holder ∨ acted.holder = invalidPrivacyModeConnId ∨ acted.holder = connId
  others : ∀ other, other ≠ connId → acted.phase other = host.phase other
  threads : ∀ thread ∈ acted.threads, thread ∈ host.threads ∨ thread.connId = connId

-- What such a step owes: nobody else loses the mode, and the connection does not close over it.
structure Clean (host acted : Host) (connId : Int32) : Prop where
  fair : Fair host.mode acted.mode (some connId)
  closed : acted.phase connId = .closed → acted.holder ≠ connId

section
variable (host : Host) (mode : Option PrivacyMode)

theorem moved_phase (connId : Int32) (phase : Phase) (named : connId ≠ invalidPrivacyModeConnId)
    (holder : getPrivacyModeConnId mode = host.holder ∨ getPrivacyModeConnId mode = invalidPrivacyModeConnId ∨
      getPrivacyModeConnId mode = connId) : Moved host (Host.setPhase { host with mode := mode } connId phase) connId := by
  refine ⟨named, holder, ?_, fun thread listed => Or.inl listed⟩
  intro other distinct
  exact (phase_set _ _ _ _).trans (if_neg distinct)

theorem moved_permission (connId : Int32) (enabled : Bool) (named : connId ≠ invalidPrivacyModeConnId)
    (holder : getPrivacyModeConnId mode = host.holder ∨ getPrivacyModeConnId mode = invalidPrivacyModeConnId ∨
      getPrivacyModeConnId mode = connId) : Moved host (Host.setPermission { host with mode := mode } connId enabled) connId := by
  refine ⟨named, holder, ?_, fun thread listed => Or.inl listed⟩
  intro other distinct
  exact (phase_permission _ _ _ _).trans (if_neg distinct)

theorem moved_mode (threads : List TurnOnThread) (connId : Int32) (named : connId ≠ invalidPrivacyModeConnId)
    (holder : getPrivacyModeConnId mode = host.holder ∨ getPrivacyModeConnId mode = invalidPrivacyModeConnId ∨
      getPrivacyModeConnId mode = connId) (kept : ∀ thread ∈ threads, thread ∈ host.threads) :
    Moved host { host with mode := mode, threads := threads } connId :=
  ⟨named, holder, fun _ _ => rfl, fun thread listed => Or.inl (kept thread listed)⟩

theorem clean_phase (connId : Int32) (phase : Phase) (fair : Fair host.mode mode (some connId))
    (settled : phase = .closed → getPrivacyModeConnId mode ≠ connId) :
    Clean host (Host.setPhase { host with mode := mode } connId phase) connId := by
  refine ⟨fair, fun closed => settled ?_⟩
  rwa [phase_set, if_pos rfl] at closed

theorem clean_permission (connId : Int32) (enabled : Bool)
    (fair : Fair host.mode mode (some connId)) : Clean host (Host.setPermission { host with mode := mode } connId enabled) connId := by
  refine ⟨fair, fun closed => ?_⟩
  rw [phase_permission, if_pos rfl] at closed
  cases closed

end

section
variable (host acted next : Host) (connId : Int32) (phase : Phase)

theorem at_taken (taken : host.at connId phase next = some acted) : host.phase connId = phase ∧ acted = next := by
  unfold Host.at at taken
  split at taken
  · rename_i here
    exact ⟨here, (Option.some.inj taken).symm⟩
  · cases taken

theorem at_named (distinct : Distinct host) (present : phase ≠ .absent)
    (taken : host.at connId phase next = some acted) : connId ≠ invalidPrivacyModeConnId ∧ host.phase connId = phase ∧ acted = next := by
  obtain ⟨here, shape⟩ := at_taken host acted next connId phase taken
  exact ⟨distinct_named host distinct connId (by rw [here]; exact present), here, shape⟩

end

section
variable (setup : Setup)

section
variable (host : Host) (index : Nat) (thread : TurnOnThread) (outcome : OnOutcome)

theorem finish_heard (waits : host.phase thread.connId = .waiting thread.ticket) : host.finishThread setup index thread outcome =
      Host.setPhase { host with mode := (turnOnPrivacySync setup host.mode thread.implKey thread.connId outcome).1, threads := host.threads.eraseIdx index }
        thread.connId (afterTurnOn (turnOnPrivacySync setup host.mode thread.implKey thread.connId outcome).2) := if_pos waits

theorem finish_unheard (waits : host.phase thread.connId ≠ .waiting thread.ticket) : host.finishThread setup index thread outcome =
      { host with mode := (turnOnPrivacySync setup host.mode thread.implKey thread.connId outcome).1, threads := host.threads.eraseIdx index } := if_neg waits

end

theorem thread_moved (host : Host) (index : Nat) (outcome : OnOutcome) (thread : TurnOnThread) (distinct : Distinct host)
    (found : host.threads[index]? = some thread) :
    Moved host (host.finishThread setup index thread outcome) thread.connId ∧
      (Owned host → (Clean host (host.finishThread setup index thread outcome) thread.connId ↔ Orderly setup host (.thread index outcome))) := by
  have named := distinct.threads thread (List.mem_of_getElem? found)
  have own := own_turn_on setup host.mode thread.implKey thread.connId outcome named
  have rest : ∀ other ∈ host.threads.eraseIdx index, other ∈ host.threads := fun other listed => List.mem_of_mem_eraseIdx listed
  have fits : Orderly setup host (.thread index outcome) ↔
      (host.phase thread.connId = .closed → ¬ Takes setup host.mode thread.implKey outcome) := by
    simp only [Orderly, found, Option.mem_def, Option.some.injEq, forall_eq']
  rw [fits]
  by_cases waits : host.phase thread.connId = .waiting thread.ticket
  · rw [finish_heard setup host index thread outcome waits]
    have unclosed : host.phase thread.connId ≠ .closed := by
      rw [waits]
      exact nofun
    constructor
    · have moved := moved_phase { host with threads := host.threads.eraseIdx index } _ thread.connId
        (afterTurnOn (turnOnPrivacySync setup host.mode thread.implKey thread.connId outcome).2) named own.holder
      exact { moved with threads := fun other listed => (moved.threads other listed).imp_left (rest other) }
    · intro owned
      constructor
      · exact fun _ closed => absurd closed unclosed
      · intro _
        have clean := clean_phase { host with threads := host.threads.eraseIdx index } _ thread.connId
          (afterTurnOn (turnOnPrivacySync setup host.mode thread.implKey thread.connId outcome).2) own.fair
          (fun closed => absurd closed (after_turn_on_open _))
        exact ⟨clean.fair, clean.closed⟩
  · rw [finish_unheard setup host index thread outcome waits]
    refine ⟨moved_mode host _ _ thread.connId named own.holder rest, fun owned => ?_⟩
    constructor
    · intro clean closed takes
      apply clean.closed closed
      exact (turn_on_sync_free setup host.mode thread.implKey thread.connId outcome named takes.1).trans (if_pos takes)
    · intro orderly
      refine ⟨own.fair, fun closed => ?_⟩
      -- The closed connection did not hold the mode before, and the thread did not take it.
      have before : host.holder ≠ thread.connId := owned.closed thread.connId closed
      change getPrivacyModeConnId (turnOnPrivacySync setup host.mode thread.implKey thread.connId outcome).1 ≠ thread.connId
      by_cases free : getPrivacyModeConnId host.mode = invalidPrivacyModeConnId
      · rw [turn_on_sync_free setup host.mode thread.implKey thread.connId outcome named free, if_neg (orderly closed)]
        exact named.symm
      · rw [turn_on_sync_other setup host.mode thread.implKey thread.connId outcome free before]
        exact before

theorem clear_moved (host acted : Host) (connId : Int32) (outcome : Except String Unit) (distinct : Distinct host)
    (taken : act setup host (.clear connId outcome) = some acted) :
    Moved host acted connId ∧ (Owned host → (Clean host acted connId ↔ Orderly setup host (.clear connId outcome))) := by
  obtain ⟨named, _, rfl⟩ := at_named host acted _ connId .clearing distinct nofun taken
  have ended := turn_off_holder host.mode invalidPrivacyModeConnId outcome (Or.inr (Or.inl rfl))
  refine ⟨moved_phase host _ connId .idle named (Or.inr (Or.inl ended)), fun _ => ?_⟩
  constructor
  · intro clean
    by_cases free : host.holder = invalidPrivacyModeConnId
    · exact Or.inl free
    by_cases own : host.holder = connId
    · exact Or.inr own
    exact absurd clean.fair (unfair_ended host.mode _ connId free own ended)
  · intro orderly
    exact clean_phase host _ connId .idle (fair_own host.mode _ connId orderly) nofun

section
variable (host : Host) (connId : Int32)

theorem quiet_moved (phase : Phase) (label : Label) (named : connId ≠ invalidPrivacyModeConnId)
    (settled : phase = .closed → host.holder ≠ connId) (fits : Orderly setup host label) :
    Moved host (host.setPhase connId phase) connId ∧
      (Owned host → (Clean host (host.setPhase connId phase) connId ↔ Orderly setup host label)) :=
  ⟨moved_phase host host.mode connId phase named (Or.inl rfl),
    fun _ => iff_of_true (clean_phase host host.mode connId phase (fair_same _ _) settled) fits⟩

theorem off_moved (outcome : Except String Unit) (phase : Phase) (label : Label)
    (named : connId ≠ invalidPrivacyModeConnId) (fits : Orderly setup host label) :
    Moved host ((host.turnOff connId outcome).setPhase connId phase) connId ∧
      (Owned host → (Clean host ((host.turnOff connId outcome).setPhase connId phase) connId ↔ Orderly setup host label)) := by
  have own := own_turn_off host.mode connId outcome named
  refine ⟨moved_phase host _ connId phase named own.holder, fun _ => iff_of_true ?_ fits⟩
  exact clean_phase host _ connId phase own.fair (fun _ => turned_off host.mode connId outcome named)

theorem spawn_moved (implKey : String) (named : connId ≠ invalidPrivacyModeConnId) :
    Moved host (host.spawn connId implKey) connId ∧ Clean host (host.spawn connId implKey) connId := by
  have moved := moved_phase host host.mode connId (.waiting host.tickets) named (Or.inl rfl)
  have clean := clean_phase host host.mode connId (.waiting host.tickets) (fair_same _ _) nofun
  refine ⟨⟨named, moved.holder, moved.others, ?_⟩, ⟨clean.fair, clean.closed⟩⟩
  intro thread listed
  obtain old | fresh := List.mem_append.mp listed
  · exact Or.inl old
  · exact Or.inr (congrArg TurnOnThread.connId (List.mem_singleton.mp fresh))

theorem same_moved (phase : Phase) (label : Label) (named : connId ≠ invalidPrivacyModeConnId)
    (here : host.phase connId = phase) (unclosed : phase ≠ .closed) (fits : Orderly setup host label) :
    Moved host host connId ∧ (Owned host → (Clean host host connId ↔ Orderly setup host label)) := by
  refine ⟨moved_mode host host.mode host.threads connId named (Or.inl rfl) (fun _ listed => listed), fun _ => iff_of_true ?_ fits⟩
  exact ⟨fair_same _ _, fun closed => absurd (here.symm.trans closed) unclosed⟩

end

theorem act_moved (host acted : Host) (label : Label) (connId : Int32) (distinct : Distinct host)
    (actor_is : actor host label = some connId) (taken : act setup host label = some acted) :
    Moved host acted connId ∧ (Owned host → (Clean host acted connId ↔ Orderly setup host label)) := by
  cases label with
  | accept other authedRemote privacyMode =>
      obtain rfl := Option.some.inj actor_is
      dsimp only [act] at taken
      split at taken
      · rename_i fresh
        obtain rfl := Option.some.inj taken
        have phases : ∀ one, Host.phase { host with conn := Function.update host.conn other ⟨.idle, authedRemote, privacyMode⟩ } one =
            if one = other then .idle else host.phase one := by
          intro one
          unfold Host.phase
          dsimp only
          rw [Function.update_apply]
          split <;> rfl
        refine ⟨⟨fresh.1, Or.inl rfl, ?_, fun thread listed => Or.inl listed⟩, fun _ => iff_of_true ⟨fair_same _ _, ?_⟩ trivial⟩
        · intro one differs
          rw [phases, if_neg differs]
        · intro closed
          rw [phases, if_pos rfl] at closed
          cases closed
      · cases taken
  | turnOn other implKey =>
      obtain rfl := Option.some.inj actor_is
      obtain ⟨named, here, rfl⟩ := at_named host acted _ other .idle distinct nofun taken
      split
      · exact quiet_moved setup host other _ _ named nofun trivial
      · exact same_moved setup host other .idle _ named here nofun trivial
  | decide other =>
      obtain rfl := Option.some.inj actor_is
      dsimp only [act] at taken
      split at taken
      · rename_i implKey here
        have named := distinct_named host distinct other (by rw [here]; exact nofun)
        obtain rfl := Option.some.inj taken
        split
        · obtain ⟨moved, clean⟩ := spawn_moved host other implKey named
          exact ⟨moved, fun _ => iff_of_true clean trivial⟩
        · exact quiet_moved setup host other _ _ named nofun trivial
      · cases taken
  | call other outcome =>
      obtain rfl := Option.some.inj actor_is
      dsimp only [act] at taken
      split at taken
      · rename_i implKey here
        have named := distinct_named host distinct other (by rw [here]; exact nofun)
        obtain rfl := Option.some.inj taken
        have own := own_turn_on setup host.mode implKey other outcome named
        refine ⟨moved_phase host _ other _ named own.holder, fun _ => iff_of_true ?_ trivial⟩
        exact clean_phase host _ other _ own.fair (fun closed => absurd closed (after_turn_on_open _))
      · cases taken
  | thread index outcome =>
      dsimp only [actor] at actor_is
      dsimp only [act] at taken
      obtain ⟨thread, found, rfl⟩ := Option.map_eq_some_iff.mp taken
      rw [found] at actor_is
      obtain rfl := Option.some.inj actor_is
      exact thread_moved setup host index outcome thread distinct found
  | giveUp other =>
      obtain rfl := Option.some.inj actor_is
      dsimp only [act] at taken
      split at taken
      · rename_i ticket here
        have named := distinct_named host distinct other (by rw [here]; exact nofun)
        obtain rfl := Option.some.inj taken
        exact quiet_moved setup host other _ _ named nofun trivial
      · cases taken
  | check other fine outcome =>
      obtain rfl := Option.some.inj actor_is
      obtain ⟨named, here, rfl⟩ := at_named host acted _ other .checking distinct nofun taken
      cases fine with
      | true => exact quiet_moved setup host other .idle _ named nofun trivial
      | false => exact off_moved setup host other outcome .idle _ named trivial
  | look other =>
      obtain rfl := Option.some.inj actor_is
      obtain ⟨named, here, rfl⟩ := at_named host acted _ other .failed distinct nofun taken
      refine quiet_moved setup host other _ _ named ?_ trivial
      intro closed
      split at closed <;> cases closed
  | clear other outcome =>
      obtain rfl := Option.some.inj actor_is
      exact clear_moved setup host acted other outcome distinct taken
  | turnOff other outcome =>
      obtain rfl := Option.some.inj actor_is
      obtain ⟨named, here, rfl⟩ := at_named host acted _ other .idle distinct nofun taken
      split
      · have own := own_turn_off host.mode other outcome named
        refine ⟨moved_mode host _ host.threads other named own.holder (fun _ listed => listed), fun _ => iff_of_true ⟨own.fair, ?_⟩ trivial⟩
        exact fun _ => turned_off host.mode other outcome named
      · exact same_moved setup host other .idle _ named here nofun trivial
  | permit other =>
      obtain rfl := Option.some.inj actor_is
      obtain ⟨named, here, rfl⟩ := at_named host acted _ other .idle distinct nofun taken
      exact ⟨moved_permission host host.mode other true named (Or.inl rfl),
        fun _ => iff_of_true (clean_permission host host.mode other true (fair_same _ _)) trivial⟩
  | revoke other =>
      obtain rfl := Option.some.inj actor_is
      obtain ⟨named, here, rfl⟩ := at_named host acted _ other .idle distinct nofun taken
      split
      · exact quiet_moved setup host other _ _ named nofun trivial
      · exact ⟨moved_permission host host.mode other false named (Or.inl rfl),
          fun _ => iff_of_true (clean_permission host host.mode other false (fair_same _ _)) trivial⟩
  | revokeOff other outcome =>
      obtain rfl := Option.some.inj actor_is
      obtain ⟨named, here, rfl⟩ := at_named host acted _ other .revoking distinct nofun taken
      have own := own_turn_off host.mode other outcome named
      split
      · exact ⟨moved_permission host _ other false named own.holder, fun _ => iff_of_true (clean_permission host _ other false own.fair) trivial⟩
      · exact off_moved setup host other outcome .idle _ named trivial
  | leave other =>
      obtain rfl := Option.some.inj actor_is
      obtain ⟨named, here, rfl⟩ := at_named host acted _ other .idle distinct nofun taken
      exact quiet_moved setup host other _ _ named nofun trivial
  | cleanUp other =>
      obtain rfl := Option.some.inj actor_is
      obtain ⟨named, here, rfl⟩ := at_named host acted _ other .leaving distinct nofun taken
      by_cases own : host.holder = other
      · rw [if_pos own]
        exact quiet_moved setup host other _ _ named nofun trivial
      · rw [if_neg own]
        exact quiet_moved setup host other _ _ named (fun _ => own) trivial
  | release other outcome =>
      obtain rfl := Option.some.inj actor_is
      obtain ⟨named, here, rfl⟩ := at_named host acted _ other .releasing distinct nofun taken
      exact off_moved setup host other outcome .closed _ named trivial
  | localOff outcome => cases actor_is
  | localSwitch implKey => cases actor_is

-- The local user interface only changes the mode, and leaves it free where it does.
theorem act_local (host acted : Host) (label : Label) (actor_is : actor host label = none) (taken : act setup host label = some acted) :
    Orderly setup host label ∧ acted.conn = host.conn ∧ acted.threads = host.threads ∧
      (acted.holder = host.holder ∨ acted.holder = invalidPrivacyModeConnId) := by
  cases label with
  | localOff outcome =>
      obtain rfl := Option.some.inj taken
      exact ⟨trivial, rfl, rfl, Or.inr (turn_off_holder host.mode invalidPrivacyModeConnId outcome (Or.inr (Or.inl rfl)))⟩
  | localSwitch implKey =>
      obtain rfl := Option.some.inj taken
      refine ⟨trivial, rfl, rfl, ?_⟩
      obtain same | free := switch_holder setup host.mode implKey
      · exact Or.inl (congrArg getPrivacyModeConnId same)
      · exact Or.inr free
  | thread index outcome =>
      dsimp only [actor] at actor_is
      dsimp only [act] at taken
      rw [Option.map_eq_none_iff.mp actor_is] at taken
      cases taken
  | _ => cases actor_is

theorem step_taken (host next : Host) (label : Label) (taken : step setup host label = some next) :
    ∃ acted, act setup host label = some acted ∧
      next = { acted with lost := host.lost ++ losses host.mode acted.mode (actor host label) } := by
  obtain ⟨acted, did, rfl⟩ := Option.map_eq_some_iff.mp taken
  exact ⟨acted, did, rfl⟩

theorem step_distinct (host next : Host) (label : Label) (distinct : Distinct host) (taken : step setup host label = some next) :
    Distinct next := by
  obtain ⟨acted, did, rfl⟩ := step_taken setup host next label taken
  obtain local_ | ⟨connId, remote⟩ := Option.eq_none_or_eq_some (actor host label)
  · obtain ⟨_, conn, threads, _⟩ := act_local setup host acted label local_ did
    refine ⟨?_, fun thread listed => distinct.threads thread (threads ▸ listed)⟩
    exact (congrArg (fun conn => (conn invalidPrivacyModeConnId).phase) conn).trans distinct.conns
  · have moved := (act_moved setup host acted label connId distinct remote did).1
    refine ⟨(moved.others invalidPrivacyModeConnId moved.named.symm).trans distinct.conns, ?_⟩
    intro thread listed
    obtain old | own := moved.threads thread listed
    · exact distinct.threads thread old
    · rw [own]
      exact moved.named

-- A connection that has closed before keeps off the mode, whoever of the others takes it.
theorem closed_kept (host acted : Host) (connId other : Int32) (distinct : Distinct host) (owned : Owned host)
    (moved : Moved host acted connId) (differs : other ≠ connId) (closed : acted.phase other = .closed) : acted.holder ≠ other := by
  have before : host.phase other = .closed := (moved.others other differs).symm.trans closed
  obtain same | free | own := moved.holder
  · rw [same]
    exact owned.closed other before
  · rw [free]
    exact (distinct_named host distinct other (by rw [before]; exact nofun)).symm
  · rw [own]
    exact differs.symm

theorem step_exact (host next : Host) (label : Label) (distinct : Distinct host) (owned : Owned host)
    (taken : step setup host label = some next) : Owned next ↔ Orderly setup host label := by
  obtain ⟨acted, did, rfl⟩ := step_taken setup host next label taken
  obtain local_ | ⟨connId, remote⟩ := Option.eq_none_or_eq_some (actor host label)
  · obtain ⟨fits, conn, threads, holder⟩ := act_local setup host acted label local_ did
    refine iff_of_true ⟨?_, ?_⟩ fits
    · rw [local_]
      exact List.forall_mem_append.mpr ⟨owned.lost, fair_local host.mode acted.mode⟩
    · intro other closed
      have before : host.phase other = .closed := (congrArg (fun conn => (conn other).phase) conn).symm.trans closed
      change acted.holder ≠ other
      obtain same | free := holder
      · rw [same]
        exact owned.closed other before
      · rw [free]
        exact (distinct_named host distinct other (by rw [before]; exact nofun)).symm
  · obtain ⟨moved, exact_⟩ := act_moved setup host acted label connId distinct remote did
    rw [← exact_ owned, remote]
    constructor
    · intro after
      exact ⟨(List.forall_mem_append.mp after.lost).2, after.closed connId⟩
    · intro clean
      refine ⟨List.forall_mem_append.mpr ⟨owned.lost, clean.fair⟩, ?_⟩
      intro other closed
      by_cases own : other = connId
      · rw [own]
        exact clean.closed (own ▸ closed)
      · exact closed_kept host acted connId other distinct owned moved own closed

def start (mode : Option PrivacyMode) : Host :=
  { mode := mode, conn := fun _ => { phase := .absent, authedRemote := false, privacyMode := false }, threads := [], tickets := 0, lost := [] }

-- From a start without connections, whichever implementation is in place.
theorem privacy_owned (mode : Option PrivacyMode) (past : List (Host × Label)) (host : Host)
    (traced : Machine.Traced (step setup) (start mode) past host) :
    ((∀ entry ∈ past, Owned entry.1) ∧ Owned host) ↔ ∀ entry ∈ past, Orderly setup entry.1 entry.2 := by
  apply Machine.traced_exact (step setup) Distinct Owned (Orderly setup) (start mode) host past ⟨rfl, nofun⟩ ⟨nofun, nofun⟩ _ _ traced
  · intro host label next distinct taken
    exact step_distinct setup host next label distinct taken
  · intro host label next distinct owned taken
    exact step_exact setup host next label distinct owned taken

end

-- A synchronous implementation and an asynchronous one.
def desktop : Setup :=
  { creator := fun implKey => if implKey = "mag" then some false else if implKey = "virtual_display" then some true else none,
    supportedImpl := fun implKey => implKey, supported := true }

-- The first connection turns privacy mode on and off; the second then has it and leaves.
def turns : List Label :=
  [.accept 1 true true, .accept 2 true true, .turnOn 1 "mag", .decide 1, .call 1 .took, .check 1 true (.ok ()), .turnOff 1 (.ok ()),
   .turnOn 2 "mag", .decide 2, .call 2 .took, .check 2 true (.ok ()), .leave 2, .cleanUp 2, .release 2 (.ok ())]

theorem turns_run : (Machine.run (step desktop) (start none) turns).isSome = true := by decide

theorem privacy_owned_turns :
    (∀ entry ∈ Machine.trace (step desktop) (start none) turns, Owned entry.1) ∧
      Owned ((Machine.run (step desktop) (start none) turns).get turns_run) := by
  refine (privacy_owned desktop none _ _ (Machine.traced_run (step desktop) (start none) turns turns_run)).mpr ?_
  decide

-- The second connection asks while the first holds privacy mode, and is refused.
def refusal : List Label :=
  [.accept 1 true true, .accept 2 true true, .turnOn 1 "mag", .decide 1, .call 1 .took, .check 1 true (.ok ()),
   .turnOn 2 "mag", .decide 2, .call 2 .took, .look 2, .clear 2 (.ok ())]

-- The thread is done when its requester has given up and gone.
def lateThread : List Label :=
  [.accept 1 true true, .turnOn 1 "virtual_display", .decide 1, .giveUp 1, .look 1, .leave 1, .cleanUp 1, .thread 0 .took]

def virtualDisplay : Option PrivacyMode := some { implKey := "virtual_display", isAsync := true, preConnId := invalidPrivacyModeConnId }

theorem refusal_ends_other : (Machine.run (step desktop) (start none) refusal).map (fun host => (host.holder, host.lost)) = some (0, [(1, some 2)]) := by
  decide

theorem late_thread_holds : (Machine.run (step desktop) (start virtualDisplay) lateThread).map (fun host => (host.phase 1, host.holder)) = some (.closed, 1) := by
  decide

theorem privacy_not_owned :
    (∃ host, Machine.Reachable (step desktop) (start none) host ∧ ∃ entry ∈ host.lost, entry.2 ≠ some entry.1 ∧ entry.2 ≠ none) ∧
      ∃ host, Machine.Reachable (step desktop) (start virtualDisplay) host ∧ host.phase 1 = .closed ∧ host.holder = 1 := by
  constructor
  · obtain ⟨host, ran, state⟩ := Option.map_eq_some_iff.mp refusal_ends_other
    obtain ⟨_, lost⟩ := Prod.mk.inj state
    exact ⟨host, ⟨refusal, ran⟩, (1, some 2), by rw [lost]; exact List.mem_singleton_self _, by decide, nofun⟩
  · obtain ⟨host, ran, state⟩ := Option.map_eq_some_iff.mp late_thread_holds
    obtain ⟨phase, holder⟩ := Prod.mk.inj state
    exact ⟨host, ⟨lateThread, ran⟩, phase, holder⟩

end GotechDesk.Privacy
