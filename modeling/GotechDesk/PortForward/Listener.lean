import GotechDesk.PortForward.TunnelHandle

set_option autoImplicit false

namespace GotechDesk.PortForward

-- A handle is named by its place among the handles this Tunnel has made.
inductive TunnelState where
  | unset
  | muxed (handle : Nat)
  | legacy
  | failed
deriving DecidableEq, Repr

inductive Claim where
  | claimed
  | muxed (handle : Nat)
  | legacy
deriving DecidableEq, Repr

def TunnelState.claim : TunnelState → Claim
  | .unset | .failed => .claimed
  | .muxed handle => .muxed handle
  | .legacy => .legacy

structure LoginOutcome where
  mux : Bool
  localEof : Bool
  prebuf : Bytes
deriving DecidableEq, Repr

-- What a login comes back with: an error, `Ok(None)` or `Ok(Some(_))`.
inductive LoginResult (R : Type) where
  | failed (error : String)
  | ended
  | done (outcome : R)
deriving DecidableEq, Repr

-- Where the accept loop stands. Between `spawning` and the publication before it
-- there is no await, but the tunnel loops run on other threads.
inductive AcceptPoint where
  | accepting
  | establishing
  | spawning (handle : Nat) (outcome : LoginOutcome)
  | opening (handle : Nat) (prebuf : Bytes)
  | inserting (handle : Nat) (prebuf : Bytes)
  | loggingIn
  | left
deriving DecidableEq, Repr

-- A listener with its Tunnel: the shared cell, every handle `set_muxed` has made and
-- with it the loop spawned for it, and the accept loop. `pipes` counts the raw pipes
-- spawned, `errors` is what the interface was told.
structure Listener where
  remoteHost : String
  remotePort : Int
  state : TunnelState
  handles : List TunnelHandle
  point : AcceptPoint
  pipes : Nat
  errors : List String
deriving DecidableEq, Repr

def Listener.new (remoteHost : String) (remotePort : Int) : Listener :=
  { remoteHost, remotePort, state := .unset, handles := [], point := .accepting, pipes := 0, errors := [] }

-- `mux` is the window's setting as this accept reads it.
def Listener.accept (l : Listener) (mux : Bool) : Listener :=
  match if mux then l.state.claim else .legacy with
  | .muxed handle => { l with point := .opening handle [] }
  | .claimed => { l with point := .establishing }
  | .legacy => { l with point := .loggingIn }

def Listener.setMuxed (l : Listener) (outcome : LoginOutcome) : Listener :=
  { l with handles := l.handles ++ [.new], state := .muxed l.handles.length, point := .spawning l.handles.length outcome }

def Listener.setLegacy (l : Listener) : Listener := { l with state := .legacy }
def Listener.setFailed (l : Listener) : Listener := { l with state := .failed }

def Listener.establishTunnel (l : Listener) (closePortForward : Bool) : LoginResult LoginOutcome → Listener
  | .done outcome =>
      if outcome.mux then l.setMuxed outcome
      else { l.setLegacy with point := .accepting, pipes := if outcome.localEof then l.pipes else l.pipes + 1 }
  | .failed error =>
      if closePortForward then { l.setFailed with point := .left }
      else { l.setFailed with point := .accepting, errors := l.errors ++ [error] }
  | .ended => if closePortForward then { l.setFailed with point := .left } else { l.setFailed with point := .accepting }

def Listener.connectAndLogin (l : Listener) (closePortForward : Bool) : LoginResult Unit → Listener
  | .done _ => { l with point := .accepting, pipes := l.pipes + 1 }
  | .failed error =>
      if closePortForward then { l with point := .left } else { l with point := .accepting, errors := l.errors ++ [error] }
  | .ended => if closePortForward then { l with point := .left } else { l with point := .accepting }

-- What the tasks of one handle do by themselves: `open` is the accept loop's.
def HandleAct.opens : HandleAct → Bool
  | .openCheck | .openInsert _ _ _ => true
  | _ => false

inductive ListenerAct where
  | accept (mux : Bool)
  | establish (closePortForward : Bool) (result : LoginResult LoginOutcome)
  | spawn
  | openCheck
  | openInsert
  | login (closePortForward : Bool) (result : LoginResult Unit)
  | leave
  | loop (handle : Nat) (act : HandleAct)
deriving DecidableEq, Repr

-- The closed-sink test of `open`, and the rest of it.
def Listener.openCheck (l : Listener) (k : Nat) (prebuf : Bytes) : Option Listener :=
  l.handles[k]?.map fun h =>
    match h.openCheck with
    | none => { l with point := .accepting }
    | some next => { l with handles := l.handles.set k next, point := .inserting k prebuf }

def Listener.openInsert (l : Listener) (k : Nat) (prebuf : Bytes) : Option Listener :=
  (l.handles[k]?.bind fun h => h.openInsert l.remoteHost l.remotePort prebuf).map
    fun next => { l with handles := l.handles.set k next, point := .accepting }

def AcceptPoint.spawns (point : AcceptPoint) (k : Nat) : Bool :=
  match point with
  | .spawning handle _ => handle == k
  | _ => false

-- One step of the tunnel loop of handle k or of a task of one of its channels. The
-- loop's closing `send_replace` is the only one that touches the cell.
def Listener.loop (l : Listener) (k : Nat) (act : HandleAct) : Option Listener :=
  if act.opens || l.point.spawns k then none
  else (l.handles[k]?.bind fun h => h.step act).map
    fun next => { l with handles := l.handles.set k next, state := if act = .unset then .unset else l.state }

def Listener.step (l : Listener) : ListenerAct → Option Listener
  | .accept mux => if l.point = .accepting then some (l.accept mux) else none
  | .establish close result => if l.point = .establishing then some (l.establishTunnel close result) else none
  | .spawn =>
      match l.point with
      | .spawning k outcome => some { l with point := if outcome.localEof then .accepting else .opening k outcome.prebuf }
      | _ => none
  | .openCheck =>
      match l.point with
      | .opening k prebuf => l.openCheck k prebuf
      | _ => none
  | .openInsert =>
      match l.point with
      | .inserting k prebuf => l.openInsert k prebuf
      | _ => none
  | .login close result => if l.point = .loggingIn then some (l.connectAndLogin close result) else none
  | .leave => if l.point = .accepting then some { l with point := .left } else none
  | .loop k act => l.loop k act

-- The loop has not yet put the cell back.
def LoopPoint.beforeReset : LoopPoint → Bool
  | .running | .broken | .cleared | .tornDown => true
  | _ => false

def Listener.resetDue (l : Listener) (k : Nat) : Prop := ∃ h, l.handles[k]? = some h ∧ h.loop.beforeReset = true

-- Spawned, and not yet at its last statement.
def Listener.live (l : Listener) (k : Nat) : Prop := l.resetDue k ∧ l.point.spawns k = false

-- The cell names a handle exactly while that handle's reset is still to come, and a
-- login for a new tunnel is only under way when it names none.
structure Mode (l : Listener) : Prop where
  pinned : ∀ k, l.resetDue k ↔ l.state = .muxed k
  establishing : l.point = .establishing → l.state.claim = .claimed

theorem mode_new (remoteHost : String) (remotePort : Int) : Mode (.new remoteHost remotePort) := by
  refine ⟨fun k => ⟨?_, nofun⟩, nofun⟩
  rintro ⟨h, here, _⟩
  cases here

-- Only the reset itself moves a handle past its reset.
theorem handle_before_reset (h next : TunnelHandle) (act : HandleAct) (taken : h.step act = some next) :
    act = .unset ∧ h.loop.beforeReset = true ∧ next.loop.beforeReset = false ∨
      act ≠ .unset ∧ next.loop.beforeReset = h.loop.beforeReset := by
  cases handle_step h next act taken with
  | unset here => exact .inl ⟨rfl, by simp [here, LoopPoint.beforeReset], rfl⟩
  | task k act c after frame here allowed step =>
      apply Or.inr
      rw [enqueue_eq]
      exact ⟨nofun, rfl⟩
  | lostControl frame rest here | lostData frame rest here | breakLoop here | clear here | raiseTeardown here
  | dropControl here | dropData here => exact .inr ⟨nofun, by simp [here, LoopPoint.beforeReset]⟩
  | _ => exact .inr ⟨nofun, rfl⟩

section
variable (l : Listener)

theorem reset_due_set (k : Nat) (h next : TunnelHandle) (here : l.handles[k]? = some h) (point : AcceptPoint) (state : TunnelState) (j : Nat) :
    ({ l with handles := l.handles.set k next, point, state } : Listener).resetDue j ↔
      if j = k then next.loop.beforeReset = true else l.resetDue j := by
  obtain ⟨inside, _⟩ := List.getElem?_eq_some_iff.mp here
  by_cases same : j = k
  · subst same
    simp [Listener.resetDue, inside]
  · have apart : k ≠ j := fun equal => same equal.symm
    simp [Listener.resetDue, same, List.getElem?_set_ne apart]

-- A handle changed by anything but its reset leaves the mode as it was.
theorem mode_set (k : Nat) (h next : TunnelHandle) (here : l.handles[k]? = some h) (mode : Mode l)
    (same : next.loop.beforeReset = h.loop.beforeReset) (point : AcceptPoint)
    (login : point = .establishing → l.point = .establishing) :
    Mode { l with handles := l.handles.set k next, point } := by
  refine ⟨fun j => ?_, fun establishing => mode.establishing (login establishing)⟩
  have due := reset_due_set l k h next here point l.state j
  rw [due]
  by_cases equal : j = k
  · rw [if_pos equal, same, ← mode.pinned, equal]
    simp [Listener.resetDue, here]
  · rw [if_neg equal]
    exact mode.pinned j

theorem mode_point (mode : Mode l) (point : AcceptPoint) (pipes : Nat) (errors : List String)
    (login : point = .establishing → l.state.claim = .claimed) : Mode { l with point, pipes, errors } :=
  ⟨mode.pinned, login⟩

-- A login that did not give a tunnel publishes over a cell that names no handle.
theorem mode_publish (mode : Mode l) (claimed : l.state.claim = .claimed) (state : TunnelState)
    (plain : ∀ k, state ≠ .muxed k) (point : AcceptPoint) (pipes : Nat) (errors : List String) (beyond : point ≠ .establishing) :
    Mode { l with state, point, pipes, errors } := by
  refine ⟨fun k => ⟨fun due => ?_, fun same => absurd same (plain k)⟩, fun establishing => absurd establishing beyond⟩
  have named : l.state = .muxed k := (mode.pinned k).mp due
  rw [named] at claimed
  cases claimed

theorem mode_set_muxed (mode : Mode l) (claimed : l.state.claim = .claimed) (outcome : LoginOutcome) : Mode (l.setMuxed outcome) := by
  refine ⟨fun k => ⟨?_, ?_⟩, nofun⟩
  · rintro ⟨h, here, due⟩
    by_cases old : k < l.handles.length
    · have before : l.resetDue k := ⟨h, by simpa [Listener.setMuxed, List.getElem?_append_left old] using here, due⟩
      rw [(mode.pinned k).mp before] at claimed
      cases claimed
    · obtain ⟨inside, _⟩ := List.getElem?_eq_some_iff.mp here
      have last : k = l.handles.length := by
        simp only [Listener.setMuxed, List.length_append, List.length_singleton] at inside
        omega
      rw [last]
      rfl
  · intro named
    have last : l.handles.length = k := TunnelState.muxed.inj named
    exact ⟨.new, by simp [Listener.setMuxed, ← last], rfl⟩

theorem mode_establish (mode : Mode l) (here : l.point = .establishing) (close : Bool)
    (result : LoginResult LoginOutcome) : Mode (l.establishTunnel close result) := by
  have claimed := mode.establishing here
  cases result with
  | done outcome =>
      by_cases mux : outcome.mux = true
      · rw [Listener.establishTunnel, if_pos mux]
        exact mode_set_muxed l mode claimed outcome
      · rw [Listener.establishTunnel, if_neg mux]
        exact mode_publish l mode claimed .legacy nofun _ _ _ nofun
  | failed error | ended =>
      cases close with
      | true => exact mode_publish l mode claimed .failed nofun _ _ _ nofun
      | false => exact mode_publish l mode claimed .failed nofun _ _ _ nofun

theorem mode_accept (mode : Mode l) (mux : Bool) : Mode (l.accept mux) := by
  cases claim : (if mux then l.state.claim else .legacy) with
  | muxed handle =>
      rw [Listener.accept, claim]
      exact mode_point l mode _ _ _ nofun
  | claimed =>
      rw [Listener.accept, claim]
      apply mode_point l mode
      intro _
      cases mux with
      | true => exact claim
      | false => cases claim
  | legacy =>
      rw [Listener.accept, claim]
      exact mode_point l mode _ _ _ nofun

theorem mode_login (mode : Mode l) (close : Bool) (result : LoginResult Unit) : Mode (l.connectAndLogin close result) := by
  cases result with
  | done => exact mode_point l mode _ _ _ nofun
  | failed error | ended =>
      cases close with
      | true => exact mode_point l mode _ _ _ nofun
      | false => exact mode_point l mode _ _ _ nofun

end

section
variable (l next : Listener) (k : Nat)

-- What a step of a tunnel loop is: the reset of the handle the cell names, or a step
-- that leaves the cell alone.
theorem loop_step (act : HandleAct) (mode : Mode l) (taken : l.loop k act = some next) :
    ∃ h after, l.handles[k]? = some h ∧ h.step act = some after ∧
      (act = .unset ∧ l.state = .muxed k ∧ after.loop.beforeReset = false ∧
          next = { l with handles := l.handles.set k after, state := .unset } ∨
        act ≠ .unset ∧ after.loop.beforeReset = h.loop.beforeReset ∧ next = { l with handles := l.handles.set k after }) := by
  rw [Listener.loop] at taken
  split at taken
  · cases taken
  · obtain ⟨after, stepped, rfl⟩ := Option.map_eq_some_iff.mp taken
    obtain ⟨h, here, stepped⟩ := Option.bind_eq_some_iff.mp stepped
    refine ⟨h, after, here, stepped, ?_⟩
    rcases handle_before_reset h after act stepped with ⟨rfl, due, past⟩ | ⟨other, same⟩
    · exact .inl ⟨rfl, (mode.pinned k).mp ⟨h, here, due⟩, past, rfl⟩
    · exact .inr ⟨other, same, by rw [if_neg other]⟩

theorem mode_loop (act : HandleAct) (mode : Mode l) (taken : l.loop k act = some next) : Mode next := by
  obtain ⟨h, after, here, _, ⟨_, named, past, rfl⟩ | ⟨_, same, rfl⟩⟩ := loop_step l next k act mode taken
  · refine ⟨fun j => ⟨?_, nofun⟩, fun _ => rfl⟩
    rw [reset_due_set l k h after here l.point .unset j]
    by_cases equal : j = k
    · rw [if_pos equal, past]
      exact nofun
    · rw [if_neg equal, mode.pinned j, named]
      intro both
      exact absurd (TunnelState.muxed.inj both).symm equal
  · exact mode_set l k h after here mode same l.point id

theorem mode_open_check (prebuf : Bytes) (mode : Mode l) (taken : l.openCheck k prebuf = some next) : Mode next := by
  obtain ⟨h, here, rfl⟩ := Option.map_eq_some_iff.mp taken
  cases opened : h.openCheck with
  | none => exact mode_point l mode _ _ _ nofun
  | some after =>
      rcases handle_before_reset h after .openCheck opened with ⟨other, _⟩ | ⟨_, same⟩
      · cases other
      · exact mode_set l k h after here mode same _ nofun

theorem mode_open_insert (prebuf : Bytes) (mode : Mode l) (taken : l.openInsert k prebuf = some next) : Mode next := by
  obtain ⟨after, opened, rfl⟩ := Option.map_eq_some_iff.mp taken
  obtain ⟨h, here, opened⟩ := Option.bind_eq_some_iff.mp opened
  rcases handle_before_reset h after (.openInsert _ _ prebuf) opened with ⟨other, _⟩ | ⟨_, same⟩
  · cases other
  · exact mode_set l k h after here mode same _ nofun

end

theorem mode_step (l next : Listener) (act : ListenerAct) (mode : Mode l) (taken : l.step act = some next) : Mode next := by
  cases act with
  | accept mux =>
      obtain ⟨_, rfl⟩ := guarded_step _ _ _ taken
      exact mode_accept l mode mux
  | establish close result =>
      obtain ⟨here, rfl⟩ := guarded_step _ _ _ taken
      exact mode_establish l mode here close result
  | spawn =>
      simp only [Listener.step] at taken
      split at taken
      · cases taken
        apply mode_point l mode
        split <;> exact nofun
      · cases taken
  | openCheck =>
      simp only [Listener.step] at taken
      split at taken
      · exact mode_open_check l next _ _ mode taken
      · cases taken
  | openInsert =>
      simp only [Listener.step] at taken
      split at taken
      · exact mode_open_insert l next _ _ mode taken
      · cases taken
  | login close result =>
      obtain ⟨_, rfl⟩ := guarded_step _ _ _ taken
      exact mode_login l mode close result
  | leave =>
      obtain ⟨_, rfl⟩ := guarded_step _ _ _ taken
      exact mode_point l mode _ _ _ nofun
  | loop k act => exact mode_loop l next k act mode taken

theorem reachable_mode (remoteHost : String) (remotePort : Int) (l : Listener)
    (reach : Machine.Reachable Listener.step (.new remoteHost remotePort) l) : Mode l :=
  Machine.reachable_invariant Listener.step Mode _ l (mode_new remoteHost remotePort)
    (fun state act next mode taken => mode_step state next act mode taken) reach

-- The cell changes only where a login that found it free publishes, and where the loop it names resets it.
theorem state_step (l next : Listener) (act : ListenerAct) (mode : Mode l) (taken : l.step act = some next) :
    next.state = l.state ∨ l.state.claim = .claimed ∨ ∃ k, act = .loop k .unset ∧ l.state = .muxed k ∧ next.state = .unset := by
  cases act with
  | accept mux =>
      obtain ⟨_, rfl⟩ := guarded_step _ _ _ taken
      apply Or.inl
      rw [Listener.accept]
      split <;> rfl
  | establish close result =>
      obtain ⟨here, rfl⟩ := guarded_step _ _ _ taken
      exact .inr (.inl (mode.establishing here))
  | spawn =>
      simp only [Listener.step] at taken
      split at taken
      · cases taken
        exact .inl rfl
      · cases taken
  | openCheck =>
      simp only [Listener.step] at taken
      split at taken
      · obtain ⟨h, here, rfl⟩ := Option.map_eq_some_iff.mp taken
        apply Or.inl
        cases h.openCheck <;> rfl
      · cases taken
  | openInsert =>
      simp only [Listener.step] at taken
      split at taken
      · obtain ⟨after, opened, rfl⟩ := Option.map_eq_some_iff.mp taken
        exact .inl rfl
      · cases taken
  | login close result =>
      obtain ⟨_, rfl⟩ := guarded_step _ _ _ taken
      apply Or.inl
      cases result <;> cases close <;> rfl
  | leave =>
      obtain ⟨_, rfl⟩ := guarded_step _ _ _ taken
      exact .inl rfl
  | loop k act =>
      obtain ⟨h, after, here, _, ⟨rfl, named, _, rfl⟩ | ⟨_, _, rfl⟩⟩ := loop_step l next k act mode taken
      · exact .inr (.inr ⟨k, rfl, named, rfl⟩)
      · exact .inl rfl

theorem legacy_step (l next : Listener) (act : ListenerAct) (mode : Mode l) (taken : l.step act = some next)
    (legacy : l.state = .legacy) : next.state = .legacy := by
  rcases state_step l next act mode taken with same | claimed | ⟨k, _, named, _⟩
  · exact same.trans legacy
  · rw [legacy] at claimed
    cases claimed
  · rw [legacy] at named
    cases named

theorem legacy_run (l later : Listener) (acts : List ListenerAct) (mode : Mode l) (legacy : l.state = .legacy)
    (ran : Machine.run Listener.step l acts = some later) : later.state = .legacy := by
  have kept := Machine.run_invariant Listener.step (fun l => Mode l ∧ l.state = .legacy)
    (fun state act next both taken => ⟨mode_step state next act both.1 taken, legacy_step state next act both.1 taken both.2⟩)
    acts l later ⟨mode, legacy⟩ ran
  exact kept.2

-- One listener, any order of its accepts and of the loops it spawned: one live loop at
-- most, a reset only over the loop's own publication, a handle named only before its
-- loop's reset (so that an accept with no loop left asks the peer again), and legacy for good.
theorem listener_mode (remoteHost : String) (remotePort : Int) (l : Listener)
    (reach : Machine.Reachable Listener.step (.new remoteHost remotePort) l) :
    (∀ j k, l.live j → l.live k → j = k) ∧
    (∀ k next, l.step (.loop k .unset) = some next → l.state = .muxed k ∧ next.state = .unset) ∧
    (∀ k, l.state = .muxed k → l.resetDue k) ∧
    (l.state ≠ .legacy → (∀ k, ¬ l.resetDue k) → l.point = .accepting →
      l.step (.accept true) = some { l with point := .establishing }) ∧
    (∀ acts later, l.state = .legacy → Machine.run Listener.step l acts = some later → later.state = .legacy) := by
  have mode := reachable_mode remoteHost remotePort l reach
  refine ⟨?_, ?_, ?_, ?_, ?_⟩
  · intro j k first second
    have one := (mode.pinned j).mp first.1
    have two := (mode.pinned k).mp second.1
    exact TunnelState.muxed.inj (one.symm.trans two)
  · intro k next taken
    obtain ⟨h, after, here, _, ⟨_, named, _, rfl⟩ | ⟨other, _⟩⟩ := loop_step l next k .unset mode taken
    · exact ⟨named, rfl⟩
    · exact absurd rfl other
  · intro k named
    exact (mode.pinned k).mpr named
  · intro free beyond here
    have claimed : l.state.claim = .claimed := by
      cases state : l.state with
      | unset => rfl
      | failed => rfl
      | legacy => exact absurd state free
      | muxed k => exact absurd ((mode.pinned k).mpr state) (beyond k)
    simp [Listener.step, here, Listener.accept, claimed]
  · intro acts later legacy ran
    exact legacy_run l later acts mode legacy ran

-- The first tunnel ends while its channel is being opened; the next accept logs in
-- again and is given a second one.
def reestablished : List ListenerAct :=
  [.accept true, .establish false (.done ⟨true, false, []⟩), .spawn, .loop 0 .breakLoop, .openCheck, .loop 0 .clear, .openInsert,
    .loop 0 .raiseTeardown, .loop 0 .unset, .accept true, .establish false (.done ⟨true, true, []⟩), .spawn]

theorem reestablished_runs : (Machine.run Listener.step (.new "localhost" 80) reestablished).isSome = true := by decide

theorem listener_mode_reestablished :
    let l := (Machine.run Listener.step (.new "localhost" 80) reestablished).get reestablished_runs
    l.state = .muxed 1 ∧ (∀ j k, l.live j → l.live k → j = k) ∧ (∀ k, l.state = .muxed k → l.resetDue k) := by
  have mode := listener_mode "localhost" 80 _ (Machine.reachable_run Listener.step _ _ reestablished_runs)
  exact ⟨by decide, mode.1, mode.2.2.1⟩

end GotechDesk.PortForward
