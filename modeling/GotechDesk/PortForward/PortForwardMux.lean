import GotechDesk.PortForward.TunnelHandle

set_option autoImplicit false

namespace GotechDesk.PortForward

-- Where the connection that owns the mux stands: its main loop, then on_close
-- taking the mux and running its close_all, then the receiver of `tx` dropped.
inductive MuxPoint where
  | running
  | broken
  | cleared
  | tornDown
  | returned
deriving DecidableEq, Repr

-- The controlled end. `handled`, `emitted` and `sent` are histories: the ids of the
-- `open` frames handled, the frames handed to `tx`, and those on the stream.
structure PortForwardMux where
  channels : List Channel
  loginTarget : String
  loop : MuxPoint
  teardown : Bool
  tx : List Frame
  handled : List ChannelId
  emitted : List Frame
  sent : List Frame
deriving DecidableEq, Repr

def PortForwardMux.new (loginTarget : String) : PortForwardMux :=
  { channels := [], loginTarget, loop := .running, teardown := false, tx := [], handled := [], emitted := [], sent := [] }

def normalizePortForwardTarget (host : String) (port : Int) : String × Bool :=
  let isRdp := host == "RDP" && port == 0
  let name := if isRdp then "localhost" else host
  let number := if isRdp then 3389 else port
  ((if name = "" then "localhost" else name) ++ ":" ++ toString number, isRdp)

-- `retain`: an entry goes once its task has dropped the receiver.
def retain (channels : List Channel) : List Channel :=
  channels.map (fun c => if c.receiving then c else c.unlist)

def PortForwardMux.enqueue (m : PortForwardMux) (frame : Option Frame) : PortForwardMux :=
  { m with tx := m.tx ++ frame.toList, emitted := m.emitted ++ frame.toList }

def PortForwardMux.reply (m : PortForwardMux) (frame : Frame) : PortForwardMux := m.enqueue (some frame)

def PortForwardMux.onOpen (m : PortForwardMux) (id : ChannelId) (host : String) (port : Int) (window : Nat)
    (permitted : Bool) : PortForwardMux :=
  let kept := { m with channels := retain m.channels, handled := m.handled ++ [id] }
  if permitted then
    if maxChannels ≤ (liveIds kept.channels).length then
      kept.reply (.openedMsg id false "Too many port forward channels" 0)
    else if containsKey kept.channels id then kept
    else
      let target := normalizePortForwardTarget host port
      if target.1 = m.loginTarget then
        { kept with channels := kept.channels ++ [Channel.controlled id target.1 target.2 window] }
      else kept.reply (.openedMsg id false "Port forward target not authorized" 0)
  else kept.reply (.openedMsg id false "No permission of IP tunneling" 0)

def PortForwardMux.handle (m : PortForwardMux) (frame : Frame) (permitted : Bool) : PortForwardMux :=
  match frame with
  | .openMsg id host port window => m.onOpen id host port window permitted
  | _ => { m with channels := m.channels.map (fun c => c.onFrame frame) }

def PortForwardMux.allows (m : PortForwardMux) : Act → Bool
  | .toTunnel (.send sent) | .sendClose sent | .toSocket (.update sent) | .command sent | .connectFail sent
  | .sendOpened sent => sent == (m.loop != .returned)
  | .cancelHalves teardown => !teardown || m.teardown
  | _ => true

def PortForwardMux.task (m : PortForwardMux) (k : Nat) (act : Act) : Option PortForwardMux :=
  match m.channels[k]? with
  | none => none
  | some c =>
      if m.allows act then
        (c.step act).map (fun result => { m with channels := m.channels.set k result.1 }.enqueue result.2)
      else none

inductive MuxAct where
  | handle (frame : Frame) (permitted : Bool)
  | task (k : Nat) (act : Act)
  | transmit (sent : Bool)
  | breakLoop
  | clear
  | raiseTeardown
  | dropTx
deriving DecidableEq, Repr

def PortForwardMux.transmit (m : PortForwardMux) (sent : Bool) : Option PortForwardMux :=
  match m.loop, m.tx with
  | .running, frame :: rest =>
      if sent then some { m with tx := rest, sent := m.sent ++ [frame] }
      else some { m with tx := rest, loop := .broken }
  | _, _ => none

def PortForwardMux.step (m : PortForwardMux) : MuxAct → Option PortForwardMux
  | .handle frame permitted => if m.loop = .running then some (m.handle frame permitted) else none
  | .task k act => m.task k act
  | .transmit sent => m.transmit sent
  | .breakLoop => if m.loop = .running then some { m with loop := .broken } else none
  | .clear =>
      if m.loop = .broken then some { m with loop := .cleared, channels := m.channels.map Channel.unlist } else none
  | .raiseTeardown => if m.loop = .cleared then some { m with loop := .tornDown, teardown := true } else none
  | .dropTx => if m.loop = .tornDown then some { m with loop := .returned, tx := [] } else none

-- What handling one frame can do, `open` split by the answer it gets.
inductive Handled (m : PortForwardMux) (frame : Frame) (permitted : Bool) : PortForwardMux → Prop where
  | refused (id : ChannelId) (host : String) (port : Int) (window : Nat) (message : String)
      (opening : frame = .openMsg id host port window)
      (cause : permitted = false ∨ maxChannels ≤ (liveIds (retain m.channels)).length ∨
        containsKey (retain m.channels) id = false ∧ (normalizePortForwardTarget host port).1 ≠ m.loginTarget) :
      Handled m frame permitted
        ({ m with channels := retain m.channels, handled := m.handled ++ [id] }.reply (.openedMsg id false message 0))
  | ignored (id : ChannelId) (host : String) (port : Int) (window : Nat) (opening : frame = .openMsg id host port window)
      (live : containsKey (retain m.channels) id = true) :
      Handled m frame permitted { m with channels := retain m.channels, handled := m.handled ++ [id] }
  | accepted (id : ChannelId) (host : String) (port : Int) (window : Nat) (addr : String) (isRdp : Bool)
      (opening : frame = .openMsg id host port window) (room : (liveIds (retain m.channels)).length < maxChannels)
      (free : containsKey (retain m.channels) id = false)
      (target : normalizePortForwardTarget host port = (addr, isRdp)) :
      Handled m frame permitted
        { m with channels := retain m.channels ++ [Channel.controlled id addr isRdp window],
                 handled := m.handled ++ [id] }
  | routed (other : ∀ id host port window, frame ≠ .openMsg id host port window) :
      Handled m frame permitted { m with channels := m.channels.map (fun c => c.onFrame frame) }

theorem open_handled (m : PortForwardMux) (id : ChannelId) (host : String) (port : Int) (window : Nat) (permitted : Bool) :
    Handled m (.openMsg id host port window) permitted (m.onOpen id host port window permitted) := by
  cases permitted with
  | false => exact .refused id host port window _ rfl (.inl rfl)
  | true =>
      simp only [PortForwardMux.onOpen, if_true]
      by_cases full : maxChannels ≤ (liveIds (retain m.channels)).length
      · rw [if_pos full]
        exact .refused id host port window _ rfl (.inr (.inl full))
      · rw [if_neg full]
        by_cases live : containsKey (retain m.channels) id = true
        · rw [if_pos live]
          exact .ignored id host port window rfl live
        · rw [if_neg live]
          have free : containsKey (retain m.channels) id = false := by simpa using live
          by_cases target : (normalizePortForwardTarget host port).1 = m.loginTarget
          · rw [if_pos target]
            exact .accepted id host port window _ _ rfl (Nat.lt_of_not_le full) free rfl
          · rw [if_neg target]
            exact .refused id host port window _ rfl (.inr (.inr ⟨free, target⟩))

theorem frame_handled (m : PortForwardMux) (frame : Frame) (permitted : Bool) :
    Handled m frame permitted (m.handle frame permitted) := by
  cases frame with
  | openMsg id host port window => exact open_handled m id host port window permitted
  | _ => exact .routed (fun _ _ _ _ => by simp)

inductive MuxStep (m : PortForwardMux) : MuxAct → PortForwardMux → Prop where
  | handle (frame : Frame) (permitted : Bool) (next : PortForwardMux) (serving : m.loop = .running)
      (handled : Handled m frame permitted next) : MuxStep m (.handle frame permitted) next
  | task (k : Nat) (act : Act) (c next : Channel) (frame : Option Frame) (here : m.channels[k]? = some c)
      (allowed : m.allows act = true) (step : ChannelStep c act next frame) :
      MuxStep m (.task k act) ({ m with channels := m.channels.set k next }.enqueue frame)
  | sentFrame (frame : Frame) (rest : List Frame) (serving : m.loop = .running) (queued : m.tx = frame :: rest) :
      MuxStep m (.transmit true) { m with tx := rest, sent := m.sent ++ [frame] }
  | lostFrame (frame : Frame) (rest : List Frame) (serving : m.loop = .running) (queued : m.tx = frame :: rest) :
      MuxStep m (.transmit false) { m with tx := rest, loop := .broken }
  | breakLoop (serving : m.loop = .running) : MuxStep m .breakLoop { m with loop := .broken }
  | clear (here : m.loop = .broken) :
      MuxStep m .clear { m with loop := .cleared, channels := m.channels.map Channel.unlist }
  | raiseTeardown (here : m.loop = .cleared) : MuxStep m .raiseTeardown { m with loop := .tornDown, teardown := true }
  | dropTx (here : m.loop = .tornDown) : MuxStep m .dropTx { m with loop := .returned, tx := [] }

theorem mux_step (m next : PortForwardMux) (act : MuxAct) (taken : m.step act = some next) : MuxStep m act next := by
  cases act with
  | handle frame permitted =>
      obtain ⟨serving, rfl⟩ := guarded_step _ _ _ taken
      exact .handle frame permitted _ serving (frame_handled m frame permitted)
  | task k act =>
      simp only [PortForwardMux.step, PortForwardMux.task] at taken
      cases here : m.channels[k]? with
      | none => simp [here] at taken
      | some c =>
          by_cases allowed : m.allows act = true
          · simp only [here, allowed, if_true, Option.map_eq_some_iff] at taken
            obtain ⟨⟨after, frame⟩, stepped, rfl⟩ := taken
            exact .task k act c after frame here allowed (channel_step c after act frame stepped)
          · simp [here, allowed] at taken
  | transmit sent =>
      simp only [PortForwardMux.step, PortForwardMux.transmit] at taken
      split at taken
      · rename_i frame rest serving queued
        cases sent with
        | true => exact Option.some.inj taken ▸ .sentFrame frame rest serving queued
        | false => exact Option.some.inj taken ▸ .lostFrame frame rest serving queued
      · cases taken
  | breakLoop =>
      obtain ⟨serving, rfl⟩ := guarded_step _ _ _ taken
      exact .breakLoop serving
  | clear =>
      obtain ⟨here, rfl⟩ := guarded_step _ _ _ taken
      exact .clear here
  | raiseTeardown =>
      obtain ⟨here, rfl⟩ := guarded_step _ _ _ taken
      exact .raiseTeardown here
  | dropTx =>
      obtain ⟨here, rfl⟩ := guarded_step _ _ _ taken
      exact .dropTx here

section
variable (holds : Channel → Prop)

theorem kept_retain (kept : Kept holds) (channels : List Channel) (all : ∀ c ∈ channels, holds c) : ∀ c ∈ retain channels, holds c := by
  intro c member
  obtain ⟨before, listed, rfl⟩ := List.mem_map.mp member
  cases alive : before.receiving with
  | true => exact all before listed
  | false => exact kept.unlist before (all before listed)

theorem mux_kept (kept : Kept holds) (fresh : ∀ id addr isRdp window, holds (Channel.controlled id addr isRdp window)) (m next : PortForwardMux)
    (act : MuxAct) (all : ∀ c ∈ m.channels, holds c) (taken : m.step act = some next) : ∀ c ∈ next.channels, holds c := by
  have retained := kept_retain holds kept m.channels all
  cases mux_step m next act taken with
  | handle frame permitted next serving handled =>
      cases handled with
      | refused id host port window message opening cause => exact retained
      | ignored id host port window opening live => exact retained
      | accepted id host port window addr isRdp opening room free target =>
          intro c member
          rcases List.mem_append.mp member with old | new
          · exact retained c old
          · exact List.mem_singleton.mp new ▸ fresh id addr isRdp window
      | routed other =>
          intro c member
          obtain ⟨before, listed, rfl⟩ := List.mem_map.mp member
          exact kept.frame before frame (all before listed)
  | task k act c after frame here allowed step =>
      exact kept_set holds m.channels k after all
        (kept.step c act after frame (all c (List.mem_of_getElem? here)) step)
  | clear here =>
      intro c member
      obtain ⟨before, listed, rfl⟩ := List.mem_map.mp member
      exact kept.unlist before (all before listed)
  | _ => exact all

theorem mux_channels (kept : Kept holds) (fresh : ∀ id addr isRdp window, holds (Channel.controlled id addr isRdp window)) (loginTarget : String)
    (m : PortForwardMux) (reach : Machine.Reachable PortForwardMux.step (.new loginTarget) m) :
    ∀ c ∈ m.channels, holds c :=
  Machine.reachable_invariant PortForwardMux.step (fun m => ∀ c ∈ m.channels, holds c) (.new loginTarget) m
    (by simp [PortForwardMux.new])
    (fun state act next all taken => mux_kept holds kept fresh state next act all taken) reach

end

end GotechDesk.PortForward
