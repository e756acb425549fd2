import GotechDesk.Machine
import GotechDesk.PortForward.ChannelSteps

set_option autoImplicit false

namespace GotechDesk.PortForward

def maxReportedOpenErrors : Nat := 8
def reportAgainAfter : Nat := 10000000000

-- Where tunnel_loop stands: serving, then the statements after its `break`, then
-- its parameters being dropped, the control receiver before the data receiver.
inductive LoopPoint where
  | running
  | broken
  | cleared
  | tornDown
  | unset
  | controlDropped
  | returned
deriving DecidableEq, Repr

-- The controller's end of a tunnel: the handle, the loop that owns its queues'
-- receivers, and every channel `open` has admitted, oldest first. The map is the
-- listed ones. `calls` counts the `open` calls that are past the closed-sink test
-- and not yet at the map. `shown`, `emitted` and `sent` are histories: the errors
-- reported, the frames the tasks handed to the queues, and those on the stream.
structure TunnelHandle where
  channels : List Channel
  nextId : ChannelId
  calls : Nat
  dataQueue : List Frame
  controlQueue : List Frame
  loop : LoopPoint
  teardown : Bool
  reported : List (String × Nat)
  shown : List String
  emitted : List Frame
  sent : List Frame
deriving DecidableEq, Repr

def TunnelHandle.new : TunnelHandle :=
  { channels := [], nextId := 1, calls := 0, dataQueue := [], controlQueue := [], loop := .running, teardown := false,
    reported := [], shown := [], emitted := [], sent := [] }

def liveIds (channels : List Channel) : List ChannelId := (channels.filter Channel.listed).map Channel.id

def containsKey (channels : List Channel) (id : ChannelId) : Bool := channels.any (fun c => c.holds id)

def removeKey (channels : List Channel) (id : ChannelId) : List Channel :=
  channels.map (fun c => if c.id = id then c.unlist else c)

-- The `while contains_key` loop over next_id, whose counter wraps. A map of n
-- entries stops it within n steps, which is the fuel it is given.
def freeId (live : List ChannelId) : Nat → ChannelId → ChannelId
  | 0, id => id
  | fuel + 1, id => if id ∈ live then freeId live fuel (id + 1) else id

def TunnelHandle.openCheck (h : TunnelHandle) : Option TunnelHandle :=
  if h.loop = .returned then none else some { h with calls := h.calls + 1 }

def TunnelHandle.openInsert (h : TunnelHandle) (host : String) (port : Int) (prebuf : Bytes) : Option TunnelHandle :=
  if 0 < h.calls then
    if maxChannels ≤ (liveIds h.channels).length then some { h with calls := h.calls - 1 }
    else
      let id := freeId (liveIds h.channels) (liveIds h.channels).length h.nextId
      some { h with calls := h.calls - 1, nextId := id + 1,
                    channels := h.channels ++ [Channel.controller id host port prebuf] }
  else none

def firstReportAt (reported : List (String × Nat)) (message : String) (now : Nat) :
    List (String × Nat) × Option String :=
  if message = "" then (reported, none)
  else
    let kept := reported.filter (fun entry => decide (now - entry.2 < reportAgainAfter))
    if kept.any (fun entry => entry.1 == message) then
      (kept.map (fun entry => if entry.1 = message then (entry.1, now) else entry), none)
    else if maxReportedOpenErrors ≤ kept.length then (kept, none)
    else (kept ++ [(message, now)], some message)

def TunnelHandle.refused (h : TunnelHandle) : Frame → Option String
  | .openedMsg id false message _ => if containsKey h.channels id then some message else none
  | _ => none

-- The report taken for a refused channel: the table it leaves, and what is shown.
def TunnelHandle.report (h : TunnelHandle) (frame : Frame) (now : Nat) : List (String × Nat) × Option String :=
  match h.refused frame with
  | some message => firstReportAt h.reported message now
  | none => (h.reported, none)

def TunnelHandle.onFrame (h : TunnelHandle) (frame : Frame) (now : Nat) : TunnelHandle :=
  { h with channels := h.channels.map (fun c => c.onFrame frame), reported := (h.report frame now).1,
           shown := h.shown ++ (h.report frame now).2.toList }

-- What the queues allow: the bounded one takes a frame while it has room, and a
-- send fails exactly when the queue's receiver is gone.
def TunnelHandle.allows (h : TunnelHandle) : Act → Bool
  | .toTunnel (.send sent) | .sendOpen sent | .sendClose sent =>
      if sent then h.loop != .returned && decide (h.dataQueue.length < dataQueueFrames) else h.loop == .returned
  | .toSocket (.update sent) =>
      if sent then h.loop != .controlDropped && h.loop != .returned else h.loop == .controlDropped || h.loop == .returned
  | .cancelHalves teardown => !teardown || h.teardown
  | _ => true

def TunnelHandle.enqueue (h : TunnelHandle) : Option Frame → TunnelHandle
  | none => h
  | some frame =>
      if frame.ordered then { h with dataQueue := h.dataQueue ++ [frame], emitted := h.emitted ++ [frame] }
      else { h with controlQueue := h.controlQueue ++ [frame], emitted := h.emitted ++ [frame] }

-- A task's last act removes whatever entry the map has under its id.
def settled (channels : List Channel) (k : Nat) (next : Channel) : Act → List Channel
  | .remove => removeKey (channels.set k next) next.id
  | _ => channels.set k next

def TunnelHandle.settle (h : TunnelHandle) (k : Nat) (next : Channel) (act : Act) : TunnelHandle :=
  { h with channels := settled h.channels k next act }

def TunnelHandle.task (h : TunnelHandle) (k : Nat) (act : Act) : Option TunnelHandle :=
  match h.channels[k]? with
  | none => none
  | some c =>
      if h.allows act then (c.step act).map (fun result => (h.settle k result.1 act).enqueue result.2) else none

inductive HandleAct where
  | openCheck
  | openInsert (host : String) (port : Int) (prebuf : Bytes)
  | task (k : Nat) (act : Act)
  | sendControl (sent : Bool)
  | sendData (sent : Bool)
  | receive (frame : Frame) (now : Nat)
  | breakLoop
  | clear
  | raiseTeardown
  | unset
  | dropControl
  | dropData
deriving DecidableEq, Repr

-- One arm of the loop's select taking a frame from a queue; a failed write ends
-- the loop, and the frame with it.
def TunnelHandle.sendControl (h : TunnelHandle) (sent : Bool) : Option TunnelHandle :=
  match h.loop, h.controlQueue with
  | .running, frame :: rest =>
      if sent then some { h with controlQueue := rest, sent := h.sent ++ [frame] }
      else some { h with controlQueue := rest, loop := .broken }
  | _, _ => none

def TunnelHandle.sendData (h : TunnelHandle) (sent : Bool) : Option TunnelHandle :=
  match h.loop, h.dataQueue with
  | .running, frame :: rest =>
      if sent then some { h with dataQueue := rest, sent := h.sent ++ [frame] }
      else some { h with dataQueue := rest, loop := .broken }
  | _, _ => none

def TunnelHandle.step (h : TunnelHandle) : HandleAct → Option TunnelHandle
  | .openCheck => h.openCheck
  | .openInsert host port prebuf => h.openInsert host port prebuf
  | .task k act => h.task k act
  | .sendControl sent => h.sendControl sent
  | .sendData sent => h.sendData sent
  | .receive frame now => if h.loop = .running then some (h.onFrame frame now) else none
  | .breakLoop => if h.loop = .running then some { h with loop := .broken } else none
  | .clear =>
      if h.loop = .broken then some { h with loop := .cleared, channels := h.channels.map Channel.unlist } else none
  | .raiseTeardown => if h.loop = .cleared then some { h with loop := .tornDown, teardown := true } else none
  | .unset => if h.loop = .tornDown then some { h with loop := .unset } else none
  | .dropControl => if h.loop = .unset then some { h with loop := .controlDropped, controlQueue := [] } else none
  | .dropData => if h.loop = .controlDropped then some { h with loop := .returned, dataQueue := [] } else none

-- Everything the controller's end can do in one step.
inductive HandleStep (h : TunnelHandle) : HandleAct → TunnelHandle → Prop where
  | openCheck (alive : h.loop ≠ .returned) : HandleStep h .openCheck { h with calls := h.calls + 1 }
  | openFull (host : String) (port : Int) (prebuf : Bytes) (called : 0 < h.calls)
      (full : maxChannels ≤ (liveIds h.channels).length) :
      HandleStep h (.openInsert host port prebuf) { h with calls := h.calls - 1 }
  | openInsert (host : String) (port : Int) (prebuf : Bytes) (called : 0 < h.calls)
      (room : (liveIds h.channels).length < maxChannels) (id : ChannelId)
      (free : freeId (liveIds h.channels) (liveIds h.channels).length h.nextId = id) :
      HandleStep h (.openInsert host port prebuf)
        { h with calls := h.calls - 1, nextId := id + 1,
                 channels := h.channels ++ [Channel.controller id host port prebuf] }
  | task (k : Nat) (act : Act) (c next : Channel) (frame : Option Frame) (here : h.channels[k]? = some c)
      (allowed : h.allows act = true) (step : ChannelStep c act next frame) :
      HandleStep h (.task k act) ((h.settle k next act).enqueue frame)
  | sentControl (frame : Frame) (rest : List Frame) (serving : h.loop = .running)
      (queued : h.controlQueue = frame :: rest) :
      HandleStep h (.sendControl true) { h with controlQueue := rest, sent := h.sent ++ [frame] }
  | lostControl (frame : Frame) (rest : List Frame) (serving : h.loop = .running)
      (queued : h.controlQueue = frame :: rest) :
      HandleStep h (.sendControl false) { h with controlQueue := rest, loop := .broken }
  | sentData (frame : Frame) (rest : List Frame) (serving : h.loop = .running) (queued : h.dataQueue = frame :: rest) :
      HandleStep h (.sendData true) { h with dataQueue := rest, sent := h.sent ++ [frame] }
  | lostData (frame : Frame) (rest : List Frame) (serving : h.loop = .running) (queued : h.dataQueue = frame :: rest) :
      HandleStep h (.sendData false) { h with dataQueue := rest, loop := .broken }
  | receive (frame : Frame) (now : Nat) (serving : h.loop = .running) : HandleStep h (.receive frame now) (h.onFrame frame now)
  | breakLoop (serving : h.loop = .running) : HandleStep h .breakLoop { h with loop := .broken }
  | clear (here : h.loop = .broken) :
      HandleStep h .clear { h with loop := .cleared, channels := h.channels.map Channel.unlist }
  | raiseTeardown (here : h.loop = .cleared) : HandleStep h .raiseTeardown { h with loop := .tornDown, teardown := true }
  | unset (here : h.loop = .tornDown) : HandleStep h .unset { h with loop := .unset }
  | dropControl (here : h.loop = .unset) : HandleStep h .dropControl { h with loop := .controlDropped, controlQueue := [] }
  | dropData (here : h.loop = .controlDropped) : HandleStep h .dropData { h with loop := .returned, dataQueue := [] }

theorem guarded_step {S : Type} (guard : Prop) [Decidable guard] (result next : S)
    (taken : (if guard then some result else none) = some next) : guard ∧ result = next := by
  by_cases holds : guard
  · rw [if_pos holds] at taken
    exact ⟨holds, Option.some.inj taken⟩
  · rw [if_neg holds] at taken
    cases taken

theorem handle_step (h next : TunnelHandle) (act : HandleAct) (taken : h.step act = some next) :
    HandleStep h act next := by
  cases act with
  | openCheck =>
      by_cases gone : h.loop = .returned
      · simp [TunnelHandle.step, TunnelHandle.openCheck, gone] at taken
      · simp only [TunnelHandle.step, TunnelHandle.openCheck, if_neg gone, Option.some.injEq] at taken
        exact taken ▸ .openCheck gone
  | openInsert host port prebuf =>
      simp only [TunnelHandle.step, TunnelHandle.openInsert] at taken
      by_cases called : 0 < h.calls
      · rw [if_pos called] at taken
        by_cases full : maxChannels ≤ (liveIds h.channels).length
        · rw [if_pos full] at taken
          exact Option.some.inj taken ▸ .openFull host port prebuf called full
        · rw [if_neg full] at taken
          exact Option.some.inj taken ▸ .openInsert host port prebuf called (Nat.lt_of_not_le full) _ rfl
      · rw [if_neg called] at taken
        cases taken
  | task k act =>
      simp only [TunnelHandle.step, TunnelHandle.task] at taken
      cases here : h.channels[k]? with
      | none => simp [here] at taken
      | some c =>
          by_cases allowed : h.allows act = true
          · simp only [here, allowed, if_true, Option.map_eq_some_iff] at taken
            obtain ⟨⟨after, frame⟩, stepped, rfl⟩ := taken
            exact .task k act c after frame here allowed (channel_step c after act frame stepped)
          · simp [here, allowed] at taken
  | sendControl sent =>
      simp only [TunnelHandle.step, TunnelHandle.sendControl] at taken
      split at taken
      · rename_i frame rest serving queued
        cases sent with
        | true => exact Option.some.inj taken ▸ .sentControl frame rest serving queued
        | false => exact Option.some.inj taken ▸ .lostControl frame rest serving queued
      · cases taken
  | sendData sent =>
      simp only [TunnelHandle.step, TunnelHandle.sendData] at taken
      split at taken
      · rename_i frame rest serving queued
        cases sent with
        | true => exact Option.some.inj taken ▸ .sentData frame rest serving queued
        | false => exact Option.some.inj taken ▸ .lostData frame rest serving queued
      · cases taken
  | receive frame now =>
      obtain ⟨serving, rfl⟩ := guarded_step _ _ _ taken
      exact .receive frame now serving
  | breakLoop =>
      obtain ⟨serving, rfl⟩ := guarded_step _ _ _ taken
      exact .breakLoop serving
  | clear =>
      obtain ⟨here, rfl⟩ := guarded_step _ _ _ taken
      exact .clear here
  | raiseTeardown =>
      obtain ⟨here, rfl⟩ := guarded_step _ _ _ taken
      exact .raiseTeardown here
  | unset =>
      obtain ⟨here, rfl⟩ := guarded_step _ _ _ taken
      exact .unset here
  | dropControl =>
      obtain ⟨here, rfl⟩ := guarded_step _ _ _ taken
      exact .dropControl here
  | dropData =>
      obtain ⟨here, rfl⟩ := guarded_step _ _ _ taken
      exact .dropData here

-- A property of single channels that the tasks, the demultiplexer and the loss of
-- the map's entry all keep.
structure Kept (holds : Channel → Prop) : Prop where
  step : ∀ c act next frame, holds c → ChannelStep c act next frame → holds next
  frame : ∀ c frame, holds c → holds (c.onFrame frame)
  unlist : ∀ c, holds c → holds c.unlist

theorem enqueue_eq (h : TunnelHandle) (frame : Option Frame) :
    h.enqueue frame =
      { h with dataQueue := h.dataQueue ++ frame.toList.filter Frame.ordered,
               controlQueue := h.controlQueue ++ frame.toList.filter (fun emitted => !emitted.ordered),
               emitted := h.emitted ++ frame.toList } := by
  cases frame with
  | none => simp [TunnelHandle.enqueue]
  | some frame => cases ordered : frame.ordered <;> simp [TunnelHandle.enqueue, ordered]

section
variable (holds : Channel → Prop)

theorem kept_remove (kept : Kept holds) (channels : List Channel) (id : ChannelId)
    (all : ∀ c ∈ channels, holds c) : ∀ c ∈ removeKey channels id, holds c := by
  intro c member
  obtain ⟨before, listed, rfl⟩ := List.mem_map.mp member
  by_cases same : before.id = id
  · simpa only [if_pos same] using kept.unlist before (all before listed)
  · simpa only [if_neg same] using all before listed

theorem kept_set (channels : List Channel) (k : Nat) (next : Channel)
    (all : ∀ c ∈ channels, holds c) (fresh : holds next) : ∀ c ∈ channels.set k next, holds c := by
  intro c member
  rcases List.mem_or_eq_of_mem_set member with old | rfl
  · exact all c old
  · exact fresh

theorem kept_settled (kept : Kept holds) (channels : List Channel) (k : Nat) (next : Channel)
    (act : Act) (all : ∀ c ∈ channels, holds c) (fresh : holds next) : ∀ c ∈ settled channels k next act, holds c := by
  have placed := kept_set holds channels k next all fresh
  cases act with
  | remove => exact kept_remove holds kept _ next.id placed
  | _ => exact placed

theorem handle_kept (kept : Kept holds)
    (fresh : ∀ id host port prebuf, holds (Channel.controller id host port prebuf)) (h next : TunnelHandle) (act : HandleAct)
    (all : ∀ c ∈ h.channels, holds c) (taken : h.step act = some next) : ∀ c ∈ next.channels, holds c := by
  cases handle_step h next act taken with
  | openInsert host port prebuf called room id free =>
      intro c member
      rcases List.mem_append.mp member with old | new
      · exact all c old
      · exact List.mem_singleton.mp new ▸ fresh id host port prebuf
  | task k act c after frame here allowed step =>
      rw [enqueue_eq]
      exact kept_settled holds kept h.channels k after act all
        (kept.step c act after frame (all c (List.mem_of_getElem? here)) step)
  | receive frame now serving =>
      intro c member
      obtain ⟨before, listed, rfl⟩ := List.mem_map.mp member
      exact kept.frame before frame (all before listed)
  | clear here =>
      intro c member
      obtain ⟨before, listed, rfl⟩ := List.mem_map.mp member
      exact kept.unlist before (all before listed)
  | _ => exact all

theorem handle_channels (kept : Kept holds) (fresh : ∀ id host port prebuf, holds (Channel.controller id host port prebuf)) (h : TunnelHandle)
    (reach : Machine.Reachable TunnelHandle.step .new h) : ∀ c ∈ h.channels, holds c :=
  Machine.reachable_invariant TunnelHandle.step (fun h => ∀ c ∈ h.channels, holds c) .new h (by simp [TunnelHandle.new])
    (fun state act next all taken => handle_kept holds kept fresh state next act all taken) reach

end

end GotechDesk.PortForward
