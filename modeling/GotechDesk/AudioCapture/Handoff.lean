import GotechDesk.Machine

set_option autoImplicit false

namespace GotechDesk.AudioCapture

structure CapturePcmLoss where
  dropped : Nat := 0
  contentionDropped : Nat := 0
  oversized : Nat := 0
  recycleFailures : Nat := 0
deriving DecidableEq

def CapturePcmLoss.isEmpty (loss : CapturePcmLoss) : Bool :=
  loss.dropped == 0 && loss.oversized == 0 && loss.recycleFailures == 0

def CapturePcmLoss.add (loss other : CapturePcmLoss) : CapturePcmLoss :=
  { dropped := loss.dropped + other.dropped
    contentionDropped := loss.contentionDropped + other.contentionDropped
    oversized := loss.oversized + other.oversized
    recycleFailures := loss.recycleFailures + other.recycleFailures }

structure CapturePcmStats where
  loss : CapturePcmLoss := {}
  maxQueuedPackets : Nat := 0
deriving DecidableEq

def CapturePcmStats.isEmpty (stats : CapturePcmStats) : Bool := stats.loss.isEmpty && stats.maxQueuedPackets == 0

def CapturePcmStats.add (stats other : CapturePcmStats) : CapturePcmStats :=
  { loss := stats.loss.add other.loss, maxQueuedPackets := max stats.maxQueuedPackets other.maxQueuedPackets }

-- What the worker does with a packet. `number` tells which submit the packet is;
-- the code has only `sequence`, which wraps.
structure Packet (α : Type) where
  number : Nat
  sequence : Nat
  samples : List α
deriving DecidableEq

structure CapturePcmBuffers (α : Type) where
  available : List (List α)
  ready : List (Packet α)
deriving DecidableEq

-- `room` is what `Vec::with_capacity(capacity)` really allocated. A poisoned lock
-- is left out: nothing panics while it is held.
structure CapturePcmHandoff (α : Type) where
  buffers : CapturePcmBuffers α
  locked : Bool := false
  otherDropped : Nat := 0
  contentionDropped : Nat := 0
  oversized : Nat := 0
  recycleFailures : Nat := 0
  maxQueuedPackets : Nat := 0
  maxSamples : Nat
  room : Nat
deriving DecidableEq

def newPcmHandoff {α : Type} (room capacity maxSamples : Nat) : Option (CapturePcmHandoff α) :=
  if capacity = 0 ∨ maxSamples = 0 then none
  else some { buffers := { available := List.replicate capacity [], ready := [] }, maxSamples := maxSamples, room := room }

inductive Channels where
  | mono
  | stereo
deriving DecidableEq

def Channels.count : Channels → Nat
  | .mono => 1
  | .stereo => 2

-- The arithmetic on samples is floating point and stays a parameter: `blend index
-- fadeFrames last sample` is the source's weighted sum of the two.
structure Shape (α : Type) where
  bits : Nat
  silence : α
  blend : Nat → Nat → α → α → α

def Shape.wrap {α : Type} (shape : Shape α) (value : Nat) : Nat := value % 2 ^ shape.bits

structure CaptureEncoderState (α : Type) where
  channels : Channels
  expectedSequence : Nat
  fadeFrames : Nat
  lastFrame : List α
deriving DecidableEq

def captureDeclickMs : Nat := 5

def millisecondsPerSecond : Nat := 1000

def CaptureEncoderState.new {α : Type} (shape : Shape α) (sampleRate : Nat) (channels : Channels) : CaptureEncoderState α :=
  { channels := channels
    expectedSequence := 0
    fadeFrames := sampleRate * captureDeclickMs / millisecondsPerSecond
    lastFrame := List.replicate Channels.stereo.count shape.silence }

section
variable {α : Type}

def fadeFrame (shape : Shape α) (encoder : CaptureEncoderState α) (index : Nat) (frame : List α) : List α :=
  frame.mapIdx (fun channel sample =>
    shape.blend (index + 1) encoder.fadeFrames (encoder.lastFrame.getD channel shape.silence) sample)

-- `chunks_exact_mut(channels).take(left)`: a rest shorter than one frame stays as it is.
def fade (shape : Shape α) (encoder : CaptureEncoderState α) : Nat → Nat → List α → List α
  | 0, _, packet => packet
  | left + 1, index, packet =>
      if packet.length < encoder.channels.count then packet
      else fadeFrame shape encoder index (packet.take encoder.channels.count) ++
        fade shape encoder left (index + 1) (packet.drop encoder.channels.count)

def faded (shape : Shape α) (encoder : CaptureEncoderState α) (packet : List α) : List α :=
  fade shape encoder encoder.fadeFrames 0 packet

def lastWholeFrame (channels : Channels) (packet : List α) : Option (List α) :=
  if packet.length < channels.count then none
  else some ((packet.drop ((packet.length / channels.count - 1) * channels.count)).take channels.count)

def smoothPacket (shape : Shape α) (encoder : CaptureEncoderState α) (sequence : Nat) (packet : List α) :
    CaptureEncoderState α × List α :=
  let packet := if sequence ≠ encoder.expectedSequence then faded shape encoder packet else packet
  let lastFrame := match lastWholeFrame encoder.channels packet with
    | some frame => frame ++ encoder.lastFrame.drop encoder.channels.count
    | none => encoder.lastFrame
  ({ encoder with expectedSequence := shape.wrap (sequence + 1), lastFrame := lastFrame }, packet)

-- Where the capture callback is inside `submit`; `evicted` is between taking the
-- oldest packet's buffer and counting it.
inductive Submitting (α : Type) where
  | idle
  | contended
  | locked (packet : Packet α)
  | evicted (packet : Packet α)
  | taken (packet : Packet α)
  | pushed
  | starved
  | leaving
deriving DecidableEq

inductive Counter where
  | contention
  | other
  | oversized
  | recycle
  | maxQueued
deriving DecidableEq

-- Where the encoder thread is: `stats force counter loss` is `take_stats` about to
-- swap `counter`, at the start of `next_packet` or, with `force`, after the last packet.
-- A buffer being recycled is cleared before the lock is asked for.
inductive Receiving where
  | idle
  | stats (force : Bool) (counter : Counter) (loss : CapturePcmLoss)
  | popping
  | popLocked
  | emptyLocked
  | recycling
  | recycleLocked
deriving DecidableEq

structure Popped (α : Type) where
  packet : Packet α
  before : CaptureEncoderState α
  played : List α
deriving DecidableEq

-- `submitted`, `lost`, `popped` and `reports` record what happened; no step reads them
-- except to number a submit.
structure State (α : Type) where
  handoff : CapturePcmHandoff α
  sequence : Nat
  submitting : Submitting α
  receiving : Receiving
  encoder : CaptureEncoderState α
  pending : CapturePcmStats
  held : List (List α)
  submitted : List (List α)
  lost : List Nat
  popped : List (Popped α)
  reports : List CapturePcmStats
deriving DecidableEq

inductive Label (α : Type) where
  | submit (input : List α)
  | sender
  | nextPacket
  | finish
  | recycle (index : Nat)
  | isEmpty
  | receiver (elapsed : Bool)

def start (shape : Shape α) (sampleRate : Nat) (channels : Channels) (handoff : CapturePcmHandoff α) : State α :=
  { handoff := handoff
    sequence := 0
    submitting := .idle
    receiving := .idle
    encoder := CaptureEncoderState.new shape sampleRate channels
    pending := {}
    held := []
    submitted := []
    lost := []
    popped := []
    reports := [] }

def submit (shape : Shape α) (state : State α) (input : List α) : State α :=
  let number := state.submitted.length
  let called := { state with sequence := shape.wrap (state.sequence + 1), submitted := state.submitted ++ [input] }
  if input.length > state.handoff.maxSamples then
    { called with handoff := { state.handoff with oversized := state.handoff.oversized + 1 }, lost := state.lost ++ [number] }
  else if state.handoff.locked then { called with submitting := .contended, lost := state.lost ++ [number] }
  else
    { called with
      handoff := { state.handoff with locked := true }
      submitting := .locked { number := number, sequence := state.sequence, samples := input } }

def takeBuffer (state : State α) (packet : Packet α) : State α :=
  match state.handoff.buffers.available.getLast? with
  | some _ =>
      { state with
        handoff := { state.handoff with
          buffers := { state.handoff.buffers with available := state.handoff.buffers.available.dropLast } }
        submitting := .taken packet }
  | none =>
      match state.handoff.buffers.ready with
      | oldest :: rest =>
          { state with
            handoff := { state.handoff with buffers := { state.handoff.buffers with ready := rest } }
            submitting := .evicted packet
            lost := state.lost ++ [oldest.number] }
      | [] => { state with submitting := .starved, lost := state.lost ++ [packet.number] }

def senderStep (state : State α) : Option (State α) :=
  match state.submitting with
  | .idle => none
  | .contended =>
      some { state with
        handoff := { state.handoff with contentionDropped := state.handoff.contentionDropped + 1 }, submitting := .idle }
  | .locked packet => some (takeBuffer state packet)
  | .evicted packet =>
      some { state with
        handoff := { state.handoff with otherDropped := state.handoff.otherDropped + 1 }, submitting := .taken packet }
  | .taken packet =>
      some { state with
        handoff := { state.handoff with
          buffers := { state.handoff.buffers with ready := state.handoff.buffers.ready ++ [packet] } }
        submitting := .pushed }
  | .pushed =>
      some { state with
        handoff := { state.handoff with
          maxQueuedPackets := max state.handoff.maxQueuedPackets state.handoff.buffers.ready.length }
        submitting := .leaving }
  | .starved =>
      some { state with
        handoff := { state.handoff with otherDropped := state.handoff.otherDropped + 1 }, submitting := .leaving }
  | .leaving => some { state with handoff := { state.handoff with locked := false }, submitting := .idle }

def report (state : State α) (force elapsed : Bool) : State α :=
  if state.pending.isEmpty then state
  else if !force && !elapsed then state
  else { state with pending := {}, reports := state.reports ++ [state.pending] }

def takeStats (state : State α) (force elapsed : Bool) (loss : CapturePcmLoss) : Counter → State α
  | .contention =>
      { state with
        handoff := { state.handoff with contentionDropped := 0 }
        receiving := .stats force .other { loss with contentionDropped := state.handoff.contentionDropped } }
  | .other =>
      { state with
        handoff := { state.handoff with otherDropped := 0 }
        receiving := .stats force .oversized { loss with dropped := state.handoff.otherDropped + loss.contentionDropped } }
  | .oversized =>
      { state with
        handoff := { state.handoff with oversized := 0 }
        receiving := .stats force .recycle { loss with oversized := state.handoff.oversized } }
  | .recycle =>
      { state with
        handoff := { state.handoff with recycleFailures := 0 }
        receiving := .stats force .maxQueued { loss with recycleFailures := state.handoff.recycleFailures } }
  | .maxQueued =>
      report
        { state with
          handoff := { state.handoff with maxQueuedPackets := 0 }
          pending := state.pending.add { loss := loss, maxQueuedPackets := state.handoff.maxQueuedPackets }
          receiving := if force then .idle else .popping }
        force elapsed

def popPacket (shape : Shape α) (state : State α) : State α :=
  let freed := { state with handoff := { state.handoff with locked := false }, receiving := .idle }
  match state.handoff.buffers.ready with
  | [] => freed
  | packet :: rest =>
      let smoothed := smoothPacket shape state.encoder packet.sequence packet.samples
      { freed with
        handoff := { freed.handoff with buffers := { state.handoff.buffers with ready := rest } }
        encoder := smoothed.1
        held := state.held ++ [smoothed.2]
        popped := state.popped ++ [{ packet := packet, before := state.encoder, played := smoothed.2 }] }

def recycle (state : State α) : State α :=
  let freed := { state with handoff := { state.handoff with locked := false }, receiving := .idle }
  if state.handoff.buffers.available.length = state.handoff.room then
    { freed with handoff := { freed.handoff with recycleFailures := state.handoff.recycleFailures + 1 } }
  else
    { freed with
      handoff := { freed.handoff with
        buffers := { state.handoff.buffers with available := state.handoff.buffers.available ++ [[]] } } }

-- `lock()` waits, so the step is not enabled while the sender holds the lock.
def receiverStep (shape : Shape α) (state : State α) (elapsed : Bool) : Option (State α) :=
  match state.receiving with
  | .idle => none
  | .stats force counter loss => some (takeStats state force elapsed loss counter)
  | .popping =>
      if state.handoff.locked then none
      else some { state with handoff := { state.handoff with locked := true }, receiving := .popLocked }
  | .popLocked => some (popPacket shape state)
  | .emptyLocked => some { state with handoff := { state.handoff with locked := false }, receiving := .idle }
  | .recycling =>
      if state.handoff.locked then none
      else some { state with handoff := { state.handoff with locked := true }, receiving := .recycleLocked }
  | .recycleLocked => some (recycle state)

def step (shape : Shape α) (state : State α) : Label α → Option (State α)
  | .submit input =>
      match state.submitting with
      | .idle => some (submit shape state input)
      | _ => none
  | .sender => senderStep state
  | .nextPacket =>
      match state.receiving with
      | .idle => some { state with receiving := .stats false .contention {} }
      | _ => none
  | .finish =>
      match state.receiving with
      | .idle => some { state with receiving := .stats true .contention {} }
      | _ => none
  | .recycle index =>
      match state.receiving, state.held[index]? with
      | .idle, some _ => some { state with receiving := .recycling, held := state.held.eraseIdx index }
      | _, _ => none
  | .isEmpty =>
      match state.receiving, state.handoff.locked with
      | .idle, false => some { state with handoff := { state.handoff with locked := true }, receiving := .emptyLocked }
      | _, _ => none
  | .receiver elapsed => receiverStep shape state elapsed

end

end GotechDesk.AudioCapture
