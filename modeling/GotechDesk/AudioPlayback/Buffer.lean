import GotechDesk.Machine

set_option autoImplicit false

namespace GotechDesk.AudioPlayback

def bufferMs : Nat := 3000
def levelCount : Nat := 30
def shrinkInterval : Int := 12000
def shareParts : Nat := 4

-- The ring buffer is the list of its samples, oldest first. A sample is whatever the device
-- plays; `channel` names the speaker it was decoded for.
structure Buffer (α : Type) where
  capacity : Nat
  samples : List α
  rate : Nat
  levels : List Nat
  generation : Nat

section
variable {α : Type}

def Buffer.default : Buffer α := ⟨48000 * 2 * bufferMs / 1000, [], 48000 * 2, List.replicate levelCount 0, 0⟩

def Buffer.resize (b : Buffer α) (sampleRate channels : Nat) : Buffer α :=
  if sampleRate * channels * bufferMs / 1000 = b.capacity then b
  else { b with capacity := sampleRate * channels * bufferMs / 1000, samples := [], rate := sampleRate * channels }

def Buffer.signalDiscontinuity (b : Buffer α) : Buffer α := { b with generation := (b.generation + 1) % 2 ^ 64 }

-- Pushing with overwrite keeps the newest samples that fit.
def Buffer.pushOverwrite (b : Buffer α) (pcm : List α) : Buffer α :=
  { b with samples := (b.samples ++ pcm).drop (b.samples.length + pcm.length - b.capacity) }

def Buffer.appendPcm2 (b : Buffer α) (pcm : List α) : Buffer α :=
  if b.capacity < b.samples.length + pcm.length then (b.pushOverwrite pcm).signalDiscontinuity else b.pushOverwrite pcm

def Buffer.count (b : Buffer α) (having : Nat) : Buffer α :=
  let i := min (having * 10 / b.rate) (levelCount - 1)
  { b with levels := b.levels.set i (b.levels.getD i 0 + 1) }

structure Marks where
  levels : List Nat
  zero : Nat
  max : Nat
deriving DecidableEq

def Marks.visit (m : Marks) (i : Nat) : Marks :=
  let counted := if m.levels.getD i 0 = 0 ∧ m.zero = i then { m with zero := m.zero + 1 } else m
  if counted.levels.getD counted.max 0 < counted.levels.getD i 0 then { counted with levels := counted.levels.set counted.max 0, max := i }
  else { counted with levels := counted.levels.set i 0 }

def scan (levels : List Nat) : Marks := (List.range levelCount).foldl Marks.visit ⟨levels, 0, 0⟩

def Marks.level (m : Marks) : Option Nat :=
  if m.max < 6 then none
  else if m.zero * 2 / 3 * shareParts < m.max then some (m.zero * 2 / 3 * shareParts)
  else some m.max

-- `& !1` clears the last bit.
def share (capacity level : Nat) : Nat := (capacity * level / (levelCount * shareParts) + 1) / 2 * 2

def Buffer.dropShare (b : Buffer α) (level : Nat) : Buffer α :=
  if share b.capacity level * 3 < b.samples.length ∧ 0 < share b.capacity level then
    { b with samples := b.samples.drop (share b.capacity level) }.signalDiscontinuity
  else b

def Buffer.shrink (b : Buffer α) : Buffer α :=
  let marks := scan b.levels
  let cleared := { b with levels := marks.levels.set marks.max 0 }
  marks.level.elim cleared cleared.dropShare

-- `tms` is one static for all buffers of the process.
def Buffer.tryShrink (b : Buffer α) (tms dt : Int) (having : Nat) : Buffer α × Int :=
  if tms = 0 then (b.count having, dt)
  else if dt < tms + shrinkInterval then (b.count having, tms)
  else ((b.count having).shrink, dt)

def Buffer.readBuffer (b : Buffer α) (channels requested : Nat) (contended : Bool) : List α × Buffer α :=
  let samples := if contended then 0 else min b.samples.length requested / channels * channels
  (b.samples.take samples, { b with samples := b.samples.drop samples })

-- The sample each channel of an output frame is blended towards; `none` is silence.
def processFrame (channels : Nat) (input : Option (List α)) : List (Option α) :=
  (List.range channels).map (fun channel => input.bind (fun frame => frame[channel]?))

def inputFrame (channels : Nat) (input : List α) (index : Nat) : Option (List α) :=
  if index < input.length / channels then some ((input.drop (index * channels)).take channels) else none

def outputFrames (channels length : Nat) (input : List α) : List (List (Option α)) :=
  (List.range ((length + channels - 1) / channels)).map (fun index =>
    (processFrame channels (inputFrame channels input index)).take (length - index * channels))

-- The decoder appends and then shrinks; `having` is what the append handed to the shrink. The
-- device callback writes output on its own thread, at any point between two locks.
structure Playback (α : Type) where
  buffer : Buffer α
  tms : Int
  having : Option Nat
  inputSize : Nat
  bufferedInput : List α
  output : List (List (Option α))

inductive Playback.Event (α : Type) where
  | append (pcm : List α)
  | shrink (dt : Int)
  | write (length : Nat) (contended : Bool)
  | elsewhere (tms : Int)

def Playback.start (tms : Int) (sampleRate channels : Nat) : Playback α :=
  let buffer := Buffer.default.resize sampleRate channels
  ⟨buffer, tms, none, buffer.capacity, [], []⟩

def Interleaved (channel : α → Nat) (channels : Nat) (samples : List α) : Prop :=
  channels ∣ samples.length ∧ ∀ i, (inside : i < samples.length) → channel samples[i] = i % channels

instance (channel : α → Nat) (channels : Nat) (samples : List α) : Decidable (Interleaved channel channels samples) := by
  unfold Interleaved
  infer_instance

def Playback.writeOutput (s : Playback α) (channels length : Nat) (contended : Bool) : Playback α :=
  let (input, buffer) := s.buffer.readBuffer channels (min length s.inputSize) contended
  { s with buffer := buffer, bufferedInput := input, output := outputFrames channels length input }

def Playback.appended (s : Playback α) (pcm : List α) : Playback α :=
  { s with buffer := s.buffer.appendPcm2 pcm, having := some (s.buffer.appendPcm2 pcm).samples.length }

def Playback.shrunk (s : Playback α) (dt : Int) (having : Nat) : Playback α :=
  { s with buffer := (s.buffer.tryShrink s.tms dt having).1, tms := (s.buffer.tryShrink s.tms dt having).2, having := none }

-- Decoded audio reaches the buffer as whole interleaved frames.
def Playback.step (channel : α → Nat) (channels : Nat) (s : Playback α) : Playback.Event α → Option (Playback α)
  | .append pcm => if s.having = none ∧ Interleaved channel channels pcm then some (s.appended pcm) else none
  | .shrink dt => s.having.map (s.shrunk dt)
  | .write length contended => some (s.writeOutput channels length contended)
  | .elsewhere tms => some { s with tms := tms }

end

end GotechDesk.AudioPlayback
