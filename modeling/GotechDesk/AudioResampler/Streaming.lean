import GotechDesk.Checked

set_option autoImplicit false

namespace GotechDesk.AudioResampler

open GotechDesk.Checked

def interpolationMarginFrames : Nat := 2
def pendingPacketCapacity : Nat := 2

structure AudioResamplerConfig where
  inputRate : Nat
  outputRate : Nat
  channels : Nat
deriving DecidableEq

inductive AudioResamplerError where
  | invalidConfig (config : AudioResamplerConfig)
  | invalidOutputFrameSize (outputFrames : Nat)
  | incompleteFrame (samples channels : Nat)
  | capacityOverflow
deriving DecidableEq

structure StreamingLinearAudioResampler (α : Type) where
  config : AudioResamplerConfig
  channels : Nat
  bufferedSamples : List α
  nextPosition : Nat
deriving DecidableEq

def validateConfig (config : AudioResamplerConfig) : Except AudioResamplerError Nat :=
  if config.inputRate = 0 ∨ config.outputRate = 0 ∨ config.channels = 0 then .error (.invalidConfig config) else .ok config.channels

def validateInput {α : Type} (input : List α) (channels : Nat) : Except AudioResamplerError Unit :=
  if input.length % channels ≠ 0 then .error (.incompleteFrame input.length channels) else .ok ()

def checkedCapacity (value : Option Nat) : Except AudioResamplerError Nat := value.elim (.error .capacityOverflow) .ok

section
variable {α : Type} (interpolate : α → α → Nat → Nat → α)

def StreamingLinearAudioResampler.new (config : AudioResamplerConfig) : Except AudioResamplerError (StreamingLinearAudioResampler α) :=
  (validateConfig config).map (fun channels => ⟨config, channels, [], 0⟩)

def outputCapacity (config : AudioResamplerConfig) (channels inputSamples : Nat) : Except AudioResamplerError Nat :=
  let inputFrames := inputSamples / channels
  checkedCapacity ((unsigned 64 (inputFrames * config.outputRate)).bind (fun scaled =>
    (unsigned 64 (scaled / config.inputRate + interpolationMarginFrames)).bind (fun frames => unsigned 64 (frames * channels))))

-- One output frame: each channel's sample of this input frame and of the next, or twice of
-- this one when nothing is left over. `interpolate` is the float expression of both samples
-- and the weight; `none` is an index out of range.
def frameAt (outputRate channels : Nat) (samples : List α) (frame fraction : Nat) : Option (List α) :=
  (List.range channels).mapM (fun channel =>
    samples[frame * channels + channel]?.bind (fun current =>
      samples[(frame + if fraction ≠ 0 then 1 else 0) * channels + channel]?.map (fun next => interpolate current next fraction outputRate)))

-- The inner `none` is `false`: the frame cannot be written yet.
def writeNextFrame (resampler : StreamingLinearAudioResampler α) : Option (Option (List α)) :=
  let frameCount := resampler.bufferedSamples.length / resampler.channels
  let frame := resampler.nextPosition / resampler.config.outputRate
  let fraction := resampler.nextPosition % resampler.config.outputRate
  if frameCount ≤ frame ∨ (fraction ≠ 0 ∧ frameCount ≤ frame + 1) then some none
  else (frameAt interpolate resampler.config.outputRate resampler.channels resampler.bufferedSamples frame fraction).map some

-- The position is a u64; its overflow is a panic.
def writeFrames : Nat → StreamingLinearAudioResampler α → List α → Option (StreamingLinearAudioResampler α × List α)
  | 0, _, _ => none
  | fuel + 1, resampler, output =>
      (writeNextFrame interpolate resampler).bind (fun written =>
        match written with
        | none => some (resampler, output)
        | some frame => (unsigned 64 (resampler.nextPosition + resampler.config.inputRate)).bind (fun nextPosition =>
            writeFrames fuel { resampler with nextPosition := nextPosition } (output ++ frame)))

def discardConsumedFrames (resampler : StreamingLinearAudioResampler α) : Option (StreamingLinearAudioResampler α) :=
  let availableFrames := resampler.bufferedSamples.length / resampler.channels
  let consumedFrames := min (resampler.nextPosition / resampler.config.outputRate) availableFrames
  if resampler.bufferedSamples.length < consumedFrames * resampler.channels ∨ resampler.nextPosition < consumedFrames * resampler.config.outputRate then none
  else some { resampler with
    bufferedSamples := resampler.bufferedSamples.drop (consumedFrames * resampler.channels)
    nextPosition := resampler.nextPosition - consumedFrames * resampler.config.outputRate }

-- More steps than the loop can take: every one moves the position on.
def writeFuel (resampler : StreamingLinearAudioResampler α) : Nat :=
  resampler.bufferedSamples.length / resampler.channels * resampler.config.outputRate + 2

def processInto (resampler : StreamingLinearAudioResampler α) (input output : List α) :
    Option (Except AudioResamplerError Unit × StreamingLinearAudioResampler α × List α) :=
  match validateInput input resampler.channels with
  | .error refused => some (.error refused, resampler, output)
  | .ok _ =>
      match outputCapacity resampler.config resampler.channels input.length with
      | .error refused => some (.error refused, resampler, output)
      | .ok _ =>
          let extended := { resampler with bufferedSamples := resampler.bufferedSamples ++ input }
          (writeFrames interpolate (writeFuel extended) extended output).bind (fun written =>
            (discardConsumedFrames written.1).map (fun discarded => (.ok (), discarded, written.2)))

-- A stream of calls with one output.
def processAll (resampler : StreamingLinearAudioResampler α) (output : List α) : List (List α) → Option (StreamingLinearAudioResampler α × List α)
  | [] => some (resampler, output)
  | input :: rest => (processInto interpolate resampler input output).bind (fun result => processAll result.2.1 result.2.2 rest)

structure FixedFrameAudioResampler (α : Type) where
  resampler : StreamingLinearAudioResampler α
  outputSamples : Nat
  pendingSamples : List α
deriving DecidableEq

def FixedFrameAudioResampler.new (config : AudioResamplerConfig) (outputFrames : Nat) : Except AudioResamplerError (FixedFrameAudioResampler α) :=
  if outputFrames = 0 then .error (.invalidOutputFrameSize outputFrames)
  else do
    let channels ← validateConfig config
    let outputSamples ← checkedCapacity (unsigned 64 (outputFrames * channels))
    let inputFrames ← checkedCapacity ((unsigned 64 (outputFrames * config.inputRate)).map (fun scaled => (scaled + config.outputRate - 1) / config.outputRate))
    let _ ← checkedCapacity ((unsigned 64 (outputSamples * pendingPacketCapacity)).bind (fun samples => unsigned 64 (samples + channels * interpolationMarginFrames)))
    let resampler ← StreamingLinearAudioResampler.new config
    let _ ← checkedCapacity ((unsigned 64 (inputFrames + interpolationMarginFrames)).bind (fun frames => unsigned 64 (frames * channels)))
    return ⟨resampler, outputSamples, []⟩

def chunksExact (size count : Nat) (samples : List α) : List (List α) := (List.range count).map (fun index => (samples.drop (index * size)).take size)

-- The packets handed on by one call, after what it answered.
def processWith (fixed : FixedFrameAudioResampler α) (input : List α) :
    Option (Except AudioResamplerError Unit × FixedFrameAudioResampler α × List (List α)) :=
  (processInto interpolate fixed.resampler input fixed.pendingSamples).map (fun result =>
    match result.1 with
    | .error refused => (.error refused, { fixed with resampler := result.2.1, pendingSamples := result.2.2 }, [])
    | .ok _ =>
        let complete := result.2.2.length / fixed.outputSamples
        (.ok (), { fixed with resampler := result.2.1, pendingSamples := result.2.2.drop (complete * fixed.outputSamples) },
          chunksExact fixed.outputSamples complete (result.2.2.take (complete * fixed.outputSamples))))

def processPackets (fixed : FixedFrameAudioResampler α) : List (List α) → Option (FixedFrameAudioResampler α × List (List α))
  | [] => some (fixed, [])
  | input :: rest =>
      (processWith interpolate fixed input).bind (fun result => (processPackets result.2.1 rest).map (fun later => (later.1, result.2.2 ++ later.2)))

end

end GotechDesk.AudioResampler
