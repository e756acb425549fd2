import GotechDesk.AudioResampler.Frames

set_option autoImplicit false

namespace GotechDesk.AudioResampler

open GotechDesk.Checked

structure AudioResamplerConfig.Valid (config : AudioResamplerConfig) : Prop where
  inputRate : 0 < config.inputRate
  outputRate : 0 < config.outputRate
  channels : 0 < config.channels

section
variable {α : Type} (interpolate : α → α → Nat → Nat → α)

-- Output frame `count` of the whole input.
def frameOf (config : AudioResamplerConfig) (samples : List α) (count : Nat) : Option (List α) :=
  frameAt interpolate config.outputRate config.channels samples (count * config.inputRate / config.outputRate) (count * config.inputRate % config.outputRate)

-- The resampler after so many frames of input: the buffer is the input without the dropped
-- frames, and the position, counted from the first frame ever, is that of output frame `count`.
structure Streamed (config : AudioResamplerConfig) (samples : List α) (frames dropped count : Nat) (resampler : StreamingLinearAudioResampler α) : Prop where
  configured : resampler.config = config
  channels : resampler.channels = config.channels
  whole : samples.length = frames * config.channels
  within : dropped ≤ frames
  buffered : resampler.bufferedSamples = samples.drop (dropped * config.channels)
  position : resampler.nextPosition + dropped * config.outputRate = count * config.inputRate

section
variable (config : AudioResamplerConfig)

theorem buffered_frames (valid : config.Valid) (samples : List α) (frames dropped count : Nat)
    (resampler : StreamingLinearAudioResampler α) (streamed : Streamed config samples frames dropped count resampler) :
    resampler.bufferedSamples.length = (frames - dropped) * config.channels ∧ resampler.bufferedSamples.length / resampler.channels = frames - dropped := by
  have length : resampler.bufferedSamples.length = (frames - dropped) * config.channels := by
    rw [streamed.buffered, List.length_drop, streamed.whole, Nat.sub_mul]
  exact ⟨length, by rw [length, streamed.channels, Nat.mul_div_cancel _ valid.channels]⟩

theorem next_writable (valid : config.Valid) (samples : List α) (frames dropped count : Nat)
    (resampler : StreamingLinearAudioResampler α) (streamed : Streamed config samples frames dropped count resampler) :
    ¬ (resampler.bufferedSamples.length / resampler.channels ≤ resampler.nextPosition / config.outputRate ∨
        (resampler.nextPosition % config.outputRate ≠ 0 ∧ resampler.bufferedSamples.length / resampler.channels ≤ resampler.nextPosition / config.outputRate + 1)) ↔
      count * config.inputRate + config.outputRate ≤ frames * config.outputRate := by
  rw [(buffered_frames config valid samples frames dropped count resampler streamed).2, writable_iff _ _ _ valid.outputRate, ← streamed.position, Nat.sub_mul]
  have kept := Nat.mul_le_mul_right config.outputRate streamed.within
  omega

theorem next_frame (valid : config.Valid) (samples : List α) (frames dropped count : Nat)
    (resampler : StreamingLinearAudioResampler α) (streamed : Streamed config samples frames dropped count resampler)
    (writable : count * config.inputRate + config.outputRate ≤ frames * config.outputRate) :
    ∃ frame, writeNextFrame interpolate resampler = some (some frame) ∧ frameOf interpolate config samples count = some frame ∧ frame.length = config.channels := by
  have free := (next_writable config valid samples frames dropped count resampler streamed).mpr writable
  have frame : count * config.inputRate / config.outputRate = resampler.nextPosition / config.outputRate + dropped := by
    rw [← streamed.position, Nat.add_mul_div_right _ _ valid.outputRate]
  have fraction : count * config.inputRate % config.outputRate = resampler.nextPosition % config.outputRate := by
    rw [← streamed.position, Nat.add_mul_mod_self_right]
  have same : frameOf interpolate config samples count = frameAt interpolate config.outputRate config.channels resampler.bufferedSamples
      (resampler.nextPosition / config.outputRate) (resampler.nextPosition % config.outputRate) := by
    rw [frameOf, frame, fraction, streamed.buffered, frame_drop]
  obtain ⟨length, available⟩ := buffered_frames config valid samples frames dropped count resampler streamed
  rw [available, not_or, not_and_or, not_le, not_le, not_ne_iff] at free
  obtain ⟨written, found, counted⟩ := frame_some interpolate config.outputRate config.channels resampler.bufferedSamples _ _ (frames - dropped) length
    free.1 (fun left => free.2.resolve_left left)
  refine ⟨written, ?_, same.trans found, counted⟩
  have blocked : ¬ (frames - dropped ≤ resampler.nextPosition / config.outputRate ∨
      (resampler.nextPosition % config.outputRate ≠ 0 ∧ frames - dropped ≤ resampler.nextPosition / config.outputRate + 1)) := by
    rw [not_or, not_and_or, not_le, not_le, not_ne_iff]
    exact free
  rw [writeNextFrame]
  simp only [streamed.configured, available]
  rw [if_neg blocked, streamed.channels, found, Option.map_some]

theorem reached_writable (valid : config.Valid) (frames count : Nat) :
    count < outputFrames config frames ↔ count * config.inputRate + config.outputRate ≤ frames * config.outputRate := by
  obtain ⟨reached, ended⟩ := output_frames_reached config frames valid.inputRate valid.outputRate
  constructor
  · intro below
    have last := reached.resolve_left (by omega)
    have earlier : count * config.inputRate ≤ (outputFrames config frames - 1) * config.inputRate := Nat.mul_le_mul_right _ (by omega)
    omega
  · intro writable
    have less : count * config.inputRate < outputFrames config frames * config.inputRate := by omega
    exact Nat.lt_of_mul_lt_mul_right less

-- From output frame `count` on, `left` frames are written, unless the position after them is past u64.
theorem write_frames_spec (valid : config.Valid) (samples : List α) (frames dropped left : Nat) (count fuel : Nat)
    (resampler : StreamingLinearAudioResampler α) (streamed : Streamed config samples frames dropped count resampler)
    (target : count + left = outputFrames config frames) (enough : left < fuel) :
    ∃ written, (List.range' count left).mapM (frameOf interpolate config samples) = some written ∧ (∀ frame ∈ written, frame.length = config.channels) ∧
      ∀ output, writeFrames interpolate fuel resampler output =
        if left ≠ 0 ∧ 2 ^ 64 ≤ resampler.nextPosition + left * config.inputRate then none
        else some ({ resampler with nextPosition := resampler.nextPosition + left * config.inputRate }, output ++ written.flatten) := by
  obtain ⟨fuel, rfl⟩ : ∃ less, fuel = less + 1 := ⟨fuel - 1, by omega⟩
  induction left generalizing count fuel resampler with
  | zero =>
      have full : ¬ count * config.inputRate + config.outputRate ≤ frames * config.outputRate := by
        rw [← reached_writable config valid frames count]
        omega
      have blocked := not_not.mp (mt (next_writable config valid samples frames dropped count resampler streamed).mp full)
      have stopped : writeNextFrame interpolate resampler = some none := by
        simp only [writeNextFrame, streamed.configured, if_pos blocked]
      refine ⟨[], rfl, by simp, ?_⟩
      intro output
      rw [writeFrames, stopped, Option.bind_some]
      simp
  | succ left ih =>
      have writable := (reached_writable config valid frames count).mp (by omega)
      obtain ⟨frame, next, found, counted⟩ := next_frame interpolate config valid samples frames dropped count resampler streamed writable
      obtain ⟨less, rfl⟩ : ∃ less, fuel = less + 1 := ⟨fuel - 1, by omega⟩
      have rate : resampler.config.inputRate = config.inputRate := congrArg _ streamed.configured
      have moved : Streamed config samples frames dropped (count + 1) { resampler with nextPosition := resampler.nextPosition + config.inputRate } := by
        refine { streamed with position := ?_ }
        rw [Nat.add_mul, Nat.one_mul, ← streamed.position]
        dsimp only
        omega
      obtain ⟨written, mapped, sized, later⟩ := ih (count + 1) { resampler with nextPosition := resampler.nextPosition + config.inputRate } moved
        (by omega) less (by omega)
      refine ⟨frame :: written, ?_, List.forall_mem_cons.mpr ⟨counted, sized⟩, ?_⟩
      · rw [List.range'_succ, List.mapM_cons, found]
        simp [mapped]
      · intro output
        have sum : resampler.nextPosition + (left + 1) * config.inputRate = resampler.nextPosition + config.inputRate + left * config.inputRate := by ring
        rw [writeFrames, next, Option.bind_some]
        dsimp only
        rw [rate]
        by_cases fits : resampler.nextPosition + config.inputRate < 2 ^ 64
        · rw [unsigned_fits 64 _ fits, Option.bind_some, later, sum]
          by_cases done : left = 0
          · subst done
            have small : ¬ (0 + 1 ≠ 0 ∧ 2 ^ 64 ≤ resampler.nextPosition + config.inputRate + 0 * config.inputRate) := by omega
            rw [if_neg small, if_neg (by simp)]
            simp
          · simp [done]
        · have past : 2 ^ 64 ≤ resampler.nextPosition + (left + 1) * config.inputRate := by
            rw [sum]
            exact le_trans (not_lt.mp fits) (Nat.le_add_right _ _)
          rw [unsigned, if_neg fits, if_pos ⟨Nat.succ_ne_zero left, past⟩]
          rfl

theorem discard_spec (valid : config.Valid) (samples : List α) (frames dropped count : Nat)
    (resampler : StreamingLinearAudioResampler α) (streamed : Streamed config samples frames dropped count resampler) :
    ∃ later discarded, discardConsumedFrames resampler = some discarded ∧ Streamed config samples frames later count discarded := by
  obtain ⟨length, available⟩ := buffered_frames config valid samples frames dropped count resampler streamed
  obtain ⟨consumed, found⟩ : ∃ consumed, consumed = min (resampler.nextPosition / config.outputRate) (frames - dropped) := ⟨_, rfl⟩
  have kept : consumed ≤ frames - dropped := found ▸ min_le_right _ _
  have behind : consumed * config.outputRate ≤ resampler.nextPosition := by
    calc consumed * config.outputRate ≤ resampler.nextPosition / config.outputRate * config.outputRate := Nat.mul_le_mul_right _ (found ▸ min_le_left _ _)
      _ ≤ resampler.nextPosition := Nat.div_mul_le_self _ _
  have inside : consumed * config.channels ≤ resampler.bufferedSamples.length := by
    rw [length]
    exact Nat.mul_le_mul_right _ kept
  have room := streamed.within
  refine ⟨dropped + consumed, { resampler with
    bufferedSamples := resampler.bufferedSamples.drop (consumed * config.channels)
    nextPosition := resampler.nextPosition - consumed * config.outputRate }, ?_, ?_⟩
  · rw [discardConsumedFrames, available, streamed.channels]
    have rate : resampler.config.outputRate = config.outputRate := congrArg _ streamed.configured
    rw [rate, ← found, if_neg (by omega)]
  · refine ⟨streamed.configured, streamed.channels, streamed.whole, by omega, ?_, ?_⟩
    · dsimp only
      rw [streamed.buffered, List.drop_drop, Nat.add_mul]
    · dsimp only
      rw [Nat.add_mul, ← streamed.position]
      omega

end

def Accepts (config : AudioResamplerConfig) (input : List α) : Prop :=
  input.length % config.channels = 0 ∧ (outputCapacity config config.channels input.length).isOk = true

instance (config : AudioResamplerConfig) (input : List α) : Decidable (Accepts config input) :=
  inferInstanceAs (Decidable (input.length % config.channels = 0 ∧ (outputCapacity config config.channels input.length).isOk = true))

-- The frames one call writes, and where the position is after them.
def framesToWrite (resampler : StreamingLinearAudioResampler α) (input : List α) : Nat :=
  let frames := (resampler.bufferedSamples ++ input).length / resampler.channels
  if frames ≠ 0 ∧ resampler.nextPosition ≤ (frames - 1) * resampler.config.outputRate then
    ((frames - 1) * resampler.config.outputRate - resampler.nextPosition) / resampler.config.inputRate + 1
  else 0

def Fits (resampler : StreamingLinearAudioResampler α) (input : List α) : Prop :=
  Accepts resampler.config input → framesToWrite resampler input ≠ 0 →
    resampler.nextPosition + framesToWrite resampler input * resampler.config.inputRate < 2 ^ 64

section
variable (config : AudioResamplerConfig)

theorem streamed_extended (samples input : List α) (frames more dropped count : Nat)
    (resampler : StreamingLinearAudioResampler α) (streamed : Streamed config samples frames dropped count resampler) (whole : input.length = more * config.channels) :
    Streamed config (samples ++ input) (frames + more) dropped count { resampler with bufferedSamples := resampler.bufferedSamples ++ input } := by
  have within := Nat.mul_le_mul_right config.channels streamed.within
  refine { streamed with whole := ?_, within := le_trans streamed.within (Nat.le_add_right _ _), buffered := ?_ }
  · rw [List.length_append, streamed.whole, whole, Nat.add_mul]
  · dsimp only
    rw [streamed.buffered, List.drop_append_of_le_length (by rw [streamed.whole]; exact within)]

theorem frames_to_write (valid : config.Valid) (samples input : List α) (frames more dropped count : Nat)
    (resampler : StreamingLinearAudioResampler α) (streamed : Streamed config samples frames dropped count resampler) (whole : input.length = more * config.channels)
    (reached : count ≤ outputFrames config (frames + more)) : count + framesToWrite resampler input = outputFrames config (frames + more) := by
  have extended := streamed_extended config samples input frames more dropped count resampler streamed whole
  have available := (buffered_frames config valid _ _ dropped count _ extended).2
  have input' : resampler.config.inputRate = config.inputRate := congrArg _ streamed.configured
  have output' : resampler.config.outputRate = config.outputRate := congrArg _ streamed.configured
  have position := streamed.position
  have kept := extended.within
  have writable := reached_writable config valid (frames + more) count
  simp only [framesToWrite, available, input', output']
  generalize frames + more = total at *
  by_cases fits : total - dropped ≠ 0 ∧ resampler.nextPosition ≤ (total - dropped - 1) * config.outputRate
  · obtain ⟨some, below⟩ := fits
    obtain ⟨last, rfl⟩ : ∃ last, total = last + 1 := ⟨total - 1, by omega⟩
    have room : last + 1 - dropped - 1 = last - dropped := by omega
    have behind : dropped ≤ last := by omega
    have whole' : (last - dropped) * config.outputRate + dropped * config.outputRate = last * config.outputRate := by
      rw [← Nat.add_mul, Nat.sub_add_cancel behind]
    rw [room] at below ⊢
    have rest : (last - dropped) * config.outputRate - resampler.nextPosition = last * config.outputRate - config.inputRate * count := by
      rw [Nat.mul_comm config.inputRate]
      omega
    have within : count ≤ last * config.outputRate / config.inputRate := by
      rw [Nat.le_div_iff_mul_le valid.inputRate]
      omega
    rw [if_pos ⟨some, below⟩, rest, Nat.sub_mul_div, outputFrames, if_neg (Nat.succ_ne_zero last), Nat.add_sub_cancel]
    omega
  · rw [if_neg fits, Nat.add_zero]
    apply le_antisymm reached
    rw [← not_lt, writable]
    intro covers
    apply fits
    have some : dropped < total := by
      by_contra all
      have same : dropped = total := by omega
      subst same
      have positive := valid.outputRate
      omega
    obtain ⟨last, rfl⟩ : ∃ last, total = last + 1 := ⟨total - 1, by omega⟩
    have room : last + 1 - dropped - 1 = last - dropped := by omega
    have behind : dropped ≤ last := by omega
    have whole' : (last - dropped) * config.outputRate + dropped * config.outputRate = last * config.outputRate := by
      rw [← Nat.add_mul, Nat.sub_add_cancel behind]
    rw [room]
    rw [Nat.add_mul, Nat.one_mul] at covers
    exact ⟨by omega, by omega⟩

theorem output_frames_mono (valid : config.Valid) (frames more : Nat) : outputFrames config frames ≤ outputFrames config (frames + more) := by
  by_contra fewer
  have covers := (reached_writable config valid frames _).mp (not_le.mp fewer)
  have further : frames * config.outputRate ≤ (frames + more) * config.outputRate := Nat.mul_le_mul_right _ (Nat.le_add_right _ _)
  exact absurd ((reached_writable config valid (frames + more) _).mpr (le_trans covers further)) (lt_irrefl _)

end

theorem fuel_enough (resampler : StreamingLinearAudioResampler α) (input : List α) :
    framesToWrite resampler input < writeFuel { resampler with bufferedSamples := resampler.bufferedSamples ++ input } := by
  simp only [framesToWrite, writeFuel]
  generalize (resampler.bufferedSamples ++ input).length / resampler.channels = frames
  split
  · have less : ((frames - 1) * resampler.config.outputRate - resampler.nextPosition) / resampler.config.inputRate ≤ (frames - 1) * resampler.config.outputRate :=
      (Nat.div_le_self _ _).trans (Nat.sub_le _ _)
    have more : (frames - 1) * resampler.config.outputRate ≤ frames * resampler.config.outputRate := Nat.mul_le_mul_right _ (Nat.sub_le _ _)
    omega
  · exact Nat.succ_pos _

-- What one call does to a resampler that has streamed some input: it refuses and changes nothing,
-- its position overflows, or it appends the frames the new input reaches.
theorem process_cases (config : AudioResamplerConfig) (valid : config.Valid) (samples input : List α) (frames dropped : Nat)
    (resampler : StreamingLinearAudioResampler α) (streamed : Streamed config samples frames dropped (outputFrames config frames) resampler) :
    (¬ Accepts config input ∧ ∃ refused, ∀ output, processInto interpolate resampler input output = some (.error refused, resampler, output)) ∨
    (Accepts config input ∧ ¬ Fits resampler input ∧ ∀ output, processInto interpolate resampler input output = none) ∨
    (Accepts config input ∧ Fits resampler input ∧ ∃ more later next written, input.length = more * config.channels ∧
      (∀ output, processInto interpolate resampler input output = some (.ok (), next, output ++ written.flatten)) ∧
      Streamed config (samples ++ input) (frames + more) later (outputFrames config (frames + more)) next ∧
      (List.range' (outputFrames config frames) (outputFrames config (frames + more) - outputFrames config frames)).mapM
        (frameOf interpolate config (samples ++ input)) = some written ∧ ∀ frame ∈ written, frame.length = config.channels) := by
  by_cases whole : input.length % config.channels = 0
  · cases capacity : outputCapacity config config.channels input.length with
    | error refused =>
        refine .inl ⟨?_, refused, ?_⟩
        · rintro ⟨_, room⟩
          rw [capacity] at room
          cases room
        · intro output
          have valid' : validateInput input config.channels = .ok () := if_neg (not_not.mpr whole)
          rw [processInto, streamed.channels, valid', streamed.configured]
          simp only [capacity]
    | ok room =>
        have accepts : Accepts config input := ⟨whole, by rw [capacity]; rfl⟩
        have more : input.length = input.length / config.channels * config.channels := (Nat.div_mul_cancel (Nat.dvd_of_mod_eq_zero whole)).symm
        have grows := output_frames_mono config valid frames (input.length / config.channels)
        have extended := streamed_extended config samples input frames (input.length / config.channels) dropped _ resampler streamed more
        have target := frames_to_write config valid samples input frames (input.length / config.channels) dropped _ resampler streamed more grows
        obtain ⟨written, mapped, sized, wrote⟩ := write_frames_spec interpolate config valid (samples ++ input) (frames + input.length / config.channels) dropped
          (framesToWrite resampler input) _ (writeFuel { resampler with bufferedSamples := resampler.bufferedSamples ++ input }) _ extended target
          (fuel_enough resampler input)
        have rate : resampler.config.inputRate = config.inputRate := congrArg _ streamed.configured
        have valid' : validateInput input config.channels = .ok () := if_neg (not_not.mpr whole)
        have result (output : List α) : processInto interpolate resampler input output =
            if framesToWrite resampler input ≠ 0 ∧ 2 ^ 64 ≤ resampler.nextPosition + framesToWrite resampler input * config.inputRate then none
            else (discardConsumedFrames { resampler with
                bufferedSamples := resampler.bufferedSamples ++ input
                nextPosition := resampler.nextPosition + framesToWrite resampler input * config.inputRate }).map (fun discarded =>
              (.ok (), discarded, output ++ written.flatten)) := by
          have passed : validateInput input resampler.channels = .ok () := by rw [streamed.channels, valid']
          have roomy : outputCapacity resampler.config resampler.channels input.length = .ok room := by rw [streamed.configured, streamed.channels, capacity]
          simp only [processInto, passed, roomy, wrote]
          split
          · rfl
          · rfl
        by_cases past : framesToWrite resampler input ≠ 0 ∧ 2 ^ 64 ≤ resampler.nextPosition + framesToWrite resampler input * config.inputRate
        · refine .inr (.inl ⟨accepts, ?_, fun output => by rw [result, if_pos past]⟩)
          intro fits
          have below := fits (by rw [streamed.configured]; exact accepts) past.1
          rw [rate] at below
          exact absurd past.2 (not_le.mpr below)
        · have moved : Streamed config (samples ++ input) (frames + input.length / config.channels) dropped
              (outputFrames config (frames + input.length / config.channels)) { resampler with
                bufferedSamples := resampler.bufferedSamples ++ input
                nextPosition := resampler.nextPosition + framesToWrite resampler input * config.inputRate } := by
            refine { extended with position := ?_ }
            rw [← target, Nat.add_mul, ← extended.position]
            dsimp only
            omega
          obtain ⟨later, next, discarded, kept⟩ := discard_spec config valid _ _ dropped _ _ moved
          refine .inr (.inr ⟨accepts, ?_, input.length / config.channels, later, next, written, more, ?_, kept, ?_, sized⟩)
          · intro _ some
            rw [rate]
            exact not_le.mp (fun large => past ⟨some, large⟩)
          · intro output
            rw [result, if_neg past, discarded, Option.map_some]
          · rw [← target, Nat.add_sub_cancel_left]
            exact mapped
  · refine .inl ⟨fun accepts => whole accepts.1, .incompleteFrame input.length config.channels, ?_⟩
    intro output
    have refused : validateInput input config.channels = .error (.incompleteFrame input.length config.channels) := if_pos whole
    rw [processInto, streamed.channels, refused]

end

end GotechDesk.AudioResampler
