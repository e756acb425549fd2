import GotechDesk.AudioResampler.Chunking

set_option autoImplicit false

namespace GotechDesk.AudioResampler

open GotechDesk.Checked

theorem chunks_exact_flatten {α : Type} (size count : Nat) (samples : List α) : (chunksExact size count samples).flatten = samples.take (count * size) := by
  induction count with
  | zero => simp [chunksExact]
  | succ count ih =>
      rw [chunksExact, List.range_succ, List.map_append, List.flatten_append]
      rw [chunksExact] at ih
      rw [ih, Nat.add_mul, Nat.one_mul, List.take_add]
      simp

theorem chunks_exact_sized {α : Type} (size count : Nat) (samples : List α) (enough : count * size ≤ samples.length) :
    ∀ packet ∈ chunksExact size count samples, packet.length = size := by
  intro packet member
  obtain ⟨index, listed, rfl⟩ := List.mem_map.mp member
  have below : (index + 1) * size ≤ count * size := Nat.mul_le_mul_right size (List.mem_range.mp listed)
  rw [Nat.add_mul, Nat.one_mul] at below
  rw [List.length_take, List.length_drop]
  omega

theorem capacity_value (config : AudioResamplerConfig) (channels samples capacity : Nat) (given : outputCapacity config channels samples = .ok capacity) :
    capacity = (samples / channels * config.outputRate / config.inputRate + 2) * channels := by
  cases scaled : unsigned 64 (samples / channels * config.outputRate) with
  | none =>
      simp only [outputCapacity, scaled, checkedCapacity, Option.bind_none, Option.elim_none] at given
      cases given
  | some product =>
      obtain ⟨_, rfl⟩ := unsigned_some _ _ _ scaled
      cases added : unsigned 64 (samples / channels * config.outputRate / config.inputRate + interpolationMarginFrames) with
      | none =>
          simp only [outputCapacity, scaled, added, checkedCapacity, Option.bind_some, Option.bind_none, Option.elim_none] at given
          cases given
      | some frames =>
          obtain ⟨_, rfl⟩ := unsigned_some _ _ _ added
          cases multiplied : unsigned 64 ((samples / channels * config.outputRate / config.inputRate + interpolationMarginFrames) * channels) with
          | none =>
              simp only [outputCapacity, scaled, added, multiplied, checkedCapacity, Option.bind_some, Option.elim_none] at given
              cases given
          | some result =>
              simp only [outputCapacity, scaled, added, multiplied, checkedCapacity, Option.bind_some, Option.elim_some] at given
              cases given
              exact (unsigned_some _ _ _ multiplied).2

theorem frames_within_capacity (config : AudioResamplerConfig) (valid : config.Valid) (frames more : Nat) :
    outputFrames config (frames + more) - outputFrames config frames ≤ more * config.outputRate / config.inputRate + 2 := by
  unfold outputFrames
  by_cases first : frames = 0
  · subst first
    rw [if_pos rfl, Nat.zero_add, Nat.sub_zero]
    split
    · exact Nat.zero_le _
    · have shorter : (more - 1) * config.outputRate / config.inputRate ≤ more * config.outputRate / config.inputRate :=
        Nat.div_le_div_right (Nat.mul_le_mul_right _ (Nat.sub_le _ _))
      omega
  · have last : frames + more - 1 = frames - 1 + more := by omega
    have carried : ((frames - 1) * config.outputRate + more * config.outputRate) / config.inputRate ≤
        (frames - 1) * config.outputRate / config.inputRate + more * config.outputRate / config.inputRate + 1 := by
      rw [Nat.add_div valid.inputRate]
      split
      · exact le_rfl
      · exact Nat.le_succ _
    rw [if_neg first, if_neg (by omega), last, Nat.add_mul]
    generalize ((frames - 1) * config.outputRate + more * config.outputRate) / config.inputRate = joined at carried ⊢
    generalize (frames - 1) * config.outputRate / config.inputRate = earlier at carried ⊢
    generalize more * config.outputRate / config.inputRate = added at carried ⊢
    omega

section
variable {α : Type} (interpolate : α → α → Nat → Nat → α)

theorem process_all_append (resampler : StreamingLinearAudioResampler α) (output input : List α) (front : List (List α)) :
    processAll interpolate resampler output (front ++ [input]) = (processAll interpolate resampler output front).bind (fun state =>
      (processInto interpolate state.1 input state.2).map Prod.snd) := by
  induction front generalizing resampler output with
  | nil =>
      simp only [List.nil_append, processAll, Option.bind_some]
      cases processInto interpolate resampler input output with
      | none => rfl
      | some result => rfl
  | cons first rest ih =>
      simp only [List.cons_append, processAll]
      cases processInto interpolate resampler first output with
      | none => rfl
      | some result => exact ih result.2.1 result.2.2

-- The input of the calls that were not refused.
def accepted (config : AudioResamplerConfig) (inputs : List (List α)) : List α := (inputs.filter (fun input => Accepts config input)).flatten

theorem accepted_append (config : AudioResamplerConfig) (front : List (List α)) (input : List α) :
    accepted config (front ++ [input]) = accepted config front ++ if Accepts config input then input else [] := by
  rw [accepted, List.filter_append, List.flatten_append, accepted]
  by_cases takes : Accepts config input
  · simp [takes]
  · simp [takes]

-- All output frames the whole input reaches, in order.
def Resampled (config : AudioResamplerConfig) (samples output : List α) : Prop :=
  ∃ written, (List.range (outputFrames config (samples.length / config.channels))).mapM (frameOf interpolate config samples) = some written ∧
    (∀ frame ∈ written, frame.length = config.channels) ∧ output = written.flatten

-- The state after a run of calls: what they were given, and what they wrote.
def After (config : AudioResamplerConfig) (samples : List α) (resampler : StreamingLinearAudioResampler α) (output : List α) : Prop :=
  (∃ frames dropped, Streamed config samples frames dropped (outputFrames config frames) resampler) ∧ Resampled interpolate config samples output

theorem after_new (config : AudioResamplerConfig) : After interpolate config [] ⟨config, config.channels, [], 0⟩ [] := by
  exact ⟨⟨0, 0, rfl, rfl, by simp, le_rfl, by simp, by simp [outputFrames]⟩, [], by simp [outputFrames], by simp, rfl⟩

theorem after_process (config : AudioResamplerConfig) (valid : config.Valid) (samples input output : List α) (resampler : StreamingLinearAudioResampler α)
    (after : After interpolate config samples resampler output) :
    (¬ Accepts config input ∧ ∃ refused, ∀ output, processInto interpolate resampler input output = some (.error refused, resampler, output)) ∨
    (Accepts config input ∧ ¬ Fits resampler input ∧ ∀ output, processInto interpolate resampler input output = none) ∨
    (Accepts config input ∧ Fits resampler input ∧ ∃ next added, (∀ output, processInto interpolate resampler input output = some (.ok (), next, output ++ added)) ∧
      After interpolate config (samples ++ input) next (output ++ added) ∧
      ∀ capacity, outputCapacity config config.channels input.length = .ok capacity → added.length ≤ capacity) := by
  obtain ⟨⟨frames, dropped, streamed⟩, earlier, mapped, sized, rfl⟩ := after
  obtain refused | overflows | ⟨takes, fits, more, later, next, written, whole, result, kept, added, counted⟩ :=
    process_cases interpolate config valid samples input frames dropped resampler streamed
  · exact .inl refused
  · exact .inr (.inl overflows)
  · have before : samples.length / config.channels = frames := by rw [streamed.whole, Nat.mul_div_cancel _ valid.channels]
    have total : (samples ++ input).length / config.channels = frames + more := by rw [kept.whole, Nat.mul_div_cancel _ valid.channels]
    have grows := output_frames_mono config valid frames more
    refine .inr (.inr ⟨takes, fits, next, written.flatten, result, ⟨⟨frames + more, later, kept⟩, earlier ++ written, ?_, ?_, ?_⟩, ?_⟩)
    · have still : (List.range (outputFrames config frames)).mapM (frameOf interpolate config (samples ++ input)) = some earlier := by
        rw [before] at mapped
        apply map_some_kept _ _ _ _ _ mapped
        intro count _ frame found
        exact frame_append interpolate _ _ samples input frame _ _ found
      have split : List.range (outputFrames config (frames + more)) = List.range (outputFrames config frames) ++
          List.range' (outputFrames config frames) (outputFrames config (frames + more) - outputFrames config frames) := by
        rw [List.range_eq_range', List.range_eq_range']
        have joined := List.range'_append_1 (s := 0) (m := outputFrames config frames) (n := outputFrames config (frames + more) - outputFrames config frames)
        rw [Nat.zero_add, Nat.add_sub_cancel' grows] at joined
        exact joined.symm
      rw [total, split, List.mapM_append, still, added]
      rfl
    · exact List.forall_mem_append.mpr ⟨sized, counted⟩
    · rw [List.flatten_append]
    · intro capacity given
      have length : written.flatten.length = (outputFrames config (frames + more) - outputFrames config frames) * config.channels := by
        rw [flatten_uniform config.channels written counted, map_some_length _ _ _ added, List.length_range']
      rw [capacity_value config config.channels input.length capacity given, length, whole, Nat.mul_div_cancel _ valid.channels]
      exact Nat.mul_le_mul_right _ (frames_within_capacity config valid frames more)

-- No call of the stream takes the position past u64.
def FitsAll (config : AudioResamplerConfig) (inputs : List (List α)) : Prop :=
  ∀ front input, front ++ [input] <+: inputs → ∀ resampler output,
    processAll interpolate ⟨config, config.channels, [], 0⟩ [] front = some (resampler, output) → Fits resampler input

section
variable (config : AudioResamplerConfig)

theorem fits_all_front (inputs front : List (List α)) (fits : FitsAll interpolate config inputs) (before : front <+: inputs) :
    FitsAll interpolate config front := fun earlier input within => fits earlier input (within.trans before)

theorem process_all_after (valid : config.Valid) (inputs : List (List α)) (fits : FitsAll interpolate config inputs) :
    ∃ resampler output, processAll interpolate ⟨config, config.channels, [], 0⟩ [] inputs = some (resampler, output) ∧
      After interpolate config (accepted config inputs) resampler output := by
  induction inputs using List.reverseRecOn with
  | nil => exact ⟨_, [], rfl, after_new interpolate config⟩
  | append_singleton front input ih =>
      obtain ⟨resampler, output, ran, after⟩ := ih (fits_all_front interpolate config _ front fits (List.prefix_append front [input]))
      have here := fits front input (List.prefix_refl _) resampler output ran
      rw [process_all_append, ran, Option.bind_some, accepted_append]
      obtain ⟨refuses, refused, result⟩ | ⟨_, overflows, _⟩ | ⟨takes, _, next, added, result, kept, _⟩ :=
        after_process interpolate config valid _ input output resampler after
      · rw [if_neg refuses, List.append_nil, result]
        exact ⟨resampler, output, rfl, after⟩
      · exact absurd here overflows
      · rw [if_pos takes, result]
        exact ⟨next, output ++ added, rfl, kept⟩

theorem process_all_fits (valid : config.Valid) (inputs : List (List α))
    (runs : ∃ state, processAll interpolate ⟨config, config.channels, [], 0⟩ [] inputs = some state) : FitsAll interpolate config inputs := by
  induction inputs using List.reverseRecOn with
  | nil =>
      intro front input within
      simp at within
  | append_singleton before last ih =>
      obtain ⟨final, ran⟩ := runs
      rw [process_all_append] at ran
      obtain ⟨state, earlier, taken⟩ := Option.bind_eq_some_iff.mp ran
      have fits := ih ⟨state, earlier⟩
      intro front input within resampler output reached
      obtain same | inside := List.prefix_concat_iff.mp within
      · obtain ⟨rfl, last'⟩ := List.append_inj' same rfl
        obtain rfl : input = last := List.head_eq_of_cons_eq last'
        rw [reached] at earlier
        cases earlier
        obtain ⟨again, output', ran', after⟩ := process_all_after interpolate config valid front fits
        rw [reached] at ran'
        cases ran'
        obtain ⟨refuses, _⟩ | ⟨_, _, none'⟩ | ⟨_, here, _⟩ := after_process interpolate config valid _ input output resampler after
        · intro takes
          rw [after.1.choose_spec.choose_spec.configured] at takes
          exact absurd takes refuses
        · rw [none'] at taken
          cases taken
        · exact here
      · exact fits front input inside resampler output reached

end

theorem process_packets_append (fixed : FixedFrameAudioResampler α) (input : List α) (front : List (List α)) :
    processPackets interpolate fixed (front ++ [input]) = (processPackets interpolate fixed front).bind (fun state =>
      (processWith interpolate state.1 input).map (fun result => (result.2.1, state.2 ++ result.2.2))) := by
  induction front generalizing fixed with
  | nil =>
      simp only [List.nil_append, processPackets, Option.bind_some]
      cases processWith interpolate fixed input with
      | none => rfl
      | some result => simp
  | cons first rest ih =>
      simp only [List.cons_append, processPackets]
      cases processWith interpolate fixed first with
      | none => rfl
      | some result =>
          simp only [Option.bind_some, ih]
          cases processPackets interpolate result.2.1 rest with
          | none => rfl
          | some later =>
              simp only [Option.bind_some, Option.map_some]
              cases processWith interpolate later.1 input with
              | none => rfl
              | some last => simp

section
variable (config : AudioResamplerConfig)

-- The packets and what is pending are the output of the resampler inside.
theorem process_packets_after (valid : config.Valid) (size : Nat) (inputs : List (List α))
    (fits : FitsAll interpolate config inputs) (resampler : StreamingLinearAudioResampler α) (output : List α)
    (ran : processAll interpolate ⟨config, config.channels, [], 0⟩ [] inputs = some (resampler, output)) :
    ∃ pending packets, processPackets interpolate ⟨⟨config, config.channels, [], 0⟩, size, []⟩ inputs = some (⟨resampler, size, pending⟩, packets) ∧
      (∀ packet ∈ packets, packet.length = size) ∧ packets.flatten ++ pending = output := by
  induction inputs using List.reverseRecOn generalizing resampler output with
  | nil =>
      cases ran
      exact ⟨[], [], rfl, by simp, rfl⟩
  | append_singleton front input ih =>
      rw [process_all_append] at ran
      obtain ⟨⟨before, written⟩, earlier, taken⟩ := Option.bind_eq_some_iff.mp ran
      have fitsFront := fits_all_front interpolate config _ front fits (List.prefix_append front [input])
      have here := fits front input (List.prefix_refl _) before written earlier
      obtain ⟨again, written', ran', after⟩ := process_all_after interpolate config valid front fitsFront
      rw [earlier] at ran'
      cases ran'
      obtain ⟨pending, packets, packed, sized, joined⟩ := ih fitsFront before written earlier
      rw [process_packets_append, packed, Option.bind_some]
      obtain ⟨_, refused, result⟩ | ⟨_, overflows, _⟩ | ⟨_, _, next, added, result, _⟩ := after_process interpolate config valid _ input written before after
      · rw [result] at taken
        cases taken
        refine ⟨pending, packets, ?_, sized, joined⟩
        simp [processWith, result]
      · exact absurd here overflows
      · rw [result] at taken
        cases taken
        have complete : (pending ++ added).length / size * size ≤ (pending ++ added).length := Nat.div_mul_le_self _ _
        refine ⟨(pending ++ added).drop ((pending ++ added).length / size * size),
          packets ++ chunksExact size ((pending ++ added).length / size) ((pending ++ added).take ((pending ++ added).length / size * size)), ?_, ?_, ?_⟩
        · simp only [processWith, result, Option.map_some]
        · refine List.forall_mem_append.mpr ⟨sized, chunks_exact_sized _ _ _ ?_⟩
          rw [List.length_take, min_eq_left complete]
        · rw [List.flatten_append, chunks_exact_flatten, List.take_take, min_self, List.append_assoc, List.take_append_drop, ← joined, List.append_assoc]

theorem valid_checked (valid : config.Valid) : validateConfig config = .ok config.channels := by
  rw [validateConfig, if_neg]
  rintro (zero | zero | zero)
  · exact absurd zero valid.inputRate.ne'
  · exact absurd zero valid.outputRate.ne'
  · exact absurd zero valid.channels.ne'

theorem new_valid (valid : config.Valid) :
    (StreamingLinearAudioResampler.new config : Except AudioResamplerError (StreamingLinearAudioResampler α)) = .ok ⟨config, config.channels, [], 0⟩ := by
  rw [StreamingLinearAudioResampler.new, valid_checked config valid]
  rfl

end

theorem checked_ok (value : Option Nat) (given : Nat) (ok : checkedCapacity value = .ok given) : value = some given := by
  cases value with
  | none => cases ok
  | some held =>
      cases ok
      rfl

theorem bind_ok {ε β γ : Type} (first : Except ε β) (next : β → Except ε γ) (result : γ) (ran : (first >>= next) = .ok result) :
    ∃ value, first = .ok value ∧ next value = .ok result := by
  cases first with
  | error refused => cases ran
  | ok value => exact ⟨value, rfl, ran⟩

theorem fixed_new (config : AudioResamplerConfig) (valid : config.Valid) (frames : Nat) (fixed : FixedFrameAudioResampler α)
    (made : FixedFrameAudioResampler.new config frames = .ok fixed) : fixed = ⟨⟨config, config.channels, [], 0⟩, frames * config.channels, []⟩ := by
  rw [FixedFrameAudioResampler.new] at made
  split at made
  · cases made
  · obtain ⟨channels, checked, sized⟩ := bind_ok _ _ _ made
    obtain ⟨samples, multiplied, scaled⟩ := bind_ok _ _ _ sized
    obtain ⟨_, _, packets⟩ := bind_ok _ _ _ scaled
    obtain ⟨_, _, built⟩ := bind_ok _ _ _ packets
    obtain ⟨resampler, fresh, reserved⟩ := bind_ok _ _ _ built
    obtain ⟨_, _, result⟩ := bind_ok _ _ _ reserved
    rw [valid_checked config valid] at checked
    rw [new_valid config valid] at fresh
    rw [← Except.ok.inj result, ← Except.ok.inj fresh, (unsigned_some _ _ _ (checked_ok _ _ multiplied)).2, Except.ok.inj checked]

-- What the resamplers do with a stream of inputs, whole frames or not.
def Streams (config : AudioResamplerConfig) (inputs : List (List α)) : Prop :=
  ∃ start resampler output, StreamingLinearAudioResampler.new config = .ok start ∧ processAll interpolate start [] inputs = some (resampler, output) ∧
    Resampled interpolate config (accepted config inputs) output ∧
    (∀ front input, front ++ [input] <+: inputs → ∀ before written, processAll interpolate start [] front = some (before, written) →
      ∃ answer after added, processInto interpolate before input written = some (answer, after, written ++ added) ∧
        (∀ refused, answer = .error refused → after = before ∧ added = []) ∧
        ∀ capacity, outputCapacity config config.channels input.length = .ok capacity → added.length ≤ capacity) ∧
    ∀ frames fixed, FixedFrameAudioResampler.new config frames = .ok fixed → ∃ after packets, processPackets interpolate fixed inputs = some (after, packets) ∧
      (∀ packet ∈ packets, packet.length = fixed.outputSamples) ∧ packets.flatten ++ after.pendingSamples = output

theorem streams_fitting (config : AudioResamplerConfig) (valid : config.Valid) (inputs : List (List α)) (fits : FitsAll interpolate config inputs) :
    Streams interpolate config inputs := by
  obtain ⟨resampler, output, ran, after⟩ := process_all_after interpolate config valid inputs fits
  refine ⟨_, resampler, output, new_valid config valid, ran, after.2, ?_, ?_⟩
  · intro front input within before written earlier
    have fitsFront := fits_all_front interpolate config _ front fits ((List.prefix_append front [input]).trans within)
    obtain ⟨again, written', ran', afterFront⟩ := process_all_after interpolate config valid front fitsFront
    rw [earlier] at ran'
    cases ran'
    obtain ⟨_, refused, result⟩ | ⟨_, overflows, _⟩ | ⟨_, _, next, added, result, _, small⟩ := after_process interpolate config valid _ input written before afterFront
    · refine ⟨.error refused, before, [], by rw [result, List.append_nil], fun _ _ => ⟨rfl, rfl⟩, fun _ _ => Nat.zero_le _⟩
    · exact absurd (fits front input within before written earlier) overflows
    · refine ⟨.ok (), next, added, result written, (fun refused other => by cases other), small⟩
  · intro frames fixed made
    obtain rfl := fixed_new config valid frames fixed made
    obtain ⟨pending, packets, packed, sized, joined⟩ := process_packets_after interpolate config valid (frames * config.channels) inputs fits resampler output ran
    exact ⟨_, packets, packed, sized, joined⟩

end

-- The float expression over whole numbers, rounded down.
def linear (current next : Int) (fraction outputRate : Nat) : Int := current + (next - current) * fraction / outputRate

def thirds : AudioResamplerConfig := ⟨3, 2, 1⟩

def fastest : AudioResamplerConfig := ⟨4294967295, 2147483648, 1⟩

def silence (frames : Nat) : List Int := List.replicate frames 0

theorem silence_length (frames : Nat) : (silence frames).length = frames := by rw [silence, List.length_replicate]

-- One frame is left of the first two, and the second input is as long as the capacity check lets it be.
theorem fastest_overflows (input : List Int) (long : input.length = 8589934591) : ¬ Fits ⟨fastest, 1, [0], 2147483647⟩ input := by
  have joined : ([0] ++ input).length = 8589934592 := by rw [List.length_append, long, List.length_singleton]
  have takes : Accepts fastest input := by
    rw [Accepts, long]
    decide
  have frames : framesToWrite ⟨fastest, 1, [0], 2147483647⟩ input = 4294967297 := by
    simp only [framesToWrite, joined]
    decide
  intro fits
  have below := fits takes (by rw [frames]; decide)
  rw [frames] at below
  exact absurd below (by decide)

end GotechDesk.AudioResampler
