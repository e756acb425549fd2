import GotechDesk.AudioResampler.Streaming

set_option autoImplicit false

namespace GotechDesk.AudioResampler

open GotechDesk.Checked

-- How many output frames an input of so many frames has: frame k needs the input up to k * inputRate / outputRate.
def outputFrames (config : AudioResamplerConfig) (frames : Nat) : Nat :=
  if frames = 0 then 0 else (frames - 1) * config.outputRate / config.inputRate + 1

theorem map_some_all {β γ : Type} (f : β → Option γ) (items : List β) (all : ∀ item ∈ items, ∃ result, f item = some result) :
    ∃ results, items.mapM f = some results ∧ results.length = items.length := by
  induction items with
  | nil => exact ⟨[], rfl, rfl⟩
  | cons item rest ih =>
      obtain ⟨here, later⟩ := List.forall_mem_cons.mp all
      obtain ⟨result, found⟩ := here
      obtain ⟨results, mapped, counted⟩ := ih later
      exact ⟨result :: results, by simp [List.mapM_cons, found, mapped], by simp [counted]⟩

theorem map_some_length {β γ : Type} (f : β → Option γ) (items : List β) (results : List γ) (mapped : items.mapM f = some results) :
    results.length = items.length := by
  induction items generalizing results with
  | nil =>
      cases mapped
      rfl
  | cons item rest ih =>
      simp only [List.mapM_cons, Option.bind_eq_bind, Option.bind_eq_some_iff, Option.pure_def, Option.some.injEq] at mapped
      obtain ⟨result, _, others, othersMapped, rfl⟩ := mapped
      rw [List.length_cons, List.length_cons, ih others othersMapped]

theorem flatten_uniform {β : Type} (size : Nat) (pieces : List (List β)) (uniform : ∀ piece ∈ pieces, piece.length = size) :
    pieces.flatten.length = pieces.length * size := by
  induction pieces with
  | nil => simp
  | cons piece rest ih =>
      obtain ⟨here, later⟩ := List.forall_mem_cons.mp uniform
      rw [List.flatten_cons, List.length_append, here, ih later, List.length_cons, Nat.add_mul, Nat.one_mul, Nat.add_comm]

theorem map_some_kept {β γ : Type} (f g : β → Option γ) (items : List β) (results : List γ)
    (kept : ∀ item ∈ items, ∀ result, f item = some result → g item = some result) (mapped : items.mapM f = some results) :
    items.mapM g = some results := by
  induction items generalizing results with
  | nil => exact mapped
  | cons item rest ih =>
      obtain ⟨here, later⟩ := List.forall_mem_cons.mp kept
      simp only [List.mapM_cons, Option.bind_eq_bind, Option.bind_eq_some_iff, Option.pure_def] at mapped ⊢
      obtain ⟨result, found, others, othersMapped, same⟩ := mapped
      exact ⟨result, here result found, others, ih others later othersMapped, same⟩

section
variable {α : Type} (interpolate : α → α → Nat → Nat → α)

section
variable (outputRate channels : Nat)

theorem frame_drop (samples : List α) (dropped frame fraction : Nat) :
    frameAt interpolate outputRate channels (samples.drop (dropped * channels)) frame fraction =
      frameAt interpolate outputRate channels samples (frame + dropped) fraction := by
  have index (channel extra : Nat) : dropped * channels + ((frame + extra) * channels + channel) = (frame + dropped + extra) * channels + channel := by ring
  have first (channel : Nat) : dropped * channels + (frame * channels + channel) = (frame + dropped) * channels + channel := by ring
  simp only [frameAt, List.getElem?_drop, first, index]

theorem frame_append (samples more frame' : List α) (frame fraction : Nat)
    (found : frameAt interpolate outputRate channels samples frame fraction = some frame') :
    frameAt interpolate outputRate channels (samples ++ more) frame fraction = some frame' := by
  have stays (index : Nat) (sample : α) (read : samples[index]? = some sample) : (samples ++ more)[index]? = some sample := by
    have inside : index < samples.length := (List.getElem?_eq_some_iff.mp read).1
    rw [List.getElem?_append_left inside, read]
  apply map_some_kept _ _ _ _ _ found
  intro channel _ result value
  obtain ⟨current, read, rest⟩ := Option.bind_eq_some_iff.mp value
  obtain ⟨next, readNext, same⟩ := Option.map_eq_some_iff.mp rest
  rw [stays _ current read, Option.bind_some, stays _ next readNext, Option.map_some, same]

theorem frame_some (samples : List α) (frame fraction frames : Nat) (whole : samples.length = frames * channels)
    (inside : frame < frames) (between : fraction ≠ 0 → frame + 1 < frames) :
    ∃ frame', frameAt interpolate outputRate channels samples frame fraction = some frame' ∧ frame'.length = channels := by
  have reads (index channel : Nat) (within : index < frames) (listed : channel < channels) : ∃ sample, samples[index * channels + channel]? = some sample := by
    have below : index * channels + channel < samples.length := by
      rw [whole]
      calc index * channels + channel < index * channels + channels := by omega
        _ = (index + 1) * channels := by ring
        _ ≤ frames * channels := Nat.mul_le_mul_right channels within
    exact ⟨samples[index * channels + channel], List.getElem?_eq_getElem below⟩
  have all : ∀ channel ∈ List.range channels, ∃ result, samples[frame * channels + channel]?.bind (fun current =>
      samples[(frame + if fraction ≠ 0 then 1 else 0) * channels + channel]?.map (fun next => interpolate current next fraction outputRate)) = some result := by
    intro channel listed
    obtain ⟨current, read⟩ := reads frame channel inside (List.mem_range.mp listed)
    have next' : (frame + if fraction ≠ 0 then 1 else 0) < frames := by
      split
      · next left => exact between left
      · exact inside
    obtain ⟨next, readNext⟩ := reads _ channel next' (List.mem_range.mp listed)
    exact ⟨_, by rw [read, Option.bind_some, readNext, Option.map_some]⟩
  obtain ⟨frame', mapped, counted⟩ := map_some_all _ _ all
  exact ⟨frame', mapped, by rw [counted, List.length_range]⟩

end

end

-- A position past the dropped frames, in whole frames and what is left over.
theorem writable_iff (outputRate frames position : Nat) (positive : 0 < outputRate) :
    ¬ (frames ≤ position / outputRate ∨ (position % outputRate ≠ 0 ∧ frames ≤ position / outputRate + 1)) ↔
      position + outputRate ≤ frames * outputRate := by
  have split := Nat.div_add_mod position outputRate
  have small := Nat.mod_lt position positive
  generalize position / outputRate = frame at *
  generalize position % outputRate = fraction at *
  subst split
  constructor
  · intro free
    rw [not_or, not_and_or, not_le, not_le, not_ne_iff] at free
    obtain ⟨inside, rfl | between⟩ := free
    · calc outputRate * frame + 0 + outputRate = (frame + 1) * outputRate := by ring
        _ ≤ frames * outputRate := Nat.mul_le_mul_right outputRate inside
    · calc outputRate * frame + fraction + outputRate ≤ (frame + 1 + 1) * outputRate := by linarith
        _ ≤ frames * outputRate := Nat.mul_le_mul_right outputRate between
  · intro fits
    have inside : frame < frames := by
      have less : (frame + 1) * outputRate ≤ frames * outputRate := by linarith
      exact Nat.le_of_mul_le_mul_right less positive
    rintro (beyond | ⟨left, beyond⟩)
    · omega
    · have less : (frame + 1) * outputRate < frames * outputRate := by
        have some : 0 < fraction := Nat.pos_of_ne_zero left
        linarith
      have further : frame + 1 < frames := Nat.lt_of_mul_lt_mul_right less
      omega

theorem output_frames_reached (config : AudioResamplerConfig) (frames : Nat) (positive : 0 < config.inputRate) (rate : 0 < config.outputRate) :
    (outputFrames config frames = 0 ∨ (outputFrames config frames - 1) * config.inputRate + config.outputRate ≤ frames * config.outputRate) ∧
      frames * config.outputRate < outputFrames config frames * config.inputRate + config.outputRate := by
  unfold outputFrames
  by_cases empty : frames = 0
  · subst empty
    simpa using rate
  · rw [if_neg empty, Nat.add_sub_cancel]
    obtain ⟨last, rfl⟩ : ∃ last, frames = last + 1 := ⟨frames - 1, by omega⟩
    rw [Nat.add_sub_cancel, Nat.add_mul last, Nat.one_mul]
    refine ⟨.inr (Nat.add_le_add_right (Nat.div_mul_le_self _ _) _), Nat.add_lt_add_right ?_ _⟩
    rw [Nat.add_mul, Nat.one_mul]
    exact Nat.lt_div_mul_add positive

end GotechDesk.AudioResampler
