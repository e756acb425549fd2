import GotechDesk.AudioPlayback.Buffer

set_option autoImplicit false

namespace GotechDesk.AudioPlayback

section
variable {α : Type} (channel : α → Nat) (channels : Nat)

theorem interleaved_nil : Interleaved channel channels [] := ⟨Nat.dvd_zero channels, fun _ inside => absurd inside (Nat.not_lt_zero _)⟩

theorem interleaved_append (first second : List α) (whole : Interleaved channel channels first) (more : Interleaved channel channels second) :
    Interleaved channel channels (first ++ second) := by
  constructor
  · rw [List.length_append]
    exact Nat.dvd_add whole.1 more.1
  · intro i inside
    rw [List.getElem_append]
    split
    · exact whole.2 i _
    · rename_i past
      rw [more.2]
      obtain ⟨frames, count⟩ := whole.1
      rw [count] at past ⊢
      conv_rhs => rw [← Nat.sub_add_cancel (Nat.le_of_not_lt past)]
      rw [Nat.add_mul_mod_self_left]

section
variable (samples : List α) (n : Nat)

theorem interleaved_take (frames : channels ∣ n) (whole : Interleaved channel channels samples) : Interleaved channel channels (samples.take n) := by
  constructor
  · rw [List.length_take]
    rcases Nat.le_total n samples.length with short | long
    · rwa [Nat.min_eq_left short]
    · rw [Nat.min_eq_right long]
      exact whole.1
  · intro i inside
    rw [List.getElem_take]
    exact whole.2 i _

theorem interleaved_drop (frames : channels ∣ n) (whole : Interleaved channel channels samples) : Interleaved channel channels (samples.drop n) := by
  constructor
  · rw [List.length_drop]
    exact Nat.dvd_sub whole.1 frames
  · intro i inside
    rw [List.getElem_drop, whole.2]
    obtain ⟨count, rfl⟩ := frames
    rw [Nat.add_comm, Nat.add_mul_mod_self_left]

-- Dropping from a whole number of frames leaves whole frames exactly when whole frames went.
theorem interleaved_drop_iff (room : n ≤ samples.length) (whole : Interleaved channel channels samples) :
    Interleaved channel channels (samples.drop n) ↔ channels ∣ n := by
  constructor
  · intro kept
    have left := kept.1
    rw [List.length_drop] at left
    exact (Nat.dvd_sub_iff_right room whole.1).mp left
  · intro frames
    exact interleaved_drop channel channels samples n frames whole

end

section
variable (b : Buffer α) (pcm : List α)

-- What an append leaves in the buffer, what it throws away and whether it says so.
theorem append_samples : (b.appendPcm2 pcm).samples = (b.samples ++ pcm).drop (b.samples.length + pcm.length - b.capacity) := by
  unfold Buffer.appendPcm2
  split <;> rfl

theorem append_capacity : (b.appendPcm2 pcm).capacity = b.capacity := by
  unfold Buffer.appendPcm2
  split <;> rfl

theorem append_generation : (b.appendPcm2 pcm).generation = if b.samples.length + pcm.length - (b.appendPcm2 pcm).samples.length = 0 then b.generation
      else (b.generation + 1) % 2 ^ 64 := by
  have lost : b.samples.length + pcm.length - (b.appendPcm2 pcm).samples.length = b.samples.length + pcm.length - b.capacity := by
    rw [append_samples, List.length_drop, List.length_append]
    omega
  rw [lost]
  unfold Buffer.appendPcm2
  by_cases full : b.capacity < b.samples.length + pcm.length
  · rw [if_pos full, if_neg (by omega)]
    rfl
  · rw [if_neg full, if_pos (by omega)]
    rfl

theorem append_aligned (fits : channels ∣ b.capacity) (whole : Interleaved channel channels b.samples)
    (frames : Interleaved channel channels pcm) : Interleaved channel channels (b.appendPcm2 pcm).samples := by
  rw [append_samples]
  apply interleaved_drop
  · exact Nat.dvd_sub (Nat.dvd_add whole.1 frames.1) fits
  · exact interleaved_append channel channels b.samples pcm whole frames

end

-- The water mark a shrink drops by, when it is due and the statistics name one.
def Buffer.dropMark (b : Buffer α) (tms dt : Int) (having : Nat) : Option Nat :=
  if tms = 0 ∨ dt < tms + shrinkInterval then none else (scan (b.count having).levels).level

theorem dropShare_kept (b : Buffer α) (level : Nat) (few : ¬(share b.capacity level * 3 < b.samples.length ∧ 0 < share b.capacity level)) :
    b.dropShare level = b := if_neg few

-- A shrink either leaves the samples alone or drops one share, with a signal.
inductive Shrunk (b after : Buffer α) (mark : Option Nat) : Prop where
  | kept (samples : after.samples = b.samples) (generation : after.generation = b.generation)
      (idle : ∀ level, mark = some level → share b.capacity level * 3 < b.samples.length → share b.capacity level = 0)
  | dropped (level : Nat) (named : mark = some level) (enough : share b.capacity level * 3 < b.samples.length) (some : 0 < share b.capacity level)
      (samples : after.samples = b.samples.drop (share b.capacity level)) (generation : after.generation = (b.generation + 1) % 2 ^ 64)

theorem dropShare_cases (b c : Buffer α) (level : Nat) (samples : c.samples = b.samples) (capacity : c.capacity = b.capacity)
    (generation : c.generation = b.generation) : Shrunk b (c.dropShare level) (some level) ∧ (c.dropShare level).capacity = b.capacity := by
  by_cases due : share c.capacity level * 3 < c.samples.length ∧ 0 < share c.capacity level
  · rw [Buffer.dropShare, if_pos due]
    refine ⟨.dropped level rfl ?_ ?_ ?_ ?_, capacity⟩
    · rw [← capacity, ← samples]
      exact due.1
    · rw [← capacity]
      exact due.2
    · rw [← capacity, ← samples]
      rfl
    · rw [← generation]
      rfl
  · rw [dropShare_kept c level due]
    refine ⟨.kept samples generation ?_, capacity⟩
    intro _ same enough
    cases same
    rw [capacity, samples] at due
    exact Nat.eq_zero_of_not_pos (fun positive => due ⟨enough, positive⟩)

theorem tryShrink_cases (b : Buffer α) (tms dt : Int) (having : Nat) :
    Shrunk b (b.tryShrink tms dt having).1 (b.dropMark tms dt having) ∧ (b.tryShrink tms dt having).1.capacity = b.capacity := by
  unfold Buffer.tryShrink Buffer.dropMark
  by_cases first : tms = 0
  · rw [if_pos first, if_pos (.inl first)]
    exact ⟨.kept rfl rfl (fun _ none => by cases none), rfl⟩
  · rw [if_neg first]
    by_cases early : dt < tms + shrinkInterval
    · rw [if_pos early, if_pos (.inr early)]
      exact ⟨.kept rfl rfl (fun _ none => by cases none), rfl⟩
    · rw [if_neg early, if_neg (fun either => either.elim first early)]
      dsimp only [Buffer.shrink]
      generalize scan (b.count having).levels = marks
      cases marks.level with
      | none => exact ⟨.kept rfl rfl (fun _ none => by cases none), rfl⟩
      | some level => exact dropShare_cases b { b.count having with levels := marks.levels.set marks.max 0 } level rfl rfl rfl

theorem shrunk_aligned (b after : Buffer α) (mark : Option Nat) (whole : Interleaved channel channels b.samples) (shrunk : Shrunk b after mark) :
    Interleaved channel channels after.samples ↔
      ∀ level, mark = some level → share b.capacity level * 3 < b.samples.length → channels ∣ share b.capacity level := by
  cases shrunk with
  | kept samples _ idle =>
      rw [samples]
      refine ⟨fun _ level named enough => ?_, fun _ => whole⟩
      rw [idle level named enough]
      exact Nat.dvd_zero channels
  | dropped level named enough _ samples _ =>
      rw [samples, interleaved_drop_iff channel channels b.samples _ (by omega) whole]
      constructor
      · intro frames other same _
        cases named.symm.trans same
        exact frames
      · exact fun all => all level named enough

theorem shrunk_generation (b after : Buffer α) (mark : Option Nat) (shrunk : Shrunk b after mark) :
    after.generation = if b.samples.length - after.samples.length = 0 then b.generation else (b.generation + 1) % 2 ^ 64 := by
  cases shrunk with
  | kept samples generation _ => rw [generation, if_pos (by rw [samples, Nat.sub_self])]
  | dropped level _ enough positive samples generation =>
      rw [generation, if_neg]
      rw [samples, List.length_drop]
      omega

theorem read_frames (b : Buffer α) (requested : Nat) (contended : Bool) :
    ∃ n, channels ∣ n ∧ n ≤ b.samples.length ∧ b.readBuffer channels requested contended = (b.samples.take n, { b with samples := b.samples.drop n }) := by
  cases contended with
  | true => exact ⟨0, Nat.dvd_zero channels, Nat.zero_le _, rfl⟩
  | false =>
      refine ⟨min b.samples.length requested / channels * channels, Nat.dvd_mul_left channels _, ?_, rfl⟩
      exact (Nat.div_mul_le_self _ _).trans (Nat.min_le_left _ _)

-- Each slot of an output frame that plays a sample plays one of the slot's own channel.
def Spoken (frame : List (Option α)) : Prop := ∀ j sample, frame[j]? = some (some sample) → channel sample = j

theorem processFrame_slot (input : Option (List α)) (j : Nat) (sample : α) (played : (processFrame channels input)[j]? = some (some sample)) :
    j < channels ∧ ∃ frame, input = some frame ∧ frame[j]? = some sample := by
  rw [processFrame, List.getElem?_map] at played
  obtain ⟨slot, listed, taken⟩ := Option.map_eq_some_iff.mp played
  obtain ⟨inside, rfl⟩ := List.getElem?_eq_some_iff.mp listed
  rw [List.length_range] at inside
  rw [List.getElem_range] at taken
  obtain ⟨frame, held, found⟩ := Option.bind_eq_some_iff.mp taken
  exact ⟨inside, frame, held, found⟩

theorem inputFrame_slot (input frame : List α) (index j : Nat) (sample : α) (whole : Interleaved channel channels input)
    (taken : inputFrame channels input index = some frame) (inside : j < channels) (found : frame[j]? = some sample) : channel sample = j := by
  unfold inputFrame at taken
  split at taken
  · obtain rfl := Option.some.inj taken
    rw [List.getElem?_take_of_lt inside, List.getElem?_drop] at found
    obtain ⟨held, rfl⟩ := List.getElem?_eq_some_iff.mp found
    rw [whole.2, Nat.mul_comm, Nat.mul_add_mod, Nat.mod_eq_of_lt inside]
  · cases taken

theorem outputFrames_spoken (length : Nat) (input : List α) (whole : Interleaved channel channels input) (frame : List (Option α))
    (written : frame ∈ outputFrames channels length input) : Spoken channel frame := by
  obtain ⟨index, _, rfl⟩ := List.mem_map.mp written
  intro j sample played
  rw [List.getElem?_take] at played
  obtain ⟨_, slot⟩ := Option.ite_none_right_eq_some.mp played
  obtain ⟨inside, row, taken, found⟩ := processFrame_slot channels _ j sample slot
  exact inputFrame_slot channel channels input row index j sample whole taken inside found

end

section
variable {α : Type} (channel : α → Nat) (sampleRate channels : Nat)

structure Aligned (s : Playback α) : Prop where
  buffered : Interleaved channel channels s.buffer.samples
  spoken : ∀ frame ∈ s.output, Spoken channel frame

-- A shrink that is due and drops takes a whole number of frames.
def WholeShare (s : Playback α) : Playback.Event α → Prop
  | .shrink dt => ∀ having level, s.having = some having → s.buffer.dropMark s.tms dt having = some level →
      share (sampleRate * channels * 3) level * 3 < s.buffer.samples.length → channels ∣ share (sampleRate * channels * 3) level
  | _ => True

def Playback.lost (s : Playback α) (next : Playback α) : Playback.Event α → Nat
  | .append pcm => s.buffer.samples.length + pcm.length - next.buffer.samples.length
  | .shrink _ => s.buffer.samples.length - next.buffer.samples.length
  | .write _ _ => s.buffer.samples.length - (next.bufferedInput.length + next.buffer.samples.length)
  | .elsewhere _ => 0

def Signalled (s : Playback α) (event : Playback.Event α) (next : Playback α) : Prop :=
  next.buffer.generation = if s.lost next event = 0 then s.buffer.generation else (s.buffer.generation + 1) % 2 ^ 64

theorem start_capacity (tms : Int) : (Playback.start tms sampleRate channels : Playback α).buffer.capacity = sampleRate * channels * 3 := by
  have scaled : sampleRate * channels * bufferMs / 1000 = sampleRate * channels * 3 := by
    unfold bufferMs
    omega
  unfold Playback.start Buffer.resize
  split
  · rename_i same
    exact same.symm.trans scaled
  · exact scaled

theorem start_empty (tms : Int) : (Playback.start tms sampleRate channels : Playback α).buffer.samples = [] := by
  unfold Playback.start Buffer.resize
  split <;> rfl

theorem start_aligned (tms : Int) : Aligned channel channels (Playback.start tms sampleRate channels) := by
  constructor
  · rw [start_empty]
    exact interleaved_nil channel channels
  · intro frame written
    cases written

-- What each event does, said once.
inductive Stepped (s : Playback α) : Playback.Event α → Playback α → Prop where
  | append (pcm : List α) (frames : Interleaved channel channels pcm) : Stepped s (.append pcm) (s.appended pcm)
  | shrink (dt : Int) (having : Nat) (held : s.having = some having) : Stepped s (.shrink dt) (s.shrunk dt having)
  | write (length : Nat) (contended : Bool) (n : Nat) (frames : channels ∣ n) (room : n ≤ s.buffer.samples.length) (next : Playback α)
      (input : next.bufferedInput = s.buffer.samples.take n) (buffer : next.buffer = { s.buffer with samples := s.buffer.samples.drop n })
      (output : next.output = outputFrames channels length (s.buffer.samples.take n)) : Stepped s (.write length contended) next
  | elsewhere (tms : Int) : Stepped s (.elsewhere tms) { s with tms := tms }

section
variable (s next : Playback α) (event : Playback.Event α)

theorem step_cases (taken : s.step channel channels event = some next) : Stepped channel channels s event next := by
  cases event with
  | append pcm =>
      obtain ⟨⟨_, frames⟩, rfl⟩ := Option.ite_some_none_eq_some.mp taken
      exact .append pcm frames
  | shrink dt =>
      obtain ⟨having, held, rfl⟩ := Option.map_eq_some_iff.mp taken
      exact .shrink dt having held
  | write length contended =>
      cases taken
      obtain ⟨n, frames, room, read⟩ := read_frames channels s.buffer (min length s.inputSize) contended
      refine .write length contended n frames room _ ?_ ?_ ?_ <;> rw [Playback.writeOutput, read]
  | elsewhere tms =>
      cases taken
      exact .elsewhere tms

theorem step_capacity (taken : s.step channel channels event = some next) : next.buffer.capacity = s.buffer.capacity := by
  cases step_cases channel channels s next event taken with
  | append pcm _ => exact append_capacity s.buffer pcm
  | shrink dt having _ => exact (tryShrink_cases s.buffer s.tms dt having).2
  | write _ _ _ _ _ _ _ buffer _ => rw [buffer]
  | elsewhere _ => rfl

theorem step_signalled (taken : s.step channel channels event = some next) : Signalled s event next := by
  cases step_cases channel channels s next event taken with
  | append pcm _ => exact append_generation s.buffer pcm
  | shrink dt having _ => exact shrunk_generation s.buffer _ _ (tryShrink_cases s.buffer s.tms dt having).1
  | write _ _ n _ room _ input buffer _ =>
      rw [Signalled, Playback.lost, input, buffer, List.length_take, List.length_drop, if_pos (by omega)]
  | elsewhere _ => exact (if_pos rfl).symm

theorem step_aligned (capacity : s.buffer.capacity = sampleRate * channels * 3)
    (aligned : Aligned channel channels s) (taken : s.step channel channels event = some next) :
    Aligned channel channels next ↔ WholeShare sampleRate channels s event := by
  cases step_cases channel channels s next event taken with
  | append pcm frames =>
      refine iff_of_true ⟨?_, aligned.spoken⟩ trivial
      have fits : channels ∣ s.buffer.capacity := by
        rw [capacity]
        exact Dvd.intro_left (sampleRate * 3) (by ring)
      exact append_aligned channel channels s.buffer pcm fits aligned.buffered frames
  | shrink dt having held =>
      have kept := shrunk_aligned channel channels s.buffer _ _ aligned.buffered (tryShrink_cases s.buffer s.tms dt having).1
      rw [capacity] at kept
      constructor
      · intro after other level same
        cases held.symm.trans same
        exact kept.mp after.buffered level
      · intro whole
        exact ⟨kept.mpr (fun level => whole having level held), aligned.spoken⟩
  | write length contended n frames room next input buffer output =>
      refine iff_of_true ⟨?_, ?_⟩ trivial
      · rw [buffer]
        exact interleaved_drop channel channels s.buffer.samples n frames aligned.buffered
      · rw [output]
        exact outputFrames_spoken channel channels length _ (interleaved_take channel channels s.buffer.samples n frames aligned.buffered)
  | elsewhere _ => exact iff_of_true ⟨aligned.buffered, aligned.spoken⟩ trivial

end

-- A share is even, and a whole number of frames when the rate is a multiple of 80.
theorem share_whole (level : Nat) (regular : channels ≤ 2 ∨ 80 ∣ sampleRate) : channels ∣ share (sampleRate * channels * 3) level := by
  rcases regular with few | ⟨base, rfl⟩
  · interval_cases channels
    · simp [share]
    · exact one_dvd _
    · exact Nat.dvd_mul_left 2 _
  · have exactly : share (80 * base * channels * 3) level = base * channels * level * 2 := by
      have scaled : 80 * base * channels * 3 * level = base * channels * level * 2 * (levelCount * shareParts) := by
        unfold levelCount shareParts
        ring
      rw [share, scaled, Nat.mul_div_cancel _ (by decide)]
      omega
    rw [exactly]
    exact Dvd.intro_left (base * level * 2) (by ring)

theorem aligned_exactly (tms : Int) (past : List (Playback α × Playback.Event α)) (final : Playback α)
    (traced : Machine.Traced (Playback.step channel channels) (Playback.start tms sampleRate channels) past final) :
    (((∀ entry ∈ past, Aligned channel channels entry.1) ∧ Aligned channel channels final) ↔
      ∀ entry ∈ past, WholeShare sampleRate channels entry.1 entry.2) :=
  Machine.traced_exact (Playback.step channel channels) (fun s => s.buffer.capacity = sampleRate * channels * 3) (Aligned channel channels)
    (WholeShare sampleRate channels) (Playback.start tms sampleRate channels) final past (start_capacity sampleRate channels tms)
    (start_aligned channel sampleRate channels tms)
    (fun s event next capacity taken => (step_capacity channel channels s next event taken).trans capacity)
    (fun s event next capacity aligned taken => step_aligned channel sampleRate channels s next event capacity aligned taken) traced

theorem append_fits (b : Buffer α) (pcm : List α) (room : b.samples.length + pcm.length ≤ b.capacity) :
    b.appendPcm2 pcm = { b with samples := b.samples ++ pcm } := by
  rw [Buffer.appendPcm2, if_neg (Nat.not_lt.mpr room), Buffer.pushOverwrite, Nat.sub_eq_zero_of_le room, List.drop_zero]

end

-- 5.1 playback at 44.1 kHz: 185220 buffered samples hold the water mark at 7, whose share
-- rounds to 46306 samples, four more than a whole number of frames.
def surround (pcm : List Nat) (counted : Nat) : Buffer Nat := ⟨793800, pcm, 264600, (List.replicate levelCount 0).set 7 counted, 0⟩

section
variable (pcm : List Nat)

theorem surround_first (length : pcm.length = 185220) : (Playback.start 0 44100 6 : Playback Nat).buffer.appendPcm2 pcm = surround pcm 0 := by
  rw [append_fits]
  · rfl
  · rw [start_empty, start_capacity, length]
    decide

theorem surround_append (length : pcm.length = 185220) (counted : Nat) : (surround pcm counted).appendPcm2 [] = surround pcm counted := by
  rw [append_fits]
  · rw [surround, List.append_nil]
  · simp [surround, length]

theorem surround_count (counted : Nat) : (surround pcm counted).count 185220 = surround pcm (counted + 1) := by
  simp [surround, Buffer.count, levelCount]

theorem surround_wait : (surround pcm 0).tryShrink 0 1 185220 = (surround pcm 1, 1) := by
  rw [Buffer.tryShrink, if_pos rfl, surround_count]

theorem surround_drop (length : pcm.length = 185220) : ((surround pcm 1).tryShrink 1 12001 185220).1.samples = pcm.drop 46306 := by
  have due : ¬((12001 : Int) < 1 + shrinkInterval) := by decide
  have marks : (scan ((List.replicate levelCount 0).set 7 2)).level = some 7 := by decide +kernel
  have named : (scan (surround pcm 2).levels).level = some 7 := marks
  have part : share 793800 7 = 46306 := by decide
  rw [Buffer.tryShrink, if_neg (by decide), if_neg due, surround_count]
  dsimp only [Buffer.shrink]
  rw [named, Option.elim_some, Buffer.dropShare, if_pos]
  · exact congrArg pcm.drop part
  · dsimp only [surround]
    rw [part, length]
    decide

end

def surroundPlayback (buffer : Buffer Nat) (tms : Int) (having : Option Nat) : Playback Nat := ⟨buffer, tms, having, 793800, [], []⟩

theorem surround_run (pcm : List Nat) (length : pcm.length = 185220) (frames : Interleaved (fun i => i % 6) 6 pcm) :
    Machine.run (Playback.step (fun i => i % 6) 6) (Playback.start 0 44100 6) [.append pcm, .shrink 1, .append [], .shrink 12001] =
      some ((surroundPlayback (surround pcm 1) 1 (some 185220)).shrunk 12001 185220) := by
  have first : (Playback.start 0 44100 6).step (fun i => i % 6) 6 (.append pcm) = some (surroundPlayback (surround pcm 0) 0 (some 185220)) := by
    rw [Playback.step, if_pos ⟨rfl, frames⟩, Playback.appended, surround_first pcm length]
    exact congrArg (fun count => some (surroundPlayback (surround pcm 0) 0 (some count))) length
  have second : (surroundPlayback (surround pcm 0) 0 (some 185220)).step (fun i => i % 6) 6 (.shrink 1) =
      some (surroundPlayback (surround pcm 1) 1 none) := by
    refine congrArg some ?_
    rw [Playback.shrunk, surroundPlayback, surround_wait]
    rfl
  have third : (surroundPlayback (surround pcm 1) 1 none).step (fun i => i % 6) 6 (.append []) =
      some (surroundPlayback (surround pcm 1) 1 (some 185220)) := by
    rw [Playback.step, if_pos ⟨rfl, interleaved_nil _ _⟩, Playback.appended, surroundPlayback, surround_append pcm length]
    exact congrArg (fun count => some (surroundPlayback (surround pcm 1) 1 (some count))) length
  rw [Machine.run, first, Option.bind_some, Machine.run, second, Option.bind_some, Machine.run, third, Option.bind_some]
  rfl

def stereoRun : List (Playback.Event Nat) := [.append [0, 1, 2, 3], .write 3 false, .shrink 1, .append [4, 5]]

end GotechDesk.AudioPlayback
