import GotechDesk.TerminalService.OutputBuffer

set_option autoImplicit false

namespace GotechDesk.TerminalService

open GotechDesk.Utf8

theorem skip_suffix (skips : Nat) (bytes : List UInt8) : skipContinuations skips bytes <:+ bytes := by
  induction bytes generalizing skips with
  | nil => cases skips <;> exact List.suffix_rfl
  | cons b rest ih =>
      cases skips with
      | zero => exact List.suffix_rfl
      | succ skips =>
          rw [skipContinuations]
          split
          · exact (ih skips).trans (List.suffix_cons b rest)
          · exact List.suffix_rfl

theorem skip_text (skips : Nat) (tail rest : List UInt8) (short : tail.length ≤ skips) (continues : ∀ b ∈ tail, Continuation b) (text : Valid rest) :
    skipContinuations skips (tail ++ rest) = rest := by
  induction tail generalizing skips with
  | nil =>
      cases skips with
      | zero => rfl
      | succ skips =>
          cases rest with
          | nil => rfl
          | cons first more => exact if_neg (valid_head first more text)
  | cons b tail ih =>
      obtain ⟨here, later⟩ := List.forall_mem_cons.mp continues
      rw [List.length_cons] at short
      obtain ⟨left, rfl⟩ : ∃ left, skips = left + 1 := ⟨skips - 1, by omega⟩
      have masked : b &&& 0xC0 = 0x80 := here
      rw [List.cons_append, skipContinuations, if_pos masked]
      exact ih left (by omega) later

-- Cut anywhere, text is text again after the continuation bytes at the cut.
theorem skip_valid (line : List UInt8) (offset : Nat) (text : Valid line) : Valid (skipContinuations 3 (line.drop offset)) := by
  rw [← List.take_append_drop offset line] at text
  obtain ⟨tail, rest, same, short, continues, valid⟩ := valid_resumes _ _ text
  rw [same, skip_text 3 tail rest short continues valid]
  exact valid

section
variable (maxBytes size : Nat) (newest chunks : List (List UInt8))

-- The chunks collected so far, put back in order, end what has been looked at.
theorem collect_spec (counted : chunks.reverse.flatten.length = size) (within : size ≤ maxBytes) :
    (collectRecent maxBytes newest size chunks).reverse.flatten.length ≤ maxBytes ∧
      (collectRecent maxBytes newest size chunks).reverse.flatten <:+ newest.reverse.flatten ++ chunks.reverse.flatten := by
  induction newest generalizing size chunks with
  | nil => exact ⟨by rw [collectRecent, counted]; exact within, List.suffix_rfl⟩
  | cons line older ih =>
      have kept : chunks.reverse.flatten.length ≤ maxBytes ∧ chunks.reverse.flatten <:+ (line :: older).reverse.flatten ++ chunks.reverse.flatten :=
        ⟨counted ▸ within, List.suffix_append _ _⟩
      rw [collectRecent]
      by_cases full : maxBytes < size + line.length
      · rw [if_pos full]
        by_cases oversized : size = 0 ∧ maxBytes < line.length
        · rw [if_pos oversized]
          dsimp only
          split
          · exact kept
          · have nothing : chunks.reverse.flatten = [] := List.length_eq_zero_iff.mp (counted.trans oversized.1)
            have tail := skip_suffix 3 (line.drop (line.length - maxBytes))
            rw [List.reverse_append, List.reverse_singleton, List.flatten_append, List.flatten_singleton, nothing, List.append_nil, List.append_nil]
            constructor
            · have shorter := tail.length_le
              rw [List.length_drop] at shorter
              omega
            · rw [List.reverse_cons, List.flatten_append, List.flatten_singleton]
              exact (tail.trans (List.drop_suffix _ line)).trans (List.suffix_append _ line)
        · rw [if_neg oversized]
          exact kept
      · rw [if_neg full]
        have joined : (chunks ++ [line]).reverse.flatten = line ++ chunks.reverse.flatten := by simp
        obtain ⟨small, suffix⟩ := ih (size + line.length) (chunks ++ [line]) (by rw [joined, List.length_append, counted, Nat.add_comm]) (not_lt.mp full)
        refine ⟨small, ?_⟩
        rw [joined] at suffix
        simpa using suffix

theorem collect_valid (lines : ∀ line ∈ newest, Valid line) (collected : ∀ chunk ∈ chunks, Valid chunk) :
    ∀ chunk ∈ collectRecent maxBytes newest size chunks, Valid chunk := by
  induction newest generalizing size chunks with
  | nil => exact collected
  | cons line older ih =>
      obtain ⟨here, later⟩ := List.forall_mem_cons.mp lines
      rw [collectRecent]
      by_cases full : maxBytes < size + line.length
      · rw [if_pos full]
        split
        · dsimp only
          split
          · exact collected
          · exact List.forall_mem_append.mpr ⟨collected, List.forall_mem_singleton.mpr (skip_valid line _ here)⟩
        · exact collected
      · rw [if_neg full]
        exact ih (size + line.length) (chunks ++ [line]) later (List.forall_mem_append.mpr ⟨collected, List.forall_mem_singleton.mpr here⟩)

end

theorem recent_bytes (buffer : OutputBuffer) (maxBytes : Nat) :
    (getRecent buffer maxBytes).length ≤ maxBytes ∧ getRecent buffer maxBytes <:+ buffer.lines.flatten := by
  unfold getRecent
  by_cases nothing : maxBytes = 0
  · rw [if_pos nothing]
    exact ⟨Nat.zero_le _, List.nil_suffix⟩
  · rw [if_neg nothing]
    simpa using collect_spec maxBytes 0 buffer.lines.reverse [] rfl (Nat.zero_le _)

theorem recent_valid (buffer : OutputBuffer) (maxBytes : Nat) (lines : ∀ line ∈ buffer.lines, Valid line) : Valid (getRecent buffer maxBytes) := by
  unfold getRecent
  split
  · exact valid_nil
  · apply valid_flatten
    intro piece member
    exact collect_valid maxBytes 0 buffer.lines.reverse [] (by simpa using lines) (by simp) piece (List.mem_reverse.mp member)

theorem history_valid (chunks : List (List UInt8)) (text : ∀ chunk ∈ chunks, Valid chunk) : ∀ line ∈ (history chunks).lines, Valid line := by
  induction chunks using List.reverseRecOn with
  | nil => simp [history, OutputBuffer.new]
  | append_singleton before data ih =>
      obtain ⟨earlier, last⟩ := List.forall_mem_append.mp text
      rw [history_append]
      exact (append_represented before.flatten data (history before) (history_represented before)).2.2.1 (ih earlier) (List.forall_mem_singleton.mp last)

theorem ended_last (line : List UInt8) (ended : Ended line) : line ≠ [] ∧ line.getLast? = some newline := by
  obtain ⟨body, rfl, _⟩ := ended
  exact ⟨by simp, by simp⟩

theorem shaped_lines (incomplete : Bool) (lines : List (List UInt8)) (shaped : Shaped incomplete lines) : (∀ line ∈ lines, line ≠ []) ∧
    (∀ line ∈ lines.dropLast, Ended line) ∧ (incomplete = true ↔ ∃ last, lines.getLast? = some last ∧ last.getLast? ≠ some newline) := by
  induction shaped with
  | empty => simp
  | unfinished body started plain =>
      have open' : body.getLast? ≠ some newline := fun found => plain (List.mem_of_getLast? found)
      simp [started, open']
  | line incomplete ended rest here shaped ih =>
      obtain ⟨filled, earlier, flag⟩ := ih
      obtain ⟨some, last⟩ := ended_last ended here
      refine ⟨List.forall_mem_cons.mpr ⟨some, filled⟩, ?_, ?_⟩
      · cases rest with
        | nil => simp
        | cons next more => exact List.forall_mem_cons.mpr ⟨here, earlier⟩
      · cases rest with
        | nil => simpa [last] using flag
        | cons next more => simpa [List.getLast?_cons_cons] using flag

theorem history_representation (chunks : List (List UInt8)) :
    (history chunks).totalSize = lengths (history chunks).lines ∧ (∀ line ∈ (history chunks).lines, line ≠ []) ∧
    (∀ line ∈ (history chunks).lines.dropLast, Ended line) ∧
    ((history chunks).lastLineIncomplete = true ↔ ∃ last, (history chunks).lines.getLast? = some last ∧ last.getLast? ≠ some newline) ∧
    (history chunks).lines.flatten <:+ chunks.flatten ∧ (∀ data, (append (history chunks) data).2 = []) ∧
    ∀ maxBytes, (getRecent (history chunks) maxBytes).length ≤ maxBytes ∧ getRecent (history chunks) maxBytes <:+ (history chunks).lines.flatten ∧
      ((∀ chunk ∈ chunks, Valid chunk) → Valid (getRecent (history chunks) maxBytes)) := by
  have represented := history_represented chunks
  obtain ⟨filled, ended, flag⟩ := shaped_lines _ _ represented.shaped
  refine ⟨by rw [represented.counted, lengths, List.length_flatten], filled, ended, flag, represented.recent, ?_, ?_⟩
  · intro data
    exact (append_represented chunks.flatten data (history chunks) represented).2.1
  · intro maxBytes
    obtain ⟨small, suffix⟩ := recent_bytes (history chunks) maxBytes
    exact ⟨small, suffix, fun text => recent_valid (history chunks) maxBytes (history_valid chunks text)⟩

theorem history_representation_text : Valid (getRecent (history [[0x61, 0x0A], [0xE6, 0x96, 0x87, 0xE6, 0x96, 0x87]]) 4) :=
  ((history_representation _).2.2.2.2.2.2 4).2.2 (List.forall_mem_cons.mpr ⟨⟨['a', '\n'], by decide⟩, List.forall_mem_singleton.mpr ⟨['文', '文'], by decide⟩⟩)

-- The append neither returns before the trim loop nor, when it does, outgrows the buffer.
def Fits (buffer : OutputBuffer) (data : List UInt8) : Prop := Continues buffer data → buffer.totalSize + data.length ≤ maxOutputBufferSize

theorem append_bounded (appended data : List UInt8) (buffer : OutputBuffer) (represented : Represented appended buffer) (bounded : Bounded buffer) :
    Bounded (append buffer data).1 ↔ Fits buffer data := by
  by_cases continues : Continues buffer data
  · obtain ⟨front, body, lines, _, _, same⟩ := append_continues appended data buffer represented continues
    have few : (front ++ [body ++ data]).length ≤ maxBufferLines := by
      have before := bounded.2
      rw [lines] at before
      simpa using before
    rw [same]
    constructor
    · rintro ⟨small, _⟩ _
      exact small
    · intro fits
      exact ⟨fits continues, few⟩
  · refine iff_of_true ?_ (fun other => absurd other continues)
    by_cases empty : data = []
    · subst empty
      exact bounded
    · exact (append_represented appended data buffer represented).2.2.2 empty continues

theorem history_bounded (chunks : List (List UInt8)) : (∀ front, front <+: chunks → Bounded (history front)) ↔
    ∀ front data, front ++ [data] <+: chunks → Fits (history front) data := by
  have exact (front : List (List UInt8)) (data : List UInt8) (bounded : Bounded (history front)) :
      Bounded (history (front ++ [data])) ↔ Fits (history front) data := by
    rw [history_append]
    exact append_bounded front.flatten data (history front) (history_represented front) bounded
  constructor
  · intro bounded front data within
    have before : front <+: chunks := (List.prefix_append front [data]).trans within
    exact (exact front data (bounded front before)).mp (bounded _ within)
  · intro fits front
    induction front using List.reverseRecOn with
    | nil =>
        intro _
        exact ⟨Nat.zero_le _, Nat.zero_le _⟩
    | append_singleton front data ih =>
        intro within
        exact (exact front data (ih ((List.prefix_append front [data]).trans within))).mpr (fits front data within)

-- A read of a program that prints without newlines.
def dots : List UInt8 := List.replicate 4096 0x2E

theorem dots_history (reads : Nat) : (history (List.replicate (reads + 1) dots)).totalSize = 4096 * (reads + 1) ∧
    (history (List.replicate (reads + 1) dots)).lastLineIncomplete = true := by
  have plain : newline ∉ dots := by
    intro member
    exact absurd (List.eq_of_mem_replicate member) (by decide)
  have long : dots.length = 4096 := List.length_replicate
  have started : dots ≠ [] := List.ne_nil_of_length_eq_add_one long
  induction reads with
  | zero =>
      have first : history [dots] = ⟨[dots], 4096, true⟩ := by
        have last : dots.getLast? ≠ some newline := fun found => plain (List.mem_of_getLast? found)
        simp [history, append, OutputBuffer.new, started, appendRemaining, List.splitOn_eq_singleton plain, pushLines, last, trim, long, maxOutputBufferSize, maxBufferLines]
      exact ⟨by rw [Nat.zero_add, List.replicate_one, first], by rw [Nat.zero_add, List.replicate_one, first]⟩
  | succ reads ih =>
      obtain ⟨size, incomplete⟩ := ih
      obtain ⟨_, _, _, _, _, same⟩ := append_continues _ dots _ (history_represented (List.replicate (reads + 1) dots)) ⟨started, incomplete, plain⟩
      rw [List.replicate_succ', history_append, same]
      exact ⟨by simp only [size, long]; omega, rfl⟩

theorem history_unbounded : ¬ ∀ chunks, Bounded (history chunks) := by
  intro bounded
  have small := (bounded (List.replicate 257 dots)).1
  rw [(dots_history 256).1] at small
  exact absurd small (by decide)

end GotechDesk.TerminalService
