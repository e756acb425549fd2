import GotechDesk.Utf8

set_option autoImplicit false

namespace GotechDesk.TerminalService

open GotechDesk.Utf8

-- The length a lead byte announces; `none` for a byte that opens no sequence.
def sequenceLength (b : UInt8) : Option Nat :=
  if b &&& 0xE0 = 0xC0 then some 2
  else if b &&& 0xF0 = 0xE0 then some 3
  else if b &&& 0xF8 = 0xF0 then some 4
  else none

-- The loop over the last bytes: those not yet looked at, newest first, and how many come after them.
def splitLoop (length : Nat) : List UInt8 → Nat → Nat
  | [], _ => length
  | b :: earlier, behind =>
      if b &&& 0x80 = 0 then length
      else if b &&& 0xC0 = 0x80 then splitLoop length earlier (behind + 1)
      else
        match sequenceLength b with
        | none => length
        | some sequence => if sequence ≤ behind + 1 then length else length - (behind + 1)

def findUtf8SplitPoint (buf : List UInt8) : Nat :=
  if buf.isEmpty then 0 else splitLoop buf.length (buf.reverse.take 3) 0

structure Utf8ChunkAccumulator where
  remainder : List UInt8
deriving DecidableEq

def Utf8ChunkAccumulator.new : Utf8ChunkAccumulator := ⟨[]⟩

def pushChunk (chunker : Utf8ChunkAccumulator) (data : List UInt8) : Utf8ChunkAccumulator × Option (List UInt8) :=
  if data.isEmpty then (chunker, none)
  else
    let hadRemainder := !chunker.remainder.isEmpty
    let data := chunker.remainder ++ data
    let split := findUtf8SplitPoint data
    if split = data.length then (⟨[]⟩, some data)
    else if hadRemainder = false ∧ 0 < split ∧ ¬ Valid (data.take split) then (⟨[]⟩, some data)
    else (⟨data.drop split⟩, if (data.take split).isEmpty then none else some (data.take split))

def finish (chunker : Utf8ChunkAccumulator) : Utf8ChunkAccumulator × Option (List UInt8) :=
  if chunker.remainder.isEmpty then (chunker, none) else (⟨[]⟩, some chunker.remainder)

-- The reads of a terminal in turn, and the chunks they gave.
def pushAll (chunker : Utf8ChunkAccumulator) : List (List UInt8) → Utf8ChunkAccumulator × List (List UInt8)
  | [] => (chunker, [])
  | data :: rest =>
      let (next, chunk) := pushChunk chunker data
      let (last, chunks) := pushAll next rest
      (last, chunk.toList ++ chunks)

theorem split_loop_cases (length : Nat) (bytes : List UInt8) (behind : Nat) :
    splitLoop length bytes behind = length ∨ ∃ seen, seen < bytes.length ∧ splitLoop length bytes behind = length - (behind + seen + 1) := by
  induction bytes generalizing behind with
  | nil => exact .inl rfl
  | cons b earlier ih =>
      unfold splitLoop
      by_cases ascii : b &&& 0x80 = 0
      · exact .inl (if_pos ascii)
      · rw [if_neg ascii]
        by_cases continues : b &&& 0xC0 = 0x80
        · rw [if_pos continues]
          obtain whole | ⟨seen, within, cut⟩ := ih (behind + 1)
          · exact .inl whole
          · exact .inr ⟨seen + 1, by simpa using within, by rw [cut]; congr 1; omega⟩
        · rw [if_neg continues]
          split
          · exact .inl rfl
          · split
            · exact .inl rfl
            · exact .inr ⟨0, by simp, rfl⟩

-- At most three bytes are held back.
theorem split_point_late (buf : List UInt8) : buf.length ≤ findUtf8SplitPoint buf + 3 := by
  unfold findUtf8SplitPoint
  by_cases empty : buf.isEmpty
  · simp [List.isEmpty_iff.mp empty]
  · rw [if_neg empty]
    obtain whole | ⟨seen, within, cut⟩ := split_loop_cases buf.length (buf.reverse.take 3) 0
    · omega
    · rw [List.length_take] at within
      omega

theorem split_loop_continuations (length : Nat) (skipped bytes : List UInt8) (behind : Nat) (continues : ∀ b ∈ skipped, Continuation b) :
    splitLoop length (skipped ++ bytes) behind = splitLoop length bytes (behind + skipped.length) := by
  induction skipped generalizing behind with
  | nil => rfl
  | cons b rest ih =>
      obtain ⟨here, later⟩ := List.forall_mem_cons.mp continues
      have high : ¬ b &&& 0x80 = 0 := fun ascii => ascii_opens b ascii here
      have masked : b &&& 0xC0 = 0x80 := here
      rw [List.cons_append, splitLoop, if_neg high, if_pos masked, ih (behind + 1) later, List.length_cons]
      congr 1
      omega

theorem sequence_length_lead (width : Nat) (b : UInt8) (long : 2 ≤ width) (lead : Lead width b) : sequenceLength b = some width := by
  unfold Lead at lead
  split at lead
  · omega
  · exact if_pos lead
  · obtain ⟨_, _, two⟩ := lead_opens_three b lead
    rw [sequenceLength, if_neg two, if_pos lead]
  · obtain ⟨_, _, two, three⟩ := lead_opens_four b lead
    rw [sequenceLength, if_neg two, if_neg three, if_pos lead]
  · exact lead.elim

theorem split_loop_lead (length width : Nat) (b : UInt8) (earlier : List UInt8) (behind : Nat) (lead : Lead width b) :
    splitLoop length (b :: earlier) behind = if width ≤ behind + 1 then length else length - (behind + 1) := by
  by_cases ascii : b &&& 0x80 = 0
  · have single : width ≤ 1 := by
      by_contra long
      unfold Lead at lead
      split at lead
      · exact long le_rfl
      · exact (lead_opens_two b lead).2 ascii
      · exact (lead_opens_three b lead).2.1 ascii
      · exact (lead_opens_four b lead).2.1 ascii
      · exact lead
    rw [splitLoop, if_pos ascii, if_pos (by omega)]
  · have long : 2 ≤ width := by
      by_contra short
      obtain rfl | rfl : width = 0 ∨ width = 1 := by omega
      · exact lead
      · exact ascii lead
    have opens : ¬ b &&& 0xC0 = 0x80 := lead_no_continuation width b lead
    rw [splitLoop, if_neg ascii, if_neg opens, sequence_length_lead width b long lead]

-- The last lead byte decides, as long as the loop reaches it.
theorem split_point_lead (front more : List UInt8) (lead : UInt8) (width : Nat) (opens : Lead width lead) (near : more.length ≤ 2)
    (continues : ∀ b ∈ more, Continuation b) :
    findUtf8SplitPoint (front ++ lead :: more) = if width ≤ more.length + 1 then (front ++ lead :: more).length else front.length := by
  have newest : (front ++ lead :: more).reverse.take 3 = more.reverse ++ lead :: front.reverse.take (2 - more.length) := by
    rw [List.reverse_append, List.reverse_cons, List.append_assoc, List.take_append, List.length_reverse,
      List.take_of_length_le (by rw [List.length_reverse]; omega), List.singleton_append]
    obtain ⟨left, same⟩ : ∃ left, 3 - more.length = left + 1 := ⟨2 - more.length, by omega⟩
    rw [same, List.take_succ_cons]
    congr 3
    omega
  rw [findUtf8SplitPoint, if_neg (by simp), newest, split_loop_continuations _ _ _ _ (by simpa using continues), split_loop_lead _ width _ _ _ opens]
  simp only [List.length_reverse, List.length_append, List.length_cons, Nat.zero_add]
  split
  · rfl
  · omega

theorem split_point_whole (buf : List UInt8) (valid : Valid buf) : findUtf8SplitPoint buf = buf.length := by
  obtain ⟨chars, rfl⟩ := valid
  induction chars using List.reverseRecOn with
  | nil => rfl
  | append_singleton before c _ =>
      obtain ⟨lead, rest, encoded, opens, short, continues⟩ := encoded_shape c
      rw [List.flatMap_append, List.flatMap_singleton, encoded]
      by_cases near : rest.length ≤ 2
      · rw [split_point_lead _ rest lead _ opens near continues, if_pos le_rfl]
      · have full : rest.reverse.length = 3 := by
          rw [List.length_reverse]
          omega
        have newest : (before.flatMap String.utf8EncodeChar ++ lead :: rest).reverse.take 3 = rest.reverse ++ [] := by
          rw [List.reverse_append, List.reverse_cons, List.append_assoc, List.append_nil, ← full, List.take_left]
        rw [findUtf8SplitPoint, if_neg (by simp), newest, split_loop_continuations _ _ _ _ (by simpa using continues)]
        rfl

-- What was read of valid text, cut at the split point: whole characters, and the first bytes of one that goes on in what follows.
theorem split_point_valid (buf after : List UInt8) (valid : Valid (buf ++ after)) : Valid (buf.take (findUtf8SplitPoint buf)) ∧
    Valid (buf.drop (findUtf8SplitPoint buf) ++ after) ∧ (after = [] → buf.drop (findUtf8SplitPoint buf) = []) := by
  obtain ⟨whole, part, tail, rest, rfl, rfl, left, right, split⟩ := valid_cut buf after valid
  obtain ⟨rfl, rfl⟩ | ⟨c, encoded, started, unfinished⟩ := split
  · rw [List.append_nil, split_point_whole whole left, List.take_length, List.drop_length]
    exact ⟨left, right, fun _ => rfl⟩
  · obtain ⟨lead, more, rfl, opens, short, continues, _⟩ := inside_shape c part tail encoded started
    have further : 0 < tail.length := List.length_pos_iff.mpr unfinished
    rw [split_point_lead whole more lead _ opens (by omega) continues, if_neg (by omega), List.take_left, List.drop_left]
    refine ⟨left, ?_, ?_⟩
    · rw [← List.append_assoc, encoded]
      exact valid_append _ _ (valid_char c) right
    · intro ended
      exact absurd (List.append_eq_nil_iff.mp ended).1 unfinished

section
variable (chunker : Utf8ChunkAccumulator)

theorem push_chunk_bytes (data : List UInt8) :
    (pushChunk chunker data).2.toList.flatten ++ (pushChunk chunker data).1.remainder = chunker.remainder ++ data := by
  unfold pushChunk
  by_cases empty : data.isEmpty
  · rw [if_pos empty]
    simp [List.isEmpty_iff.mp empty]
  · rw [if_neg empty]
    dsimp only
    split
    · simp
    · split
      · simp
      · by_cases nothing : (List.take (findUtf8SplitPoint (chunker.remainder ++ data)) (chunker.remainder ++ data)).isEmpty
        · rw [if_pos nothing]
          have dropped := List.take_append_drop (findUtf8SplitPoint (chunker.remainder ++ data)) (chunker.remainder ++ data)
          rwa [List.isEmpty_iff.mp nothing] at dropped
        · rw [if_neg nothing]
          simp

theorem push_chunk_short (data : List UInt8) (short : chunker.remainder.length ≤ 3) : (pushChunk chunker data).1.remainder.length ≤ 3 := by
  unfold pushChunk
  by_cases empty : data.isEmpty
  · rwa [if_pos empty]
  · rw [if_neg empty]
    have late := split_point_late (chunker.remainder ++ data)
    dsimp only
    split
    · simp
    · split
      · simp
      · rw [List.length_drop]
        omega

-- A read of valid text: what is given out is text, and what is held back begins a character that is still to come.
theorem push_chunk_valid (data after : List UInt8) (valid : Valid (chunker.remainder ++ data ++ after))
    (held : data ++ after = [] → chunker.remainder = []) : (∀ chunk ∈ (pushChunk chunker data).2, Valid chunk) ∧
      Valid ((pushChunk chunker data).1.remainder ++ after) ∧ (after = [] → (pushChunk chunker data).1.remainder = []) := by
  unfold pushChunk
  by_cases empty : data.isEmpty
  · rw [if_pos empty]
    rw [List.isEmpty_iff.mp empty] at valid held
    rw [List.append_nil] at valid
    exact ⟨by simp, valid, held⟩
  · rw [if_neg empty]
    obtain ⟨left, right, finished⟩ := split_point_valid (chunker.remainder ++ data) after valid
    dsimp only
    split
    · next whole =>
        rw [whole, List.take_length] at left
        rw [whole, List.drop_length] at right
        exact ⟨by simpa using left, right, fun _ => rfl⟩
    · split
      · next bad => exact absurd left bad.2.2
      · refine ⟨?_, right, finished⟩
        split
        · simp
        · simpa using left

end

section
variable (reads : List (List UInt8)) (chunker : Utf8ChunkAccumulator)

theorem push_all_bytes : (pushAll chunker reads).2.flatten ++ (pushAll chunker reads).1.remainder = chunker.remainder ++ reads.flatten := by
  induction reads generalizing chunker with
  | nil => simp [pushAll]
  | cons data rest ih =>
      have here := push_chunk_bytes chunker data
      simp only [pushAll, List.flatten_append, List.append_assoc, ih, List.flatten_cons]
      rw [← List.append_assoc, here, List.append_assoc]

theorem push_all_short (short : chunker.remainder.length ≤ 3) : (pushAll chunker reads).1.remainder.length ≤ 3 := by
  induction reads generalizing chunker with
  | nil => exact short
  | cons data rest ih => exact ih (pushChunk chunker data).1 (push_chunk_short chunker data short)

theorem push_all_valid (valid : Valid (chunker.remainder ++ reads.flatten)) (held : reads.flatten = [] → chunker.remainder = []) :
    (∀ chunk ∈ (pushAll chunker reads).2, Valid chunk) ∧ (pushAll chunker reads).1.remainder = [] := by
  induction reads generalizing chunker with
  | nil => exact ⟨by simp [pushAll], held rfl⟩
  | cons data rest ih =>
      rw [List.flatten_cons, ← List.append_assoc] at valid
      obtain ⟨chunk, begun, finished⟩ := push_chunk_valid chunker data rest.flatten valid held
      obtain ⟨chunks, empty⟩ := ih (pushChunk chunker data).1 begun finished
      refine ⟨?_, empty⟩
      simp only [pushAll, List.forall_mem_append]
      exact ⟨by simpa using chunk, chunks⟩

end

theorem utf8_chunks (reads : List (List UInt8)) :
    (pushAll .new reads).2.flatten ++ (pushAll .new reads).1.remainder = reads.flatten ∧ (pushAll .new reads).1.remainder.length ≤ 3 ∧
    ((finish (pushAll .new reads).1).2.toList.flatten = (pushAll .new reads).1.remainder ∧ (finish (pushAll .new reads).1).1.remainder = []) ∧
    (Valid reads.flatten → (∀ chunk ∈ (pushAll .new reads).2, Valid chunk) ∧ (pushAll .new reads).1.remainder = [] ∧
      ∀ others : List (List UInt8), others.flatten = reads.flatten → (pushAll .new others).2.flatten = (pushAll .new reads).2.flatten) := by
  refine ⟨push_all_bytes reads .new, push_all_short reads .new (Nat.zero_le 3), ?_, ?_⟩
  · unfold finish
    by_cases empty : (pushAll .new reads).1.remainder.isEmpty
    · rw [if_pos empty]
      simp [List.isEmpty_iff.mp empty]
    · rw [if_neg empty]
      simp
  · intro valid
    have whole (cuts : List (List UInt8)) (same : cuts.flatten = reads.flatten) :
        (∀ chunk ∈ (pushAll .new cuts).2, Valid chunk) ∧ (pushAll .new cuts).1.remainder = [] ∧ (pushAll .new cuts).2.flatten = reads.flatten := by
      obtain ⟨chunks, empty⟩ := push_all_valid cuts .new (same ▸ valid) (fun _ => rfl)
      have bytes := push_all_bytes cuts .new
      rw [empty, List.append_nil, same] at bytes
      exact ⟨chunks, empty, bytes⟩
    obtain ⟨chunks, empty, emitted⟩ := whole reads rfl
    exact ⟨chunks, empty, fun others same => (whole others same).2.2.trans emitted.symm⟩

def splitReads : List (List UInt8) := [[0x61, 0xE4], [0xB8], [], [0xAD, 0xE6, 0x96], [0x87]]

theorem utf8_chunks_split : (∀ chunk ∈ (pushAll .new splitReads).2, Valid chunk) ∧ (pushAll .new splitReads).1.remainder = [] ∧
    ∀ others : List (List UInt8), others.flatten = splitReads.flatten → (pushAll .new others).2.flatten = (pushAll .new splitReads).2.flatten :=
  (utf8_chunks splitReads).2.2.2 ⟨['a', '中', '文'], by decide⟩

example : (pushAll .new splitReads).2 = [[0x61], [0xE4, 0xB8, 0xAD], [0xE6, 0x96, 0x87]] := by decide

end GotechDesk.TerminalService
