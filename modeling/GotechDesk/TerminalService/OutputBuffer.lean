import GotechDesk.Utf8

set_option autoImplicit false

namespace GotechDesk.TerminalService

open GotechDesk.Utf8

def maxOutputBufferSize : Nat := 1024 * 1024
def maxBufferLines : Nat := 10000

def newline : UInt8 := 10

-- The lines are oldest first.
structure OutputBuffer where
  lines : List (List UInt8)
  totalSize : Nat
  lastLineIncomplete : Bool
deriving DecidableEq

def OutputBuffer.new : OutputBuffer := ⟨[], 0, false⟩

-- What the trim loop logs when its counts do not fit the lines.
inductive TrimError where
  | underflowAvoided (totalSize removedLen linesLen : Nat)
  | invariantBroken (totalSize : Nat)
deriving DecidableEq

-- The loop over the pieces of the data; the last of them is the one without a successor.
def pushLines (endsWithNewline : Bool) (buffer : OutputBuffer) : List (List UInt8) → OutputBuffer
  | [] => buffer
  | line :: rest =>
      let buffer := if rest.isEmpty && !endsWithNewline && !line.isEmpty then { buffer with lastLineIncomplete := true } else buffer
      if !line.isEmpty || !rest.isEmpty then
        let lineData := if !rest.isEmpty || endsWithNewline then line ++ [newline] else line
        pushLines endsWithNewline { buffer with lines := buffer.lines ++ [lineData], totalSize := buffer.totalSize + lineData.length } rest
      else pushLines endsWithNewline buffer rest

def lengths (lines : List (List UInt8)) : Nat := (lines.map List.length).sum

def trim (totalSize : Nat) (lastLineIncomplete : Bool) : List (List UInt8) → OutputBuffer × List TrimError
  | [] =>
      if maxOutputBufferSize < totalSize then (⟨[], 0, false⟩, [.invariantBroken totalSize]) else (⟨[], totalSize, lastLineIncomplete⟩, [])
  | removed :: rest =>
      if maxOutputBufferSize < totalSize ∨ maxBufferLines < rest.length + 1 then
        let logged := if totalSize < removed.length then [TrimError.underflowAvoided totalSize removed.length rest.length] else []
        let left := if totalSize < removed.length then lengths rest else totalSize - removed.length
        let (trimmed, errors) := trim left (if rest.isEmpty then false else lastLineIncomplete) rest
        (trimmed, logged ++ errors)
      else (⟨removed :: rest, totalSize, lastLineIncomplete⟩, [])

def appendRemaining (buffer : OutputBuffer) (remaining : List UInt8) : OutputBuffer × List TrimError :=
  let endsWithNewline := remaining.getLast? == some newline
  let pushed := pushLines endsWithNewline buffer (remaining.splitOn newline)
  trim pushed.totalSize pushed.lastLineIncomplete pushed.lines

def appendLast (lines : List (List UInt8)) (last more : List UInt8) : List (List UInt8) := lines.dropLast ++ [last ++ more]

-- Without a newline the unfinished line grows and the call returns, before the trim loop.
def append (buffer : OutputBuffer) (data : List UInt8) : OutputBuffer × List TrimError :=
  if data.isEmpty then (buffer, [])
  else
    match if buffer.lastLineIncomplete then buffer.lines.getLast? else none with
    | some lastLine =>
        match data.findIdx? (· == newline) with
        | some newlinePos =>
            appendRemaining ⟨appendLast buffer.lines lastLine (data.take (newlinePos + 1)), buffer.totalSize + (newlinePos + 1), false⟩
              (data.drop (newlinePos + 1))
        | none => (⟨appendLast buffer.lines lastLine data, buffer.totalSize + data.length, buffer.lastLineIncomplete⟩, [])
    | none => appendRemaining buffer data

-- At most `skips` continuation bytes are passed over.
def skipContinuations : Nat → List UInt8 → List UInt8
  | 0, bytes => bytes
  | _ + 1, [] => []
  | skips + 1, b :: rest => if b &&& 0xC0 = 0x80 then skipContinuations skips rest else b :: rest

-- The lines are newest first here, and so are the chunks.
def collectRecent (maxBytes : Nat) : List (List UInt8) → Nat → List (List UInt8) → List (List UInt8)
  | [], _, chunks => chunks
  | line :: older, size, chunks =>
      if maxBytes < size + line.length then
        if size = 0 ∧ maxBytes < line.length then
          let tail := skipContinuations 3 (line.drop (line.length - maxBytes))
          if tail.isEmpty then chunks else chunks ++ [tail]
        else chunks
      else collectRecent maxBytes older (size + line.length) (chunks ++ [line])

def getRecent (buffer : OutputBuffer) (maxBytes : Nat) : List UInt8 :=
  if maxBytes = 0 then [] else (collectRecent maxBytes buffer.lines.reverse 0 []).reverse.flatten

def history (chunks : List (List UInt8)) : OutputBuffer := chunks.foldl (fun buffer data => (append buffer data).1) .new

-- A line with its only newline at its end.
def Ended (line : List UInt8) : Prop := ∃ body, line = body ++ [newline] ∧ newline ∉ body

-- Every line has ended, except a last one when the flag is set.
inductive Shaped : Bool → List (List UInt8) → Prop where
  | empty : Shaped false []
  | unfinished (body : List UInt8) : body ≠ [] → newline ∉ body → Shaped true [body]
  | line (incomplete : Bool) (ended : List UInt8) (rest : List (List UInt8)) : Ended ended → Shaped incomplete rest → Shaped incomplete (ended :: rest)

theorem shaped_append (first second : List (List UInt8)) (incomplete : Bool) (before : Shaped false first) (after : Shaped incomplete second) :
    Shaped incomplete (first ++ second) := by
  induction first with
  | nil => exact after
  | cons line rest ih =>
      cases before with
      | line _ _ _ ended shaped => exact .line incomplete line (rest ++ second) ended (ih shaped)

theorem shaped_tail (incomplete : Bool) (line : List UInt8) (rest : List (List UInt8)) (shaped : Shaped incomplete (line :: rest)) :
    Shaped (if rest.isEmpty then false else incomplete) rest := by
  cases shaped with
  | unfinished => exact .empty
  | line _ _ _ _ after =>
      cases after with
      | empty => exact .empty
      | unfinished body some body' => exact .unfinished body some body'
      | line _ ended more here later => exact .line incomplete ended more here later

theorem newline_ascii : newline &&& 0x80 = 0 := by decide

-- Data is one piece, or a line and more data.
theorem data_cases (data : List UInt8) : newline ∉ data ∨ ∃ body more, data = body ++ newline :: more ∧ newline ∉ body := by
  by_cases found : newline ∈ data
  · obtain ⟨body, more, same, first⟩ := List.eq_append_cons_of_mem found
    exact .inr ⟨body, more, same, first⟩
  · exact .inl found

theorem valid_line (body more : List UInt8) (valid : Valid (body ++ newline :: more)) : Valid (body ++ [newline]) ∧ Valid more := by
  have opens : ¬ Continuation newline := ascii_opens newline newline_ascii
  obtain ⟨before, after⟩ := valid_boundary body (newline :: more) valid (fun b head => by cases head; exact opens)
  have single : Valid [newline] := ⟨['\n'], by decide⟩
  exact ⟨valid_append body [newline] before single, valid_after_ascii newline more newline_ascii after⟩

theorem push_lines_nothing (endsWithNewline : Bool) (buffer : OutputBuffer) (complete : buffer.lastLineIncomplete = false) :
    pushLines endsWithNewline buffer (([] : List UInt8).splitOn newline) = ⟨buffer.lines ++ [], buffer.totalSize + 0, false⟩ := by
  have nothing : pushLines endsWithNewline buffer (([] : List UInt8).splitOn newline) = buffer := by simp [pushLines]
  rw [nothing, List.append_nil, ← complete]
  rfl

theorem push_lines_spec (size : Nat) (endsWithNewline : Bool) (buffer : OutputBuffer) (data : List UInt8) (bounded : data.length ≤ size)
    (complete : buffer.lastLineIncomplete = false) (ending : ∀ last, data.getLast? = some last → (endsWithNewline = true ↔ last = newline)) :
    ∃ added incomplete, pushLines endsWithNewline buffer (data.splitOn newline) = ⟨buffer.lines ++ added, buffer.totalSize + data.length, incomplete⟩ ∧
      added.flatten = data ∧ Shaped incomplete added ∧ (Valid data → ∀ line ∈ added, Valid line) := by
  induction size generalizing buffer data with
  | zero =>
      obtain rfl : data = [] := List.length_eq_zero_iff.mp (Nat.le_zero.mp bounded)
      exact ⟨[], false, push_lines_nothing endsWithNewline buffer complete, rfl, .empty, by simp⟩
  | succ size ih =>
      obtain plain | ⟨body, more, rfl, plain⟩ := data_cases data
      · rw [List.splitOn_eq_singleton plain]
        by_cases empty : data = []
        · subst empty
          exact ⟨[], false, push_lines_nothing endsWithNewline buffer complete, rfl, .empty, by simp⟩
        · have open' : endsWithNewline = false := by
            obtain ⟨last, found⟩ := List.getLast?_isSome.mpr empty |> Option.isSome_iff_exists.mp
            rw [Bool.eq_false_iff, Ne, ending last found]
            rintro rfl
            exact plain (List.mem_of_getLast? found)
          refine ⟨[data], true, ?_, by simp, .unfinished data empty plain, by simp⟩
          simp [pushLines, open', empty]
      · rw [List.splitOn_append_cons_self_of_not_mem plain]
        have shorter : more.length ≤ size := by
          rw [List.length_append, List.length_cons] at bounded
          omega
        have further : (more.splitOn newline).isEmpty = false := by simp [List.splitOn_ne_nil]
        obtain ⟨added, incomplete, pushed, flat, shaped, valid⟩ := ih
          ⟨buffer.lines ++ [body ++ [newline]], buffer.totalSize + (body ++ [newline]).length, buffer.lastLineIncomplete⟩ more shorter complete
          (fun last found => ending last (by rw [List.getLast?_append, List.getLast?_cons, found]; rfl))
        refine ⟨(body ++ [newline]) :: added, incomplete, ?_, by simp [flat], .line incomplete _ added ⟨body, rfl, plain⟩ shaped, ?_⟩
        · simp only [pushLines, further, Bool.false_and, Bool.not_false, Bool.or_true, Bool.true_or, if_true, Bool.false_eq_true, if_false, pushed]
          simp [Nat.add_assoc, Nat.add_comm more.length]
        · intro whole
          obtain ⟨here, later⟩ := valid_line body more whole
          exact List.forall_mem_cons.mpr ⟨here, valid later⟩

theorem trim_spec (lines : List (List UInt8)) (incomplete : Bool) (shaped : Shaped incomplete lines) :
    ∃ dropped kept remaining, lines = dropped ++ kept ∧ trim lines.flatten.length incomplete lines = (⟨kept, kept.flatten.length, remaining⟩, []) ∧
      Shaped remaining kept ∧ kept.flatten.length ≤ maxOutputBufferSize ∧ kept.length ≤ maxBufferLines := by
  induction lines generalizing incomplete with
  | nil =>
      refine ⟨[], [], incomplete, rfl, ?_, shaped, by simp, by simp⟩
      simp [trim]
  | cons removed rest ih =>
      by_cases large : maxOutputBufferSize < (removed :: rest).flatten.length ∨ maxBufferLines < rest.length + 1
      · obtain ⟨dropped, kept, remaining, split, trimmed, still, small, few⟩ := ih _ (shaped_tail incomplete removed rest shaped)
        refine ⟨removed :: dropped, kept, remaining, by rw [split, List.cons_append], ?_, still, small, few⟩
        have within : ¬ (removed :: rest).flatten.length < removed.length := by simp
        have left : (removed :: rest).flatten.length - removed.length = rest.flatten.length := by simp
        simp only [trim, if_pos large, if_neg within, left, trimmed, List.nil_append]
      · refine ⟨[], removed :: rest, incomplete, rfl, by rw [trim, if_neg large], shaped, ?_, ?_⟩
        · exact not_lt.mp (not_or.mp large).1
        · exact not_lt.mp (not_or.mp large).2

-- The four fields agree, and the lines hold the end of everything appended.
structure Represented (appended : List UInt8) (buffer : OutputBuffer) : Prop where
  counted : buffer.totalSize = buffer.lines.flatten.length
  shaped : Shaped buffer.lastLineIncomplete buffer.lines
  recent : buffer.lines.flatten <:+ appended

theorem append_remaining_spec (appended remaining : List UInt8) (buffer : OutputBuffer) (represented : Represented appended buffer)
    (complete : buffer.lastLineIncomplete = false) : Represented (appended ++ remaining) (appendRemaining buffer remaining).1 ∧
      (appendRemaining buffer remaining).2 = [] ∧ (appendRemaining buffer remaining).1.totalSize ≤ maxOutputBufferSize ∧
      (appendRemaining buffer remaining).1.lines.length ≤ maxBufferLines ∧
      ((∀ line ∈ buffer.lines, Valid line) → Valid remaining → ∀ line ∈ (appendRemaining buffer remaining).1.lines, Valid line) := by
  obtain ⟨counted, shaped, recent⟩ := represented
  obtain ⟨added, incomplete, pushed, flat, ended, valid⟩ := push_lines_spec remaining.length (remaining.getLast? == some newline) buffer remaining le_rfl complete
    (by intro last found; simp [found])
  have size : buffer.totalSize + remaining.length = (buffer.lines ++ added).flatten.length := by
    rw [counted, List.flatten_append, List.length_append, flat]
  rw [complete] at shaped
  obtain ⟨dropped, kept, left, split, trimmed, still, small, few⟩ := trim_spec (buffer.lines ++ added) incomplete (shaped_append _ _ _ shaped ended)
  have result : appendRemaining buffer remaining = (⟨kept, kept.flatten.length, left⟩, []) := by
    simp only [appendRemaining, pushed, size, trimmed]
  rw [result]
  refine ⟨⟨rfl, still, ?_⟩, rfl, small, few, ?_⟩
  · calc kept.flatten <:+ (buffer.lines ++ added).flatten := by rw [split, List.flatten_append]; exact List.suffix_append _ _
      _ = buffer.lines.flatten ++ remaining := by rw [List.flatten_append, flat]
      _ <:+ appended ++ remaining := by
        obtain ⟨front, rfl⟩ := recent
        exact ⟨front, by rw [List.append_assoc]⟩
  · intro before text line member
    have whole : line ∈ buffer.lines ++ added := by
      rw [split]
      exact List.mem_append_right _ member
    obtain old | new := List.mem_append.mp whole
    · exact before line old
    · exact valid text line new

theorem shaped_last (lines : List (List UInt8)) (shaped : Shaped true lines) : ∃ front body, lines = front ++ [body] ∧ body ≠ [] ∧ newline ∉ body ∧ Shaped false front := by
  induction lines with
  | nil => cases shaped
  | cons line rest ih =>
      cases shaped with
      | unfinished _ started plain => exact ⟨[], line, rfl, started, plain, .empty⟩
      | line _ _ _ ended after =>
          obtain ⟨front, body, rfl, started, plain, before⟩ := ih after
          exact ⟨line :: front, body, rfl, started, plain, .line false line front ended before⟩

-- Whether the call returns before the trim loop.
def Continues (buffer : OutputBuffer) (data : List UInt8) : Prop := data ≠ [] ∧ buffer.lastLineIncomplete = true ∧ newline ∉ data

theorem find_newline (body more : List UInt8) (plain : newline ∉ body) : (body ++ newline :: more).findIdx? (· == newline) = some body.length := by
  induction body with
  | nil => simp [List.findIdx?_cons]
  | cons b rest ih =>
      rw [List.mem_cons, not_or] at plain
      simp [List.findIdx?_cons, ih plain.2, Ne.symm plain.1]

theorem append_continues (appended data : List UInt8) (buffer : OutputBuffer) (represented : Represented appended buffer) (continues : Continues buffer data) :
    ∃ front body, buffer.lines = front ++ [body] ∧ newline ∉ body ∧ Shaped false front ∧
      append buffer data = (⟨front ++ [body ++ data], buffer.totalSize + data.length, true⟩, []) := by
  obtain ⟨some, open', plain⟩ := continues
  obtain ⟨front, body, lines, started, whole, before⟩ := shaped_last buffer.lines (open' ▸ represented.shaped)
  have unfound : data.findIdx? (· == newline) = none := by
    rw [List.findIdx?_eq_none_iff]
    intro b member
    exact beq_eq_false_iff_ne.mpr (fun same => plain (same ▸ member))
  refine ⟨front, body, lines, whole, before, ?_⟩
  simp [append, open', lines, some, unfound, appendLast]

-- The call that finishes the last line goes on with the rest of the data, as if the line had been there.
theorem append_finishes (appended more piece : List UInt8) (buffer : OutputBuffer) (represented : Represented appended buffer)
    (incomplete : buffer.lastLineIncomplete = true) (plain : newline ∉ piece) : ∃ front body,
      buffer.lines = front ++ [body] ∧ append buffer (piece ++ newline :: more) =
        appendRemaining ⟨front ++ [body ++ (piece ++ [newline])], buffer.totalSize + (piece.length + 1), false⟩ more ∧
      Represented (appended ++ (piece ++ [newline])) ⟨front ++ [body ++ (piece ++ [newline])], buffer.totalSize + (piece.length + 1), false⟩ := by
  obtain ⟨counted, shaped, recent⟩ := represented
  obtain ⟨front, body, lines, started, whole, before⟩ := shaped_last buffer.lines (incomplete ▸ shaped)
  rw [lines, List.flatten_append, List.flatten_singleton] at counted recent
  refine ⟨front, body, lines, ?_, ?_, ?_, ?_⟩
  · have taken : (piece ++ newline :: more).take (piece.length + 1) = piece ++ [newline] := by simp [List.take_append]
    have dropped : (piece ++ newline :: more).drop (piece.length + 1) = more := by simp [List.drop_append]
    simp [append, incomplete, lines, find_newline piece more plain, appendLast, taken, dropped]
  · simp only [counted, List.flatten_append, List.flatten_singleton, List.length_append, List.length_singleton]
    omega
  · refine shaped_append front _ false before (.line false _ [] ⟨body ++ piece, by rw [List.append_assoc], ?_⟩ .empty)
    simp [whole, plain]
  · obtain ⟨earlier, rfl⟩ := recent
    exact ⟨earlier, by simp⟩

def Bounded (buffer : OutputBuffer) : Prop := buffer.totalSize ≤ maxOutputBufferSize ∧ buffer.lines.length ≤ maxBufferLines

theorem append_represented (appended data : List UInt8) (buffer : OutputBuffer) (represented : Represented appended buffer) :
    Represented (appended ++ data) (append buffer data).1 ∧ (append buffer data).2 = [] ∧
      ((∀ line ∈ buffer.lines, Valid line) → Valid data → ∀ line ∈ (append buffer data).1.lines, Valid line) ∧
      (data ≠ [] → ¬ Continues buffer data → Bounded (append buffer data).1) := by
  by_cases empty : data = []
  · subst empty
    have same : append buffer [] = (buffer, []) := rfl
    rw [same, List.append_nil]
    exact ⟨represented, rfl, fun valid _ => valid, fun some => absurd rfl some⟩
  · cases incomplete : buffer.lastLineIncomplete with
    | false =>
        have same : append buffer data = appendRemaining buffer data := by simp [append, empty, incomplete]
        obtain ⟨still, logged, small, few, valid⟩ := append_remaining_spec appended data buffer represented incomplete
        rw [same]
        exact ⟨still, logged, valid, fun _ _ => ⟨small, few⟩⟩
    | true =>
        obtain plain | ⟨piece, more, rfl, plain⟩ := data_cases data
        · have continues : Continues buffer data := ⟨empty, incomplete, plain⟩
          obtain ⟨front, body, lines, whole, before, same⟩ := append_continues appended data buffer represented continues
          obtain ⟨counted, _, recent⟩ := represented
          rw [lines, List.flatten_append, List.flatten_singleton] at counted recent
          rw [same]
          refine ⟨⟨?_, ?_, ?_⟩, rfl, ?_, fun _ other => absurd continues other⟩
          · simp only [counted, List.flatten_append, List.flatten_singleton, List.length_append]
            omega
          · exact shaped_append front _ true before (.unfinished _ (by simp [empty]) (by simp [whole, plain]))
          · obtain ⟨earlier, rfl⟩ := recent
            exact ⟨earlier, by simp⟩
          · intro valid text
            rw [lines] at valid
            obtain ⟨old, last⟩ := List.forall_mem_append.mp valid
            exact List.forall_mem_append.mpr ⟨old, List.forall_mem_singleton.mpr (valid_append body data (List.forall_mem_singleton.mp last) text)⟩
        · obtain ⟨front, body, lines, same, finished⟩ := append_finishes appended more piece buffer represented incomplete plain
          obtain ⟨still, logged, small, few, valid⟩ := append_remaining_spec _ more _ finished rfl
          rw [same]
          refine ⟨by simpa using still, logged, ?_, fun _ _ => ⟨small, few⟩⟩
          intro before text
          rw [lines] at before
          obtain ⟨old, last⟩ := List.forall_mem_append.mp before
          obtain ⟨here, later⟩ := valid_line piece more text
          exact valid (List.forall_mem_append.mpr ⟨old, List.forall_mem_singleton.mpr (valid_append body _ (List.forall_mem_singleton.mp last) here)⟩) later

theorem history_append (chunks : List (List UInt8)) (data : List UInt8) : history (chunks ++ [data]) = (append (history chunks) data).1 := by
  simp [history]

theorem history_represented (chunks : List (List UInt8)) : Represented chunks.flatten (history chunks) := by
  induction chunks using List.reverseRecOn with
  | nil => exact ⟨rfl, .empty, List.suffix_rfl⟩
  | append_singleton before data ih =>
      rw [history_append, List.flatten_append, List.flatten_singleton]
      exact (append_represented before.flatten data (history before) ih).1

end GotechDesk.TerminalService
