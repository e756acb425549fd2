import GotechDesk.Drm.ChannelReader

set_option autoImplicit false

namespace GotechDesk.Drm.Channel

def Call.cap : Call → Nat
  | .recvMsg | .recvMsgTimeout2 => maxDrmJsonBytes
  | .nextRawInto => maxDrmRawBytes

section
variable {μ φ : Type} (json : μ → List UInt8) (parse : List UInt8 → Option μ)

def Frame.Within (frame : Frame μ φ) : Prop :=
  match frame.kind with
  | .msg => (frame.payload json).length ≤ maxDrmJsonBytes
  | .raw => (frame.payload json).length ≤ maxDrmRawBytes

-- What is left of the stream once `off` bytes of the first frame are read.
def left (frame : Frame μ φ) (rest : List (Frame μ φ)) (off : Nat) : List (Cell φ) :=
  (frame.cells json).drop off ++ rest.flatMap (Frame.cells json)

-- What the reader has of the first message that remains is the front of that message, and
-- the stream goes on with the rest of it.
inductive Aligned (reader : Reader μ φ) (stream : List (Cell φ)) : List (Frame μ φ) → Phase φ → Prop where
  | idle (remaining : List (Frame μ φ)) : stream = remaining.flatMap (Frame.cells json) → Aligned reader stream remaining .idle
  | ready (frame : Frame μ φ) (rest : List (Frame μ φ)) : frame.kind = .msg → stream = left json frame rest 0 →
      Aligned reader stream (frame :: rest) .ready
  | heading (frame : Frame μ φ) (rest : List (Frame μ φ)) (call : Call) (bytes : List UInt8) (off : Nat) (got : Option φ) :
      frame.kind = call.kind → bytes.length = 4 → off < 4 → bytes.take off = (frame.bytes json).take off →
      got = (if off = 0 then none else frame.fd) → stream = left json frame rest off →
      Aligned reader stream (frame :: rest) (.heading call bytes off got)
  | body (frame : Frame μ φ) (rest : List (Frame μ φ)) (call : Call) (len off : Nat) (fd : Option φ) :
      frame.kind = call.kind → len = (frame.payload json).length → off < len → len ≤ (reader.target call).length →
      (call.kind = .raw → reader.out.length = len) → (reader.target call).take off = (frame.payload json).take off → fd = frame.fd →
      stream = left json frame rest (4 + off) → Aligned reader stream (frame :: rest) (.body call len off fd)

structure Delivering (plan : List (Frame μ φ)) (reader : Reader μ φ) (stream : List (Cell φ)) (remaining : List (Frame μ φ)) : Prop where
  whole : reader.received ++ remaining = plan
  expected : reader.expected = remaining.map Frame.kind
  aligned : Aligned json reader stream remaining reader.phase

def InStep (plan : List (Frame μ φ)) (reader : Reader μ φ) (stream : List (Cell φ)) : Prop :=
  ∃ remaining, Delivering json plan reader stream remaining

-- Either the reader is in step with the stream, or it has given up for want of bytes.
def Delivers (plan : List (Frame μ φ)) (reader : Reader μ φ) (stream : List (Cell φ)) : Prop :=
  InStep json plan reader stream ∨
    (reader.received <+: plan ∧ ∃ error, reader.phase = .failed error ∧ (error = .closed ∨ error = .stalled ∨ error = .bodyTimeout))

section
variable (frame : Frame μ φ)

theorem frame_cells_length : (frame.cells json).length = 4 + (frame.payload json).length := by
  rw [Frame.cells, carried_length, frame_bytes_length]

theorem left_all (rest : List (Frame μ φ)) : left json frame rest (4 + (frame.payload json).length) = rest.flatMap (Frame.cells json) := by
  rw [left, List.drop_of_length_le (Nat.le_of_eq (frame_cells_length json frame)), List.nil_append]

-- A read of `n` bytes within the frame, its bytes and the descriptor it can bring.
theorem left_read (rest : List (Frame μ φ)) (socket unsent : List (Cell φ)) (off n : Nat)
    (stream : socket ++ unsent = left json frame rest off) (few : n ≤ socket.length) (fits : off + n ≤ 4 + (frame.payload json).length) :
    (socket.take n).map Cell.byte = ((frame.bytes json).drop off).take n ∧ socket.take n = ((frame.cells json).drop off).take n ∧
      socket.drop n ++ unsent = left json frame rest (off + n) := by
  have room : n ≤ ((frame.cells json).drop off).length := by
    rw [List.length_drop, frame_cells_length]
    omega
  obtain ⟨taken, dropped⟩ := read_front socket unsent _ _ n stream few room
  refine ⟨?_, taken, ?_⟩
  · rw [taken, List.map_take, List.map_drop, Frame.cells, carried_bytes]
  · rw [dropped, left, List.drop_drop]

theorem head_fd (off n : Nat) (got : Option φ) (some : 0 < n) (off4 : off < 4)
    (sofar : got = if off = 0 then none else frame.fd) : got.or ((((frame.cells json).drop off).take n).head?.bind Cell.fd) = frame.fd := by
  rw [List.head?_take, if_neg (Nat.ne_of_gt some)]
  by_cases first : off = 0
  · subst first
    rw [if_pos rfl] at sofar
    rw [sofar, Option.none_or, List.drop_zero, Frame.cells, Frame.bytes]
    have width := to_be_bytes_length (frame.payload json).length
    cases shape : toBeBytes (frame.payload json).length with
    | nil =>
        rw [shape] at width
        cases width
    | cons byte others => rfl
  · rw [if_neg first] at sofar
    have plain : ((frame.cells json).drop off).head?.bind Cell.fd = none := by
      cases there : ((frame.cells json).drop off).head? with
      | none => rfl
      | some cell => exact carried_later frame.fd (frame.bytes json) off (Nat.pos_of_ne_zero first) cell there
    rw [plain, sofar, Option.or_none]

end

variable (readsBack : ∀ data, parse (json data) = some data)
include readsBack

section
variable (plan : List (Frame μ φ)) (reader : Reader μ φ) (stream : List (Cell φ)) (frame : Frame μ φ) (rest : List (Frame μ φ)) (call : Call)

theorem finish_body_delivers (fd : Option φ) (whole : reader.received ++ frame :: rest = plan)
    (expected : reader.expected = (frame :: rest).map Frame.kind) (kind : frame.kind = call.kind)
    (payload : (reader.target call).take (frame.payload json).length = frame.payload json)
    (raw : call.kind = .raw → reader.out.length = (frame.payload json).length) (carries : fd = frame.fd)
    (done : stream = rest.flatMap (Frame.cells json)) :
    InStep json plan (finishBody parse reader call (frame.payload json).length fd) stream := by
  have same : finishBody parse reader call (frame.payload json).length fd = reader.received? frame := by
    rw [finishBody]
    rw [Reader.target] at payload
    cases frame with
    | raw data =>
        rw [← kind] at payload raw ⊢
        have all := raw rfl
        dsimp only [Frame.kind] at payload ⊢
        rw [← all, List.take_length] at payload
        rw [payload]
        rfl
    | msg data sent =>
        rw [← kind] at payload ⊢
        dsimp only [Frame.kind] at payload ⊢
        rw [payload, Frame.payload, readsBack]
        subst carries
        rfl
  rw [same]
  refine ⟨rest, ?_, ?_, .idle rest done⟩
  · rw [← whole, Reader.received?, List.append_assoc]
    rfl
  · rw [Reader.received?]
    exact congrArg List.tail expected

theorem finish_head_delivers (whole : reader.received ++ frame :: rest = plan)
    (expected : reader.expected = (frame :: rest).map Frame.kind) (kind : frame.kind = call.kind) (within : frame.Within json)
    (on : stream = left json frame rest 4) :
    InStep json plan (finishHead parse reader call (frame.payload json).length frame.fd) stream := by
  have bare : call.kind = .raw → frame.fd = none := by
    intro raw
    rw [raw] at kind
    cases frame with
    | msg => cases kind
    | raw => rfl
  have ended : (frame.payload json).length = 0 → stream = rest.flatMap (Frame.cells json) := by
    intro empty
    rw [on, ← left_all json frame rest, empty]
  have nothing : (frame.payload json).length = 0 → frame.payload json = [] := List.eq_nil_of_length_eq_zero
  rw [Frame.Within, kind] at within
  unfold finishHead
  split
  · rename_i is
    rw [is] at within
    rw [if_neg (Nat.not_lt.mpr within)]
    have grown := grown_length reader.readBuf (frame.payload json).length
    by_cases empty : (frame.payload json).length = 0
    · rw [if_pos empty]
      have body := finish_body_delivers json parse readsBack plan
        { reader with readBuf := if reader.readBuf.length < (frame.payload json).length then resize reader.readBuf (frame.payload json).length else reader.readBuf }
        stream frame rest call frame.fd whole expected kind (by rw [empty, nothing empty]; rfl)
        (fun raw => by rw [is] at raw; cases raw) rfl (ended empty)
      rwa [empty] at body ⊢
    · rw [if_neg empty]
      refine ⟨frame :: rest, whole, expected, .body frame rest call _ 0 _ kind rfl (Nat.pos_of_ne_zero empty) ?_ ?_ rfl rfl on⟩
      · rw [Reader.target, is]
        dsimp only
        omega
      · intro raw
        rw [is] at raw
        cases raw
  · rename_i is
    rw [is] at within
    rw [if_neg (Nat.not_lt.mpr within)]
    have sized := resize_length reader.out (frame.payload json).length
    by_cases empty : (frame.payload json).length = 0
    · rw [if_pos empty]
      have body := finish_body_delivers json parse readsBack plan { reader with out := resize reader.out (frame.payload json).length }
        stream frame rest call none whole expected kind (by rw [empty, nothing empty]; rfl) (fun _ => sized) (bare is).symm (ended empty)
      rwa [empty] at body ⊢
    · rw [if_neg empty]
      refine ⟨frame :: rest, whole, expected, .body frame rest call _ 0 _ kind rfl (Nat.pos_of_ne_zero empty) ?_ (fun _ => sized) rfl
        (bare is).symm on⟩
      rw [Reader.target, is]
      exact Nat.le_of_eq sized.symm

-- The buffer of a body after a read, full or not.
theorem body_read_delivers (off : Nat) (whole : reader.received ++ frame :: rest = plan)
    (expected : reader.expected = (frame :: rest).map Frame.kind) (kind : frame.kind = call.kind) (inside : off ≤ (frame.payload json).length)
    (room : (frame.payload json).length ≤ (reader.target call).length)
    (raw : call.kind = .raw → reader.out.length = (frame.payload json).length)
    (sofar : (reader.target call).take off = (frame.payload json).take off) (on : stream = left json frame rest (4 + off)) :
    InStep json plan (if off < (frame.payload json).length then { reader with phase := .body call (frame.payload json).length off frame.fd }
      else finishBody parse reader call (frame.payload json).length frame.fd) stream := by
  split
  · rename_i short
    exact ⟨frame :: rest, whole, expected, .body frame rest call _ off _ kind rfl short room raw sofar rfl on⟩
  · have full : off = (frame.payload json).length := by omega
    rw [full, List.take_length] at sofar
    rw [full, left_all] at on
    exact finish_body_delivers json parse readsBack plan reader stream frame rest call frame.fd whole expected kind sofar raw rfl on

end

theorem read_into_delivers (plan : List (Frame μ φ)) (caps : ∀ frame ∈ plan, frame.Within json) (reader : Reader μ φ)
    (socket unsent : List (Cell φ)) (n : Nat) (some : 0 < n) (few : n ≤ socket.length) (fits : n ≤ reader.phase.space)
    (remaining : List (Frame μ φ)) (delivering : Delivering json plan reader (socket ++ unsent) remaining) :
    InStep json plan (readInto parse reader (socket.take n)) (socket.drop n ++ unsent) := by
  obtain ⟨whole, expected, aligned⟩ := delivering
  unfold readInto
  cases place : reader.phase with
  | idle | ready | failed =>
      rw [place] at fits
      exact absurd (Nat.lt_of_lt_of_le some fits) (Nat.lt_irrefl 0)
  | heading call bytes off got =>
      rw [place] at fits aligned
      simp only [Phase.space] at fits
      cases aligned with
      | heading frame rest _ _ _ _ kind width short sofar carries on =>
          have within := caps frame (whole ▸ List.mem_append_right _ List.mem_cons_self)
          obtain ⟨chunk, taken, onward⟩ := left_read json frame rest socket unsent off n on few (by omega)
          have length : ((socket.take n).map Cell.byte).length = n := by rw [List.length_map, List.length_take, Nat.min_eq_left few]
          have filled := take_further bytes (frame.bytes json) _ off sofar (by omega) (by rw [length]; exact chunk)
          have fd : got.or ((socket.take n).head?.bind Cell.fd) = frame.fd := by rw [taken, head_fd json frame off n got some short carries]
          dsimp only
          rw [length] at filled ⊢
          rw [fd]
          have wide : (fill bytes off ((socket.take n).map Cell.byte)).length = 4 := by rw [fill_length _ _ _ (by omega), width]
          split
          · refine ⟨frame :: rest, whole, expected, .heading frame rest call _ (off + n) _ kind wide (by assumption) filled ?_ onward⟩
            rw [if_neg (by omega)]
          · have full : off + n = 4 := by omega
            rw [full] at filled onward
            have head : fill bytes off ((socket.take n).map Cell.byte) = toBeBytes (frame.payload json).length := by
              rw [← List.take_of_length_le (Nat.le_of_eq wide), filled, Frame.bytes]
              exact List.take_left' (to_be_bytes_length _)
            have small : (frame.payload json).length < 2 ^ 32 := by
              rw [Frame.Within] at within
              unfold maxDrmJsonBytes maxDrmRawBytes at within
              split at within <;> omega
            rw [head, from_to_be_bytes _ small]
            exact finish_head_delivers json parse readsBack plan _ _ frame rest call whole expected kind within onward
  | body call len off fd =>
      rw [place] at fits aligned
      simp only [Phase.space] at fits
      cases aligned with
      | body frame rest _ _ _ _ kind length short room raw sofar carries on =>
          obtain ⟨chunk, _, onward⟩ := left_read json frame rest socket unsent (4 + off) n on few (by omega)
          have width : ((socket.take n).map Cell.byte).length = n := by rw [List.length_map, List.length_take, Nat.min_eq_left few]
          have part : ((frame.bytes json).drop (4 + off)) = (frame.payload json).drop off := by
            rw [Frame.bytes, ← List.drop_drop]
            exact congrArg _ (List.drop_left' (to_be_bytes_length _))
          rw [part] at chunk
          have filled := take_further (reader.target call) (frame.payload json) _ off sofar (by omega) (by rw [width]; exact chunk)
          have size := fill_length (reader.target call) off ((socket.take n).map Cell.byte) (by omega)
          subst length carries
          dsimp only
          rw [width] at filled ⊢
          rw [Nat.add_assoc] at onward
          rw [Reader.target] at filled size room
          cases is : call.kind with
          | msg =>
              rw [is] at filled size room
              refine body_read_delivers json parse readsBack plan _ _ frame rest call (off + n) whole expected kind (by omega) ?_ ?_ ?_ onward
              · rw [Reader.target, is]
                exact room.trans (Nat.le_of_eq size.symm)
              · intro raw
                rw [is] at raw
                cases raw
              · rw [Reader.target, is]
                exact filled
          | raw =>
              rw [is] at filled size room
              have all := raw is
              refine body_read_delivers json parse readsBack plan _ _ frame rest call (off + n) whole expected kind (by omega) ?_ ?_ ?_ onward
              · rw [Reader.target, is]
                exact room.trans (Nat.le_of_eq size.symm)
              · exact fun _ => size.trans all
              · rw [Reader.target, is]
                exact filled

theorem reader_step_delivers (plan : List (Frame μ φ)) (caps : ∀ frame ∈ plan, frame.Within json) (reader next : Reader μ φ)
    (socket after unsent : List (Cell φ)) (label : Label) (sane : Sane reader) (delivers : Delivers json plan reader (socket ++ unsent))
    (stepped : readerStep parse socket reader label = some (after, next)) : Delivers json plan next (after ++ unsent) := by
  rcases delivers with ⟨remaining, delivering⟩ | ⟨_, error, failed, _⟩
  case inr =>
    unfold readerStep at stepped
    rw [failed] at stepped
    split at stepped
    case h_9 _ n =>
      obtain ⟨⟨some, fits, _⟩, _⟩ := Option.ite_none_right_eq_some.mp stepped
      exact absurd (Nat.lt_of_lt_of_le some fits) (Nat.lt_irrefl 0)
    case h_10 => cases stepped
    all_goals contradiction
  have ⟨whole, expected, aligned⟩ := delivering
  have sofar : reader.received <+: plan := ⟨remaining, whole⟩
  have phase := sane.phase
  unfold readerStep at stepped
  split at stepped
  case h_1 call idle =>
    obtain ⟨next_kind, is⟩ := Option.ite_none_right_eq_some.mp stepped
    cases is
    rw [idle] at aligned
    cases aligned with
    | idle _ on =>
        rw [expected] at next_kind
        cases remaining with
        | nil => cases next_kind
        | cons frame rest =>
            have kind : frame.kind = call.kind := Option.some.inj next_kind
            cases call with
            | recvMsgTimeout2 => exact .inl ⟨frame :: rest, whole, expected, .ready frame rest kind on⟩
            | recvMsg => exact .inl ⟨frame :: rest, whole, expected, .heading frame rest .recvMsg _ 0 _ kind rfl (by decide) rfl rfl on⟩
            | nextRawInto => exact .inl ⟨frame :: rest, whole, expected, .heading frame rest .nextRawInto _ 0 _ kind rfl (by decide) rfl rfl on⟩
  case h_2 ready =>
    cases stepped
    rw [ready] at aligned
    cases aligned with
    | ready frame rest kind on =>
        exact .inl ⟨frame :: rest, whole, expected, .heading frame rest .recvMsgTimeout2 _ 0 _ kind rfl (by decide) rfl rfl on⟩
  case h_3 ready =>
    cases stepped
    rw [ready] at aligned
    cases aligned with
    | ready frame rest kind on => exact .inl ⟨frame :: rest, whole, expected, .idle _ on⟩
  case h_4 call bytes off got heading =>
    obtain ⟨given, out, is⟩ := Option.map_eq_some_iff.mp stepped
    cases is
    obtain ⟨same, late⟩ := timed_out_phase reader _ call out
    rw [heading] at phase aligned
    rw [same]
    rcases late with ⟨idle, rfl, unread⟩ | failed | failed
    · -- Nothing was consumed, so the stream still begins with the message.
      have first : off = 0 := by
        have consumed := phase.2.2.1 rfl
        rw [unread] at consumed
        have none_read := of_decide_eq_false consumed.symm
        omega
      subst first
      rw [idle]
      cases aligned with
      | heading frame rest _ _ _ _ kind width short part carries on => exact .inl ⟨frame :: rest, whole, expected, .idle _ on⟩
    · exact .inr ⟨sofar, .stalled, failed, .inr (.inl rfl)⟩
    · exact .inr ⟨sofar, .bodyTimeout, failed, .inr (.inr rfl)⟩
  case h_5 call len off fd body =>
    obtain ⟨given, out, is⟩ := Option.map_eq_some_iff.mp stepped
    cases is
    obtain ⟨same, late⟩ := timed_out_phase reader _ call out
    rw [body] at phase
    rw [same]
    rcases late with ⟨idle, rfl, unread⟩ | failed | failed
    · have consumed := phase.2.2.1 rfl
      rw [unread] at consumed
      cases consumed
    · exact .inr ⟨sofar, .stalled, failed, .inr (.inl rfl)⟩
    · exact .inr ⟨sofar, .bodyTimeout, failed, .inr (.inr rfl)⟩
  case h_6 | h_7 | h_8 =>
    cases stepped
    exact .inr ⟨sofar, .closed, rfl, .inl rfl⟩
  case h_9 _ n =>
    obtain ⟨⟨some, fits, few, _⟩, is⟩ := Option.ite_none_right_eq_some.mp stepped
    cases is
    exact .inl (read_into_delivers json parse readsBack plan caps reader socket unsent n some few fits remaining delivering)
  case h_10 => cases stepped

omit readsBack in
theorem sender_step_orderly (sender next : Sender μ φ) (socket after : List (Cell φ)) (label : Label)
    (stepped : senderStep json sender socket label = some (next, after)) (buf : ∀ writing, sender.writing = some writing → writing.buf ≠ []) :
    next.queue <:+ sender.queue ∧ ∀ writing, next.writing = some writing → writing.buf ≠ [] := by
  unfold senderStep at stepped
  split at stepped
  · cases stepped
  · split at stepped
    case h_1 frame queue idle queued =>
      cases stepped
      rw [drmSendFrame]
      split
      · exact ⟨List.suffix_refl _, buf⟩
      · refine ⟨?_, ?_⟩
        · rw [queued]
          exact List.suffix_cons frame queue
        · rintro writing ⟨⟩
          exact List.ne_nil_of_length_pos (by dsimp only; rw [to_be_bytes_length]; decide)
    case h_2 n writing under =>
      obtain ⟨_, is⟩ := Option.ite_none_right_eq_some.mp stepped
      cases is
      refine ⟨List.suffix_refl _, ?_⟩
      intro further advanced
      rw [Writing.advance] at advanced
      split at advanced
      · rename_i more
        cases advanced
        exact more
      · split at advanced
        · rename_i more
          cases advanced
          exact more
        · cases advanced
    case h_3 =>
      cases stepped
      exact ⟨List.suffix_refl _, buf⟩
    case h_4 => cases stepped

-- The whole channel: what the reader has, what is on its way and what is still to be sent
-- make up the plan.
structure Lossless (plan : List (Frame μ φ)) (state : State μ φ) : Prop where
  sane : Sane state.reader
  delivers : Delivers json plan state.reader (state.socket ++ state.sender.unsent json)
  queue : state.sender.queue <:+ plan
  buf : ∀ writing, state.sender.writing = some writing → writing.buf ≠ []

theorem step_lossless (plan : List (Frame μ φ)) (caps : ∀ frame ∈ plan, frame.Within json) (state next : State μ φ) (label : Label)
    (lossless : Lossless json plan state) (stepped : step json parse state label = some next) : Lossless json plan next := by
  have sending : (senderStep json state.sender state.socket label).map (fun next => { state with sender := next.1, socket := next.2 }) = some next →
      Lossless json plan next := by
    intro taken
    obtain ⟨⟨sender, after⟩, sent, rfl⟩ := Option.map_eq_some_iff.mp taken
    obtain ⟨queue, buf⟩ := sender_step_orderly json state.sender sender state.socket after label sent lossless.buf
    refine ⟨lossless.sane, ?_, queue.trans lossless.queue, buf⟩
    rw [sender_step_stream json state.sender sender state.socket after label sent]
    exact lossless.delivers
  have reading : (readerStep parse state.socket state.reader label).map (fun next => { state with socket := next.1, reader := next.2 }) = some next →
      Lossless json plan next := by
    intro taken
    obtain ⟨⟨after, reader⟩, read, rfl⟩ := Option.map_eq_some_iff.mp taken
    exact ⟨reader_step_sane parse _ after _ reader label lossless.sane read,
      reader_step_delivers json parse readsBack plan caps _ reader _ after _ label lossless.sane lossless.delivers read, lossless.queue, lossless.buf⟩
  cases label with
  | wouldBlock => exact Option.some.inj stepped ▸ lossless
  | send | sendmsg | sendFails => exact sending stepped
  | call | readable | read | timeout | readFails => exact reading stepped

end

end GotechDesk.Drm.Channel
