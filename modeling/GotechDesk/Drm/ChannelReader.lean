import GotechDesk.Drm.ChannelFraming

set_option autoImplicit false

namespace GotechDesk.Drm.Channel

section
variable {μ φ : Type}

def Reader.target (reader : Reader μ φ) (call : Call) : List UInt8 :=
  match call.kind with
  | .msg => reader.readBuf
  | .raw => reader.out

def Phase.Sane (reader : Reader μ φ) : Phase φ → Prop
  | .idle | .failed _ => True
  | .ready => reader.taken = reader.called
  | .heading call bytes off _ =>
      bytes.length = 4 ∧ off < 4 ∧ (call = .recvMsgTimeout2 → reader.consumed = decide (0 < off)) ∧ reader.taken = reader.called + off
  | .body call len off _ =>
      off < len ∧ len ≤ (reader.target call).length ∧ (call = .recvMsgTimeout2 → reader.consumed = true) ∧ reader.taken = reader.called + 4 + off

-- Whatever the peer sends: the buffers stay under the caps, and `consumed` tells whether
-- the call has read a byte.
structure Sane (reader : Reader μ φ) : Prop where
  readBuf : reader.readBuf.length ≤ maxDrmJsonBytes
  out : reader.out.length ≤ maxDrmRawBytes
  phase : reader.phase.Sane reader

variable (parse : List UInt8 → Option μ)

section
variable (reader : Reader μ φ) (call : Call) (len : Nat) (fd : Option φ)

theorem finish_body_buffers :
    (finishBody parse reader call len fd).readBuf = reader.readBuf ∧ (finishBody parse reader call len fd).out = reader.out ∧
      ((finishBody parse reader call len fd).phase = .idle ∨ (finishBody parse reader call len fd).phase = .failed .json) := by
  unfold finishBody
  split
  · exact ⟨rfl, rfl, .inl rfl⟩
  · split
    · exact ⟨rfl, rfl, .inl rfl⟩
    · exact ⟨rfl, rfl, .inr rfl⟩

theorem finish_body_sane (readBuf : reader.readBuf.length ≤ maxDrmJsonBytes)
    (out : reader.out.length ≤ maxDrmRawBytes) : Sane (finishBody parse reader call len fd) := by
  obtain ⟨sameBuf, sameOut, phase⟩ := finish_body_buffers parse reader call len fd
  refine ⟨by rwa [sameBuf], by rwa [sameOut], ?_⟩
  rcases phase with idle | failed
  · rw [idle]
    trivial
  · rw [failed]
    trivial

end

theorem grown_length (buf : List UInt8) (len : Nat) :
    (if buf.length < len then resize buf len else buf).length = max buf.length len := by
  split
  · rw [resize_length]
    omega
  · omega

theorem finish_head_sane (reader : Reader μ φ) (call : Call) (len : Nat) (got : Option φ) (readBuf : reader.readBuf.length ≤ maxDrmJsonBytes)
    (out : reader.out.length ≤ maxDrmRawBytes) (consumed : reader.consumed = true) (taken : reader.taken = reader.called + 4) :
    Sane (finishHead parse reader call len got) := by
  unfold finishHead
  split
  · rename_i kind
    split
    · exact ⟨readBuf, out, trivial⟩
    · rename_i fits
      have grown := grown_length reader.readBuf len
      by_cases empty : len = 0
      · rw [if_pos empty]
        exact finish_body_sane parse _ call 0 got (by dsimp only; omega) out
      · rw [if_neg empty]
        refine ⟨by dsimp only; omega, out, by omega, ?_, fun _ => consumed, taken⟩
        rw [Reader.target, kind]
        dsimp only
        omega
  · rename_i kind
    split
    · exact ⟨readBuf, out, trivial⟩
    · rename_i fits
      have sized := resize_length reader.out len
      by_cases empty : len = 0
      · rw [if_pos empty]
        exact finish_body_sane parse _ call 0 none readBuf (by dsimp only; omega)
      · rw [if_neg empty]
        refine ⟨readBuf, by dsimp only; omega, by omega, ?_, fun _ => consumed, taken⟩
        rw [Reader.target, kind]
        dsimp only
        omega

theorem read_into_sane (reader : Reader μ φ) (cells : List (Cell φ)) (some : 0 < cells.length) (fits : cells.length ≤ reader.phase.space)
    (sane : Sane reader) : Sane (readInto parse reader cells) := by
  obtain ⟨readBuf, out, phase⟩ := sane
  have chunk : (cells.map Cell.byte).length = cells.length := List.length_map _
  unfold readInto
  cases place : reader.phase with
  | idle | ready | failed =>
      rw [place] at fits
      exact absurd (Nat.lt_of_lt_of_le some fits) (Nat.lt_irrefl 0)
  | heading call bytes off got =>
      rw [place] at phase fits
      obtain ⟨width, short, cons, taken⟩ := phase
      simp only [Phase.space] at fits
      dsimp only
      split
      · refine ⟨readBuf, out, ?_, by assumption, ?_, ?_⟩
        · rw [fill_length _ _ _ (by omega), width]
        · intro _
          exact (decide_eq_true (by omega)).symm
        · change reader.taken + _ = reader.called + _
          omega
      · exact finish_head_sane parse _ call _ _ readBuf out rfl (by dsimp only; omega)
  | body call len off fd =>
      rw [place] at phase fits
      obtain ⟨short, room, cons, taken⟩ := phase
      simp only [Phase.space] at fits
      rw [Reader.target] at room
      dsimp only
      cases kind : call.kind with
      | msg =>
          rw [kind] at room
          have same := fill_length reader.readBuf off (cells.map Cell.byte) (by dsimp only at room; omega)
          dsimp only at room ⊢
          split
          · refine ⟨by dsimp only; omega, out, by assumption, ?_, fun _ => rfl, ?_⟩
            · rw [Reader.target, kind]
              dsimp only
              omega
            · change reader.taken + _ = reader.called + 4 + _
              omega
          · exact finish_body_sane parse _ call len fd (by dsimp only; omega) out
      | raw =>
          rw [kind] at room
          have same := fill_length reader.out off (cells.map Cell.byte) (by dsimp only at room; omega)
          dsimp only at room ⊢
          split
          · refine ⟨readBuf, by dsimp only; omega, by assumption, ?_, fun _ => rfl, ?_⟩
            · rw [Reader.target, kind]
              dsimp only
              omega
            · change reader.taken + _ = reader.called + 4 + _
              omega
          · exact finish_body_sane parse _ call len fd readBuf (by dsimp only; omega)

theorem timed_out_phase (reader next : Reader μ φ) (call : Call) (out : timedOut reader call = some next) :
    next = { reader with phase := next.phase } ∧ ((next.phase = .idle ∧ call = .recvMsgTimeout2 ∧ reader.consumed = false) ∨
      next.phase = .failed .stalled ∨ next.phase = .failed .bodyTimeout) := by
  cases call with
  | recvMsg => cases out
  | nextRawInto =>
      cases out
      exact ⟨rfl, .inr (.inr rfl)⟩
  | recvMsgTimeout2 =>
      cases out
      cases consumed : reader.consumed with
      | true => exact ⟨by simp, .inr (.inl rfl)⟩
      | false => exact ⟨by simp, .inl ⟨rfl, rfl, rfl⟩⟩

theorem timed_out_sane (reader next : Reader μ φ) (call : Call) (out : timedOut reader call = some next) (sane : Sane reader) : Sane next := by
  obtain ⟨same, phase⟩ := timed_out_phase reader next call out
  rw [same]
  refine ⟨sane.readBuf, sane.out, ?_⟩
  rcases phase with ⟨idle, _⟩ | failed | failed
  · rw [idle]
    trivial
  · rw [failed]
    trivial
  · rw [failed]
    trivial

theorem reader_step_sane (socket after : List (Cell φ)) (reader next : Reader μ φ) (label : Label) (sane : Sane reader)
    (stepped : readerStep parse socket reader label = some (after, next)) : Sane next := by
  unfold readerStep at stepped
  split at stepped
  case h_1 call idle =>
    obtain ⟨_, is⟩ := Option.ite_none_right_eq_some.mp stepped
    cases is
    cases call with
    | recvMsg => exact ⟨sane.readBuf, sane.out, rfl, by decide, fun _ => rfl, rfl⟩
    | recvMsgTimeout2 => exact ⟨sane.readBuf, sane.out, rfl⟩
    | nextRawInto => exact ⟨sane.readBuf, sane.out, rfl, by decide, nofun, rfl⟩
  case h_2 ready =>
    cases stepped
    have same := sane.phase
    rw [ready] at same
    exact ⟨sane.readBuf, sane.out, rfl, by decide, fun _ => rfl, same⟩
  case h_3 =>
    cases stepped
    exact ⟨sane.readBuf, sane.out, trivial⟩
  case h_4 | h_5 =>
    obtain ⟨given, out, is⟩ := Option.map_eq_some_iff.mp stepped
    cases is
    exact timed_out_sane reader _ _ out sane
  case h_6 | h_7 | h_8 =>
    cases stepped
    exact ⟨sane.readBuf, sane.out, trivial⟩
  case h_9 _ n =>
    obtain ⟨⟨some, fits, few, _⟩, is⟩ := Option.ite_none_right_eq_some.mp stepped
    cases is
    have length : (socket.take n).length = n := by rw [List.length_take, Nat.min_eq_left few]
    exact read_into_sane parse reader (socket.take n) (by omega) (by omega) sane
  case h_10 => cases stepped

end

end GotechDesk.Drm.Channel
