import GotechDesk.Drm.Channel

set_option autoImplicit false

namespace GotechDesk.Drm.Channel

theorem to_be_bytes_length (len : Nat) : (toBeBytes len).length = 4 := by
  rw [toBeBytes, List.length_reverse, LittleEndian.put_length]

theorem from_to_be_bytes (len : Nat) (small : len < 2 ^ 32) : fromBeBytes (toBeBytes len) = len := by
  rw [fromBeBytes, toBeBytes, List.reverse_reverse]
  exact LittleEndian.get_put_small 4 len small

theorem resize_length (buf : List UInt8) (len : Nat) : (resize buf len).length = len := by
  rw [resize, List.length_append, List.length_take, List.length_replicate]
  omega

theorem fill_length (buf : List UInt8) (off : Nat) (chunk : List UInt8) (fits : off + chunk.length ≤ buf.length) :
    (fill buf off chunk).length = buf.length := by
  simp only [fill, List.length_append, List.length_take, List.length_drop]
  omega

theorem fill_take (buf : List UInt8) (off : Nat) (chunk : List UInt8) (inside : off ≤ buf.length) :
    (fill buf off chunk).take (off + chunk.length) = buf.take off ++ chunk := by
  apply List.take_left'
  rw [List.length_append, List.length_take, Nat.min_eq_left inside]

-- What a read of `n` bytes takes when the rest of the stream is known.
theorem read_front {α : Type} (socket unsent front back : List α) (n : Nat) (whole : socket ++ unsent = front ++ back)
    (few : n ≤ socket.length) (fits : n ≤ front.length) : socket.take n = front.take n ∧ socket.drop n ++ unsent = front.drop n ++ back := by
  have taken := congrArg (List.take n) whole
  have dropped := congrArg (List.drop n) whole
  rw [List.take_append_of_le_length few, List.take_append_of_le_length fits] at taken
  rw [List.drop_append_of_le_length few, List.drop_append_of_le_length fits] at dropped
  exact ⟨taken, dropped⟩

theorem take_further (buf target chunk : List UInt8) (off : Nat) (sofar : buf.take off = target.take off) (inside : off ≤ buf.length)
    (next : chunk = (target.drop off).take chunk.length) : (fill buf off chunk).take (off + chunk.length) = target.take (off + chunk.length) := by
  rw [fill_take buf off chunk inside, sofar, List.take_add, ← next]

section
variable {φ : Type}

theorem carried_bytes (fd : Option φ) (bytes : List UInt8) : (carried fd bytes).map Cell.byte = bytes := by
  cases bytes with
  | nil => rfl
  | cons byte rest => simp [carried, Function.comp_def]

theorem carried_length (fd : Option φ) (bytes : List UInt8) : (carried fd bytes).length = bytes.length := by
  rw [← List.length_map, carried_bytes]

theorem carried_plain (bytes : List UInt8) : carried (none : Option φ) bytes = bytes.map (fun byte => ⟨byte, none⟩) := by
  cases bytes <;> rfl

theorem carried_append (fd : Option φ) (first second : List UInt8) (some : first ≠ []) :
    carried fd (first ++ second) = carried fd first ++ carried none second := by
  cases first with
  | nil => exact (some rfl).elim
  | cons byte rest => rw [carried_plain, List.cons_append, carried, carried, List.map_append, List.cons_append]

-- Only the first of the bytes has the descriptor.
theorem carried_later (fd : Option φ) (bytes : List UInt8) (off : Nat) (later : 0 < off) (cell : Cell φ)
    (there : ((carried fd bytes).drop off).head? = some cell) : cell.fd = none := by
  rw [List.head?_drop] at there
  obtain ⟨before, rfl⟩ := Nat.exists_eq_add_one.mpr later
  cases bytes with
  | nil => cases there
  | cons byte rest =>
      rw [carried, List.getElem?_cons_succ, List.getElem?_map] at there
      obtain ⟨plain, _, rfl⟩ := Option.map_eq_some_iff.mp there
      rfl

end

section
variable {μ φ : Type} (json : μ → List UInt8)

def Frame.bytes (frame : Frame μ φ) : List UInt8 := toBeBytes (frame.payload json).length ++ frame.payload json

def Frame.cells (frame : Frame μ φ) : List (Cell φ) := carried frame.fd (frame.bytes json)

def Writing.cells (writing : Writing φ) : List (Cell φ) := carried writing.passFd writing.buf ++ carried none writing.payload

def Sender.unsent (sender : Sender μ φ) : List (Cell φ) :=
  sender.writing.elim [] Writing.cells ++ sender.queue.flatMap (Frame.cells json)

theorem frame_bytes_length (frame : Frame μ φ) : (frame.bytes json).length = 4 + (frame.payload json).length := by
  rw [Frame.bytes, List.length_append, to_be_bytes_length]

theorem advance_cells (writing : Writing φ) (n : Nat) (some : 0 < n) (inside : n ≤ writing.buf.length) :
    carried writing.passFd (writing.buf.take n) ++ (writing.advance n).elim [] Writing.cells = writing.cells := by
  have front : writing.buf.take n ≠ [] := List.ne_nil_of_length_pos (by rw [List.length_take]; omega)
  have split := carried_append writing.passFd (writing.buf.take n) (writing.buf.drop n) front
  rw [List.take_append_drop] at split
  rw [Writing.cells, split, List.append_assoc, Writing.advance]
  split
  · rfl
  · rename_i done
    rw [not_not] at done
    rw [done]
    split
    · exact congrArg _ (List.append_nil _)
    · rename_i empty
      rw [not_not] at empty
      rw [empty]
      rfl

-- The sender moves bytes from what is unsent to the socket, and nothing else.
theorem sender_step_stream (sender next : Sender μ φ) (socket after : List (Cell φ)) (label : Label)
    (stepped : senderStep json sender socket label = some (next, after)) : after ++ next.unsent json = socket ++ sender.unsent json := by
  unfold senderStep at stepped
  split at stepped
  · cases stepped
  · split at stepped
    case h_1 frame queue writing queued =>
      cases stepped
      rw [drmSendFrame]
      split
      · rfl
      · rw [Sender.unsent, Sender.unsent, writing, queued, List.flatMap_cons, Option.elim_none, List.nil_append, Option.elim_some, Writing.cells,
          Frame.cells, Frame.bytes, carried_append]
        exact List.ne_nil_of_length_pos (by rw [to_be_bytes_length]; decide)
    case h_2 n writing under =>
      obtain ⟨⟨some, inside⟩, is⟩ := Option.ite_none_right_eq_some.mp stepped
      cases is
      rw [Sender.unsent, Sender.unsent, under, Option.elim_some, ← advance_cells writing n some inside]
      simp only [List.append_assoc]
    case h_3 =>
      cases stepped
      rfl
    case h_4 => cases stepped

end

end GotechDesk.Drm.Channel
