import GotechDesk.LittleEndian
import GotechDesk.Machine

set_option autoImplicit false

namespace GotechDesk.Drm.Channel

def maxDrmJsonBytes : Nat := 8 * 1024 * 1024

def maxDrmRawBytes : Nat := 512 * 1024 * 1024

-- A byte on its way through the socket, with the descriptor delivered along with it.
structure Cell (φ : Type) where
  byte : UInt8
  fd : Option φ
deriving DecidableEq

-- A message of `send_msg` or a body of `send_raw`, as it is sent and as it is received.
inductive Frame (μ φ : Type) where
  | msg (data : μ) (fd : Option φ)
  | raw (data : List UInt8)
deriving DecidableEq

inductive Kind where
  | msg
  | raw
deriving DecidableEq

inductive Call where
  | recvMsg
  | recvMsgTimeout2
  | nextRawInto
deriving DecidableEq

inductive Error where
  | closed
  | exceedsCap
  | json
  | stalled
  | bodyTimeout
deriving DecidableEq

-- `drm_send_frame` under way: what `drm_write_all` has left, the descriptor it has still
-- to pass, and the payload while that is the prefix.
structure Writing (φ : Type) where
  buf : List UInt8
  passFd : Option φ
  payload : List UInt8
deriving DecidableEq

structure Sender (μ φ : Type) where
  queue : List (Frame μ φ)
  writing : Option (Writing φ)
  failed : Bool
deriving DecidableEq

-- `heading` and `body` are the two `drm_read_full` of a call, each waiting for bytes.
inductive Phase (φ : Type) where
  | idle
  | ready
  | heading (call : Call) (bytes : List UInt8) (off : Nat) (got : Option φ)
  | body (call : Call) (len off : Nat) (fd : Option φ)
  | failed (error : Error)
deriving DecidableEq

-- `expected` is the order of the messages, which both sides know. `taken` counts the bytes
-- read off the socket and `called` what it was at the last call; the code keeps neither.
structure Reader (μ φ : Type) where
  readBuf : List UInt8
  consumed : Bool
  out : List UInt8
  phase : Phase φ
  received : List (Frame μ φ)
  expected : List Kind
  taken : Nat
  called : Nat
deriving DecidableEq

structure State (μ φ : Type) where
  sender : Sender μ φ
  socket : List (Cell φ)
  reader : Reader μ φ
deriving DecidableEq

-- A syscall that moves bytes moves as many as the label says; one that would block moves
-- none, and its loop goes round.
inductive Label where
  | send
  | sendmsg (n : Nat)
  | sendFails
  | call (call : Call)
  | readable
  | read (n : Nat)
  | wouldBlock
  | timeout
  | readFails
deriving DecidableEq

def toBeBytes (len : Nat) : List UInt8 := (LittleEndian.put 4 len).reverse

def fromBeBytes (bytes : List UInt8) : Nat := LittleEndian.get bytes.reverse

-- `Vec::resize` with zeroes.
def resize (buf : List UInt8) (len : Nat) : List UInt8 := buf.take len ++ List.replicate (len - buf.length) 0

def fill (buf : List UInt8) (off : Nat) (chunk : List UInt8) : List UInt8 := buf.take off ++ chunk ++ buf.drop (off + chunk.length)

def Call.kind : Call → Kind
  | .recvMsg | .recvMsgTimeout2 => .msg
  | .nextRawInto => .raw

section
variable {μ φ : Type}

-- The descriptor of a `sendmsg` goes with the first byte of it.
def carried (fd : Option φ) : List UInt8 → List (Cell φ)
  | [] => []
  | byte :: rest => ⟨byte, fd⟩ :: rest.map (fun byte => ⟨byte, none⟩)

def Frame.kind : Frame μ φ → Kind
  | .msg _ _ => .msg
  | .raw _ => .raw

def Frame.fd : Frame μ φ → Option φ
  | .msg _ fd => fd
  | .raw _ => none

def Frame.payload (json : μ → List UInt8) : Frame μ φ → List UInt8
  | .msg data _ => json data
  | .raw data => data

-- The rest of `drm_send_frame` once `buf` is written.
def Writing.advance (writing : Writing φ) (n : Nat) : Option (Writing φ) :=
  if writing.buf.drop n ≠ [] then some { writing with buf := writing.buf.drop n, passFd := none }
  else if writing.payload ≠ [] then some { buf := writing.payload, passFd := none, payload := [] }
  else none

def drmSendFrame (json : μ → List UInt8) (sender : Sender μ φ) (frame : Frame μ φ) (queue : List (Frame μ φ)) : Sender μ φ :=
  if 2 ^ 32 ≤ (frame.payload json).length then { sender with failed := true }
  else { sender with
    queue := queue
    writing := some { buf := toBeBytes (frame.payload json).length, passFd := frame.fd, payload := frame.payload json } }

def Reader.received? (reader : Reader μ φ) (frame : Frame μ φ) : Reader μ φ :=
  { reader with phase := .idle, received := reader.received ++ [frame], expected := reader.expected.tail }

def finishBody (parse : List UInt8 → Option μ) (reader : Reader μ φ) (call : Call) (len : Nat) (fd : Option φ) : Reader μ φ :=
  match call.kind with
  | .raw => reader.received? (.raw reader.out)
  | .msg =>
      match parse (reader.readBuf.take len) with
      | some data => reader.received? (.msg data fd)
      | none => { reader with phase := .failed .json }

def finishHead (parse : List UInt8 → Option μ) (reader : Reader μ φ) (call : Call) (len : Nat) (got : Option φ) : Reader μ φ :=
  match call.kind with
  | .msg =>
      if maxDrmJsonBytes < len then { reader with phase := .failed .exceedsCap }
      else
        let grown := { reader with readBuf := if reader.readBuf.length < len then resize reader.readBuf len else reader.readBuf }
        if len = 0 then finishBody parse grown call 0 got else { grown with phase := .body call len 0 got }
  | .raw =>
      if maxDrmRawBytes < len then { reader with phase := .failed .exceedsCap }
      else
        let sized := { reader with out := resize reader.out len }
        if len = 0 then finishBody parse sized call 0 none else { sized with phase := .body call len 0 none }

-- One `recvmsg` or `read` of a `drm_read_full`; a plain read loses a descriptor.
def readInto (parse : List UInt8 → Option μ) (reader : Reader μ φ) (cells : List (Cell φ)) : Reader μ φ :=
  let chunk := cells.map Cell.byte
  let moved := { reader with consumed := true, taken := reader.taken + chunk.length }
  match reader.phase with
  | .heading call bytes off got =>
      let bytes := fill bytes off chunk
      let got := got.or (cells.head?.bind Cell.fd)
      if off + chunk.length < 4 then { moved with phase := .heading call bytes (off + chunk.length) got }
      else finishHead parse moved call (fromBeBytes bytes) got
  | .body call len off fd =>
      let filled := match call.kind with
        | .msg => { moved with readBuf := fill reader.readBuf off chunk }
        | .raw => { moved with out := fill reader.out off chunk }
      if off + chunk.length < len then { filled with phase := .body call len (off + chunk.length) fd }
      else finishBody parse filled call len fd
  | _ => reader

def Phase.space : Phase φ → Nat
  | .heading _ _ off _ => 4 - off
  | .body _ len off _ => len - off
  | _ => 0

-- `recv_msg` starts over with `consumed`; `next_raw_into` leaves it.
def startCall (reader : Reader μ φ) : Call → Reader μ φ
  | .recvMsg => { reader with phase := .heading .recvMsg [0, 0, 0, 0] 0 none, consumed := false }
  | .recvMsgTimeout2 => { reader with phase := .ready }
  | .nextRawInto => { reader with phase := .heading .nextRawInto [0, 0, 0, 0] 0 none }

-- Only a wait can be cut short: `idle` after one is the `None` of `recv_msg_timeout2`.
def timedOut (reader : Reader μ φ) : Call → Option (Reader μ φ)
  | .recvMsg => none
  | .recvMsgTimeout2 => some { reader with phase := if reader.consumed then .failed .stalled else .idle }
  | .nextRawInto => some { reader with phase := .failed .bodyTimeout }

def readerStep (parse : List UInt8 → Option μ) (socket : List (Cell φ)) (reader : Reader μ φ) (label : Label) :
    Option (List (Cell φ) × Reader μ φ) :=
  match label, reader.phase with
  | .call call, .idle =>
      if reader.expected.head? = some call.kind then some (socket, startCall { reader with called := reader.taken } call) else none
  | .readable, .ready => some (socket, { reader with phase := .heading .recvMsgTimeout2 [0, 0, 0, 0] 0 none, consumed := false })
  | .timeout, .ready => some (socket, { reader with phase := .idle })
  | .timeout, .heading call _ _ _ => (timedOut reader call).map (fun next => (socket, next))
  | .timeout, .body call _ _ _ => (timedOut reader call).map (fun next => (socket, next))
  | .readFails, .ready => some (socket, { reader with phase := .failed .closed })
  | .readFails, .heading _ _ _ _ => some (socket, { reader with phase := .failed .closed })
  | .readFails, .body _ _ _ _ => some (socket, { reader with phase := .failed .closed })
  -- A read takes what is there, at most what fits and never past a descriptor's byte.
  | .read n, phase =>
      if 0 < n ∧ n ≤ phase.space ∧ n ≤ socket.length ∧ (socket.take n).tail.all (fun cell => cell.fd.isNone) then
        some (socket.drop n, readInto parse reader (socket.take n))
      else none
  | _, _ => none

def senderStep (json : μ → List UInt8) (sender : Sender μ φ) (socket : List (Cell φ)) (label : Label) : Option (Sender μ φ × List (Cell φ)) :=
  if sender.failed then none
  else match label, sender.writing, sender.queue with
    | .send, none, frame :: queue => some (drmSendFrame json sender frame queue, socket)
    | .sendmsg n, some writing, _ =>
        if 0 < n ∧ n ≤ writing.buf.length then
          some ({ sender with writing := writing.advance n }, socket ++ carried writing.passFd (writing.buf.take n))
        else none
    | .sendFails, some _, _ => some ({ sender with failed := true }, socket)
    | _, _, _ => none

def step (json : μ → List UInt8) (parse : List UInt8 → Option μ) (state : State μ φ) (label : Label) : Option (State μ φ) :=
  match label with
  | .wouldBlock => some state
  | .send | .sendmsg _ | .sendFails =>
      (senderStep json state.sender state.socket label).map (fun next => { state with sender := next.1, socket := next.2 })
  | .call _ | .readable | .read _ | .timeout | .readFails =>
      (readerStep parse state.socket state.reader label).map (fun next => { state with socket := next.1, reader := next.2 })

def opened (plan : List (Frame μ φ)) (socket : List (Cell φ)) (expected : List Kind) : State μ φ :=
  { sender := { queue := plan, writing := none, failed := false }
    socket := socket
    reader := { readBuf := [], consumed := false, out := [], phase := .idle, received := [], expected := expected, taken := 0, called := 0 } }

end

end GotechDesk.Drm.Channel
