import GotechDesk.PortForward.TunnelHandle

set_option autoImplicit false

namespace GotechDesk.PortForward

def frameBytes : Frame → Bytes
  | .dataMsg _ data => data
  | _ => []

def dataOf (frames : List Frame) : Bytes := frames.flatMap frameBytes

-- The bytes read that are in the hands of the half and in no frame yet.
def SocketToTunnel.current (half : SocketToTunnel) : Bytes :=
  match half.point with
  | .sending data => data
  | _ => []

-- `sent` is what the half's frames carried so far.
structure Reads (half : SocketToTunnel) (sent : Bytes) : Prop where
  chained : half.taken ++ half.prebuf = half.head ++ half.read
  framed : half.point.isEnded = false → sent ++ half.current = half.taken
  within : sent <+: half.taken

def isData : Inbound → Bool
  | .data _ => true
  | _ => false

-- A command that ends the channel has nothing behind it.
def closesLast : List Inbound → Bool
  | [] => true
  | .data _ :: rest => closesLast rest
  | _ :: rest => rest.isEmpty

-- The bytes accepted that the socket has not taken, in the order it will get them.
def TunnelToSocket.rest (half : TunnelToSocket) : Bytes :=
  (match half.point with
    | .writing chunk done => chunk.drop done
    | _ => []) ++ half.pending.flatten ++ half.inbound.flatMap inboundBytes

structure Writes (half : TunnelToSocket) (listed : Bool) : Prop where
  exact : half.hasEnded = false → half.written ++ half.rest = half.got
  within : half.written <+: half.got
  closed : half.point = .ended .peerClosed → half.written = half.got ∧ listed = false
  tidy : closesLast half.inbound = true
  serving : listed = true → half.inbound.all isData = true

structure Stream (c : Channel) : Prop where
  reads : Reads c.toTunnel (dataOf c.out)
  writes : Writes c.toSocket c.listed

theorem data_of_append (a b : List Frame) : dataOf (a ++ b) = dataOf a ++ dataOf b := List.flatMap_append

theorem on_read_got (half next : SocketToTunnel) (allow : Nat) (bytes : Bytes) (taken : half.onRead allow bytes = some next) :
    ∃ got, next.taken = half.taken ++ got ∧ next.head = half.head ∧
      next.taken ++ next.prebuf = half.taken ++ half.prebuf ++ (if half.prebuf = [] then bytes else []) ∧
      next.read = half.read ++ (if half.prebuf = [] then bytes else []) ∧
      (got = [] ∧ next.point = .ended .localEof ∨ got ≠ [] ∧ next.point = .sending got) := by
  obtain ⟨got, chosen⟩ : ∃ got, (if half.prebuf = [] then bytes else half.prebuf.take allow) = got := ⟨_, rfl⟩
  simp only [SocketToTunnel.onRead, chosen] at taken
  obtain ⟨_, rfl⟩ := guarded_step _ _ _ taken
  refine ⟨got, rfl, rfl, ?_, ?_, ?_⟩
  · by_cases empty : half.prebuf = []
    · rw [if_pos empty] at chosen
      simp [empty, chosen]
    · rw [if_neg empty] at chosen
      simp [empty, ← chosen]
  · by_cases empty : half.prebuf = [] <;> simp [empty]
  · by_cases eof : got = [] <;> simp [eof]

theorem reads_step (id : ChannelId) (cancelled : Bool) (half next : SocketToTunnel) (act : ToTunnelAct) (frame : Option Frame)
    (sent : Bytes) (reads : Reads half sent) (step : ToTunnelStep id cancelled half act next frame) :
    Reads next (sent ++ dataOf frame.toList) := by
  cases step with
  | read bytes allow next here taken =>
      obtain ⟨got, gained, head, chain, read, point⟩ := on_read_got half next allow bytes taken
      have framed : sent = half.taken := by
        simpa [SocketToTunnel.current, here, ToTunnel.isEnded] using reads.framed (by simp [here, ToTunnel.isEnded])
      simp only [dataOf, Option.toList_none, List.flatMap_nil, List.append_nil]
      refine ⟨?_, ?_, ?_⟩
      · rw [chain, head, read, reads.chained, List.append_assoc]
      · intro running
        rcases point with ⟨_, ended⟩ | ⟨_, sending⟩
        · simp [ended, ToTunnel.isEnded] at running
        · simp only [SocketToTunnel.current, sending, gained, framed]
      · rw [gained, framed]
        exact List.prefix_append ..
  | sent data here =>
      have framed : sent ++ data = half.taken := by
        simpa [SocketToTunnel.current, here] using reads.framed (by simp [here, ToTunnel.isEnded])
      simp only [dataOf, Option.toList_some, List.flatMap_cons, frameBytes, List.flatMap_nil, List.append_nil, framed]
      exact ⟨reads.chained, by simp [SocketToTunnel.current], List.prefix_refl _⟩
  | lost data here | cancelIdle here signal | cancelRead allow here signal =>
      simp only [dataOf, Option.toList_none, List.flatMap_nil, List.append_nil]
      exact ⟨reads.chained, (fun running => nomatch running), reads.within⟩
  | take credit allow here taken | park here short | notified here permit =>
      have framed := reads.framed (by simp [here, ToTunnel.isEnded])
      simp only [dataOf, Option.toList_none, List.flatMap_nil, List.append_nil]
      exact ⟨reads.chained, fun _ => by simpa [SocketToTunnel.current, here] using framed, reads.within⟩

theorem finish_writes (half : TunnelToSocket) (listed : Bool) (reason : RelayEnd) (writes : Writes half listed)
    (other : reason ≠ .peerClosed) : Writes (half.finish reason) listed :=
  ⟨(fun running => nomatch running), writes.within, fun closed => absurd (ToSocket.ended.inj closed) other, rfl, fun _ => rfl⟩

theorem writes_step (id : ChannelId) (listed cancelled : Bool) (half next : TunnelToSocket) (act : ToSocketAct)
    (frame : Option Frame) (writes : Writes half listed) (step : ToSocketStep id listed cancelled half act next frame) :
    Writes next listed := by
  cases step with
  | popPending chunk rest here held =>
      have exact := writes.exact (by simp [TunnelToSocket.hasEnded, here])
      simp only [TunnelToSocket.rest, here, held] at exact
      refine { writes with exact := fun _ => ?_, closed := (fun closed => by cases closed) }
      simpa [TunnelToSocket.rest] using exact
  | receive chunk rest here empty queued =>
      have exact := writes.exact (by simp [TunnelToSocket.hasEnded, here])
      have tidy := writes.tidy
      have serving := writes.serving
      simp only [TunnelToSocket.rest, here, empty, queued] at exact
      rw [queued] at tidy serving
      refine ⟨fun _ => ?_, writes.within, (fun closed => by cases closed), tidy, fun listed => ?_⟩
      · simpa [TunnelToSocket.rest, empty, inboundBytes] using exact
      · simpa [isData] using serving listed
  | closed rest here empty queued =>
      have exact := writes.exact (by simp [TunnelToSocket.hasEnded, here])
      have tidy := writes.tidy
      have serving := writes.serving
      rw [queued] at tidy serving
      obtain rfl : rest = [] := by simpa [closesLast] using tidy
      have gone : listed = false := by simpa [isData] using serving
      refine ⟨(fun running => by cases running), writes.within, fun _ => ⟨?_, gone⟩, rfl, fun _ => rfl⟩
      simpa [TunnelToSocket.rest, here, empty, queued, inboundBytes, TunnelToSocket.finish] using exact
  | violated rest here empty queued => exact finish_writes half listed _ writes (by simp)
  | orphaned here empty queued dropped => exact finish_writes half listed _ writes (by simp)
  | write n chunk done here positive within =>
      have exact := writes.exact (by simp [TunnelToSocket.hasEnded, here])
      have split : (chunk.drop done).take n ++ chunk.drop (done + n) = chunk.drop done := by
        rw [← List.drop_drop, List.take_append_drop]
      simp only [TunnelToSocket.rest, here] at exact
      have moved : half.written ++ (chunk.drop done).take n ++
          (chunk.drop (done + n) ++ half.pending.flatten ++ half.inbound.flatMap inboundBytes) = half.got := by
        calc
          _ = half.written ++ ((chunk.drop done).take n ++ chunk.drop (done + n) ++ half.pending.flatten ++
              half.inbound.flatMap inboundBytes) := by simp only [List.append_assoc]
          _ = half.got := by rw [split, exact]
      exact ⟨fun _ => moved, ⟨_, moved⟩, (fun closed => by cases closed), writes.tidy, writes.serving⟩
  | writeFail chunk done here => exact finish_writes half listed _ writes (by simp)
  | wrote chunk here =>
      have exact := writes.exact (by simp [TunnelToSocket.hasEnded, here])
      have point : (∃ add, (half.wrote chunk).point = .updating add) ∨ (half.wrote chunk).point = .waiting := by
        simp only [TunnelToSocket.wrote]
        cases (half.window.drained chunk.length).2 with
        | none => exact .inr rfl
        | some add => exact .inl ⟨add, rfl⟩
      have same : half.written ++ (half.wrote chunk).rest = half.got := by
        rcases point with ⟨add, after⟩ | after <;> simp only [TunnelToSocket.rest, after] <;>
          simpa [TunnelToSocket.rest, here, TunnelToSocket.wrote] using exact
      refine { writes with exact := fun _ => same, closed := fun closed => ?_ }
      rcases point with ⟨add, after⟩ | after <;> rw [after] at closed <;> cases closed
  | updated add here =>
      have exact := writes.exact (by simp [TunnelToSocket.hasEnded, here])
      refine { writes with exact := fun _ => ?_, closed := (fun closed => by cases closed) }
      simpa [TunnelToSocket.rest, here] using exact
  | updateLost add here => exact finish_writes half listed _ writes (by simp)
  | cancel here signal => exact finish_writes half listed _ writes (by simp)

-- What the coordinator, the connect and the demultiplexer leave alone.
theorem stream_same (c next : Channel) (stream : Stream c) (tunnel : next.toTunnel = c.toTunnel)
    (socket : next.toSocket = c.toSocket) (listed : next.listed = c.listed) (said : dataOf next.out = dataOf c.out) :
    Stream next := ⟨by rw [tunnel, said]; exact stream.reads, by rw [socket, listed]; exact stream.writes⟩

theorem writes_unlisted (half : TunnelToSocket) (listed : Bool) (writes : Writes half listed) : Writes half false :=
  ⟨writes.exact, writes.within, fun closed => ⟨(writes.closed closed).1, rfl⟩, writes.tidy, fun impossible => nomatch impossible⟩

theorem writes_window (half : TunnelToSocket) (window : RecvWindow) (listed : Bool) (writes : Writes half listed) :
    Writes { half with window } listed := { writes with }

theorem writes_grant (half : TunnelToSocket) (n : Nat) (listed : Bool) (writes : Writes half listed) :
    Writes (half.grant n) listed := { writes with }

theorem data_of_sent (sent : Bool) (frame : Frame) (empty : frameBytes frame = []) (out : List Frame) :
    dataOf (out ++ (sentFrame sent frame).toList) = dataOf out := by
  cases sent <;> simp [dataOf, sentFrame, empty]

theorem stream_step (c next : Channel) (act : Act) (frame : Option Frame) (stream : Stream c)
    (step : ChannelStep c act next frame) : Stream next := by
  cases step with
  | toTunnel act half frame relays step =>
      refine ⟨?_, stream.writes⟩
      simpa only [Channel.append, data_of_append] using reads_step _ _ _ _ _ _ _ stream.reads step
  | toSocket act half frame relays step =>
      have quiet : dataOf frame.toList = [] := by
        cases frame with
        | none => rfl
        | some emitted =>
            obtain ⟨add, _, rfl⟩ := to_socket_own _ _ _ _ _ _ _ step emitted rfl
            rfl
      refine ⟨?_, writes_step _ _ _ _ _ _ _ stream.writes step⟩
      simpa only [Channel.append, data_of_append, quiet, List.append_nil] using stream.reads
  | sendClose sent here => exact stream_same c _ stream rfl rfl rfl (data_of_sent sent _ rfl _)
  | sendOpen sent host port here => exact stream_same c _ stream rfl rfl rfl (data_of_sent sent _ rfl _)
  | remove here => exact ⟨stream.reads, writes_unlisted _ _ stream.writes⟩
  | commandData sent addr isRdp bytes rest here queued fits =>
      have writes := stream.writes
      have tidy := writes.tidy
      have serving := writes.serving
      rw [queued] at tidy serving
      refine ⟨stream.reads, ⟨fun running => ?_, writes.within, writes.closed, tidy, fun listed => ?_⟩⟩
      · have exact := writes.exact running
        simp only [TunnelToSocket.rest, queued, List.flatMap_cons, inboundBytes] at exact
        simpa [TunnelToSocket.rest] using exact
      · simpa [isData] using serving listed
  | commandOver sent addr isRdp bytes rest here queued beyond | commandViolation sent addr isRdp rest here queued =>
      exact stream_same c _ stream rfl rfl rfl (data_of_sent sent _ rfl _)
  | connectFail sent addr isRdp here => exact stream_same c _ stream rfl rfl rfl (data_of_sent sent _ rfl _)
  | connectOk addr isRdp here => exact ⟨stream.reads, writes_grant _ _ _ stream.writes⟩
  | sendOpened sent here => exact stream_same c _ stream rfl rfl rfl (data_of_sent sent _ rfl _)
  | _ => exact stream_same c _ stream rfl rfl rfl rfl

theorem stream_unlist (c : Channel) (stream : Stream c) : Stream c.unlist :=
  ⟨stream.reads, writes_unlisted _ _ stream.writes⟩

theorem closes_last_push (inbound : List Inbound) (command : Inbound) (data : inbound.all isData = true) :
    closesLast (inbound ++ [command]) = true := by
  induction inbound with
  | nil => cases command <;> rfl
  | cons first rest ih =>
      cases first with
      | data bytes => exact ih (by simpa [isData] using data)
      | close => simp [isData] at data
      | violation => simp [isData] at data

-- A command reaches a queue that is still listed, so nothing but data is ahead of it.
theorem writes_push (half : TunnelToSocket) (window : RecvWindow) (command : Inbound) (writes : Writes half true)
    (running : half.hasEnded = false) :
    Writes { half with window, inbound := half.inbound ++ [command], got := half.got ++ inboundBytes command }
      (isData command) := by
  have exact := writes.exact running
  have data := writes.serving rfl
  refine ⟨fun _ => ?_, writes.within.trans (List.prefix_append ..), fun closed => ?_, closes_last_push _ _ data, ?_⟩
  · simp only [TunnelToSocket.rest] at exact ⊢
    rw [← exact]
    simp
  · simp [TunnelToSocket.hasEnded, show half.point = .ended .peerClosed from closed] at running
  · intro kind
    simp [data, kind]

section
variable (c : Channel)

-- The command goes to the queue if its receiver is there, and the entry goes from
-- the map unless the command is data.
theorem stream_push (window : RecvWindow) (command : Inbound) (stream : Stream c) (listed : c.listed = true) :
    Stream ({ c with toSocket := { c.toSocket with window } }.push command).unlist ∧
      (isData command = true → Stream ({ c with toSocket := { c.toSocket with window } }.push command)) := by
  have writes : Writes c.toSocket true := listed ▸ stream.writes
  cases receiving : c.receiving with
  | true =>
      have alive : Channel.receiving { c with toSocket := { c.toSocket with window } } = true := receiving
      have running : c.toSocket.hasEnded = false := by
        simp only [Channel.receiving, Bool.and_eq_true, Bool.not_eq_true'] at receiving
        exact receiving.2
      have pushed := writes_push c.toSocket window command writes running
      simp only [Channel.push, alive, if_true]
      refine ⟨⟨stream.reads, writes_unlisted _ _ pushed⟩, fun data => ⟨stream.reads, ?_⟩⟩
      rw [data] at pushed
      simpa only [listed] using pushed
  | false =>
      have dead : Channel.receiving { c with toSocket := { c.toSocket with window } } = false := receiving
      have same := writes_window c.toSocket window true writes
      simp only [Channel.push, dead, Bool.false_eq_true, if_false]
      refine ⟨⟨stream.reads, writes_unlisted _ _ same⟩, fun _ => ⟨stream.reads, ?_⟩⟩
      simpa only [listed] using same

theorem stream_on_data (data : Bytes) (stream : Stream c) (listed : c.listed = true) : Stream (c.onData data) := by
  simp only [Channel.onData]
  cases accepted : (c.toSocket.window.accept data.length).2 with
  | true =>
      simp only [if_true]
      cases receiving : c.receiving with
      | true => exact (stream_push c _ (.data data) stream listed).2 rfl
      | false =>
          simp only [Bool.false_eq_true, if_false]
          exact stream_unlist _ ⟨stream.reads, writes_window _ _ _ stream.writes⟩
  | false =>
      simp only [Bool.false_eq_true, if_false]
      exact (stream_push c _ .violation stream listed).1

theorem stream_credit (credit : SendCredit) (opened : Bool) (stream : Stream c) : Stream { c with opened, toTunnel := { c.toTunnel with credit } } :=
  ⟨⟨stream.reads.chained, stream.reads.framed, stream.reads.within⟩, stream.writes⟩

theorem stream_on_frame (frame : Frame) (stream : Stream c) : Stream (c.onFrame frame) := by
  cases holds : c.holds frame.channelId with
  | false => simpa only [Channel.onFrame, holds, Bool.false_eq_true, if_false] using stream
  | true =>
      have listed : c.listed = true := by
        simp only [Channel.holds, Bool.and_eq_true] at holds
        exact holds.1
      have closed : Stream c.onClose := (stream_push c c.toSocket.window .close stream listed).1
      simp only [Channel.onFrame, holds, if_true]
      cases frame with
      | openMsg => exact stream
      | openedMsg id success message window =>
          by_cases side : c.side = .controller
          · simp only [if_pos side, Channel.onOpened]
            cases success with
            | true =>
                cases opened : c.opened with
                | true => exact stream
                | false => exact stream_credit c _ true stream
            | false => exact closed
          · simpa only [if_neg side] using stream
      | dataMsg id data => exact stream_on_data c data stream listed
      | closeMsg id => exact closed
      | windowUpdateMsg id add => exact stream_credit c _ c.opened stream

theorem stream_new (prebuf : Bytes) (credit : SendCredit) (granted : Nat) (tunnel : c.toTunnel = .new credit prebuf)
    (socket : c.toSocket = .new granted) (quiet : c.out = []) : Stream c := by
  refine ⟨?_, ?_⟩
  · rw [tunnel, quiet]
    exact ⟨by simp [SocketToTunnel.new], fun _ => rfl, List.prefix_refl _⟩
  · rw [socket]
    exact ⟨fun _ => rfl, List.prefix_refl _, (fun closed => nomatch closed), rfl, fun _ => rfl⟩

end

end GotechDesk.PortForward
