import GotechDesk.Machine
import GotechDesk.ClipboardService.Proto

set_option autoImplicit false

namespace GotechDesk.ClipboardService

-- An entry as it goes to the server: the content of a large one comes in the raw frame.
structure ClipboardNonFile where
  compress : Bool
  content : Bytes
  contentLen : Nat
  nextRaw : Bool
  width : Int32
  height : Int32
  format : Int32
  specialName : String
deriving DecidableEq, Repr

inductive Data where
  | clipboardNonFile (answer : Option (String × List ClipboardNonFile))
  | monitorReady
  | other
deriving DecidableEq, Repr

inductive Frame where
  | json (data : Data)
  | raw (bytes : Bytes)
deriving DecidableEq, Repr

-- How the text of a frame reads when it is taken for the other kind.
structure Wire where
  text : Data → Bytes
  parse : Bytes → Option Data

def Frame.next (wire : Wire) : Frame → Option Data
  | .json data => some data
  | .raw bytes => wire.parse bytes

def Frame.nextRaw (wire : Wire) : Frame → Bytes
  | .json data => wire.text data
  | .raw bytes => bytes

def rawThreshold : Nat := 1024 * 3

def Clipboard.isLarge (c : Clipboard) : Bool := rawThreshold < c.content.length

def Clipboard.toNonFile (c : Clipboard) : ClipboardNonFile :=
  { compress := c.compress, content := if c.isLarge then [] else c.content, contentLen := c.content.length, nextRaw := c.isLarge,
    width := c.width, height := c.height, format := c.format, specialName := c.specialName }

def ClipboardNonFile.toClipboard (c : ClipboardNonFile) : Clipboard :=
  { compress := c.compress, content := c.content, width := c.width, height := c.height, format := c.format, specialName := c.specialName }

-- The loop over the clipboards: the contents of the large ones one after another, and the entries.
def packClipboards : List Clipboard → Bytes × List ClipboardNonFile
  | [] => ([], [])
  | c :: rest =>
      let packed := packClipboards rest
      (if c.isLarge then c.content ++ packed.1 else packed.1, c.toNonFile :: packed.2)

def answerFrames (read : Except String (List Clipboard)) : List Frame :=
  match read with
  | .error text => [.json (.clipboardNonFile (some (text, [])))]
  | .ok clipboards =>
      let packed := packClipboards clipboards
      .json (.clipboardNonFile (some ("", packed.2))) :: if packed.1 = [] then [] else [.raw packed.1]

-- split_to panics when the data is too short.
def fillRaw : Bytes → List ClipboardNonFile → Option (List ClipboardNonFile)
  | _, [] => some []
  | data, c :: rest =>
      if c.nextRaw then
        if c.contentLen ≤ data.length then
          (fillRaw (data.drop c.contentLen) rest).map (List.cons { c with content := data.take c.contentLen })
        else none
      else (fillRaw data rest).map (List.cons c)

-- The manager answers the request with this number; a MonitorReady answers none.
structure SentFrame where
  stems : Option Nat
  frame : Frame
deriving DecidableEq, Repr

-- One stream to the manager: the requests the manager has not taken, the frames on their way,
-- and the frames that have arrived. `overdue` records that a wait for a header has timed out.
structure Stream where
  requests : List Nat
  transit : List SentFrame
  arrived : List SentFrame
  closed : Bool
  overdue : Bool
deriving DecidableEq, Repr

def newStream (ready : Bool) : Stream :=
  { requests := [], transit := if ready then [{ stems := none, frame := .json .monitorReady }] else [], arrived := [], closed := false,
    overdue := false }

inductive Phase where
  | idle
  | header
  | raw (contents : List ClipboardNonFile)
  | panicked
deriving DecidableEq, Repr

-- What a call has returned, with what the manager had read for its request by then.
structure Returned where
  call : Nat
  result : Except String (List ClipboardNonFile)
  read : Option (Except String (List Clipboard))

structure Host where
  stream : Option Stream
  phase : Phase
  calls : Nat
  read : Nat → Option (Except String (List Clipboard))
  returned : List Returned
  leftovers : List (List SentFrame)

def noHost : Host := { stream := none, phase := .idle, calls := 0, read := fun _ => none, returned := [], leftovers := [] }

inductive Label where
  | call (reused : Bool) (connects : Except String Bool) (refused : Option String)
  | answer (read : Except String (List Clipboard))
  | arrive
  | close
  | receive
  | timeout
  | reset

def Stream.send (stream : Stream) (number : Nat) : Stream :=
  if stream.closed then stream else { stream with requests := stream.requests ++ [number] }

def Stream.leftover (stream : Stream) : List SentFrame := (stream.arrived ++ stream.transit).filter (fun sent => sent.stems.isSome)

def Host.return (host : Host) (result : Except String (List ClipboardNonFile)) : Host :=
  { host with
    phase := .idle
    returned := host.returned ++ [{ call := host.calls, result := result, read := host.read host.calls }] }

-- A stream that takes the request is used again, and else a new one is made.
def Host.call (host : Host) (reused : Bool) (connects : Except String Bool) (refused : Option String) : Host :=
  let numbered := { host with calls := host.calls + 1 }
  match host.stream.filter (fun _ => reused) with
  | some stream =>
      { numbered with
        stream := some (stream.send numbered.calls)
        phase := .header
        leftovers := host.leftovers ++ [stream.leftover] }
  | none =>
      match connects, refused with
      | .error text, _ => numbered.return (.error text)
      | .ok _, some text => numbered.return (.error text)
      | .ok ready, none => { numbered with stream := some ((newStream ready).send numbered.calls), phase := .header }

def noClipboard : String := "failed to get clipboard data from cm"

def Host.onHeader (host : Host) : Option Data → Host
  | some (.clipboardNonFile (some (err, contents))) =>
      if err ≠ "" then host.return (.error err)
      else if contents.any ClipboardNonFile.nextRaw then { host with phase := .raw contents }
      else host.return (.ok contents)
  | some .monitorReady => host
  | _ => host.return (.error noClipboard)

def Host.onRaw (host : Host) (contents : List ClipboardNonFile) (data : Bytes) : Host :=
  match fillRaw data contents with
  | some filled => host.return (.ok filled)
  | none => { host with phase := .panicked }

def Host.dropStream (host : Host) : Host := { host with stream := none }

def Host.withStream (host : Host) (stream : Stream) : Host := { host with stream := some stream }

def Host.receive (wire : Wire) (host : Host) (stream : Stream) : Option Host :=
  match stream.arrived with
  | [] => none
  | sent :: rest =>
      let taken := host.withStream { stream with arrived := rest }
      match host.phase with
      | .header => some (taken.onHeader (sent.frame.next wire))
      | .raw contents => some (taken.onRaw contents (sent.frame.nextRaw wire))
      | .idle | .panicked => none

-- 800 ms without a header, or 1000 ms without a raw frame.
def Host.timeout (host : Host) (stream : Stream) : Option Host :=
  if stream.arrived ≠ [] ∨ stream.closed = true then none
  else
    match host.phase with
    | .header => some ((host.withStream { stream with overdue := true }).return (.error "deadline has elapsed"))
    | .raw contents => some (host.dropStream.return (.ok contents))
    | .idle | .panicked => none

def Host.reset (host : Host) (stream : Stream) : Option Host :=
  if stream.arrived ≠ [] ∨ stream.closed = false then none
  else
    match host.phase with
    | .header => some (host.return (.error "reset by the peer"))
    | .raw _ => some (host.dropStream.return (.error "failed to get raw clipboard data: reset by the peer"))
    | .idle | .panicked => none

def Host.answer (host : Host) (stream : Stream) (read : Except String (List Clipboard)) : Option Host :=
  match stream.requests with
  | [] => none
  | number :: rest =>
      if stream.closed then none
      else
        some
          { host with
            stream := some { stream with
                             requests := rest
                             transit := stream.transit ++ (answerFrames read).map (SentFrame.mk (some number)) }
            read := fun other => if other = number then some read else host.read other }

def Host.arrive (host : Host) (stream : Stream) : Option Host :=
  match stream.transit with
  | [] => none
  | sent :: rest => some (host.withStream { stream with transit := rest, arrived := stream.arrived ++ [sent] })

def Host.step (wire : Wire) (host : Host) : Label → Option Host
  | .call reused connects refused => if host.phase = .idle then some (host.call reused connects refused) else none
  | .answer read => host.stream.bind (fun stream => host.answer stream read)
  | .arrive => host.stream.bind (fun stream => host.arrive stream)
  | .close => host.stream.map (fun stream => host.withStream { stream with closed := true, requests := [], transit := [] })
  | .receive => host.stream.bind (fun stream => host.receive wire stream)
  | .timeout => host.stream.bind (fun stream => host.timeout stream)
  | .reset => host.stream.bind (fun stream => host.reset stream)

-- A call that returns clipboards returns those read for it, and a request finds no frame of an earlier answer.
structure Paired (host : Host) : Prop where
  own : ∀ returned ∈ host.returned, ∀ contents, returned.result = .ok contents →
    returned.read = some (.ok (contents.map ClipboardNonFile.toClipboard))
  clear : ∀ leftover ∈ host.leftovers, leftover = []

-- No request goes out on a stream where a wait for a header has timed out, no raw frame comes
-- too late, and a failure of the manager has a text.
def Timely (host : Host) : Label → Prop
  | .call reused _ _ => reused = true → ∀ stream ∈ host.stream.toList, stream.overdue = false
  | .answer (.error text) => text ≠ ""
  | .timeout =>
      match host.phase with
      | .raw _ => False
      | _ => True
  | _ => True

instance (host : Host) (label : Label) : Decidable (Timely host label) :=
  match label, host with
  | .call reused _ _, host => inferInstanceAs (Decidable (reused = true → ∀ stream ∈ host.stream.toList, stream.overdue = false))
  | .answer (.error text), _ => inferInstanceAs (Decidable (text ≠ ""))
  | .answer (.ok _), _ => inferInstanceAs (Decidable True)
  | .timeout, { phase := .raw _, .. } => inferInstanceAs (Decidable False)
  | .timeout, { phase := .idle, .. } => inferInstanceAs (Decidable True)
  | .timeout, { phase := .header, .. } => inferInstanceAs (Decidable True)
  | .timeout, { phase := .panicked, .. } => inferInstanceAs (Decidable True)
  | .arrive, _ => inferInstanceAs (Decidable True)
  | .close, _ => inferInstanceAs (Decidable True)
  | .receive, _ => inferInstanceAs (Decidable True)
  | .reset, _ => inferInstanceAs (Decidable True)

theorem large_content (c : Clipboard) (large : c.isLarge = true) : c.content ≠ [] := by
  intro empty
  simp [Clipboard.isLarge, empty, rawThreshold] at large

section
variable (clipboards : List Clipboard)

theorem pack_next_raw : (packClipboards clipboards).2.any ClipboardNonFile.nextRaw = true ↔ (packClipboards clipboards).1 ≠ [] := by
  induction clipboards with
  | nil => simp [packClipboards]
  | cons c rest ih =>
      by_cases large : c.isLarge = true
      · simp [packClipboards, large, Clipboard.toNonFile, large_content c large]
      · simpa [packClipboards, large, Clipboard.toNonFile] using ih

theorem pack_small (none : (packClipboards clipboards).1 = []) : (packClipboards clipboards).2.map ClipboardNonFile.toClipboard = clipboards := by
  induction clipboards with
  | nil => rfl
  | cons c rest ih =>
      by_cases large : c.isLarge = true
      · simp [packClipboards, large, large_content c large] at none
      · simp only [packClipboards, large] at none
        have same : c.toNonFile.toClipboard = c := by simp [Clipboard.toNonFile, ClipboardNonFile.toClipboard, large]
        rw [packClipboards, List.map_cons, same, ih none]

-- The raw frame fills the entries it was made from.
theorem fill_pack :
    ∃ filled, fillRaw (packClipboards clipboards).1 (packClipboards clipboards).2 = some filled ∧
      filled.map ClipboardNonFile.toClipboard = clipboards := by
  induction clipboards with
  | nil => exact ⟨[], rfl, rfl⟩
  | cons c rest ih =>
      obtain ⟨filled, fills, same⟩ := ih
      by_cases large : c.isLarge = true
      · refine ⟨{ c.toNonFile with content := c.content } :: filled, ?_, ?_⟩
        · simp [packClipboards, large, fillRaw, Clipboard.toNonFile, fills]
        · rw [List.map_cons, same]
          rfl
      · refine ⟨c.toNonFile :: filled, ?_, ?_⟩
        · simp [packClipboards, large, fillRaw, Clipboard.toNonFile, fills]
        · simp [Clipboard.toNonFile, ClipboardNonFile.toClipboard, large, same]

end

def readySent : SentFrame := { stems := none, frame := .json .monitorReady }

-- The frames before a waiting call: perhaps a MonitorReady, then what is left of its answer.
inductive Queued (number : Nat) (read : Option (Except String (List Clipboard))) : List SentFrame → Prop where
  | nothing : Queued number read []
  | ready (rest : List SentFrame) (queued : Queued number read rest) : Queued number read (readySent :: rest)
  | failed (text : String) (failing : read = some (.error text)) (said : text ≠ "") :
      Queued number read [{ stems := some number, frame := .json (.clipboardNonFile (some (text, []))) }]
  | header (clipboards : List Clipboard) (rest : List SentFrame) (reading : read = some (.ok clipboards))
      (raw : rest = [] ∨ (packClipboards clipboards).1 ≠ [] ∧ rest = [{ stems := some number, frame := .raw (packClipboards clipboards).1 }]) :
      Queued number read ({ stems := some number, frame := .json (.clipboardNonFile (some ("", (packClipboards clipboards).2))) } :: rest)

theorem queued_ready (number : Nat) (read : Option (Except String (List Clipboard))) (readies answer : List SentFrame)
    (ready : ∀ sent ∈ readies, sent = readySent) (queued : Queued number read answer) : Queued number read (readies ++ answer) := by
  induction readies with
  | nil => exact queued
  | cons sent rest ih =>
      obtain rfl : sent = readySent := ready sent List.mem_cons_self
      exact .ready _ (ih (fun other member => ready other (List.mem_cons_of_mem _ member)))

theorem queued_answer (number : Nat) (read : Except String (List Clipboard)) (said : ∀ text, read = .error text → text ≠ "") :
    Queued number (some read) ((answerFrames read).map (SentFrame.mk (some number))) := by
  cases read with
  | error text => exact .failed text rfl (said text rfl)
  | ok clipboards =>
      apply Queued.header clipboards _ rfl
      by_cases empty : (packClipboards clipboards).1 = []
      · left
        rw [if_pos empty]
        rfl
      · right
        rw [if_neg empty]
        exact ⟨empty, rfl⟩

theorem queued_initial (number : Nat) (read : Option (Except String (List Clipboard))) (frames kept : List SentFrame)
    (queued : Queued number read frames) (first : kept <+: frames) : Queued number read kept := by
  induction queued generalizing kept with
  | nothing => exact List.prefix_nil.mp first ▸ .nothing
  | ready rest _ ih =>
      obtain rfl | ⟨more, rfl, shorter⟩ := List.prefix_cons_iff.mp first
      · exact .nothing
      · exact .ready more (ih more shorter)
  | failed text failing said =>
      obtain rfl | ⟨more, rfl, shorter⟩ := List.prefix_cons_iff.mp first
      · exact .nothing
      · obtain rfl := List.prefix_nil.mp shorter
        exact .failed text failing said
  | header clipboards rest reading raw =>
      obtain rfl | ⟨more, rfl, shorter⟩ := List.prefix_cons_iff.mp first
      · exact .nothing
      · apply Queued.header clipboards more reading
        obtain rfl | ⟨large, rfl⟩ := raw
        · exact .inl (List.prefix_nil.mp shorter)
        · obtain rfl | ⟨last, rfl, shortest⟩ := List.prefix_cons_iff.mp shorter
          · exact .inl rfl
          · obtain rfl := List.prefix_nil.mp shortest
            exact .inr ⟨large, rfl⟩

def Stream.frames (stream : Stream) : List SentFrame := stream.arrived ++ stream.transit

structure Quiet (stream : Stream) : Prop where
  asked : stream.requests = []
  ready : ∀ sent ∈ stream.frames, sent = readySent

inductive Awaiting (number : Nat) (read : Option (Except String (List Clipboard))) (stream : Stream) : Prop where
  | asked (waits : stream.requests = [number]) (ready : ∀ sent ∈ stream.frames, sent = readySent)
  | answered (none : stream.requests = []) (queued : Queued number read stream.frames)

structure Filling (number : Nat) (read : Option (Except String (List Clipboard))) (contents : List ClipboardNonFile) (stream : Stream)
    (clipboards : List Clipboard) : Prop where
  asked : stream.requests = []
  reading : read = some (.ok clipboards)
  header : contents = (packClipboards clipboards).2
  raw : stream.frames <+: [{ stems := some number, frame := .raw (packClipboards clipboards).1 }]

def Standing (stream : Option Stream) (calls : Nat) (read : Option (Except String (List Clipboard))) : Phase → Prop
  | .idle => ∀ live, stream = some live → live.overdue = true ∨ Quiet live
  | .header => ∃ live, stream = some live ∧ Awaiting calls read live
  | .raw contents => ∃ live clipboards, stream = some live ∧ Filling calls read contents live clipboards
  | .panicked => False

structure Sound (host : Host) : Prop where
  paired : Paired host
  shut : ∀ live, host.stream = some live → live.closed = true → live.requests = [] ∧ live.transit = []
  stands : Standing host.stream host.calls (host.read host.calls) host.phase

theorem paired_return (host : Host) (result : Except String (List ClipboardNonFile)) (paired : Paired host)
    (own : ∀ contents, result = .ok contents → host.read host.calls = some (.ok (contents.map ClipboardNonFile.toClipboard))) :
    Paired (host.return result) := by
  refine ⟨fun returned member => ?_, paired.clear⟩
  obtain earlier | last := List.mem_append.mp member
  · exact paired.own returned earlier
  · obtain rfl := List.mem_singleton.mp last
    exact own

theorem quiet_leftover (stream : Stream) (quiet : Quiet stream) : stream.leftover = [] := by
  apply List.filter_eq_nil_iff.mpr
  intro sent member
  rw [quiet.ready sent member]
  exact Bool.false_ne_true

theorem quiet_send (stream : Stream) (quiet : Quiet stream) (number : Nat) (read : Option (Except String (List Clipboard))) :
    Awaiting number read (stream.send number) := by
  unfold Stream.send
  split
  · have queued := queued_ready number read stream.frames [] quiet.ready .nothing
    rw [List.append_nil] at queued
    exact .answered quiet.asked queued
  · exact .asked (by simp [quiet.asked]) quiet.ready

theorem send_shut (stream : Stream) (number : Nat) (shut : stream.closed = true → stream.requests = [] ∧ stream.transit = [])
    (closed : (stream.send number).closed = true) : (stream.send number).requests = [] ∧ (stream.send number).transit = [] := by
  unfold Stream.send at closed ⊢
  by_cases isClosed : stream.closed = true
  · rw [if_pos isClosed]
    exact shut isClosed
  · rw [if_neg isClosed] at closed
    exact absurd closed isClosed

theorem call_sound (host : Host) (reused : Bool) (connects : Except String Bool) (refused : Option String) (sound : Sound host)
    (idle : host.phase = .idle) (timely : Timely host (.call reused connects refused)) : Sound (host.call reused connects refused) := by
  have stands := sound.stands
  rw [idle] at stands
  unfold Host.call
  obtain none | ⟨stream, found⟩ := Option.eq_none_or_eq_some (host.stream.filter (fun _ => reused))
  · rw [none]
    cases connects with
    | error text => exact ⟨paired_return _ _ ⟨sound.paired.own, sound.paired.clear⟩ nofun, sound.shut, stands⟩
    | ok ready =>
        cases refused with
        | some text => exact ⟨paired_return _ _ ⟨sound.paired.own, sound.paired.clear⟩ nofun, sound.shut, stands⟩
        | none =>
            have quiet : Quiet (newStream ready) := by
              refine ⟨rfl, fun sent member => ?_⟩
              cases ready with
              | false => cases member
              | true => exact List.mem_singleton.mp member
            refine ⟨⟨sound.paired.own, sound.paired.clear⟩, fun live isLive closed => ?_, _, rfl, quiet_send (newStream ready) quiet _ _⟩
            obtain rfl := Option.some.inj isLive
            exact send_shut (newStream ready) _ nofun closed
  · rw [found]
    obtain ⟨isStream, isReused⟩ := Option.filter_eq_some_iff.mp found
    have quiet : Quiet stream := by
      have kept := timely isReused stream (by rw [isStream]; exact List.mem_singleton.mpr rfl)
      obtain overdue | quiet := stands stream isStream
      · rw [kept] at overdue
        cases overdue
      · exact quiet
    refine ⟨⟨sound.paired.own, fun leftover member => ?_⟩, fun live isLive closed => ?_, _, rfl, quiet_send stream quiet _ _⟩
    · obtain earlier | last := List.mem_append.mp member
      · exact sound.paired.clear leftover earlier
      · rw [List.mem_singleton.mp last]
        exact quiet_leftover stream quiet
    · obtain rfl := Option.some.inj isLive
      exact send_shut stream _ (sound.shut stream isStream) closed

theorem answer_sound (host next : Host) (stream : Stream) (read : Except String (List Clipboard)) (sound : Sound host)
    (isStream : host.stream = some stream) (timely : Timely host (.answer read)) (taken : host.answer stream read = some next) :
    Sound next := by
  unfold Host.answer at taken
  split at taken
  · cases taken
  · next number rest asked =>
    obtain ⟨opened, same⟩ := Option.ite_none_left_eq_some.mp taken
    obtain rfl := Option.some.inj same
    have stands := sound.stands
    rw [isStream] at stands
    refine ⟨⟨sound.paired.own, sound.paired.clear⟩, fun live isLive closed => ?_, ?_⟩
    · obtain rfl := Option.some.inj isLive
      exact absurd closed opened
    · dsimp only
      generalize host.phase = phase at stands
      cases phase with
      | idle =>
          intro live isLive
          obtain rfl := Option.some.inj isLive
          obtain overdue | quiet := stands stream rfl
          · exact .inl overdue
          · rw [quiet.asked] at asked
            cases asked
      | header =>
          obtain ⟨live, isLive, awaiting⟩ := stands
          obtain rfl := Option.some.inj isLive
          refine ⟨_, rfl, ?_⟩
          cases awaiting with
          | asked waits ready =>
              rw [waits] at asked
              obtain ⟨rfl, rfl⟩ := List.cons.inj asked
              have said : ∀ text, read = .error text → text ≠ "" := by
                rintro text rfl
                exact timely
              have queued := queued_ready host.calls (some read) stream.frames _ ready (queued_answer host.calls read said)
              refine .answered rfl ?_
              rw [if_pos rfl]
              unfold Stream.frames at queued ⊢
              rw [← List.append_assoc]
              exact queued
          | answered none queued =>
              rw [none] at asked
              cases asked
      | raw contents =>
          obtain ⟨live, clipboards, isLive, filling⟩ := stands
          obtain rfl := Option.some.inj isLive
          rw [filling.asked] at asked
          cases asked
      | panicked => exact stands.elim

theorem frames_arrive (stream : Stream) (sent : SentFrame) (rest : List SentFrame) (moving : stream.transit = sent :: rest) :
    ({ stream with transit := rest, arrived := stream.arrived ++ [sent] } : Stream).frames = stream.frames := by
  simp [Stream.frames, moving]

-- A stream that keeps its requests and loses frames from the end only.
theorem standing_kept (stream kept : Stream) (calls : Nat) (read : Option (Except String (List Clipboard))) (phase : Phase)
    (overdue : kept.overdue = stream.overdue) (requests : kept.requests = stream.requests ∨ kept.requests = [])
    (frames : kept.frames <+: stream.frames) (stands : Standing (some stream) calls read phase) : Standing (some kept) calls read phase := by
  have ready : (∀ sent ∈ stream.frames, sent = readySent) → ∀ sent ∈ kept.frames, sent = readySent :=
    fun ready sent member => ready sent (frames.subset member)
  cases phase with
  | idle =>
      intro live isLive
      obtain rfl := Option.some.inj isLive
      obtain isOverdue | quiet := stands stream rfl
      · exact .inl (overdue.trans isOverdue)
      · right
        refine ⟨?_, ready quiet.ready⟩
        obtain same | none := requests
        · exact same.trans quiet.asked
        · exact none
  | header =>
      obtain ⟨live, isLive, awaiting⟩ := stands
      obtain rfl := Option.some.inj isLive
      refine ⟨kept, rfl, ?_⟩
      cases awaiting with
      | asked waits readies =>
          obtain same | none := requests
          · exact .asked (same.trans waits) (ready readies)
          · have queued := queued_ready calls read kept.frames [] (ready readies) .nothing
            rw [List.append_nil] at queued
            exact .answered none queued
      | answered none queued =>
          refine .answered ?_ (queued_initial calls read stream.frames kept.frames queued frames)
          obtain same | empty := requests
          · exact same.trans none
          · exact empty
  | raw contents =>
      obtain ⟨live, clipboards, isLive, filling⟩ := stands
      obtain rfl := Option.some.inj isLive
      refine ⟨kept, clipboards, rfl, ?_, filling.reading, filling.header, frames.trans filling.raw⟩
      obtain same | none := requests
      · exact same.trans filling.asked
      · exact none
  | panicked => exact stands

theorem arrive_sound (host next : Host) (stream : Stream) (sound : Sound host) (isStream : host.stream = some stream)
    (taken : host.arrive stream = some next) : Sound next := by
  unfold Host.arrive at taken
  split at taken
  · cases taken
  · next sent rest moving =>
    obtain rfl := Option.some.inj taken
    refine ⟨⟨sound.paired.own, sound.paired.clear⟩, fun live isLive closed => ?_, ?_⟩
    · obtain rfl := Option.some.inj isLive
      have shut := sound.shut stream isStream closed
      rw [shut.2] at moving
      cases moving
    · have stands := sound.stands
      rw [isStream] at stands
      refine standing_kept stream _ _ _ _ rfl (.inl rfl) ?_ stands
      rw [frames_arrive stream sent rest moving]

theorem close_sound (host : Host) (stream : Stream) (sound : Sound host) (isStream : host.stream = some stream) :
    Sound (host.withStream { stream with closed := true, requests := [], transit := [] }) := by
  refine ⟨⟨sound.paired.own, sound.paired.clear⟩, fun live isLive _ => ?_, ?_⟩
  · obtain rfl := Option.some.inj isLive
    exact ⟨rfl, rfl⟩
  · have stands := sound.stands
    rw [isStream] at stands
    refine standing_kept stream _ _ _ _ rfl (.inr rfl) ?_ stands
    simp [Stream.frames]

theorem quiet_empty (stream : Stream) (asked : stream.requests = []) (empty : stream.frames = []) : Quiet stream :=
  ⟨asked, by rw [empty]; nofun⟩

section
variable (wire : Wire) (host : Host) (stream : Stream) (sent : SentFrame) (rest : List SentFrame)

theorem receive_header_sound (sound : Sound host)
    (isStream : host.stream = some stream) (arrived : stream.arrived = sent :: rest) (phase : host.phase = .header) :
    Sound ((host.withStream { stream with arrived := rest }).onHeader (sent.frame.next wire)) := by
  have stands := sound.stands
  rw [isStream, phase] at stands
  obtain ⟨live, isLive, awaiting⟩ := stands
  obtain rfl := Option.some.inj isLive
  have shut : ∀ live, some { stream with arrived := rest } = some live → live.closed = true → live.requests = [] ∧ live.transit = [] := by
    intro live isLive closed
    obtain rfl := Option.some.inj isLive
    exact sound.shut stream isStream closed
  have split : stream.frames = sent :: ({ stream with arrived := rest } : Stream).frames := by simp [Stream.frames, arrived]
  have again : sent = readySent → Awaiting host.calls (host.read host.calls) { stream with arrived := rest } →
      Sound ((host.withStream { stream with arrived := rest }).onHeader (sent.frame.next wire)) := by
    rintro rfl awaiting
    refine ⟨⟨sound.paired.own, sound.paired.clear⟩, shut, ?_⟩
    dsimp only [readySent, Frame.next, Host.onHeader, Host.withStream]
    rw [phase]
    exact ⟨_, rfl, awaiting⟩
  cases awaiting with
  | asked waits ready =>
      rw [split] at ready
      exact again (ready sent List.mem_cons_self) (.asked waits (fun other member => ready other (List.mem_cons_of_mem _ member)))
  | answered none queued =>
      rw [split] at queued
      generalize left : ({ stream with arrived := rest } : Stream).frames = frames at queued
      cases queued with
      | ready frames queued => exact again rfl (.answered none (by rw [left]; exact queued))
      | failed text failing said =>
          have told : (host.withStream { stream with arrived := rest }).onHeader (some (.clipboardNonFile (some (text, [])))) =
              (host.withStream { stream with arrived := rest }).return (.error text) := if_pos said
          dsimp only [Frame.next]
          rw [told]
          refine ⟨paired_return _ _ ⟨sound.paired.own, sound.paired.clear⟩ nofun, shut, ?_⟩
          intro live isLive
          obtain rfl := Option.some.inj isLive
          exact .inr (quiet_empty _ none left)
      | header clipboards frames reading raw =>
          dsimp only [Frame.next, Host.onHeader]
          rw [if_neg (not_not_intro rfl)]
          by_cases large : (packClipboards clipboards).2.any ClipboardNonFile.nextRaw = true
          · rw [if_pos large]
            refine ⟨⟨sound.paired.own, sound.paired.clear⟩, shut, _, clipboards, rfl, none, reading, rfl, ?_⟩
            rw [left]
            obtain rfl | ⟨_, rfl⟩ := raw
            · exact List.nil_prefix
            · exact List.prefix_rfl
          · rw [if_neg large]
            have small : (packClipboards clipboards).1 = [] := by
              by_contra full
              exact large ((pack_next_raw clipboards).mpr full)
            refine ⟨paired_return _ _ ⟨sound.paired.own, sound.paired.clear⟩ ?_, shut, ?_⟩
            · intro contents same
              obtain rfl := Except.ok.inj same
              rw [pack_small clipboards small]
              exact reading
            · intro live isLive
              obtain rfl := Option.some.inj isLive
              obtain rfl | ⟨full, _⟩ := raw
              · exact .inr (quiet_empty _ none left)
              · exact absurd small full

theorem receive_raw_sound (contents : List ClipboardNonFile) (sound : Sound host) (isStream : host.stream = some stream) (arrived : stream.arrived = sent :: rest)
    (phase : host.phase = .raw contents) :
    Sound ((host.withStream { stream with arrived := rest }).onRaw contents (sent.frame.nextRaw wire)) := by
  have stands := sound.stands
  rw [isStream, phase] at stands
  obtain ⟨live, clipboards, isLive, filling⟩ := stands
  obtain rfl := Option.some.inj isLive
  have split : stream.frames = sent :: ({ stream with arrived := rest } : Stream).frames := by simp [Stream.frames, arrived]
  have here := filling.raw
  rw [split] at here
  obtain ⟨isRaw, none⟩ := List.cons_prefix_cons.mp here
  obtain ⟨filled, fills, same⟩ := fill_pack clipboards
  have told : (host.withStream { stream with arrived := rest }).onRaw contents (sent.frame.nextRaw wire) =
      (host.withStream { stream with arrived := rest }).return (.ok filled) := by
    rw [isRaw, filling.header]
    dsimp only [Frame.nextRaw, Host.onRaw]
    rw [fills]
  rw [told]
  refine ⟨paired_return _ _ ⟨sound.paired.own, sound.paired.clear⟩ ?_, fun live isLive closed => ?_, ?_⟩
  · intro contents returned
    obtain rfl := Except.ok.inj returned
    rw [same]
    exact filling.reading
  · obtain rfl := Option.some.inj isLive
    exact sound.shut stream isStream closed
  · intro live isLive
    obtain rfl := Option.some.inj isLive
    exact .inr (quiet_empty _ filling.asked (List.prefix_nil.mp none))

end

theorem receive_sound (wire : Wire) (host next : Host) (stream : Stream) (sound : Sound host) (isStream : host.stream = some stream)
    (taken : host.receive wire stream = some next) : Sound next := by
  unfold Host.receive at taken
  split at taken
  · cases taken
  · next sent rest arrived =>
    cases phase : host.phase with
    | idle => simp [phase] at taken
    | panicked => simp [phase] at taken
    | header =>
        simp only [phase, Option.some.injEq] at taken
        exact taken ▸ receive_header_sound wire host stream sent rest sound isStream arrived phase
    | raw contents =>
        simp only [phase, Option.some.injEq] at taken
        exact taken ▸ receive_raw_sound wire host stream sent rest contents sound isStream arrived phase

theorem timeout_sound (host next : Host) (stream : Stream) (sound : Sound host) (isStream : host.stream = some stream)
    (timely : Timely host .timeout) (taken : host.timeout stream = some next) : Sound next := by
  obtain ⟨waiting, moved⟩ := Option.ite_none_left_eq_some.mp taken
  dsimp only [Timely] at timely
  cases phase : host.phase with
  | idle => simp [phase] at moved
  | panicked => simp [phase] at moved
  | raw contents => simp [phase] at timely
  | header =>
      simp only [phase, Option.some.injEq] at moved
      subst moved
      refine ⟨paired_return _ _ ⟨sound.paired.own, sound.paired.clear⟩ nofun, fun live isLive closed => ?_, fun live isLive => ?_⟩
      · obtain rfl := Option.some.inj isLive
        exact sound.shut stream isStream closed
      · obtain rfl := Option.some.inj isLive
        exact .inl rfl

theorem reset_sound (host next : Host) (stream : Stream) (sound : Sound host) (isStream : host.stream = some stream)
    (taken : host.reset stream = some next) : Sound next := by
  obtain ⟨ended, moved⟩ := Option.ite_none_left_eq_some.mp taken
  obtain ⟨empty, closed⟩ := not_or.mp ended
  have shut := sound.shut stream isStream (by simpa using closed)
  cases phase : host.phase with
  | idle => simp [phase] at moved
  | panicked => simp [phase] at moved
  | raw contents =>
      simp only [phase, Option.some.injEq] at moved
      subst moved
      exact ⟨paired_return _ _ ⟨sound.paired.own, sound.paired.clear⟩ nofun, nofun, nofun⟩
  | header =>
      simp only [phase, Option.some.injEq] at moved
      subst moved
      refine ⟨paired_return _ _ ⟨sound.paired.own, sound.paired.clear⟩ nofun, sound.shut, fun live isLive => ?_⟩
      obtain rfl := Option.some.inj (isStream.symm.trans isLive)
      refine .inr (quiet_empty stream shut.1 ?_)
      simpa [Stream.frames, shut.2] using empty

theorem step_sound (wire : Wire) (host : Host) (label : Label) (next : Host) (sound : Sound host) (timely : Timely host label)
    (taken : host.step wire label = some next) : Sound next := by
  cases label with
  | call reused connects refused =>
      obtain ⟨idle, same⟩ := Option.ite_none_right_eq_some.mp taken
      exact Option.some.inj same ▸ call_sound host reused connects refused sound idle timely
  | answer read =>
      obtain ⟨stream, isStream, moved⟩ := Option.bind_eq_some_iff.mp taken
      exact answer_sound host next stream read sound isStream timely moved
  | arrive =>
      obtain ⟨stream, isStream, moved⟩ := Option.bind_eq_some_iff.mp taken
      exact arrive_sound host next stream sound isStream moved
  | close =>
      obtain ⟨stream, isStream, rfl⟩ := Option.map_eq_some_iff.mp taken
      exact close_sound host stream sound isStream
  | receive =>
      obtain ⟨stream, isStream, moved⟩ := Option.bind_eq_some_iff.mp taken
      exact receive_sound wire host next stream sound isStream moved
  | timeout =>
      obtain ⟨stream, isStream, moved⟩ := Option.bind_eq_some_iff.mp taken
      exact timeout_sound host next stream sound isStream timely moved
  | reset =>
      obtain ⟨stream, isStream, moved⟩ := Option.bind_eq_some_iff.mp taken
      exact reset_sound host next stream sound isStream moved

-- A call gets the clipboards read for its own request as long as no stream is used on after a
-- header came too late, and no raw frame comes too late.
theorem answers_paired (wire : Wire) (past : List (Host × Label)) (host : Host) (traced : Machine.Traced (Host.step wire) noHost past host)
    (timely : ∀ entry ∈ past, Timely entry.1 entry.2) : (∀ entry ∈ past, Paired entry.1) ∧ Paired host := by
  have start : Sound noHost := ⟨⟨nofun, nofun⟩, nofun, nofun⟩
  obtain ⟨before, here⟩ := Machine.traced_kept (Host.step wire) Sound Timely noHost host past start (step_sound wire) traced timely
  exact ⟨fun entry member => (before entry member).paired, here.paired⟩

def quietWire : Wire := { text := fun _ => [], parse := fun _ => none }

def textEntry (content : Bytes) : Clipboard := { compress := false, content := content, width := 0, height := 0, format := 0, specialName := "" }

-- The first answer comes too late, and the next request goes out on a new stream.
def reconnected : List Label :=
  [.call false (.ok true) none, .arrive, .receive, .timeout, .answer (.ok [textEntry [65]]), .close, .call false (.ok false) none,
   .answer (.ok [textEntry [66], textEntry (List.replicate 3073 67)]), .arrive, .receive, .arrive, .receive]

theorem answers_paired_reconnected : (∀ entry ∈ Machine.trace (Host.step quietWire) noHost reconnected, Paired entry.1) ∧
    Paired ((Machine.run (Host.step quietWire) noHost reconnected).get (by decide +kernel)) := by
  apply answers_paired quietWire _ _ (Machine.traced_run _ _ _ (by decide +kernel))
  decide +kernel

-- The stream of a call that timed out is used again, with the late answer in it.
def reused : List Label :=
  [.call false (.ok false) none, .timeout, .answer (.ok [textEntry [65]]), .arrive, .call true (.ok false) none, .receive]

-- The raw frame comes too late.
def unfilled : List Label :=
  [.call false (.ok false) none, .answer (.ok [textEntry (List.replicate 3073 67)]), .arrive, .receive, .timeout]

theorem late_answer_shifts :
    (∃ host, Machine.Reachable (Host.step quietWire) noHost host ∧ ¬ Paired host ∧ ∃ returned ∈ host.returned,
      returned.call = 2 ∧ returned.result.toOption = some [(textEntry [65]).toNonFile] ∧ returned.read.isNone = true) ∧
    ∃ host, Machine.Reachable (Host.step quietWire) noHost host ∧ ¬ Paired host ∧ ∃ returned ∈ host.returned,
      returned.result.toOption = some [(textEntry (List.replicate 3073 67)).toNonFile] := by
  constructor
  · refine ⟨_, Machine.reachable_run _ _ reused (by decide +kernel), fun paired => ?_, by decide +kernel⟩
    exact absurd paired.clear (by decide +kernel)
  · refine ⟨_, Machine.reachable_run _ _ unfilled (by decide +kernel), fun paired => ?_, by decide +kernel⟩
    have own := paired.own
    have returned : ∃ returned ∈ ((Machine.run (Host.step quietWire) noHost unfilled).get (by decide +kernel)).returned,
        returned.result.toOption = some [(textEntry (List.replicate 3073 67)).toNonFile] ∧
          (returned.read.bind Except.toOption) = some [textEntry (List.replicate 3073 67)] := by decide +kernel
    obtain ⟨returned, member, result, read⟩ := returned
    cases isResult : returned.result with
    | error text =>
        rw [isResult] at result
        cases result
    | ok contents =>
        rw [own returned member contents isResult] at read
        rw [isResult] at result
        obtain rfl := Option.some.inj result
        exact absurd (Option.some.inj read) (by decide +kernel)

end GotechDesk.ClipboardService
