import GotechDesk.Machine

set_option autoImplicit false

namespace GotechDesk.PortableService

-- A word of the shared memory; `write` is ghost and says which write of a frame it is from.
structure Cell (α : Type) where
  value : α
  write : Option Nat

structure Area where
  length : Cell Nat
  width : Cell Nat
  height : Cell Nat
  frame : Nat → Cell UInt8
  wouldblock : Int32
  w : Int32
  r : Int32

structure CapturedFrame where
  width : Nat
  height : Nat
  data : List UInt8

def isValidCaptureFrameLength (capacity frameLen : Nat) : Bool := 0 < frameLen && frameLen ≤ capacity

-- `iw_plus1` of `increase_counter`.
def iwPlus1 (iw : Int32) : Int32 := if iw = Int32.maxValue then 0 else iw + 1

-- The info's three words come first, then the bytes.
def Area.store (area : Area) (id : Nat) (captured : CapturedFrame) (position : Nat) : Area :=
  match position with
  | 0 => { area with length := { value := captured.data.length, write := some id } }
  | 1 => { area with width := { value := captured.width, write := some id } }
  | 2 => { area with height := { value := captured.height, write := some id } }
  | position + 3 => { area with frame := Function.update area.frame position { value := captured.data.getD position 0, write := some id } }

-- The words that memset clears here, in the order of their addresses.
def Area.clear (area : Area) (position : Nat) : Area :=
  match position with
  | 0 => { area with length := { value := 0, write := none } }
  | 1 => { area with width := { value := 0, write := none } }
  | 2 => { area with height := { value := 0, write := none } }
  | 3 => { area with wouldblock := 0 }
  | 4 => { area with w := 0 }
  | 5 => { area with r := 0 }
  | position + 6 => { area with frame := Function.update area.frame position { value := 0, write := none } }

inductive Writer where
  | idle
  | checkW
  | checkR (iw : Int32)
  | capturing
  | missing (wouldblock : Bool)
  | storing (id : Nat) (captured : CapturedFrame) (position : Nat)
  | flagging (id : Nat)
  | readW (id : Nat)
  | readR (id : Nat) (iw : Int32)
  | bump (id : Nat) (iw ir : Int32)
  | settle (id : Nat) (iw : Int32)
  | exited

inductive Reader where
  | idle
  | readW (width height : Nat)
  | readR (width height : Nat) (iw : Int32)
  | copyW (width height : Nat)
  | copyR (width height : Nat) (v : Int32)
  | takeLength (width height : Nat)
  | takeWidth (width height : Nat) (length : Cell Nat)
  | takeHeight (width height : Nat) (length gotWidth : Cell Nat)
  | consuming (length position : Nat) (stamps : List (Option Nat))
  | blocked

-- `published` is the write whose counter was increased and that nobody acknowledged yet, and
-- `uses` holds, for every frame the reader has used, which writes its words and bytes were from.
structure Host where
  area : Area
  writer : Writer
  firstFrameCaptured : Bool
  reader : Reader
  reset : Option Nat
  writes : Nat
  published : Option Nat
  uses : List (List (Option Nat))
  overwritten : Bool
  collided : Bool

def Writer.busy : Writer → Bool
  | .storing _ _ _ | .flagging _ | .readW _ | .readR _ _ | .bump _ _ _ | .settle _ _ => true
  | _ => false

-- Inside `frame`, which holds the lock of the shared memory.
def Reader.locked : Reader → Bool
  | .idle | .consuming _ _ _ => false
  | _ => true

-- After the acknowledgement and before the last use.
def Reader.taken : Reader → Bool
  | .takeLength _ _ | .takeWidth _ _ _ | .takeHeight _ _ _ _ | .consuming _ _ _ => true
  | _ => false

-- Without a frame and not about to acknowledge one.
def Reader.calm : Reader → Bool
  | .idle | .readW _ _ | .readR _ _ _ | .blocked => true
  | _ => false

-- The frames that are returned, with the one in use.
def Host.returned (host : Host) : List (List (Option Nat)) :=
  match host.reader with
  | .consuming _ _ stamps => host.uses ++ [stamps]
  | _ => host.uses

inductive Label where
  | recreate
  | turn
  | capture (captured : CapturedFrame)
  | miss (wouldblock : Bool)
  | writer
  | frame (width height : Nat)
  | reader
  | finish
  | reset
  | clear

def Host.increased (host : Host) (area : Area) (id : Nat) : Host :=
  { host with area := area, writer := .idle, firstFrameCaptured := true, published := some id, collided := host.collided || area.w = area.r }

def Host.storeFrame (host : Host) (id : Nat) (captured : CapturedFrame) (position : Nat) : Host :=
  { host with
    area := host.area.store id captured position,
    writer := if position + 1 < captured.data.length + 3 then .storing id captured (position + 1) else .flagging id,
    overwritten := host.overwritten || host.published.isSome || host.reader.taken }

section
variable (capacity : Nat)

def writerStep (host : Host) : Option Host :=
  match host.writer with
  | .checkW => some { host with writer := .checkR host.area.w }
  | .checkR iw => some { host with writer := if iw = host.area.r then .capturing else .idle }
  | .missing wouldblock => some { host with writer := .idle, area := { host.area with wouldblock := if wouldblock then 1 else 0 } }
  | .storing id captured position => some (host.storeFrame id captured position)
  | .flagging id => some { host with writer := .readW id, area := { host.area with wouldblock := 1 } }
  | .readW id => some { host with writer := .readR id host.area.w }
  -- The guard against a collision reads the writer's word once more.
  | .readR id iw => some { host with writer := .bump id iw host.area.w }
  | .bump id iw ir =>
      if ir = iwPlus1 iw then some { host with writer := .settle id iw, area := { host.area with w := iwPlus1 iw } }
      else some (host.increased { host.area with w := iwPlus1 iw } id)
  | .settle id iw => some (host.increased { host.area with r := iw } id)
  | _ => none

def readerStep (host : Host) : Option Host :=
  match host.reader with
  | .readW width height => some { host with reader := .readR width height host.area.w }
  | .readR width height iw => some { host with reader := if host.area.r ≠ iw then .copyW width height else .blocked }
  | .copyW width height => some { host with reader := .copyR width height host.area.w }
  | .copyR width height v => some { host with reader := .takeLength width height, area := { host.area with r := v }, published := none }
  | .takeLength width height =>
      some { host with
        reader := if isValidCaptureFrameLength capacity host.area.length.value then .takeWidth width height host.area.length else .idle }
  | .takeWidth width height length =>
      some { host with reader := if host.area.width.value = width then .takeHeight width height length host.area.width else .idle }
  | .takeHeight _ height length gotWidth =>
      some { host with
        reader := if host.area.height.value = height then .consuming length.value 0 [length.write, gotWidth.write, host.area.height.write] else .idle }
  | .consuming length position stamps =>
      if position < length then some { host with reader := .consuming length (position + 1) (stamps ++ [(host.area.frame position).write]) } else none
  | .blocked => some { host with reader := .idle }
  | .idle => none

def step (host : Host) : Label → Option Host
  | .recreate => match host.writer with
    | .idle => some { host with firstFrameCaptured := false }
    | _ => none
  | .turn => match host.writer with
    | .idle => some { host with writer := if host.firstFrameCaptured then .checkW else .capturing }
    | _ => none
  | .capture captured => match host.writer with
    | .capturing =>
        some (if capacity < captured.data.length then { host with writer := .exited }
          else { host with writer := .storing host.writes captured 0, writes := host.writes + 1 })
    | _ => none
  | .miss wouldblock => match host.writer with
    | .capturing => some { host with writer := .missing wouldblock }
    | _ => none
  | .writer => writerStep host
  | .frame width height => match host.reader with
    | .idle => if host.reset = none then some { host with reader := .readW width height } else none
    | _ => none
  | .reader => readerStep capacity host
  | .finish => match host.reader with
    | .consuming _ _ stamps => some { host with reader := .idle, uses := host.uses ++ [stamps] }
    | _ => none
  | .reset => if host.reset = none ∧ host.reader.locked = false then some { host with reset := some 0 } else none
  | .clear => match host.reset with
    | some position =>
        if position < capacity + 6 then some { host with reset := some (position + 1), area := host.area.clear position, overwritten := host.overwritten || host.reader.taken }
        else some { host with reset := none, area := { host.area with wouldblock := 1 }, published := none }
    | none => none

def start (counter : Int32) : Host :=
  { area := { length := ⟨0, none⟩, width := ⟨0, none⟩, height := ⟨0, none⟩, frame := fun _ => ⟨0, none⟩, wouldblock := 0, w := counter, r := counter },
    writer := .idle, firstFrameCaptured := false, reader := .idle, reset := none, writes := 0, published := none, uses := [],
    overwritten := false, collided := false }

structure HandedOver (host : Host) : Prop where
  whole : ∀ use ∈ host.returned, ∃ id, ∀ stamp ∈ use, stamp = some id
  once : host.returned.Pairwise (fun one other => one.head? ≠ other.head?)
  kept : host.overwritten = false
  apart : host.collided = false

-- A frame is captured without a look at the counters only while none is unread, the look at the
-- counters only finds them equal while no frame is in use, and a reset runs apart from both sides.
def Orderly (host : Host) : Label → Prop
  | .turn => host.firstFrameCaptured = false → host.reader.taken = false ∧ (host.reset = none → host.area.w = host.area.r)
  | .writer => match host.writer with
    | .checkR iw => iw = host.area.r → host.reader.taken = false
    | _ => True
  | .capture captured => captured.data.length ≤ capacity → host.reset = none
  | .reset => host.writer.busy = false ∧ host.reader.taken = false
  | _ => True

theorem iw_plus1_ne (iw : Int32) : iwPlus1 iw ≠ iw := by
  unfold iwPlus1
  by_cases last : iw = Int32.maxValue
  · rw [if_pos last, last]
    decide
  · rw [if_neg last]
    intro same
    have shifted := congrArg (fun value => value - iw) same
    simp [Int32.add_comm iw 1, Int32.add_sub_cancel] at shifted

structure Holds (area : Area) (id : Nat) : Prop where
  length : area.length.write = some id
  width : area.width.write = some id
  height : area.height.write = some id
  frame : ∀ index, index < area.length.value → (area.frame index).write = some id

-- The first words and bytes of a frame are in place.
structure Stored (area : Area) (id : Nat) (captured : CapturedFrame) (position : Nat) : Prop where
  length : 0 < position → area.length.write = some id ∧ area.length.value = captured.data.length
  width : 1 < position → area.width.write = some id
  height : 2 < position → area.height.write = some id
  frame : ∀ index, index + 3 < position → (area.frame index).write = some id

section
variable (area : Area) (id : Nat) (captured : CapturedFrame)

theorem stored_next (position : Nat) (stored : Stored area id captured position) :
    Stored (area.store id captured position) id captured (position + 1) := by
  match position with
  | 0 => exact ⟨fun _ => ⟨rfl, rfl⟩, fun late => by omega, fun late => by omega, fun index late => by omega⟩
  | 1 => exact ⟨fun _ => stored.length (by omega), fun _ => rfl, fun late => by omega, fun index late => by omega⟩
  | 2 => exact ⟨fun _ => stored.length (by omega), fun _ => stored.width (by omega), fun _ => rfl, fun index late => by omega⟩
  | position + 3 =>
      refine ⟨fun _ => stored.length (by omega), fun _ => stored.width (by omega), fun _ => stored.height (by omega), ?_⟩
      intro index early
      change (Function.update area.frame position _ index).write = some id
      rw [Function.update_apply]
      split
      · rfl
      · exact stored.frame index (by omega)

theorem stored_holds (stored : Stored area id captured (captured.data.length + 3)) : Holds area id := by
  obtain ⟨write, value⟩ := stored.length (by omega)
  refine ⟨write, stored.width (by omega), stored.height (by omega), ?_⟩
  intro index early
  exact stored.frame index (by omega)

theorem store_counters (position : Nat) : (area.store id captured position).w = area.w ∧ (area.store id captured position).r = area.r := by
  match position with
  | 0 => exact ⟨rfl, rfl⟩
  | 1 => exact ⟨rfl, rfl⟩
  | 2 => exact ⟨rfl, rfl⟩
  | position + 3 => exact ⟨rfl, rfl⟩

end

-- The reset leaves the counters at zero as it passes them.
theorem clear_counters (area : Area) (position : Nat) (first : 4 < position → area.w = 0) (second : 5 < position → area.r = 0) :
    (4 < position + 1 → (area.clear position).w = 0) ∧ (5 < position + 1 → (area.clear position).r = 0) := by
  match position with
  | 0 => exact ⟨fun late => by omega, fun late => by omega⟩
  | 1 => exact ⟨fun late => by omega, fun late => by omega⟩
  | 2 => exact ⟨fun late => by omega, fun late => by omega⟩
  | 3 => exact ⟨fun late => by omega, fun late => by omega⟩
  | 4 => exact ⟨fun _ => rfl, fun late => by omega⟩
  | 5 => exact ⟨fun _ => first (by omega), fun _ => rfl⟩
  | position + 6 => exact ⟨fun _ => first (by omega), fun _ => second (by omega)⟩

def Writer.engaged (writer : Writer) : Bool :=
  match writer with
  | .capturing => true
  | writer => writer.busy

section
variable (area : Area) (reset published : Option Nat) (writes : Nat) (uses : List (List (Option Nat)))

-- A write that nobody has used before.
structure Kept (id : Nat) : Prop where
  known : id < writes
  unused : ∀ use ∈ uses, use.head? ≠ some (some id)
  holds : Holds area id

def Free : Prop := reset = none ∧ published = none

def WriterFine : Writer → Prop
  | .checkR iw => reset = none → iw = area.w ∨ area.w = area.r
  | .capturing => reset = none → published = none
  | .storing id captured position =>
      Free reset published ∧ id < writes ∧ (∀ use ∈ uses, use.head? ≠ some (some id)) ∧ position < captured.data.length + 3 ∧
        Stored area id captured position
  | .flagging id | .readW id => Free reset published ∧ Kept area writes uses id
  | .readR id iw => Free reset published ∧ Kept area writes uses id ∧ iw = area.w
  | .bump id iw ir => Free reset published ∧ Kept area writes uses id ∧ iw = area.w ∧ ir = area.w
  | .settle _ _ => False
  | _ => True

def ReaderFine : Reader → Prop
  | .readR _ _ iw => iw = area.w ∨ iw = area.r
  | .copyW _ _ => published ≠ none
  | .copyR _ _ v => v = area.w ∧ published ≠ none
  | .takeLength _ _ => Free reset published ∧ ∃ id, Kept area writes uses id
  | .takeWidth _ _ length => Free reset published ∧ ∃ id, Kept area writes uses id ∧ length = area.length
  | .takeHeight _ _ length gotWidth =>
      Free reset published ∧ ∃ id, Kept area writes uses id ∧ length = area.length ∧ gotWidth = area.width
  | .consuming length _ stamps =>
      Free reset published ∧ ∃ id, Kept area writes uses id ∧ length = area.length.value ∧ stamps.head? = some (some id) ∧
        ∀ stamp ∈ stamps, stamp = some id
  | _ => True

end

structure Sound (host : Host) : Prop where
  disjoint : host.writer.engaged = true → host.reader.taken = false
  counted : host.reset = none → (host.published = none ↔ host.area.w = host.area.r)
  full : host.reset = none → ∀ id, host.published = some id → Kept host.area host.writes host.uses id
  writer : WriterFine host.area host.reset host.published host.writes host.uses host.writer
  reader : ReaderFine host.area host.reset host.published host.writes host.uses host.reader
  resetting : ∀ position, host.reset = some position →
    host.reader = .idle ∧ host.writer.busy = false ∧ (4 < position → host.area.w = 0) ∧ (5 < position → host.area.r = 0)
  used : ∀ use ∈ host.uses, ∃ id, id < host.writes ∧ use.head? = some (some id) ∧ ∀ stamp ∈ use, stamp = some id
  once : host.uses.Pairwise (fun one other => one.head? ≠ other.head?)
  kept : host.overwritten = false
  apart : host.collided = false

theorem kept_moved (area moved : Area) (writes : Nat) (uses : List (List (Option Nat))) (id : Nat) (kept : Kept area writes uses id)
    (holds : Holds area id → Holds moved id) : Kept moved writes uses id := ⟨kept.known, kept.unused, holds kept.holds⟩

-- A writer without a frame does not care what became of the frames.
theorem writer_rests (area : Area) (reset published later : Option Nat) (writes writes' : Nat) (uses uses' : List (List (Option Nat)))
    (writer : Writer) (rests : writer.engaged = false) (fine : WriterFine area reset published writes uses writer) :
    WriterFine area reset later writes' uses' writer := by
  cases writer with
  | checkR iw => exact fine
  | idle => trivial
  | checkW => trivial
  | missing wouldblock => trivial
  | exited => trivial
  | capturing => cases rests
  | storing id captured position => cases rests
  | flagging id => cases rests
  | readW id => cases rests
  | readR id iw => cases rests
  | bump id iw ir => cases rests
  | settle id iw => cases rests

section
variable (area : Area) (reset published : Option Nat) (writes : Nat) (uses : List (List (Option Nat))) (writer : Writer)

-- What holds of a writer between its writes while the area is reset, and after.
theorem writer_reset (free : writer.busy = false) (even : reset = none → area.w = area.r ∧ published = none) : WriterFine area reset published writes uses writer := by
  cases writer with
  | checkR iw => exact fun none_ => Or.inr (even none_).1
  | capturing => exact fun none_ => (even none_).2
  | idle => trivial
  | checkW => trivial
  | missing wouldblock => trivial
  | exited => trivial
  | storing id captured position => cases free
  | flagging id => cases free
  | readW id => cases free
  | readR id iw => cases free
  | bump id iw ir => cases free
  | settle id iw => cases free

theorem writer_waits (fine : WriterFine area reset published writes uses writer) (off : reset = none) (unread : published ≠ none) : writer.engaged = false := by
  cases writer with
  | capturing => exact absurd (fine off) unread
  | storing id captured position => exact absurd fine.1.2 unread
  | flagging id => exact absurd fine.1.2 unread
  | readW id => exact absurd fine.1.2 unread
  | readR id iw => exact absurd fine.1.2 unread
  | bump id iw ir => exact absurd fine.1.2 unread
  | settle id iw => exact fine.elim
  | _ => rfl

end

-- Without a frame the reader only looks at the counters.
theorem reader_rests (area moved : Area) (reset reset' published : Option Nat) (writes writes' : Nat) (uses uses' : List (List (Option Nat)))
    (reader : Reader) (rests : reader.taken = false) (w : moved.w = area.w) (r : moved.r = area.r)
    (fine : ReaderFine area reset published writes uses reader) : ReaderFine moved reset' published writes' uses' reader := by
  cases reader with
  | idle | readW | blocked => trivial
  | readR width height iw =>
      rw [ReaderFine, w, r]
      exact fine
  | copyW width height => exact fine
  | copyR width height v =>
      rw [ReaderFine, w]
      exact fine
  | takeLength | takeWidth | takeHeight | consuming => cases rests

-- The writer's counter goes on from a value that both had.
theorem reader_published (area : Area) (reset : Option Nat) (writes : Nat) (uses : List (List (Option Nat))) (reader : Reader) (id : Nat)
    (w : Int32) (rests : reader.taken = false) (even : area.w = area.r) (fine : ReaderFine area reset none writes uses reader) :
    ReaderFine { area with w := w } reset (some id) writes uses reader := by
  cases reader with
  | idle | readW | blocked => trivial
  | readR width height iw =>
      obtain own | own := fine
      · exact Or.inr (own.trans even)
      · exact Or.inr own
  | copyW width height => exact absurd rfl fine
  | copyR width height v => exact absurd rfl fine.2
  | takeLength | takeWidth | takeHeight | consuming => cases rests

theorem reader_flagged (area : Area) (reset published : Option Nat) (writes : Nat) (uses : List (List (Option Nat))) (reader : Reader)
    (wouldblock : Int32) (fine : ReaderFine area reset published writes uses reader) :
    ReaderFine { area with wouldblock := wouldblock } reset published writes uses reader := by
  have moves : ∀ id, Kept area writes uses id → Kept { area with wouldblock := wouldblock } writes uses id := by
    intro id kept
    exact kept_moved area _ writes uses id kept (fun holds => { holds with })
  cases reader with
  | takeLength width height =>
      obtain ⟨free, id, kept⟩ := fine
      exact ⟨free, id, moves id kept⟩
  | takeWidth width height length | takeHeight width height length gotWidth | consuming length position stamps =>
      obtain ⟨free, id, kept, same⟩ := fine
      exact ⟨free, id, moves id kept, same⟩
  | idle | readW | blocked => trivial
  | readR | copyW | copyR => exact fine

section
variable (host : Host)

theorem sound_writer (writer : Writer) (sound : Sound host) (disjoint : writer.engaged = true → host.reader.taken = false)
    (fine : WriterFine host.area host.reset host.published host.writes host.uses writer)
    (apart : ∀ position, host.reset = some position → writer.busy = false) : Sound { host with writer := writer } where
  disjoint := disjoint
  counted := sound.counted
  full := sound.full
  writer := fine
  reader := sound.reader
  resetting position is := ⟨(sound.resetting position is).1, apart position is, (sound.resetting position is).2.2⟩
  used := sound.used
  once := sound.once
  kept := sound.kept
  apart := sound.apart

theorem sound_reader (reader : Reader) (sound : Sound host) (off : host.reset = none) (disjoint : reader.taken = true → host.reader.taken = true)
    (fine : ReaderFine host.area host.reset host.published host.writes host.uses reader) : Sound { host with reader := reader } where
  disjoint engaged := by
    have before := sound.disjoint engaged
    by_contra taken
    rw [disjoint (Bool.of_not_eq_false taken)] at before
    cases before
  counted := sound.counted
  full := sound.full
  writer := sound.writer
  reader := fine
  resetting position is := by
    rw [off] at is
    cases is
  used := sound.used
  once := sound.once
  kept := sound.kept
  apart := sound.apart

theorem reader_unreset (sound : Sound host) (running : host.reader ≠ .idle) : host.reset = none := by
  obtain off | ⟨position, is⟩ := Option.eq_none_or_eq_some host.reset
  · exact off
  · exact absurd (sound.resetting position is).1 running

-- The flag beside the frame is nobody's concern.
theorem sound_flag (writer : Writer) (wouldblock : Int32) (sound : Sound host) (disjoint : writer.engaged = true → host.reader.taken = false)
    (fine : WriterFine { host.area with wouldblock := wouldblock } host.reset host.published host.writes host.uses writer)
    (apart : ∀ position, host.reset = some position → writer.busy = false) :
    Sound { host with writer := writer, area := { host.area with wouldblock := wouldblock } } where
  disjoint := disjoint
  counted := sound.counted
  full off id is := kept_moved host.area _ host.writes host.uses id (sound.full off id is)
    (fun holds => { holds with })
  writer := fine
  reader := reader_flagged host.area host.reset host.published host.writes host.uses host.reader wouldblock sound.reader
  resetting position is := ⟨(sound.resetting position is).1, apart position is, (sound.resetting position is).2.2⟩
  used := sound.used
  once := sound.once
  kept := sound.kept
  apart := sound.apart

theorem sound_capture (captured : CapturedFrame) (sound : Sound host) (here : host.writer = .capturing)
    (off : host.reset = none) : Sound { host with writer := .storing host.writes captured 0, writes := host.writes + 1 } := by
  have unread : host.published = none := by
    have fine := sound.writer
    rw [here] at fine
    exact fine off
  have rests : host.reader.taken = false := sound.disjoint (by rw [here]; rfl)
  refine ⟨fun _ => rests, sound.counted, ?_, ?_, ?_, ?_, ?_, sound.once, sound.kept, sound.apart⟩
  · intro _ id is
    rw [show host.published = some id from is] at unread
    cases unread
  · refine ⟨⟨off, unread⟩, Nat.lt_succ_self host.writes, ?_, Nat.succ_pos _, ?_⟩
    · intro use listed same
      obtain ⟨id, known, head, _⟩ := sound.used use listed
      rw [head] at same
      obtain rfl := Option.some.inj (Option.some.inj same)
      exact absurd known (Nat.lt_irrefl _)
    · exact ⟨fun late => absurd late (Nat.lt_irrefl 0), fun late => absurd late (Nat.not_lt_zero 1), fun late => absurd late (Nat.not_lt_zero 2),
        fun _ late => absurd late (Nat.not_lt_zero _)⟩
  · exact reader_rests host.area host.area _ _ _ _ _ _ _ host.reader rests rfl rfl sound.reader
  · intro position is
    rw [show host.reset = some position from is] at off
    cases off
  · intro use listed
    obtain ⟨id, known, whole⟩ := sound.used use listed
    exact ⟨id, Nat.lt_succ_of_lt known, whole⟩

theorem sound_store (id : Nat) (captured : CapturedFrame) (position : Nat) (sound : Sound host)
    (here : host.writer = .storing id captured position) : Sound (host.storeFrame id captured position) := by
  have fine := sound.writer
  rw [here] at fine
  obtain ⟨⟨off, unread⟩, known, unused, inside, stored⟩ := fine
  have rests : host.reader.taken = false := sound.disjoint (by rw [here]; rfl)
  obtain ⟨w, r⟩ := store_counters host.area id captured position
  have next := stored_next host.area id captured position stored
  refine ⟨fun _ => rests, ?_, ?_, ?_, ?_, ?_, sound.used, sound.once, ?_, sound.apart⟩
  · intro _
    change host.published = none ↔ (host.area.store id captured position).w = (host.area.store id captured position).r
    rw [w, r]
    exact sound.counted off
  · intro _ other is
    rw [show host.published = some other from is] at unread
    cases unread
  · unfold Host.storeFrame
    split
    · rename_i more
      exact ⟨⟨off, unread⟩, known, unused, more, next⟩
    · rename_i last
      obtain done : position + 1 = captured.data.length + 3 := by omega
      exact ⟨⟨off, unread⟩, known, unused, stored_holds _ id captured (done ▸ next)⟩
  · exact reader_rests host.area _ _ _ _ _ _ _ _ host.reader rests w r sound.reader
  · intro position is
    rw [show host.reset = some position from is] at off
    cases off
  · unfold Host.storeFrame
    rw [sound.kept, unread, rests]
    rfl

theorem sound_increased (id : Nat) (sound : Sound host) (free : Free host.reset host.published)
    (kept : Kept host.area host.writes host.uses id) (rests : host.reader.taken = false) :
    Sound (host.increased { host.area with w := iwPlus1 host.area.w } id) := by
  have even : host.area.w = host.area.r := (sound.counted free.1).mp free.2
  have differ : iwPlus1 host.area.w ≠ host.area.r := by
    rw [← even]
    exact iw_plus1_ne host.area.w
  have reader := sound.reader
  rw [free.2] at reader
  refine ⟨fun engaged => absurd engaged nofun, ?_, ?_, trivial, ?_, ?_, sound.used, sound.once, sound.kept, ?_⟩
  · exact fun _ => iff_of_false nofun differ
  · intro _ other is
    obtain rfl := Option.some.inj is
    exact kept_moved host.area _ host.writes host.uses id kept (fun holds => { holds with })
  · exact reader_published host.area host.reset host.writes host.uses host.reader id _ rests even reader
  · intro position is
    rw [show host.reset = some position from is] at free
    cases free.1
  · unfold Host.increased
    rw [sound.apart, decide_eq_false differ]
    rfl

end

theorem sound_writer_step (host next : Host) (sound : Sound host) (orderly : Orderly capacity host .writer) (taken : writerStep host = some next) :
    Sound next := by
  have fine := sound.writer
  have disjoint := sound.disjoint
  unfold writerStep at taken
  unfold Orderly at orderly
  cases here : host.writer with
  | checkW =>
      rw [here] at taken
      obtain rfl := Option.some.inj taken
      exact sound_writer host _ sound nofun (fun _ => Or.inl rfl) (fun _ _ => rfl)
  | checkR iw =>
      rw [here] at taken orderly fine
      obtain rfl := Option.some.inj taken
      by_cases equal : iw = host.area.r
      · rw [if_pos equal]
        refine sound_writer host _ sound (fun _ => orderly equal) ?_ (fun _ _ => rfl)
        intro off
        refine (sound.counted off).mpr ?_
        obtain own | even := fine off
        · exact own.symm.trans equal
        · exact even
      · rw [if_neg equal]
        exact sound_writer host _ sound nofun trivial (fun _ _ => rfl)
  | missing wouldblock =>
      rw [here] at taken
      obtain rfl := Option.some.inj taken
      exact sound_flag host .idle _ sound nofun trivial (fun _ _ => rfl)
  | storing id captured position =>
      rw [here] at taken
      obtain rfl := Option.some.inj taken
      exact sound_store host id captured position sound here
  | flagging id =>
      rw [here] at taken fine disjoint
      obtain rfl := Option.some.inj taken
      obtain ⟨free, kept⟩ := fine
      refine sound_flag host (.readW id) 1 sound (fun _ => disjoint rfl) ⟨free, ?_⟩ ?_
      · exact kept_moved host.area _ host.writes host.uses id kept (fun holds => { holds with })
      · intro position is
        rw [is] at free
        cases free.1
  | readW id =>
      rw [here] at taken fine disjoint
      obtain rfl := Option.some.inj taken
      obtain ⟨free, kept⟩ := fine
      refine sound_writer host _ sound (fun _ => disjoint rfl) ⟨free, kept, rfl⟩ ?_
      intro position is
      rw [is] at free
      cases free.1
  | readR id iw =>
      rw [here] at taken fine disjoint
      obtain rfl := Option.some.inj taken
      obtain ⟨free, kept, own⟩ := fine
      refine sound_writer host _ sound (fun _ => disjoint rfl) ⟨free, kept, own, rfl⟩ ?_
      intro position is
      rw [is] at free
      cases free.1
  | bump id iw ir =>
      rw [here] at taken fine disjoint
      obtain ⟨free, kept, rfl, rfl⟩ := fine
      dsimp only at taken
      rw [if_neg (iw_plus1_ne host.area.w).symm] at taken
      obtain rfl := Option.some.inj taken
      exact sound_increased host id sound free kept (disjoint rfl)
  | settle id iw =>
      rw [here] at fine
      exact fine.elim
  | idle | capturing | exited =>
      rw [here] at taken
      cases taken

theorem sound_acknowledged (host : Host) (width height : Nat) (v : Int32) (sound : Sound host) (here : host.reader = .copyR width height v) :
    Sound { host with reader := .takeLength width height, area := { host.area with r := v }, published := none } := by
  have off := reader_unreset host sound (by rw [here]; exact nofun)
  have fine := sound.reader
  rw [here] at fine
  obtain ⟨rfl, unread⟩ := fine
  obtain ⟨id, is⟩ := Option.ne_none_iff_exists'.mp unread
  have waits := writer_waits host.area host.reset host.published host.writes host.uses host.writer sound.writer off unread
  have kept := kept_moved host.area { host.area with r := host.area.w } host.writes host.uses id (sound.full off id is)
    (fun holds => { holds with })
  refine ⟨fun engaged => absurd (waits.symm.trans engaged) nofun, fun _ => iff_of_true rfl rfl, nofun, ?_, ⟨⟨off, rfl⟩, id, kept⟩, ?_, sound.used,
    sound.once, sound.kept, sound.apart⟩
  · have free : host.writer.busy = false := by
      cases writer : host.writer <;> rw [writer] at waits <;> first | rfl | cases waits
    exact writer_reset _ host.reset none host.writes host.uses host.writer free (fun _ => ⟨rfl, rfl⟩)
  · intro position is
    rw [show host.reset = some position from is] at off
    cases off

theorem sound_reader_step (host next : Host) (sound : Sound host) (taken : readerStep capacity host = some next) : Sound next := by
  have fine := sound.reader
  have unreset := reader_unreset host sound
  unfold readerStep at taken
  cases here : host.reader with
  | readW width height =>
      rw [here] at taken unreset
      obtain rfl := Option.some.inj taken
      exact sound_reader host _ sound (unreset nofun) nofun (Or.inl rfl)
  | readR width height iw =>
      rw [here] at taken unreset fine
      obtain rfl := Option.some.inj taken
      by_cases ready : host.area.r ≠ iw
      · rw [if_pos ready]
        refine sound_reader host _ sound (unreset nofun) nofun ?_
        intro unread
        have even := (sound.counted (unreset nofun)).mp unread
        obtain own | own := fine
        · exact ready (even.symm.trans own.symm)
        · exact ready own.symm
      · rw [if_neg ready]
        exact sound_reader host _ sound (unreset nofun) nofun trivial
  | copyW width height =>
      rw [here] at taken unreset fine
      obtain rfl := Option.some.inj taken
      exact sound_reader host _ sound (unreset nofun) nofun ⟨rfl, fine⟩
  | copyR width height v =>
      rw [here] at taken
      obtain rfl := Option.some.inj taken
      exact sound_acknowledged host width height v sound here
  | takeLength width height =>
      rw [here] at taken unreset fine
      obtain rfl := Option.some.inj taken
      split
      · obtain ⟨free, id, kept⟩ := fine
        exact sound_reader host _ sound (unreset nofun) (fun _ => by rw [here]; rfl) ⟨free, id, kept, rfl⟩
      · exact sound_reader host _ sound (unreset nofun) nofun trivial
  | takeWidth width height length =>
      rw [here] at taken unreset fine
      obtain rfl := Option.some.inj taken
      split
      · obtain ⟨free, id, kept, same⟩ := fine
        exact sound_reader host _ sound (unreset nofun) (fun _ => by rw [here]; rfl) ⟨free, id, kept, same, rfl⟩
      · exact sound_reader host _ sound (unreset nofun) nofun trivial
  | takeHeight width height length gotWidth =>
      rw [here] at taken unreset fine
      obtain rfl := Option.some.inj taken
      split
      · obtain ⟨free, id, kept, rfl, rfl⟩ := fine
        refine sound_reader host _ sound (unreset nofun) (fun _ => by rw [here]; rfl) ⟨free, id, kept, rfl, ?_, ?_⟩
        · rw [kept.holds.length]
          rfl
        · intro stamp listed
          rw [kept.holds.length, kept.holds.width, kept.holds.height] at listed
          simpa using listed
      · exact sound_reader host _ sound (unreset nofun) nofun trivial
  | consuming length position stamps =>
      rw [here] at taken unreset fine
      obtain ⟨inside, rfl⟩ := Option.ite_some_none_eq_some.mp taken
      obtain ⟨free, id, kept, rfl, head, whole⟩ := fine
      refine sound_reader host _ sound (unreset nofun) (fun _ => by rw [here]; rfl) ⟨free, id, kept, rfl, ?_, ?_⟩
      · rw [List.head?_append, head]
        rfl
      · intro stamp listed
        obtain old | new := List.mem_append.mp listed
        · exact whole stamp old
        · rw [List.mem_singleton.mp new]
          exact kept.holds.frame position inside
  | blocked =>
      rw [here] at taken unreset
      obtain rfl := Option.some.inj taken
      exact sound_reader host _ sound (unreset nofun) nofun trivial
  | idle =>
      rw [here] at taken
      cases taken

section
variable (host : Host)

theorem sound_finish (length position : Nat) (stamps : List (Option Nat)) (sound : Sound host)
    (here : host.reader = .consuming length position stamps) : Sound { host with reader := .idle, uses := host.uses ++ [stamps] } := by
  have off := reader_unreset host sound (by rw [here]; exact nofun)
  have fine := sound.reader
  rw [here] at fine
  obtain ⟨⟨_, unread⟩, id, kept, _, head, whole⟩ := fine
  have waits : host.writer.engaged = false := by
    by_contra engaged
    have rests := sound.disjoint (Bool.of_not_eq_false engaged)
    rw [here] at rests
    cases rests
  refine ⟨fun engaged => absurd (waits.symm.trans engaged) nofun, sound.counted, ?_, ?_, trivial, ?_, ?_, ?_, sound.kept, sound.apart⟩
  · intro _ other is
    rw [show host.published = some other from is] at unread
    cases unread
  · exact writer_rests host.area host.reset host.published host.published host.writes host.writes host.uses _ host.writer waits sound.writer
  · intro position is
    rw [show host.reset = some position from is] at off
    cases off
  · intro use listed
    obtain old | new := List.mem_append.mp listed
    · exact sound.used use old
    · rw [List.mem_singleton.mp new]
      exact ⟨id, kept.known, head, whole⟩
  · refine List.pairwise_append.mpr ⟨sound.once, List.pairwise_singleton _ _, ?_⟩
    intro use listed other last
    rw [List.mem_singleton.mp last, head]
    exact kept.unused use listed

theorem sound_reset (sound : Sound host) (unlocked : host.reader.locked = false)
    (free : host.writer.busy = false) (rests : host.reader.taken = false) : Sound { host with reset := some 0 } := by
  have idle : host.reader = .idle := by
    cases reader : host.reader with
    | idle => rfl
    | consuming length position stamps =>
        rw [reader] at rests
        cases rests
    | _ =>
        rw [reader] at unlocked
        cases unlocked
  refine ⟨sound.disjoint, nofun, nofun, ?_, ?_, ?_, sound.used, sound.once, sound.kept, sound.apart⟩
  · exact writer_reset host.area (some 0) host.published host.writes host.uses host.writer free nofun
  · exact reader_rests host.area host.area host.reset (some 0) host.published _ _ _ _ host.reader rests rfl rfl sound.reader
  · intro position is
    obtain rfl := Option.some.inj is
    exact ⟨idle, free, fun late => absurd late (Nat.not_lt_zero 4), fun late => absurd late (Nat.not_lt_zero 5)⟩

theorem sound_clear (position : Nat) (sound : Sound host) (here : host.reset = some position) :
    Sound { host with reset := some (position + 1), area := host.area.clear position, overwritten := host.overwritten || host.reader.taken } := by
  obtain ⟨idle, free, first, second⟩ := sound.resetting position here
  refine ⟨sound.disjoint, nofun, nofun, ?_, ?_, ?_, sound.used, sound.once, ?_, sound.apart⟩
  · exact writer_reset _ (some (position + 1)) host.published host.writes host.uses host.writer free nofun
  · dsimp only
    rw [idle]
    trivial
  · intro next is
    obtain rfl := Option.some.inj is
    exact ⟨idle, free, clear_counters host.area position first second⟩
  · dsimp only
    rw [sound.kept, idle]
    rfl

theorem sound_cleared (position : Nat) (sound : Sound host) (here : host.reset = some position) (done : 6 ≤ position) :
    Sound { host with reset := none, area := { host.area with wouldblock := 1 }, published := none } := by
  obtain ⟨idle, free, first, second⟩ := sound.resetting position here
  have even : host.area.w = host.area.r := (first (by omega)).trans (second (by omega)).symm
  refine ⟨sound.disjoint, fun _ => iff_of_true rfl even, nofun, ?_, ?_, nofun, sound.used, sound.once, sound.kept, sound.apart⟩
  · exact writer_reset _ none none host.writes host.uses host.writer free (fun _ => ⟨even, rfl⟩)
  · dsimp only
    rw [idle]
    trivial

theorem sound_step (label : Label) (next : Host) (sound : Sound host) (orderly : Orderly capacity host label)
    (taken : step capacity host label = some next) : Sound next := by
  cases label with
  | recreate =>
      dsimp only [step] at taken
      split at taken
      · obtain rfl := Option.some.inj taken
        exact { sound with }
      · cases taken
  | turn =>
      dsimp only [step] at taken
      split at taken
      · obtain rfl := Option.some.inj taken
        split
        · exact sound_writer host .checkW sound nofun trivial (fun _ _ => rfl)
        · rename_i unchecked
          obtain ⟨rests, even⟩ := orderly (Bool.of_not_eq_true unchecked)
          exact sound_writer host .capturing sound (fun _ => rests) (fun off => (sound.counted off).mpr (even off)) (fun _ _ => rfl)
      · cases taken
  | capture captured =>
      dsimp only [step] at taken
      split at taken
      · rename_i here
        obtain rfl := Option.some.inj taken
        split
        · exact sound_writer host .exited sound nofun trivial (fun _ _ => rfl)
        · rename_i fits
          exact sound_capture host captured sound here (orderly (Nat.le_of_not_lt fits))
      · cases taken
  | miss wouldblock =>
      dsimp only [step] at taken
      split at taken
      · obtain rfl := Option.some.inj taken
        exact sound_writer host (.missing wouldblock) sound nofun trivial (fun _ _ => rfl)
      · cases taken
  | writer => exact sound_writer_step capacity host next sound orderly taken
  | frame width height =>
      dsimp only [step] at taken
      split at taken
      · obtain ⟨off, rfl⟩ := Option.ite_some_none_eq_some.mp taken
        exact sound_reader host _ sound off nofun trivial
      · cases taken
  | reader => exact sound_reader_step capacity host next sound taken
  | finish =>
      dsimp only [step] at taken
      split at taken
      · rename_i length position stamps here
        obtain rfl := Option.some.inj taken
        exact sound_finish host length position stamps sound here
      · cases taken
  | reset =>
      obtain ⟨⟨_, unlocked⟩, rfl⟩ := Option.ite_some_none_eq_some.mp taken
      exact sound_reset host sound unlocked orderly.1 orderly.2
  | clear =>
      dsimp only [step] at taken
      split at taken
      · rename_i position here
        split at taken
        · obtain rfl := Option.some.inj taken
          exact sound_clear host position sound here
        · rename_i done
          obtain rfl := Option.some.inj taken
          exact sound_cleared host position sound here (by omega)
      · cases taken

end

theorem sound_start (counter : Int32) : Sound (start counter) :=
  ⟨nofun, fun _ => iff_of_true rfl rfl, nofun, trivial, trivial, nofun, nofun, List.Pairwise.nil, rfl, rfl⟩

theorem sound_handed (host : Host) (sound : Sound host) : HandedOver host := by
  have fine := sound.reader
  have used : ∀ use ∈ host.uses, ∃ id, ∀ stamp ∈ use, stamp = some id := by
    intro use listed
    obtain ⟨id, _, _, whole⟩ := sound.used use listed
    exact ⟨id, whole⟩
  cases here : host.reader with
  | consuming length position stamps =>
      rw [here] at fine
      obtain ⟨_, id, kept, _, head, whole⟩ := fine
      have returned : host.returned = host.uses ++ [stamps] := by
        unfold Host.returned
        rw [here]
      refine ⟨?_, ?_, sound.kept, sound.apart⟩
      · rw [returned]
        exact List.forall_mem_append.mpr ⟨used, List.forall_mem_singleton.mpr ⟨id, whole⟩⟩
      · rw [returned]
        refine List.pairwise_append.mpr ⟨sound.once, List.pairwise_singleton _ _, ?_⟩
        intro use listed other last
        rw [List.mem_singleton.mp last, head]
        exact kept.unused use listed
  | _ =>
      have returned : host.returned = host.uses := by
        unfold Host.returned
        rw [here]
      exact ⟨by rw [returned]; exact used, by rw [returned]; exact sound.once, sound.kept, sound.apart⟩

theorem frames_handed_over (counter : Int32) (past : List (Host × Label)) (host : Host)
    (traced : Machine.Traced (step capacity) (start counter) past host) (orderly : ∀ entry ∈ past, Orderly capacity entry.1 entry.2) :
    (∀ entry ∈ past, HandedOver entry.1) ∧ HandedOver host := by
  obtain ⟨before, here⟩ := Machine.traced_kept (step capacity) Sound (Orderly capacity) (start counter) host past (sound_start counter)
    (sound_step capacity) traced orderly
  exact ⟨fun entry listed => sound_handed entry.1 (before entry listed), sound_handed host here⟩

end

instance (capacity : Nat) (host : Host) (label : Label) : Decidable (Orderly capacity host label) := by
  cases label with
  | writer =>
      unfold Orderly
      dsimp only
      cases host.writer <;> infer_instance
  | _ => unfold Orderly; infer_instance

def pixel (byte : UInt8) : CapturedFrame := { width := 1, height := 1, data := [byte] }

def writing (byte : UInt8) : List Label := .capture (pixel byte) :: List.replicate 8 .writer

-- Two frames are handed over one after the other, with the counter at its end.
def twoFrames : List Label :=
  [Label.turn] ++ writing 1 ++ [Label.frame 1 1] ++ List.replicate 8 Label.reader ++ [Label.finish, .turn, .writer, .writer] ++ writing 2 ++
    [Label.frame 1 1] ++ List.replicate 8 Label.reader ++ [Label.finish]

theorem two_frames_run : (Machine.run (step 1) (start Int32.maxValue) twoFrames).isSome = true := by decide

theorem frames_handed_over_twice :
    ((Machine.run (step 1) (start Int32.maxValue) twoFrames).get two_frames_run).uses.length = 2 ∧
      (∀ entry ∈ Machine.trace (step 1) (start Int32.maxValue) twoFrames, HandedOver entry.1) ∧
        HandedOver ((Machine.run (step 1) (start Int32.maxValue) twoFrames).get two_frames_run) := by
  refine ⟨by decide, ?_⟩
  apply frames_handed_over 1 Int32.maxValue _ _ (Machine.traced_run (step 1) (start Int32.maxValue) twoFrames two_frames_run)
  decide

-- The reader has acknowledged the first frame and read its info when the second one is written.
def torn : List Label :=
  [Label.turn] ++ writing 1 ++ [Label.frame 1 1] ++ List.replicate 7 Label.reader ++ [Label.turn, .writer, .writer, .capture (pixel 2)] ++
    List.replicate 4 Label.writer ++ [Label.reader, .finish]

-- The counters are reset between the two reads and the write of an increase that wraps.
def collides : List Label :=
  [Label.turn, .capture (pixel 1)] ++ List.replicate 7 Label.writer ++ [Label.reset] ++ List.replicate 8 Label.clear ++ [Label.writer]

theorem torn_use : (Machine.run (step 1) (start 0) torn).map (fun host => (host.uses, host.overwritten)) = some ([[some 0, some 0, some 0, some 1]], true) := by
  decide

theorem counters_collide :
    (Machine.run (step 1) (start Int32.maxValue) collides).map (fun host => (host.collided, host.published, host.area.w, host.area.r)) =
      some (true, some 0, 0, 0) := by
  decide

theorem frames_not_handed_over :
    (∃ host, Machine.Reachable (step 1) (start 0) host ∧ ¬ (∀ use ∈ host.returned, ∃ id, ∀ stamp ∈ use, stamp = some id)) ∧
      ∃ host, Machine.Reachable (step 1) (start Int32.maxValue) host ∧ host.collided = true := by
  constructor
  · obtain ⟨host, ran, state⟩ := Option.map_eq_some_iff.mp torn_use
    obtain ⟨uses, _⟩ := Prod.mk.inj state
    refine ⟨host, ⟨torn, ran⟩, fun whole => ?_⟩
    have listed : [some 0, some 0, some 0, some 1] ∈ host.returned := by
      have earlier : [some 0, some 0, some 0, some 1] ∈ host.uses := by
        rw [uses]
        exact List.mem_singleton_self _
      unfold Host.returned
      split
      · exact List.mem_append_left _ earlier
      · exact earlier
    obtain ⟨id, same⟩ := whole _ listed
    have first := same (some 0) (by simp)
    have last := same (some 1) (by simp)
    rw [← first] at last
    cases last
  · obtain ⟨host, ran, state⟩ := Option.map_eq_some_iff.mp counters_collide
    exact ⟨host, ⟨collides, ran⟩, (Prod.mk.inj state).1⟩

end GotechDesk.PortableService
