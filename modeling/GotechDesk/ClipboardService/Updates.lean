import GotechDesk.Machine
import GotechDesk.ClipboardService.Proto

set_option autoImplicit false

namespace GotechDesk.ClipboardService

inductive ClipboardFormat where
  | text
  | html
  | rtf
  | imageRgba
  | imagePng
  | imageSvg
  | fileUrl
  | special (name : String)
deriving DecidableEq, Repr

def ownerFormat : String := "dyn.com.rustdesk.owner"

def excelXmlSpreadsheet : String := "XML Spreadsheet"

inductive ClipboardSide where
  | host
  | client
deriving DecidableEq, Repr

def ClipboardSide.ownerData : ClipboardSide → Bytes
  | .host => [0b01]
  | .client => [0b10]

def isOwner : Bytes → Bool
  | [] => false
  | first :: _ => first &&& 0b11 ≠ 0

-- `reads` is what the system clipboard gives for a list of formats after it was given some data.
structure Platform where
  zip : Compression
  fileCopyPaste : Bool
  reads : List ClipboardData → List ClipboardFormat → List ClipboardData

def Platform.supportedFormats (platform : Platform) : List ClipboardFormat :=
  [ClipboardFormat.text, .html, .rtf, .imageRgba, .imagePng, .imageSvg] ++ (if platform.fileCopyPaste then [ClipboardFormat.fileUrl] else []) ++
    [ClipboardFormat.special excelXmlSpreadsheet, .special ownerFormat]

def appendOwnerMarker (data : List ClipboardData) (side : ClipboardSide) : List ClipboardData := data ++ [ClipboardData.special ownerFormat side.ownerData]

def getFormats (platform : Platform) (board : List ClipboardData) (formats : List ClipboardFormat) : List ClipboardData :=
  (platform.reads board formats).filter (fun c => c ≠ .none)

def ClipboardData.marks : ClipboardData → Bool
  | .special s d => s = ownerFormat && isOwner d
  | _ => false

def ClipboardData.synchronized : ClipboardData → Bool
  | .special s _ => s ≠ ownerFormat
  | .text s => s ≠ ""
  | _ => true

def getFormatsFilter (platform : Platform) (board : List ClipboardData) (formats : List ClipboardFormat) (force : Bool) : List ClipboardData :=
  let data := getFormats platform board formats
  if data = [] then data
  else if !force && data.any ClipboardData.marks then []
  else data.filter ClipboardData.synchronized

def ClipboardData.isFileUrl : ClipboardData → Bool
  | .fileUrl _ => true
  | _ => false

def getClipboard (platform : Platform) (board : List ClipboardData) (force : Bool) : List ClipboardData :=
  let data := getFormatsFilter platform board platform.supportedFormats force
  if platform.fileCopyPaste && data.any ClipboardData.isFileUrl then [] else data

-- Both check_clipboard and peek_clipboard: what is sent to the peer, if anything.
def readClipboardMessage (platform : Platform) (board : List ClipboardData) (force : Bool) : Option (List Clipboard) :=
  let content := getClipboard platform board force
  if content = [] then none else some (createMultiClipboards platform.zip content)

-- An accepted clipboard message and the thread that is started for it.
structure Update where
  number : Nat
  clipboards : List Clipboard
  side : ClipboardSide
deriving DecidableEq, Repr

def Update.data (platform : Platform) (update : Update) : List ClipboardData := fromMultiClipboards platform.zip update.clipboards

def Update.written (platform : Platform) (update : Update) : List ClipboardData := appendOwnerMarker (update.data platform) update.side

-- `board` is what an update has last put on the system clipboard, and `context` says that the
-- clipboard context exists. `returned` holds what reads with force false have made of it.
structure Updates where
  accepted : Nat
  last : Option Update
  threads : List Update
  context : Bool
  board : Option (List ClipboardData)
  returned : List (List Clipboard)
deriving DecidableEq, Repr

def noUpdates : Updates := { accepted := 0, last := none, threads := [], context := false, board := none, returned := [] }

inductive UpdateLabel where
  | accept (clipboards : List Clipboard) (side : ClipboardSide)
  | apply (number : Nat) (created : Bool)
  | read (occupied : Bool)
deriving DecidableEq, Repr

def Updates.accept (host : Updates) (clipboards : List Clipboard) (side : ClipboardSide) : Updates :=
  let update := { number := host.accepted + 1, clipboards := clipboards, side := side }
  { host with
    accepted := host.accepted + 1
    last := some update
    threads := host.threads ++ [update] }

-- The thread of an update, which holds the lock of the context while it writes.
def Updates.apply (platform : Platform) (host : Updates) (update : Update) (created : Bool) : Updates :=
  let ended := { host with threads := host.threads.erase update }
  if update.data platform = [] then ended
  else if !host.context && !created then ended
  else { ended with context := true, board := some (update.written platform) }

def Updates.read (platform : Platform) (host : Updates) : Updates :=
  { host with
    returned := host.returned ++ (host.board.bind (fun board => readClipboardMessage platform board false)).toList }

def Updates.step (platform : Platform) (host : Updates) : UpdateLabel → Option Updates
  | .accept clipboards side => some (host.accept clipboards side)
  | .apply number created => (host.threads.find? (fun update => update.number = number)).map (fun update => host.apply platform update created)
  | .read occupied => some (if occupied then host else host.read platform)

structure Followed (platform : Platform) (host : Updates) : Prop where
  settled : host.threads = [] → ∀ update ∈ host.last.toList, host.board = some (update.written platform)
  silent : host.returned = []

-- The system clipboard gives an owner entry back for what is written.
def Marked (platform : Platform) (written : List ClipboardData) : Prop :=
  (getFormats platform written platform.supportedFormats).any ClipboardData.marks = true

instance (platform : Platform) (written : List ClipboardData) : Decidable (Marked platform written) :=
  inferInstanceAs (Decidable (_ = true))

-- The last message can be decoded and no other one is written after it, the context can be made,
-- and the owner entry of what a message leads to is given back.
def InTurn (platform : Platform) (host : Updates) : UpdateLabel → Prop
  | .accept clipboards side =>
      let data := fromMultiClipboards platform.zip clipboards
      data ≠ [] → Marked platform (appendOwnerMarker data side)
  | .apply number created =>
      (host.context = true ∨ created = true) ∧
        ∀ update ∈ host.last.toList,
          if number = update.number then update.data platform ≠ []
          else update ∈ host.threads ∨ ∀ other ∈ host.threads, other.number = number → other.data platform = []
  | .read _ => True

instance (platform : Platform) (host : Updates) (label : UpdateLabel) : Decidable (InTurn platform host label) :=
  match label with
  | .accept clipboards side =>
      inferInstanceAs (Decidable (fromMultiClipboards platform.zip clipboards ≠ [] →
        Marked platform (appendOwnerMarker (fromMultiClipboards platform.zip clipboards) side)))
  | .apply number created =>
      inferInstanceAs (Decidable ((host.context = true ∨ created = true) ∧
        ∀ update ∈ host.last.toList,
          if number = update.number then update.data platform ≠ []
          else update ∈ host.threads ∨ ∀ other ∈ host.threads, other.number = number → other.data platform = []))
  | .read _ => inferInstanceAs (Decidable True)

-- A read gives nothing exactly when an owner entry is given back or nothing else is.
theorem read_message_none (platform : Platform) (board : List ClipboardData) :
    readClipboardMessage platform board false = none ↔ Marked platform board ∨ getClipboard platform board true = [] := by
  unfold readClipboardMessage Marked
  have split : getClipboard platform board false = [] ↔
      (getFormats platform board platform.supportedFormats).any ClipboardData.marks = true ∨ getClipboard platform board true = [] := by
    unfold getClipboard getFormatsFilter
    by_cases empty : getFormats platform board platform.supportedFormats = []
    · simp [empty]
    · by_cases marked : (getFormats platform board platform.supportedFormats).any ClipboardData.marks = true
      · simp [empty, marked]
      · simp [empty, marked]
  rw [← split]
  simp

structure Led (platform : Platform) (host : Updates) : Prop where
  marked : ∀ update ∈ host.threads, update.data platform ≠ [] → Marked platform (update.written platform)
  board : ∀ board, host.board = some board → Marked platform board
  silent : host.returned = []
  numbered : ∀ update ∈ host.threads, update.number ≤ host.accepted
  newest : ∀ update, host.last = some update → update.number = host.accepted ∧
    ∀ other ∈ host.threads, other.number = update.number → other = update
  last : ∀ update, host.last = some update → update ∈ host.threads ∨ host.board = some (update.written platform)

section
variable (platform : Platform) (host : Updates)

theorem accept_led (clipboards : List Clipboard) (side : ClipboardSide) (led : Led platform host)
    (inTurn : InTurn platform host (.accept clipboards side)) : Led platform (host.accept clipboards side) := by
  refine ⟨?_, led.board, led.silent, ?_, ?_, ?_⟩
  · exact List.forall_mem_append.mpr ⟨led.marked, List.forall_mem_singleton.mpr inTurn⟩
  · refine List.forall_mem_append.mpr ⟨fun update member => ?_, List.forall_mem_singleton.mpr (Nat.le_refl _)⟩
    exact Nat.le_succ_of_le (led.numbered update member)
  · intro update isLast
    obtain rfl := Option.some.inj isLast
    refine ⟨rfl, fun other member same => ?_⟩
    obtain earlier | here := List.mem_append.mp member
    · have bound := led.numbered other earlier
      dsimp only at same
      omega
    · exact List.mem_singleton.mp here
  · intro update isLast
    obtain rfl := Option.some.inj isLast
    exact .inl (List.mem_append_right _ List.mem_cons_self)

theorem apply_led (update : Update) (created : Bool) (led : Led platform host)
    (member : update ∈ host.threads) (inTurn : InTurn platform host (.apply update.number created)) :
    Led platform (host.apply platform update created) := by
  obtain ⟨context, inTurn⟩ := inTurn
  have kept : ∀ other ∈ host.threads.erase update, other ∈ host.threads := fun other => List.mem_of_mem_erase
  have newest : ∀ last, host.last = some last → last.number = host.accepted ∧
      ∀ other ∈ host.threads.erase update, other.number = last.number → other = last := by
    intro last isLast
    obtain ⟨number, same⟩ := led.newest last isLast
    exact ⟨number, fun other among => same other (kept other among)⟩
  unfold Updates.apply
  by_cases empty : update.data platform = []
  · rw [if_pos empty]
    refine ⟨fun other among => led.marked other (kept other among), led.board, led.silent, fun other among => led.numbered other (kept other among),
      newest, fun last isLast => ?_⟩
    obtain waiting | written := led.last last isLast
    · left
      by_cases here : update = last
      · have turn := inTurn last (by rw [isLast]; exact List.mem_cons_self)
        rw [if_pos (by rw [here]), ← here] at turn
        exact absurd empty turn
      · exact (List.mem_erase_of_ne (Ne.symm here)).mpr waiting
    · exact .inr written
  · rw [if_neg empty, if_neg (by obtain made | made := context <;> simp [made])]
    refine ⟨fun other among => led.marked other (kept other among), fun board isBoard => ?_, led.silent,
      fun other among => led.numbered other (kept other among), newest, fun last isLast => ?_⟩
    · obtain rfl := Option.some.inj isBoard
      exact led.marked update member empty
    · by_cases here : update = last
      · rw [here]
        exact .inr rfl
      · have turn := inTurn last (by rw [isLast]; exact List.mem_cons_self)
        have other : update.number ≠ last.number := fun same => here ((led.newest last isLast).2 update member same)
        rw [if_neg other] at turn
        obtain waiting | undecodable := turn
        · exact .inl ((List.mem_erase_of_ne (Ne.symm here)).mpr waiting)
        · exact absurd (undecodable update member rfl) empty

theorem step_led (label : UpdateLabel) (next : Updates) (led : Led platform host)
    (inTurn : InTurn platform host label) (taken : host.step platform label = some next) : Led platform next := by
  cases label with
  | accept clipboards side =>
      obtain rfl := Option.some.inj taken
      exact accept_led platform host clipboards side led inTurn
  | apply number created =>
      obtain ⟨update, found, rfl⟩ := Option.map_eq_some_iff.mp taken
      have same : update.number = number := by simpa using List.find?_some found
      exact apply_led platform host update created led (List.mem_of_find?_eq_some found) (same ▸ inTurn)
  | read occupied =>
      obtain rfl := Option.some.inj taken
      cases occupied with
      | true => exact led
      | false =>
          refine { led with silent := ?_ }
          change host.returned ++ _ = []
          rw [led.silent, List.nil_append]
          obtain none | ⟨board, isBoard⟩ := Option.eq_none_or_eq_some host.board
          · rw [none]
            rfl
          · rw [isBoard, Option.bind_some, (read_message_none platform board).mpr (.inl (led.board board isBoard))]
            rfl

end

-- The last accepted message is what stays on the clipboard, nothing written is read back, and the
-- proto form keeps every entry.
theorem updates_followed (platform : Platform) (inverts : ∀ data, platform.zip.decompress (platform.zip.compress data) = data)
    (past : List (Updates × UpdateLabel)) (host : Updates) (traced : Machine.Traced (Updates.step platform) noUpdates past host)
    (inTurn : ∀ entry ∈ past, InTurn platform entry.1 entry.2) :
    (∀ entry ∈ past, Followed platform entry.1) ∧ Followed platform host ∧
      ∀ v : List ClipboardData, (∀ data ∈ v, data.wellFormed) → fromMultiClipboards platform.zip (createMultiClipboards platform.zip v) = v := by
  have start : Led platform noUpdates := ⟨nofun, nofun, rfl, nofun, nofun, nofun⟩
  obtain ⟨before, here⟩ := Machine.traced_kept (Updates.step platform) (Led platform) (InTurn platform) noUpdates host past start
    (step_led platform) traced inTurn
  have followed : ∀ host, Led platform host → Followed platform host := by
    intro host led
    refine ⟨fun finished update member => ?_, led.silent⟩
    obtain waiting | written := led.last update (by simpa using member)
    · rw [finished] at waiting
      cases waiting
    · exact written
  exact ⟨fun entry member => followed entry.1 (before entry member), followed host here, from_create platform.zip inverts⟩

-- The data a clipboard is given under a format is what it gives back, the first of several.
def ClipboardData.format : ClipboardData → Option ClipboardFormat
  | .text _ => some .text
  | .rtf _ => some .rtf
  | .html _ => some .html
  | .image (.rgba _ _ _) => some .imageRgba
  | .image (.png _) => some .imagePng
  | .image (.svg _) => some .imageSvg
  | .fileUrl _ => some .fileUrl
  | .special name _ => some (.special name)
  | .none => Option.none

def plainPlatform : Platform :=
  { zip := { compress := id, decompress := id }, fileCopyPaste := false,
    reads := fun board formats => formats.filterMap (fun format => board.find? (fun data => data.format = some format)) }

def textMessage (content : Bytes) : List Clipboard :=
  [{ compress := false, content := content, width := 0, height := 0, format := formatText, specialName := "" }]

-- Two messages, each with its own thread; a message names the owner format too.
def bothInTurn : List UpdateLabel :=
  [.accept (textMessage [65]) .host,
   .accept (textMessage [66] ++ [specialToProto plainPlatform.zip [2, 0] ownerFormat]) .host, .apply 1 true, .read false, .apply 2 false,
   .read true, .read false]

theorem updates_followed_both :
    (∀ entry ∈ Machine.trace (Updates.step plainPlatform) noUpdates bothInTurn, Followed plainPlatform entry.1) ∧
      Followed plainPlatform ((Machine.run (Updates.step plainPlatform) noUpdates bothInTurn).get (by decide +kernel)) ∧
      ∀ v : List ClipboardData, (∀ data ∈ v, data.wellFormed) → fromMultiClipboards plainPlatform.zip (createMultiClipboards plainPlatform.zip v) = v := by
  apply updates_followed plainPlatform (fun _ => rfl) _ _ (Machine.traced_run _ _ _ (by decide))
  decide

-- The thread of the first message gets the lock last.
def overtaken : List UpdateLabel :=
  [.accept (textMessage [65]) .host, .accept (textMessage [66]) .host, .apply 2 true, .apply 1 true]

theorem older_message_stays : ∃ host, Machine.Reachable (Updates.step plainPlatform) noUpdates host ∧ host.threads = [] ∧
    host.board = some [.text "A", .special ownerFormat [1]] ∧ ¬ Followed plainPlatform host := by
  refine ⟨_, Machine.reachable_run _ _ overtaken (by decide), by decide, by decide, fun followed => ?_⟩
  exact absurd (followed.settled (by decide)) (by decide)

end GotechDesk.ClipboardService
