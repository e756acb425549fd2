import GotechDesk.Connection.ServiceAccess

set_option autoImplicit false

namespace GotechDesk.Connection

section
variable (setup : Setup) (s : ServedConn)

-- The flags a service follows once the monitor services are subscribed.
def wanted (perms : Permissions) : Service → Option Bool
  | .clipboard => some (perms.canSubClipboardService setup)
  | .fileClipboard => some (perms.canSubFileClipboardService setup)
  | .audio => some perms.audioEnabled
  | .cursor => some (perms.peerKeyboardEnabled || perms.showRemoteCursor)
  | .position => some perms.showRemoteCursor
  | .windowFocus => some (perms.followRemoteWindow && !perms.multiUiSession)
  | .display | .printer | .monitor _ | .camera _ => none

def AlignedAt (service : Service) : Prop :=
  ∀ want, wanted setup s.perms service = some want → service ∈ s.server.registered → s.server.subscribed service = want

def Aligned : Prop := ∀ service, AlignedAt setup s service

def Following : Prop := s.servicesSubed = true → s.conn.phase = .serving → Aligned setup s

theorem aligned_same (next : ServedConn) (service : Service) (perms : wanted setup next.perms service = wanted setup s.perms service)
    (registered : service ∈ next.server.registered ↔ service ∈ s.server.registered)
    (subscribed : next.server.subscribed service = s.server.subscribed service) :
    AlignedAt setup next service ↔ AlignedAt setup s service := by
  simp only [AlignedAt, perms, registered, subscribed]

theorem aligned_perms (perms : Permissions) (service : Service) (same : wanted setup perms service = wanted setup s.perms service) :
    AlignedAt setup { s with perms := perms } service ↔ AlignedAt setup s service :=
  aligned_same setup s _ service same Iff.rfl rfl

theorem aligned_other (service other : Service) (sub : Bool) (different : service ≠ other) :
    AlignedAt setup (s.subscribe other sub) service ↔ AlignedAt setup s service := by
  refine aligned_same setup s (s.subscribe other sub) service rfl ?_ ?_
  · rw [ServedConn.subscribe, subscribe_registered]
  · rw [ServedConn.subscribe, subscribe_subscribed, if_neg (fun same => different same.1)]

theorem aligned_told (service : Service) (sub : Bool) :
    AlignedAt setup (s.subscribe service sub) service ↔
      (service ∈ s.server.registered → ∀ want, wanted setup s.perms service = some want → sub = want) := by
  unfold AlignedAt
  simp only [ServedConn.subscribe, subscribe_registered, subscribe_subscribed, true_and]
  constructor
  · intro aligned known want wants
    rw [← aligned want wants known, if_pos known]
  · intro told want wants known
    rw [if_pos known]
    exact told known want wants

theorem aligned_right (service : Service) (sub : Bool) (wants : wanted setup s.perms service = some sub) :
    AlignedAt setup (s.subscribe service sub) service := by
  rw [aligned_told]
  intro _ want same
  exact Option.some.inj (wants.symm.trans same)

-- Each change of an option tells the services that follow it, but for the window focus
-- and, after a change of the clipboard, the file clipboard.
theorem set_cursor_aligned (value : Bool) (service : Service) (aligned : AlignedAt setup s service) :
    AlignedAt setup (s.setShowRemoteCursor value) service := by
  cases service with
  | position => exact aligned_right setup _ .position value rfl
  | cursor => exact (aligned_other setup _ .cursor .position value (by simp)).mpr (aligned_right setup _ .cursor _ rfl)
  | _ =>
      refine (aligned_other setup _ _ .position value (by simp)).mpr ?_
      refine (aligned_other setup _ _ .cursor _ (by simp)).mpr ?_
      exact (aligned_perms setup s _ _ rfl).mpr aligned

theorem set_window_aligned (value : Bool) (service : Service) (different : service ≠ .windowFocus) :
    AlignedAt setup (s.setFollowRemoteWindow value) service ↔ AlignedAt setup s service := by
  refine (aligned_other setup _ service .windowFocus value different).trans (aligned_perms setup s _ service ?_)
  cases service with
  | windowFocus => exact (different rfl).elim
  | _ => rfl

theorem set_window_told (value : Bool) : AlignedAt setup (s.setFollowRemoteWindow value) .windowFocus ↔
    (.windowFocus ∈ s.server.registered → value = true → s.perms.multiUiSession = false) := by
  refine (aligned_told setup _ .windowFocus value).trans ?_
  simp only [wanted, Option.some.injEq, forall_eq']
  cases value <;> simp

theorem audio_told (service : Service) (plain : s.isAuthedViewCameraConn = false) (aligned : service ≠ .audio → AlignedAt setup s service) :
    AlignedAt setup s.subscribeAudio service := by
  unfold ServedConn.subscribeAudio
  rw [plain, if_neg (by simp)]
  by_cases audio : service = .audio
  · rw [audio]
    exact aligned_right setup s .audio _ rfl
  · exact (aligned_other setup s service .audio _ audio).mpr (aligned audio)

theorem set_audio_aligned (value : Bool) (service : Service) (plain : s.isAuthedViewCameraConn = false)
    (aligned : AlignedAt setup s service) : AlignedAt setup (s.setDisableAudio value) service := by
  refine audio_told setup _ service plain ?_
  intro different
  refine (aligned_perms setup s _ service ?_).mpr aligned
  cases service with
  | audio => exact (different rfl).elim
  | _ => rfl

theorem file_clipboard_other (service : Service) (different : service ≠ .fileClipboard) :
    AlignedAt setup (s.subscribeFileClipboard setup) service ↔ AlignedAt setup s service := by
  unfold ServedConn.subscribeFileClipboard
  split
  · exact aligned_other setup s service .fileClipboard _ different
  · rfl

theorem file_clipboard_told (files : .fileClipboard ∈ s.server.registered → setup.unixFileCopyPaste = true) :
    AlignedAt setup (s.subscribeFileClipboard setup) .fileClipboard := by
  unfold ServedConn.subscribeFileClipboard
  split
  · exact aligned_right setup s .fileClipboard _ rfl
  · rename_i built
    intro _ _ known
    exact (built (files known)).elim

theorem set_files_aligned (value : Bool) (service : Service) (files : .fileClipboard ∈ s.server.registered → setup.unixFileCopyPaste = true)
    (aligned : service ≠ .fileClipboard → AlignedAt setup s service) : AlignedAt setup (s.setEnableFileTransfer setup value) service := by
  by_cases file : service = .fileClipboard
  · rw [file]
    exact file_clipboard_told setup _ files
  · refine (file_clipboard_other setup _ service file).mpr ?_
    refine (aligned_perms setup s _ service ?_).mpr (aligned file)
    cases service with
    | fileClipboard => exact (file rfl).elim
    | _ => rfl

theorem set_clipboard_aligned (value : Bool) (service : Service) (different : service ≠ .fileClipboard)
    (aligned : AlignedAt setup s service) : AlignedAt setup (s.setDisableClipboard setup value) service := by
  by_cases clipboard : service = .clipboard
  · rw [clipboard]
    exact aligned_right setup _ .clipboard _ rfl
  · refine (aligned_other setup _ service .clipboard _ clipboard).mpr ?_
    refine (aligned_perms setup s _ service ?_).mpr aligned
    cases service with
    | clipboard => exact (clipboard rfl).elim
    | fileClipboard => exact (different rfl).elim
    | _ => rfl

-- The three services told after a change of the keyboard, whoever makes it.
def ServedConn.tellKeyboard (cursor : Bool) : ServedConn :=
  ((s.subscribeClipboard setup).subscribeFileClipboard setup).subscribe .cursor cursor

theorem keyboard_told (cursor : Bool) (service : Service) (files : .fileClipboard ∈ s.server.registered → setup.unixFileCopyPaste = true)
    (different : service ≠ .cursor) (aligned : service ≠ .clipboard → service ≠ .fileClipboard → AlignedAt setup s service) :
    AlignedAt setup (s.tellKeyboard setup cursor) service := by
  refine (aligned_other setup _ service .cursor cursor different).mpr ?_
  have registered : (s.subscribeClipboard setup).server.registered = s.server.registered := subscribe_registered s.server _ _
  by_cases file : service = .fileClipboard
  · rw [file]
    apply file_clipboard_told
    rw [registered]
    exact files
  · refine (file_clipboard_other setup _ service file).mpr ?_
    by_cases clipboard : service = .clipboard
    · rw [clipboard]
      exact aligned_right setup s .clipboard _ rfl
    · exact (aligned_other setup s service .clipboard _ clipboard).mpr (aligned clipboard file)

theorem keyboard_told_cursor (cursor : Bool) : AlignedAt setup (s.tellKeyboard setup cursor) .cursor ↔
    (.cursor ∈ s.server.registered → cursor = (s.perms.peerKeyboardEnabled || s.perms.showRemoteCursor)) := by
  have frame := file_clipboard_frame setup (s.subscribeClipboard setup)
  refine (aligned_told setup _ .cursor cursor).trans ?_
  rw [frame.1, frame.2.1]
  simp only [wanted, Option.some.injEq, forall_eq', ServedConn.subscribeClipboard, ServedConn.subscribe, subscribe_registered]

theorem set_keyboard_aligned (value : Bool) (service : Service)
    (files : .fileClipboard ∈ s.server.registered → setup.unixFileCopyPaste = true)
    (aligned : service ≠ .fileClipboard → AlignedAt setup s service) : AlignedAt setup (s.setDisableKeyboard setup value) service := by
  by_cases cursor : service = .cursor
  · rw [cursor]
    exact (keyboard_told_cursor setup { s with perms := { s.perms with disableKeyboard := value } } _).mpr (fun _ => rfl)
  · refine keyboard_told setup { s with perms := { s.perms with disableKeyboard := value } } _ service files cursor ?_
    intro clipboard file
    refine (aligned_perms setup s _ service ?_).mpr (aligned file)
    cases service with
    | cursor => exact (cursor rfl).elim
    | clipboard => exact (clipboard rfl).elim
    | fileClipboard => exact (file rfl).elim
    | _ => rfl

theorem set_clipboard_files (value : Bool) : AlignedAt setup (s.setDisableClipboard setup value) .fileClipboard ↔
    AlignedAt setup { s with perms := { s.perms with disableClipboard := value } } .fileClipboard :=
  aligned_other setup _ .fileClipboard .clipboard _ (by simp)

-- A flag the file clipboard follows is changed and the service is not told.
theorem untold_files (perms : Permissions) (aligned : AlignedAt setup s .fileClipboard) :
    AlignedAt setup { s with perms := perms } .fileClipboard ↔
      (.fileClipboard ∈ s.server.registered →
        perms.canSubFileClipboardService setup = s.perms.canSubFileClipboardService setup) := by
  have before : .fileClipboard ∈ s.server.registered →
      s.server.subscribed .fileClipboard = s.perms.canSubFileClipboardService setup := aligned _ rfl
  constructor
  · intro after known
    exact ((after _ rfl known).symm.trans (before known))
  · intro same want wants known
    rw [before known, ← same known]
    exact Option.some.inj wants

theorem given_keeps (option : EnumOrUnknown BoolOption) (change : ServedConn → Bool → ServedConn) (P : ServedConn → Prop)
    (changes : ∀ value, P (change s value)) (start : P s) : P (s.given option change) := by
  unfold ServedConn.given
  split
  · exact changes _
  · exact start

theorem given_same {α : Type} (option : EnumOrUnknown BoolOption) (change : ServedConn → Bool → ServedConn) (view : ServedConn → α)
    (changes : ∀ value, view (change s value) = view s) : view (s.given option change) = view s :=
  given_keeps s option change (fun next => view next = view s) changes rfl

-- What the file clipboard goes by, and what the window focus goes by.
def fileFlags (s : ServedConn) : Bool × Bool × Bool × Bool × List Service :=
  (s.perms.clipboard, s.perms.file, s.perms.disableClipboard, s.perms.enableFileTransfer, s.server.registered)

def windowView (s : ServedConn) : Bool × Bool × Bool × List Service :=
  (s.perms.followRemoteWindow, s.perms.multiUiSession, s.server.subscribed .windowFocus, s.server.registered)

theorem window_view_aligned (next : ServedConn) (same : windowView next = windowView s) :
    AlignedAt setup next .windowFocus ↔ AlignedAt setup s .windowFocus := by
  simp only [windowView, Prod.mk.injEq] at same
  obtain ⟨follows, multi, subscribed, registered⟩ := same
  exact aligned_same setup s next .windowFocus (by simp only [wanted, follows, multi]) (by rw [registered]) subscribed

theorem subscribe_window (service : Service) (sub : Bool) (different : service ≠ .windowFocus) :
    windowView (s.subscribe service sub) = windowView s := by
  simp only [windowView, ServedConn.subscribe, subscribe_registered, subscribe_subscribed, different.symm, false_and, if_false]

theorem audio_window : windowView s.subscribeAudio = windowView s := by
  unfold ServedConn.subscribeAudio
  split
  · split
    · exact subscribe_window s .audio _ (by simp)
    · rfl
  · exact subscribe_window s .audio _ (by simp)

theorem file_clipboard_window : windowView (s.subscribeFileClipboard setup) = windowView s := by
  unfold ServedConn.subscribeFileClipboard
  split
  · exact subscribe_window s .fileClipboard _ (by simp)
  · rfl

theorem tell_keyboard_window (cursor : Bool) : windowView (s.tellKeyboard setup cursor) = windowView s :=
  (subscribe_window _ .cursor cursor (by simp)).trans
    ((file_clipboard_window setup _).trans (subscribe_window s .clipboard _ (by simp)))

theorem subscribe_file_flags (service : Service) (sub : Bool) : fileFlags (s.subscribe service sub) = fileFlags s := by
  simp only [fileFlags, ServedConn.subscribe, subscribe_registered]

theorem audio_file_flags : fileFlags s.subscribeAudio = fileFlags s := by
  unfold ServedConn.subscribeAudio
  split
  · split
    · exact subscribe_file_flags s .audio _
    · rfl
  · exact subscribe_file_flags s .audio _

theorem file_clipboard_flags : fileFlags (s.subscribeFileClipboard setup) = fileFlags s := by
  unfold ServedConn.subscribeFileClipboard
  split
  · exact subscribe_file_flags s .fileClipboard _
  · rfl

-- The stages of update_options, in its order.
def ServedConn.cursorGiven (o : OptionMessage) : ServedConn :=
  if setup.host.target.mobile then s else s.given o.showRemoteCursor ServedConn.setShowRemoteCursor

def ServedConn.filesGiven (o : OptionMessage) : ServedConn :=
  if setup.host.target = .windows ∨ setup.unixFileCopyPaste then s.given o.enableFileTransfer (ServedConn.setEnableFileTransfer setup)
  else s

theorem update_options_eq (o : OptionMessage) : s.updateOptions setup o =
    ((((((s.cursorGiven setup o).given o.followRemoteWindow ServedConn.setFollowRemoteWindow).given o.disableAudio
      ServedConn.setDisableAudio).filesGiven setup o).given o.disableClipboard (ServedConn.setDisableClipboard setup)).given
        o.disableKeyboard (ServedConn.setDisableKeyboard setup)) := rfl

-- An option message that leaves the subscriptions right: the window focus is not asked
-- for by a session with several displays, and the file clipboard is told of a change
-- of the clipboard, or does not change with it.
structure OptionSteady (o : OptionMessage) : Prop where
  window : o.followRemoteWindow.setTo = some true → .windowFocus ∈ s.server.registered → s.perms.multiUiSession = false
  files : ∀ value, o.disableClipboard.setTo = some value → o.disableKeyboard.setTo = none → .fileClipboard ∈ s.server.registered →
    s.perms.clipboard = true → s.perms.file = true → o.enableFileTransfer.setTo.getD s.perms.enableFileTransfer = true →
    setup.oneWayFileTransfer = false → value = s.perms.disableClipboard

section
variable (o : OptionMessage)

theorem cursor_given_window : windowView (s.cursorGiven setup o) = windowView s := by
  unfold ServedConn.cursorGiven
  split
  · rfl
  · apply given_same
    intro value
    exact (subscribe_window _ .position value (by simp)).trans (subscribe_window _ .cursor _ (by simp))

theorem files_given_window : windowView (s.filesGiven setup o) = windowView s := by
  unfold ServedConn.filesGiven
  split
  · apply given_same
    intro value
    exact file_clipboard_window setup _
  · rfl

theorem options_window (aligned : AlignedAt setup s .windowFocus) : AlignedAt setup (s.updateOptions setup o) .windowFocus ↔
      (o.followRemoteWindow.setTo = some true → .windowFocus ∈ s.server.registered → s.perms.multiUiSession = false) := by
  rw [update_options_eq]
  generalize before : s.cursorGiven setup o = first
  have firstView : windowView first = windowView s := before ▸ cursor_given_window setup s o
  generalize asked : first.given o.followRemoteWindow ServedConn.setFollowRemoteWindow = second
  have later : ∀ last : ServedConn, windowView last = windowView second →
      (AlignedAt setup last .windowFocus ↔ AlignedAt setup second .windowFocus) := window_view_aligned setup second
  refine (later _ ?_).trans ?_
  · refine (given_same _ o.disableKeyboard (ServedConn.setDisableKeyboard setup) windowView
      (fun value => tell_keyboard_window setup _ _)).trans ?_
    refine (given_same _ o.disableClipboard (ServedConn.setDisableClipboard setup) windowView
      (fun value => subscribe_window _ .clipboard _ (by simp))).trans ?_
    refine (files_given_window setup _ o).trans ?_
    exact given_same _ o.disableAudio ServedConn.setDisableAudio windowView (fun value => audio_window _)
  · rw [← asked]
    unfold ServedConn.given
    have known := firstView
    simp only [windowView, Prod.mk.injEq] at known
    cases set : o.followRemoteWindow.setTo with
    | none => exact ⟨nofun, fun _ => (window_view_aligned setup s first firstView).mpr aligned⟩
    | some value =>
        refine (set_window_told setup first value).trans ?_
        rw [known.2.1, known.2.2.2]
        simp only [Option.some.injEq]
        exact ⟨fun told on registered => told registered on, fun told registered on => told on registered⟩

theorem cursor_given_flags : fileFlags (s.cursorGiven setup o) = fileFlags s := by
  unfold ServedConn.cursorGiven
  split
  · rfl
  · apply given_same
    intro value
    exact (subscribe_file_flags _ .position value).trans (subscribe_file_flags _ .cursor _)

end

-- What the first four stages keep: every service but the window focus stays aligned.
structure Stage (s next : ServedConn) : Prop where
  conn : next.conn = s.conn
  registered : next.server.registered = s.server.registered
  aligned : ∀ service, service ≠ .windowFocus → AlignedAt setup s service → AlignedAt setup next service

theorem stage_refl : Stage setup s s := ⟨rfl, rfl, fun _ _ => id⟩

theorem stage_trans (next last : ServedConn) (first : Stage setup s next) (second : Stage setup next last) : Stage setup s last :=
  ⟨second.conn.trans first.conn, second.registered.trans first.registered,
    fun service different aligned => second.aligned service different (first.aligned service different aligned)⟩

theorem cursor_given_stage (o : OptionMessage) : Stage setup s (s.cursorGiven setup o) := by
  unfold ServedConn.cursorGiven
  split
  · exact stage_refl setup s
  · apply given_keeps s _ _ (Stage setup s) _ (stage_refl setup s)
    intro value
    refine ⟨rfl, ?_, fun service _ aligned => set_cursor_aligned setup s value service aligned⟩
    exact (subscribe_registered _ _ _).trans (subscribe_registered _ _ _)

theorem window_given_stage (o : OptionMessage) : Stage setup s (s.given o.followRemoteWindow ServedConn.setFollowRemoteWindow) := by
  apply given_keeps s _ _ (Stage setup s) _ (stage_refl setup s)
  intro value
  refine ⟨rfl, subscribe_registered _ _ _, ?_⟩
  exact fun service different aligned => (set_window_aligned setup s value service different).mpr aligned

theorem audio_frame : s.subscribeAudio.conn = s.conn ∧ s.subscribeAudio.server.registered = s.server.registered := by
  unfold ServedConn.subscribeAudio
  split
  · split
    · exact ⟨rfl, subscribe_registered _ _ _⟩
    · exact ⟨rfl, rfl⟩
  · exact ⟨rfl, subscribe_registered _ _ _⟩

theorem audio_given_stage (o : OptionMessage) (plain : s.isAuthedViewCameraConn = false) :
    Stage setup s (s.given o.disableAudio ServedConn.setDisableAudio) := by
  apply given_keeps s _ _ (Stage setup s) _ (stage_refl setup s)
  intro value
  have frame := audio_frame { s with perms := { s.perms with disableAudio := value } }
  exact ⟨frame.1, frame.2, fun service _ aligned => set_audio_aligned setup s value service plain aligned⟩

theorem files_given_stage (o : OptionMessage) (files : .fileClipboard ∈ s.server.registered → setup.unixFileCopyPaste = true) :
    Stage setup s (s.filesGiven setup o) := by
  unfold ServedConn.filesGiven
  split
  · apply given_keeps s _ _ (Stage setup s) _ (stage_refl setup s)
    intro value
    refine ⟨?_, (file_clipboard_frame setup _).1, fun service _ aligned => set_files_aligned setup s value service files (fun _ => aligned)⟩
    exact (subscribe_file_clipboard_grows setup _).conn
  · exact stage_refl setup s

-- The connection before its clipboard and keyboard options are looked at.
def ServedConn.firstOptions (o : OptionMessage) : ServedConn :=
  (((s.cursorGiven setup o).given o.followRemoteWindow ServedConn.setFollowRemoteWindow).given o.disableAudio
    ServedConn.setDisableAudio).filesGiven setup o

theorem first_options_stage (o : OptionMessage) (files : .fileClipboard ∈ s.server.registered → setup.unixFileCopyPaste = true)
    (plain : s.isAuthedViewCameraConn = false) : Stage setup s (s.firstOptions setup o) := by
  have cursor := cursor_given_stage setup s o
  have window := stage_trans setup s _ _ cursor (window_given_stage setup (s.cursorGiven setup o) o)
  have audio := stage_trans setup s _ _ window (audio_given_stage setup _ o (by
    rw [ServedConn.isAuthedViewCameraConn, window.conn]
    exact plain))
  refine stage_trans setup s _ _ audio (files_given_stage setup _ o ?_)
  rw [audio.registered]
  exact files

theorem first_options_flags (o : OptionMessage) (built : setup.unixFileCopyPaste = true) :
    fileFlags (s.firstOptions setup o) = (s.perms.clipboard, s.perms.file, s.perms.disableClipboard,
      o.enableFileTransfer.setTo.getD s.perms.enableFileTransfer, s.server.registered) := by
  have before : fileFlags (((s.cursorGiven setup o).given o.followRemoteWindow ServedConn.setFollowRemoteWindow).given o.disableAudio
      ServedConn.setDisableAudio) = fileFlags s := by
    refine (given_same _ o.disableAudio ServedConn.setDisableAudio fileFlags (fun _ => audio_file_flags _)).trans ?_
    refine (given_same _ o.followRemoteWindow ServedConn.setFollowRemoteWindow fileFlags
      (fun value => subscribe_file_flags _ .windowFocus value)).trans ?_
    exact cursor_given_flags setup s o
  unfold ServedConn.firstOptions
  generalize ((s.cursorGiven setup o).given o.followRemoteWindow ServedConn.setFollowRemoteWindow).given o.disableAudio
    ServedConn.setDisableAudio = third at before ⊢
  simp only [fileFlags, Prod.mk.injEq] at before
  obtain ⟨clipboard, file, disabled, enabled, registered⟩ := before
  rw [ServedConn.filesGiven, if_pos (.inr built), ServedConn.given]
  cases o.enableFileTransfer.setTo with
  | none => simp only [fileFlags, clipboard, file, disabled, enabled, registered, Option.getD_none]
  | some value =>
      refine (file_clipboard_flags setup { third with perms := { third.perms with enableFileTransfer := value } }).trans ?_
      simp only [fileFlags, clipboard, file, disabled, registered, Option.getD_some]

theorem file_clipboard_differs (clipboard file transfers oneWay value old : Bool) :
    ((clipboard && !value && (file && transfers) && !oneWay) = (clipboard && !old && (file && transfers) && !oneWay)) ↔
      (clipboard = true → file = true → transfers = true → oneWay = false → value = old) := by
  revert clipboard file transfers oneWay value old
  decide

theorem options_files (o : OptionMessage) (files : .fileClipboard ∈ s.server.registered → setup.unixFileCopyPaste = true)
    (plain : s.isAuthedViewCameraConn = false) (aligned : AlignedAt setup s .fileClipboard) :
    AlignedAt setup (s.updateOptions setup o) .fileClipboard ↔
      ∀ value, o.disableClipboard.setTo = some value → o.disableKeyboard.setTo = none → .fileClipboard ∈ s.server.registered →
        s.perms.clipboard = true → s.perms.file = true → o.enableFileTransfer.setTo.getD s.perms.enableFileTransfer = true →
        setup.oneWayFileTransfer = false → value = s.perms.disableClipboard := by
  have stage := first_options_stage setup s o files plain
  have first := stage.aligned .fileClipboard (by simp) aligned
  have flags := fun built => first_options_flags setup s o built
  have same : s.updateOptions setup o = ((s.firstOptions setup o).given o.disableClipboard (ServedConn.setDisableClipboard setup)).given
      o.disableKeyboard (ServedConn.setDisableKeyboard setup) := rfl
  rw [same]
  generalize s.firstOptions setup o = fourth at stage first flags
  have built : .fileClipboard ∈ fourth.server.registered → setup.unixFileCopyPaste = true := by
    rw [stage.registered]
    exact files
  have told : ∀ t : ServedConn, t.server.registered = fourth.server.registered → ∀ value,
      AlignedAt setup (t.setDisableKeyboard setup value) .fileClipboard := fun t known value =>
    set_keyboard_aligned setup t value .fileClipboard (by rw [known]; exact built) (fun different => (different rfl).elim)
  cases clipboard : o.disableClipboard.setTo with
  | none =>
      have fifth : fourth.given o.disableClipboard (ServedConn.setDisableClipboard setup) = fourth := by
        rw [ServedConn.given, clipboard]
      rw [fifth]
      exact ⟨(fun _ _ unset => by cases unset), fun _ => given_keeps fourth o.disableKeyboard _ (fun t => AlignedAt setup t .fileClipboard) (told fourth rfl) first⟩
  | some value =>
      have fifth : fourth.given o.disableClipboard (ServedConn.setDisableClipboard setup) = fourth.setDisableClipboard setup value := by
        rw [ServedConn.given, clipboard]
      rw [fifth]
      cases keyboard : o.disableKeyboard.setTo with
      | some last =>
          rw [ServedConn.given, keyboard]
          exact ⟨(fun _ _ _ unset => by cases unset), fun _ => told _ (subscribe_registered _ _ _) last⟩
      | none =>
          rw [ServedConn.given, keyboard]
          refine (set_clipboard_files setup fourth value).trans ((untold_files setup fourth _ first).trans ?_)
          rw [stage.registered]
          by_cases registered : .fileClipboard ∈ s.server.registered
          · have known := flags (files registered)
            simp only [fileFlags, Prod.mk.injEq] at known
            obtain ⟨enabled, file, disabled, transfers, _⟩ := known
            simp only [Permissions.canSubFileClipboardService, Permissions.clipboardEnabled, Permissions.fileTransferEnabled, enabled,
              file, disabled, transfers, registered, Option.some.injEq, forall_eq', forall_const]
            exact file_clipboard_differs _ _ _ _ _ _
          · exact ⟨fun _ _ _ _ known => (registered known).elim, fun _ known => (registered known).elim⟩

theorem options_others (o : OptionMessage) (files : .fileClipboard ∈ s.server.registered → setup.unixFileCopyPaste = true)
    (plain : s.isAuthedViewCameraConn = false) (service : Service) (window : service ≠ .windowFocus) (file : service ≠ .fileClipboard)
    (aligned : AlignedAt setup s service) : AlignedAt setup (s.updateOptions setup o) service := by
  have stage := first_options_stage setup s o files plain
  have first := stage.aligned service window aligned
  have same : s.updateOptions setup o = ((s.firstOptions setup o).given o.disableClipboard (ServedConn.setDisableClipboard setup)).given
      o.disableKeyboard (ServedConn.setDisableKeyboard setup) := rfl
  rw [same]
  generalize s.firstOptions setup o = fourth at stage first
  have fifth : AlignedAt setup (fourth.given o.disableClipboard (ServedConn.setDisableClipboard setup)) service ∧
      (fourth.given o.disableClipboard (ServedConn.setDisableClipboard setup)).server.registered = s.server.registered := by
    apply given_keeps fourth _ _ (fun t => AlignedAt setup t service ∧ t.server.registered = s.server.registered) _ ⟨first, stage.registered⟩
    exact fun value => ⟨set_clipboard_aligned setup fourth value service file first, (subscribe_registered _ _ _).trans stage.registered⟩
  refine given_keeps _ _ _ (fun t => AlignedAt setup t service) ?_ fifth.1
  intro value
  exact set_keyboard_aligned setup _ value service (by rw [fifth.2]; exact files) (fun _ => fifth.1)

theorem options_follow (o : OptionMessage) (files : .fileClipboard ∈ s.server.registered → setup.unixFileCopyPaste = true)
    (plain : s.isAuthedViewCameraConn = false) (aligned : Aligned setup s) :
    Aligned setup (s.updateOptions setup o) ↔ OptionSteady setup s o := by
  have window := options_window setup s o (aligned .windowFocus)
  have file := options_files setup s o files plain (aligned .fileClipboard)
  constructor
  · intro after
    exact ⟨window.mp (after .windowFocus), file.mp (after .fileClipboard)⟩
  · intro steady service
    by_cases focus : service = .windowFocus
    · rw [focus]
      exact window.mpr steady.window
    · by_cases clips : service = .fileClipboard
      · rw [clips]
        exact file.mpr steady.files
      · exact options_others setup s o files plain service focus clips (aligned service)

-- A switch that leaves the subscriptions right: the cursor is told of the keyboard
-- alone, and the file clipboard is not told of the clipboard at all.
def SwitchSteady (name : String) (enabled : Bool) : Prop :=
  (name = "keyboard" → .cursor ∈ s.server.registered → enabled = true → s.perms.disableKeyboard = true →
    s.perms.showRemoteCursor = true) ∧
  (name = "clipboard" → .fileClipboard ∈ s.server.registered → s.perms.disableClipboard = false → s.perms.file = true →
    s.perms.enableFileTransfer = true → setup.oneWayFileTransfer = false → enabled = s.perms.clipboard)

theorem cursor_differs (enabled disabled shown : Bool) :
    (enabled || shown) = (enabled && !disabled || shown) ↔ (enabled = true → disabled = true → shown = true) := by
  revert enabled disabled shown
  decide

theorem clipboard_differs (enabled old file transfers oneWay disabled : Bool) :
    ((enabled && !disabled && (file && transfers) && !oneWay) = (old && !disabled && (file && transfers) && !oneWay)) ↔
      (disabled = false → file = true → transfers = true → oneWay = false → enabled = old) := by
  revert enabled old file transfers oneWay disabled
  decide

theorem keyboard_follows (enabled : Bool) (files : .fileClipboard ∈ s.server.registered → setup.unixFileCopyPaste = true)
    (aligned : Aligned setup s) : Aligned setup (s.switchPermission setup "keyboard" enabled) ↔
      (.cursor ∈ s.server.registered → enabled = true → s.perms.disableKeyboard = true → s.perms.showRemoteCursor = true) := by
  let set : ServedConn := { s with perms := { s.perms with keyboard := enabled } }
  have same : s.switchPermission setup "keyboard" enabled = set.tellKeyboard setup (enabled || s.perms.showRemoteCursor) := rfl
  have cursor := keyboard_told_cursor setup set (enabled || s.perms.showRemoteCursor)
  simp only [set, Permissions.peerKeyboardEnabled, cursor_differs] at cursor
  rw [same]
  constructor
  · intro after
    exact cursor.mp (after .cursor)
  · intro steady service
    by_cases isCursor : service = .cursor
    · rw [isCursor]
      exact cursor.mpr steady
    · refine keyboard_told setup set _ service files isCursor ?_
      intro clipboard file
      refine (aligned_perms setup s _ service ?_).mpr (aligned service)
      cases service with
      | cursor => exact (isCursor rfl).elim
      | clipboard => exact (clipboard rfl).elim
      | fileClipboard => exact (file rfl).elim
      | _ => rfl

theorem clipboard_follows (enabled : Bool) (aligned : Aligned setup s) :
    Aligned setup (s.switchPermission setup "clipboard" enabled) ↔
      (.fileClipboard ∈ s.server.registered → s.perms.disableClipboard = false → s.perms.file = true →
        s.perms.enableFileTransfer = true → setup.oneWayFileTransfer = false → enabled = s.perms.clipboard) := by
  let set : ServedConn := { s with perms := { s.perms with clipboard := enabled } }
  have same : s.switchPermission setup "clipboard" enabled = set.subscribeClipboard setup := by
    unfold ServedConn.switchPermission
    rw [if_neg (by decide), if_pos rfl]
  have file : AlignedAt setup (set.subscribeClipboard setup) .fileClipboard ↔ AlignedAt setup set .fileClipboard :=
    aligned_other setup set .fileClipboard .clipboard _ (by simp)
  have told := file.trans (untold_files setup s { s.perms with clipboard := enabled } (aligned .fileClipboard))
  simp only [Permissions.canSubFileClipboardService, Permissions.clipboardEnabled, Permissions.fileTransferEnabled,
    clipboard_differs] at told
  rw [same]
  constructor
  · intro after
    exact told.mp (after .fileClipboard)
  · intro steady service
    by_cases clips : service = .fileClipboard
    · rw [clips]
      exact told.mpr steady
    · by_cases clipboard : service = .clipboard
      · rw [clipboard]
        exact aligned_right setup set .clipboard _ rfl
      · refine (aligned_other setup set service .clipboard _ clipboard).mpr ((aligned_perms setup s _ service ?_).mpr (aligned service))
        cases service with
        | clipboard => exact (clipboard rfl).elim
        | fileClipboard => exact (clips rfl).elim
        | _ => rfl

theorem switch_permission_follows (name : String) (enabled : Bool)
    (files : .fileClipboard ∈ s.server.registered → setup.unixFileCopyPaste = true) (remote : s.conn.RemoteAuthed)
    (aligned : Aligned setup s) : Aligned setup (s.switchPermission setup name enabled) ↔ SwitchSteady setup s name enabled := by
  by_cases keyboard : name = "keyboard"
  · subst keyboard
    refine (keyboard_follows setup s enabled files aligned).trans ?_
    exact ⟨fun cursor => ⟨fun _ => cursor, fun other => absurd other (by decide)⟩, fun steady => steady.1 rfl⟩
  by_cases clipboard : name = "clipboard"
  · subst clipboard
    refine (clipboard_follows setup s enabled aligned).trans ?_
    exact ⟨fun file => ⟨fun other => absurd other (by decide), fun _ => file⟩, fun steady => steady.2 rfl⟩
  have steady : SwitchSteady setup s name enabled := ⟨fun same => (keyboard same).elim, fun same => (clipboard same).elim⟩
  refine ⟨fun _ => steady, fun _ service => ?_⟩
  unfold ServedConn.switchPermission
  rw [if_neg keyboard, if_neg clipboard]
  split
  · dsimp only
    rw [if_pos remote.1]
    refine audio_told setup { s with perms := { s.perms with audio := enabled } } service (remote_not_camera s remote) ?_
    intro different
    refine (aligned_perms setup s _ service ?_).mpr (aligned service)
    cases service with
    | audio => exact (different rfl).elim
    | _ => rfl
  · split
    · by_cases clips : service = .fileClipboard
      · rw [clips]
        exact file_clipboard_told setup { s with perms := { s.perms with file := enabled } } files
      · refine (file_clipboard_other setup _ service clips).mpr ((aligned_perms setup s _ service ?_).mpr (aligned service))
        cases service with
        | fileClipboard => exact (clips rfl).elim
        | _ => rfl
    · exact aligned service

-- What try_sub_monitor_services has to find: it only subscribes, and it does not ask
-- how many displays the peer has captured.
structure Settles (s : ServedConn) : Prop where
  quiet : ∀ service, wanted setup s.perms service = some false → service ∈ s.server.registered →
    s.server.subscribed service = false
  window : .windowFocus ∈ s.server.registered → s.perms.followRemoteWindow = true → s.perms.multiUiSession = false

-- The list is made of the predicates themselves.
theorem noperms_wanted (perms : Permissions) (service : Service) (want : Bool) (wants : wanted setup perms service = some want)
    (files : service = .fileClipboard → setup.unixFileCopyPaste = true) (different : service ≠ .windowFocus) :
    service ∈ noperms setup perms ↔ want = false := by
  cases service with
  | windowFocus => exact (different rfl).elim
  | display | printer | monitor | camera => cases wants
  | fileClipboard =>
      cases wants
      simp [noperms, files rfl]
  | clipboard | audio | position =>
      cases wants
      simp [noperms]
  | cursor =>
      cases wants
      simp [noperms]

theorem noperms_window (perms : Permissions) : .windowFocus ∈ noperms setup perms ↔ perms.followRemoteWindow = false := by
  simp [noperms]

theorem wanted_not_video (perms : Permissions) (service : Service) (want : Bool) (wants : wanted setup perms service = some want) :
    service.isVideo = false := by
  cases service with
  | monitor | camera => cases wants
  | _ => rfl

theorem monitor_services_told (service : Service) (video : service.isVideo = false) (due : s.conn.isRemote = true)
    (first : s.servicesSubed = false) :
    (s.trySubMonitorServices setup).perms = s.perms ∧
      (service ∈ (s.trySubMonitorServices setup).server.registered ↔ service ∈ s.server.registered) ∧
      (service ∈ s.server.registered → (s.trySubMonitorServices setup).server.subscribed service =
        if service ∈ noperms setup s.perms then s.server.subscribed service else true) := by
  have own : service ≠ .monitor s.displayIdx := by
    rintro rfl
    cases video
  have registered : service ∈ (s.server.addService (.monitor s.displayIdx)).registered ↔ service ∈ s.server.registered := by
    simp [add_service_registered, own]
  unfold ServedConn.trySubMonitorServices
  rw [if_pos (by simp [due, first])]
  refine ⟨rfl, registered, ?_⟩
  intro known
  simp only [Server.addMonitorConnection, add_service_subscribed, registered, known, video, Bool.false_eq_true, false_and,
    not_false_eq_true, true_and]
  by_cases listed : service ∈ noperms setup s.perms
  · simp [listed]
  · simp [listed]

theorem monitor_services_follow (files : .fileClipboard ∈ s.server.registered → setup.unixFileCopyPaste = true)
    (due : s.conn.isRemote = true) (first : s.servicesSubed = false) :
    Aligned setup (s.trySubMonitorServices setup) ↔ Settles setup s := by
  have told := fun service video => monitor_services_told setup s service video due first
  generalize s.trySubMonitorServices setup = next at told
  have perms : next.perms = s.perms := (told .audio rfl).1
  constructor
  · intro aligned
    refine ⟨?_, ?_⟩
    · intro service wants known
      obtain ⟨_, registered, subscribed⟩ := told service (wanted_not_video setup s.perms service false wants)
      have after := aligned service false (by rw [perms]; exact wants) (registered.mpr known)
      rw [subscribed known] at after
      split at after
      · exact after
      · cases after
    · intro known follows
      obtain ⟨_, registered, subscribed⟩ := told .windowFocus rfl
      have after := aligned .windowFocus (s.perms.followRemoteWindow && !s.perms.multiUiSession) (by rw [perms]; rfl)
        (registered.mpr known)
      have listed : .windowFocus ∉ noperms setup s.perms := fun member => by
        rw [(noperms_window setup s.perms).mp member] at follows
        cases follows
      rw [subscribed known, if_neg listed, follows] at after
      simpa using after
  · intro settles service want wants known
    rw [perms] at wants
    obtain ⟨_, registered, subscribed⟩ := told service (wanted_not_video setup s.perms service want wants)
    rw [registered] at known
    rw [subscribed known]
    by_cases window : service = .windowFocus
    · subst window
      cases wants
      have listed := noperms_window setup s.perms
      cases follows : s.perms.followRemoteWindow with
      | false =>
          rw [if_pos (listed.mpr follows)]
          exact settles.quiet .windowFocus (by simp [wanted, follows]) known
      | true =>
          rw [if_neg (by simp [listed, follows]), settles.window known follows]
          rfl
    · have listed := noperms_wanted setup s.perms service want wants (fun file => files (file ▸ known)) window
      cases want with
      | false =>
          rw [if_pos (listed.mpr rfl)]
          exact settles.quiet service wants known
      | true => rw [if_neg (by simp [listed])]

-- A handler that reaches video services only.
theorem video_aligned (next : ServedConn) (perms : next.perms = s.perms)
    (registered : ∀ service, service.isVideo = false → (service ∈ next.server.registered ↔ service ∈ s.server.registered))
    (subscribed : ∀ service, service.isVideo = false → next.server.subscribed service = s.server.subscribed service) :
    Aligned setup next ↔ Aligned setup s := by
  have each : ∀ service, AlignedAt setup next service ↔ AlignedAt setup s service := by
    intro service
    cases video : service.isVideo with
    | false => exact aligned_same setup s next service (by rw [perms]) (registered service video) (subscribed service video)
    | true =>
        have unwanted : ∀ perms want, wanted setup perms service ≠ some want := by
          intro perms want wants
          rw [wanted_not_video setup perms service want wants] at video
          cases video
        exact ⟨fun _ want wants => (unwanted _ want wants).elim, fun _ want wants => (unwanted _ want wants).elim⟩
  exact ⟨fun aligned service => (each service).mp (aligned service), fun aligned service => (each service).mpr (aligned service)⟩

theorem video_name (source : VideoSource) (index : Nat) (service : Service) (plain : service.isVideo = false) :
    service ≠ getServiceName source index := by
  rintro rfl
  cases source with
  | monitor => cases plain
  | camera => cases plain

section
variable (server : Server) (source : VideoSource) (index : Nat)

theorem add_video (service : Service) (plain : service.isVideo = false) :
    service ∈ (server.addService (getServiceName source index)).registered ↔ service ∈ server.registered := by
  simp [add_service_registered, video_name source index service plain]

theorem subscribe_video (sub : Bool) (service : Service) (plain : service.isVideo = false) :
    (server.subscribe (getServiceName source index) sub).subscribed service = server.subscribed service := by
  rw [subscribe_subscribed, if_neg (fun same => video_name source index service plain same.1)]

end

theorem service_added_follows (source : VideoSource) (index : Nat) :
    Aligned setup { s with server := s.server.addService (getServiceName source index) } ↔ Aligned setup s :=
  video_aligned setup s { s with server := s.server.addService (getServiceName source index) } rfl
    (fun service plain => add_video s.server source index service plain) (fun service _ => by rw [add_service_subscribed])

theorem camera_displays_follow (scene : Scene) : Aligned setup (s.trySubCameraDisplays scene) ↔ Aligned setup s := by
  refine video_aligned setup s (s.trySubCameraDisplays scene) rfl ?_ ?_
  · intro service plain
    unfold ServedConn.trySubCameraDisplays Server.tryAddPrimaryCameraService Server.addCameraConnection
    split
    · rw [subscribe_registered]
      exact add_video s.server .camera primaryCameraIdx service plain
    · rfl
  · intro service plain
    unfold ServedConn.trySubCameraDisplays Server.tryAddPrimaryCameraService Server.addCameraConnection
    split
    · exact (subscribe_video _ .camera primaryCameraIdx true service plain).trans (by rw [add_service_subscribed])
    · rfl

theorem switch_display_follows (scene : Scene) : Aligned setup (s.handleSwitchDisplay setup scene) ↔ Aligned setup s := by
  unfold ServedConn.handleSwitchDisplay
  split
  · rfl
  · split
    · rfl
    · extract_lets added left
      have kept : ∀ service, service.isVideo = false →
          (service ∈ left.registered ↔ service ∈ s.server.registered) ∧ left.subscribed service = s.server.subscribed service := by
        intro service plain
        have first : (service ∈ added.registered ↔ service ∈ s.server.registered) ∧ added.subscribed service = s.server.subscribed service :=
          ⟨add_video s.server s.videoSource scene.display service plain, by rw [add_service_subscribed]⟩
        by_cases newer : setup.host.getVersionNumber minVerMultiUiSession ≤ setup.host.getVersionNumber s.conn.lr.version.val
        · simpa only [left, if_pos newer] using first
        · simp only [left, if_neg newer, subscribe_registered]
          exact ⟨first.1, (subscribe_video added s.videoSource s.displayIdx false service plain).trans first.2⟩
      apply video_aligned
      · rfl
      · intro service plain
        rw [subscribe_registered]
        exact (kept service plain).1
      · intro service plain
        exact (subscribe_video left s.videoSource scene.display true service plain).trans (kept service plain).2

theorem capture_displays_follow (scene : Scene) (aligned : Aligned setup s) : Aligned setup (s.captureDisplays scene) := by
  unfold ServedConn.captureDisplays
  extract_lets valid names added captured multi
  split
  · exact aligned
  · have kept : ∀ service, service.isVideo = false →
        (service ∈ captured.registered ↔ service ∈ s.server.registered) ∧ captured.subscribed service = s.server.subscribed service := by
      intro service plain
      obtain ⟨subscribed, registered⟩ := services_added s.server (names scene.add ++ names scene.set)
      have unnamed : service ∉ names scene.add ++ names scene.set := by
        intro member
        rcases List.mem_append.mp member with add | set
        · obtain ⟨index, _, same⟩ := List.mem_map.mp add
          exact video_name s.videoSource index service plain same.symm
        · obtain ⟨index, _, same⟩ := List.mem_map.mp set
          exact video_name s.videoSource index service plain same.symm
      have first : (service ∈ added.registered ↔ service ∈ s.server.registered) ∧ added.subscribed service = s.server.subscribed service :=
        ⟨by simp only [added, registered, unnamed, or_false], by simp only [added, subscribed]⟩
      have told : ∀ displays included excluded, (service ∈ (added.captureDisplays displays included excluded).registered ↔
          service ∈ s.server.registered) ∧ (added.captureDisplays displays included excluded).subscribed service =
            s.server.subscribed service := by
        intro displays included excluded
        refine ⟨first.1, ?_⟩
        simp only [Server.captureDisplays, plain, Bool.false_eq_true, and_false, if_false]
        exact first.2
      by_cases add : scene.add ≠ []
      · simpa only [captured, if_pos add] using told (names scene.add) true false
      · by_cases sub : scene.sub ≠ []
        · simpa only [captured, if_neg add, if_pos sub] using told (names scene.sub) false true
        · simpa only [captured, if_neg add, if_neg sub] using told (names scene.set) true true
    have settled : ∀ service, service ≠ .windowFocus →
        AlignedAt setup { s with perms := { s.perms with multiUiSession := multi }, server := captured } service := by
      intro service different want wants known
      have same : wanted setup s.perms service = some want := by
        cases service with
        | windowFocus => exact (different rfl).elim
        | _ => exact wants
      have plain := wanted_not_video setup s.perms service want same
      rw [(kept service plain).2]
      exact aligned service want same ((kept service plain).1.mp known)
    intro service
    by_cases follows : s.perms.followRemoteWindow = true
    · rw [if_pos follows]
      by_cases window : service = .windowFocus
      · rw [window]
        refine aligned_right setup { s with perms := { s.perms with multiUiSession := multi }, server := captured } .windowFocus (!multi) ?_
        simp only [wanted, follows, Bool.true_and]
      · exact (aligned_other setup { s with perms := { s.perms with multiUiSession := multi }, server := captured } service .windowFocus
          (!multi) window).mpr (settled service window)
    · rw [if_neg follows]
      by_cases window : service = .windowFocus
      · subst window
        intro want wants known
        have off : s.perms.followRemoteWindow = false := by simpa using follows
        have before := aligned .windowFocus false (by simp [wanted, off]) ((kept .windowFocus rfl).1.mp known)
        have same : (s.perms.followRemoteWindow && !multi) = want := Option.some.inj wants
        rw [off, Bool.false_and] at same
        rw [← same]
        exact (kept .windowFocus rfl).2.trans before
      · exact settled service window

def ServedConn.MessageSteady : Message → Prop
  | .misc (.option o) => OptionSteady setup s o
  | _ => True

theorem remote_passes (msg : Message) (recorded : s.conn.authedConnType = some .remote) :
    (s.conn.authorizedScopeViolation setup.host msg).isSome = false := by
  simp [Conn.authorizedScopeViolation, recorded, authorizedMessageScopeViolation, allowedMessage]

theorem remote_no_socket (agrees : Agrees s.conn) (recorded : s.conn.authedConnType = some .remote) (serving : s.conn.phase = .serving) :
    s.conn.portForwardSocket.isSome = false := by
  obtain ⟨kind, same, _, tunnel, _⟩ := agrees.flags
  have remote : kind = .remote := Option.some.inj (same.symm.trans recorded)
  have none := tunnel serving
  simp only [Conn.isPortForward, remote, reduceCtorEq, decide_false, Bool.or_eq_false_iff] at none
  exact none.1

theorem session_follows (w : World) (scene : Scene) (msg : Message) (agrees : Agrees s.conn) (remote : s.conn.RemoteAuthed)
    (serving : s.conn.phase = .serving) (subed : s.servicesSubed = true)
    (files : .fileClipboard ∈ s.server.registered → setup.unixFileCopyPaste = true) (aligned : Aligned setup s) :
    Aligned setup (s.onSessionMessage setup w scene msg) ↔ s.MessageSteady setup msg := by
  have plain := remote_not_camera s remote
  have still : ∀ {next : ServedConn}, Aligned setup next → (Aligned setup next ↔ True) := fun after => ⟨fun _ => trivial, fun _ => after⟩
  unfold ServedConn.onSessionMessage
  rw [if_neg (by simp [remote_passes setup s msg remote.2, remote_no_socket s agrees remote.2 serving])]
  split
  · exact still ((switch_display_follows setup s scene).mpr aligned)
  · exact still (capture_displays_follow setup s scene aligned)
  · rw [if_pos (by simp [ServedConn.isAuthedRemoteConn, remote.2])]
    exact options_follow setup s _ files plain aligned
  · refine still ?_
    split
    · split
      · exact aligned
      · split
        · exact (camera_displays_follow setup s scene).mpr aligned
        · split
          · exact aligned
          · unfold ServedConn.trySubMonitorServices
            rw [if_neg (by simp [subed])]
            exact aligned
    · exact aligned
  · refine still ?_
    split
    · exact aligned
    · unfold ServedConn.closeVoiceCall
      rw [plain, if_neg (by simp)]
      exact aligned
  · rename_i option _ _
    have steady : s.MessageSteady setup msg = True := by
      unfold ServedConn.MessageSteady
      split
      · exact (option _ rfl).elim
      · rfl
    rw [steady]
    exact still aligned

-- The connection try_sub_monitor_services subscribes in a turn, if it does.
def ServedConn.trySubs (turn : LoopEvent) (scene : Scene) (next : Conn) : Option ServedConn :=
  if s.conn.authorized then
    match turn with
    | .message (.misc (.selectedSid sid)) w _ => if staysInSession setup w scene sid && s.conn.isRemote then some s else none
    | _ => none
  else match next.authorized, logonWorld turn with
    | true, some w =>
        let opened := { s with conn := next }
        if !opened.answeredOnly setup w && opened.subService w && !scene.waitSessionIdConfirm then
          some (opened.answerLogin setup w scene (loginOptions s.conn turn))
        else none
    | _, _ => none

def ServedConn.TurnSteady (turn : LoopEvent) (scene : Scene) (next : Conn) : Prop :=
  if s.servicesSubed then
    match turn with
    | .message msg _ _ => s.MessageSteady setup msg
    | _ => True
  else ∀ found, s.trySubs setup turn scene next = some found → Settles setup found

-- The steps of a run that leave the subscriptions to the flags.
def ServedConn.Steady : ServedEvent → Prop
  | .turn turn scene => ∀ next, s.conn.step setup.host turn = some next → next.phase = .serving → s.TurnSteady setup turn scene next
  | .switchPermission name enabled => s.servicesSubed = true → SwitchSteady setup s name enabled
  | .voiceCallResponse _ | .closeVoiceCall | .serviceAdded _ _ => True

theorem audio_subed : s.subscribeAudio.servicesSubed = s.servicesSubed := by
  unfold ServedConn.subscribeAudio
  split
  · split <;> rfl
  · rfl

theorem file_clipboard_subed : (s.subscribeFileClipboard setup).servicesSubed = s.servicesSubed := by
  unfold ServedConn.subscribeFileClipboard
  split <;> rfl

theorem options_subed (o : OptionMessage) : (s.updateOptions setup o).servicesSubed = s.servicesSubed := by
  rw [update_options_eq]
  refine (given_same _ o.disableKeyboard (ServedConn.setDisableKeyboard setup) ServedConn.servicesSubed
    (fun value => file_clipboard_subed setup _)).trans ?_
  refine (given_same _ o.disableClipboard (ServedConn.setDisableClipboard setup) ServedConn.servicesSubed (fun _ => rfl)).trans ?_
  have files : ∀ t : ServedConn, (t.filesGiven setup o).servicesSubed = t.servicesSubed := by
    intro t
    unfold ServedConn.filesGiven
    split
    · exact given_same t o.enableFileTransfer _ ServedConn.servicesSubed (fun _ => file_clipboard_subed setup _)
    · rfl
  refine (files _).trans ?_
  refine (given_same _ o.disableAudio ServedConn.setDisableAudio ServedConn.servicesSubed (fun _ => audio_subed _)).trans ?_
  refine (given_same _ o.followRemoteWindow ServedConn.setFollowRemoteWindow ServedConn.servicesSubed (fun _ => rfl)).trans ?_
  unfold ServedConn.cursorGiven
  split
  · rfl
  · exact given_same s o.showRemoteCursor ServedConn.setShowRemoteCursor ServedConn.servicesSubed (fun _ => rfl)

theorem login_options_subed (options : Option OptionMessage) : (s.updateScopedLoginOptions setup options).servicesSubed = s.servicesSubed := by
  unfold ServedConn.updateScopedLoginOptions
  split
  · split
    · exact options_subed setup s _
    · rfl
  · rfl

theorem switch_display_subed (scene : Scene) : (s.handleSwitchDisplay setup scene).servicesSubed = s.servicesSubed := by
  unfold ServedConn.handleSwitchDisplay
  split
  · rfl
  · split <;> rfl

theorem capture_displays_subed (scene : Scene) : (s.captureDisplays scene).servicesSubed = s.servicesSubed := by
  unfold ServedConn.captureDisplays
  extract_lets
  split <;> rfl

theorem close_voice_subed : s.closeVoiceCall.servicesSubed = s.servicesSubed := by
  unfold ServedConn.closeVoiceCall
  split <;> rfl

theorem remote_scope (remote : s.conn.isRemote = true) :
    s.conn.fileTransfer.isSome = false ∧ s.conn.viewCamera = false ∧ s.conn.terminal = false := by
  simp only [Conn.isRemote, Bool.and_eq_true, Bool.not_eq_true'] at remote
  exact ⟨by simpa using remote.1.1.1, remote.1.2, remote.2⟩

theorem session_subed (w : World) (scene : Scene) (msg : Message) :
    (s.onSessionMessage setup w scene msg).servicesSubed = s.servicesSubed ∨
      ∃ sid, msg = .misc (.selectedSid sid) ∧ staysInSession setup w scene sid = true ∧ s.conn.isRemote = true := by
  unfold ServedConn.onSessionMessage
  split
  · exact .inl rfl
  · split
    · exact .inl (switch_display_subed setup s scene)
    · exact .inl (capture_displays_subed s scene)
    · left
      split
      · exact options_subed setup s _
      · split
        · exact options_subed setup s _
        · rfl
    · split
      · rename_i stays
        split
        · exact .inl rfl
        · split
          · exact .inl rfl
          · split
            · exact .inl rfl
            · unfold ServedConn.trySubMonitorServices
              split
              · rename_i due
                exact .inr ⟨_, rfl, stays, (Bool.and_eq_true_iff.mp due).1⟩
              · exact .inl rfl
      · exact .inl rfl
    · left
      split
      · rfl
      · exact close_voice_subed s
    · exact .inl rfl

theorem session_selects (w : World) (scene : Scene) (sid : Nat) (agrees : Agrees s.conn) (authorized : s.conn.authorized = true)
    (serving : s.conn.phase = .serving) (remote : s.conn.isRemote = true) (stays : staysInSession setup w scene sid = true) :
    s.onSessionMessage setup w scene (.misc (.selectedSid sid)) = s.trySubMonitorServices setup := by
  have authed := remote_flags s agrees authorized remote (serving_direct s agrees serving remote)
  obtain ⟨files, camera, terminal⟩ := remote_scope s remote
  unfold ServedConn.onSessionMessage
  rw [if_neg (by simp [remote_passes setup s _ authed.2, remote_no_socket s agrees authed.2 serving])]
  dsimp only
  rw [if_pos stays, if_neg (by simp [files]), if_neg (by simp [camera]), if_neg (by simp [terminal])]

-- A login subscribes the monitor services of the connection as its options left it, or
-- none of them.
theorem log_on_subs (w : World) (scene : Scene) (options : Option OptionMessage) :
    let due := !s.answeredOnly setup w && s.subService w && !scene.waitSessionIdConfirm
    (due = true → s.logOn setup w scene options = (s.answerLogin setup w scene options).trySubMonitorServices setup) ∧
      (due = false → (s.logOn setup w scene options).servicesSubed = s.servicesSubed) := by
  intro due
  have opted : (s.answerLogin setup w scene options).servicesSubed = s.servicesSubed := login_options_subed setup _ options
  unfold ServedConn.logOn
  constructor
  · intro yes
    simp only [due, Bool.and_eq_true, Bool.not_eq_true'] at yes
    have remote : s.conn.isRemote = true := by
      have listed := yes.1.2
      simp only [ServedConn.subService, Bool.and_eq_true] at listed
      exact listed.1
    obtain ⟨files, camera, terminal⟩ := remote_scope s remote
    rw [if_neg (by simp [yes.1.1])]
    rw [if_neg (by simp [files]), if_neg (by simp [terminal]), if_neg (by simp [camera]), if_pos (by simp [yes.1.2, yes.2])]
  · intro no
    split
    · rfl
    · rename_i further
      split
      · exact opted
      · split
        · exact opted
        · split
          · split
            · exact opted
            · exact opted
          · split
            · rename_i subs
              have whole : due = true := by
                simp only [due]
                rw [Bool.and_assoc, subs]
                simpa using further
              rw [whole] at no
              cases no
            · exact opted

section
variable (w : World) (scene : Scene) (options : Option OptionMessage)

theorem answer_login_widens (authorized : s.conn.authorized = true) : Widens s (s.answerLogin setup w scene options) := by
  refine widens_trans s { s with displayIdx := if s.subService w then scene.primaryDisplayIdx else s.displayIdx } _ ?_
    (login_options_widen setup _ options authorized)
  exact ⟨⟨rfl, .inl, .inl, .inl, fun _ => id, fun _ => .inl, fun _ => .inl⟩, rfl, fun _ => .inl⟩

theorem answer_login_subed : (s.answerLogin setup w scene options).servicesSubed = s.servicesSubed := login_options_subed setup _ options

end

theorem serving_before (turn : LoopEvent) (d : Conn) (taken : s.conn.step setup.host turn = some d) (serving : d.phase = .serving) :
    s.conn.phase = .serving := by
  rcases step_phase setup.host s.conn d turn taken with phase | ⟨beyond, _⟩
  · exact phase
  · rw [beyond] at serving
    cases serving

section
variable (turn : LoopEvent) (scene : Scene) (d : Conn)

theorem serving_turn (serving : d.phase = .serving) : s.onTurn setup turn scene d = if s.conn.authorized then
      match turn with
      | .message msg w _ => { s.onSessionMessage setup w scene msg with conn := d }
      | _ => { s with conn := d }
    else match d.authorized, logonWorld turn with
      | true, some w => ServedConn.logOn setup { s with conn := d } w scene (loginOptions s.conn turn)
      | _, _ => { s with conn := d } := by
  unfold ServedConn.onTurn
  exact if_neg (by simp [serving])

-- A turn of a session whose services have been subscribed.
theorem subed_turn_follows (guard : Guard setup s) (follows : Following setup s)
    (taken : s.conn.step setup.host turn = some d) (serving : d.phase = .serving) (subed : s.servicesSubed = true) :
    Following setup (s.onTurn setup turn scene d) ↔ s.TurnSteady setup turn scene d := by
  have phase := serving_before setup s turn d taken serving
  have remote := guard.subed subed
  obtain ⟨past, session⟩ := guard.session
  have agrees := session.2 remote.1
  unfold ServedConn.TurnSteady
  rw [serving_turn setup s turn scene d serving, if_pos remote.1, if_pos subed]
  cases turn with
  | message msg w later =>
      have aligned := session_follows setup s w scene msg agrees remote phase subed guard.files (follows subed phase)
      have kept : (s.onSessionMessage setup w scene msg).servicesSubed = true := by
        rcases session_subed setup s w scene msg with same | ⟨sid, rfl, stays, isRemote⟩
        · exact same.trans subed
        · rw [session_selects setup s w scene sid agrees remote.1 phase isRemote stays, ServedConn.trySubMonitorServices,
            if_neg (by simp [subed])]
          exact subed
      exact ⟨fun after => aligned.mp (after kept serving), fun steady _ _ => aligned.mpr steady⟩
  | _ => exact ⟨fun _ => trivial, fun _ _ _ => follows subed phase⟩

-- A turn that subscribes nothing leaves nothing to follow, one that does follows if it
-- finds the subscriptions settled.
theorem unsubscribed_follows (acted : ServedConn) (off : acted.servicesSubed = false) (nothing : s.trySubs setup turn scene d = none) :
    Following setup acted ↔ ∀ found, s.trySubs setup turn scene d = some found → Settles setup found := by
  refine ⟨fun _ found due => ?_, fun _ yes => ?_⟩
  · rw [nothing] at due
    cases due
  · rw [off] at yes
    cases yes

theorem subscribed_follows (found acted : ServedConn) (remote : found.conn.isRemote = true)
    (first : found.servicesSubed = false) (files : .fileClipboard ∈ found.server.registered → setup.unixFileCopyPaste = true)
    (due : s.trySubs setup turn scene d = some found) (running : acted.conn.phase = .serving)
    (same : acted.servicesSubed = (found.trySubMonitorServices setup).servicesSubed)
    (aligned : Aligned setup acted ↔ Aligned setup (found.trySubMonitorServices setup)) :
    Following setup acted ↔ ∀ found, s.trySubs setup turn scene d = some found → Settles setup found := by
  have settled := aligned.trans (monitor_services_follow setup found files remote first)
  have now : acted.servicesSubed = true := by
    rw [same, ServedConn.trySubMonitorServices, if_pos (by simp [remote, first])]
  constructor
  · intro after other another
    obtain rfl : found = other := Option.some.inj (due.symm.trans another)
    exact settled.mp (after now running)
  · exact fun settles _ _ => settled.mpr (settles found due)

theorem session_turn_follows (guard : Guard setup s)
    (taken : s.conn.step setup.host turn = some d) (serving : d.phase = .serving) (off : s.servicesSubed = false)
    (authorized : s.conn.authorized = true) :
    Following setup (s.onTurn setup turn scene d) ↔ ∀ found, s.trySubs setup turn scene d = some found → Settles setup found := by
  have phase := serving_before setup s turn d taken serving
  obtain ⟨past, session⟩ := guard.session
  have agrees := session.2 authorized
  rw [serving_turn setup s turn scene d serving, if_pos authorized]
  cases turn with
  | message msg w later =>
      by_cases selects : ∃ sid, msg = .misc (.selectedSid sid) ∧ staysInSession setup w scene sid = true ∧ s.conn.isRemote = true
      · obtain ⟨sid, rfl, stays, remote⟩ := selects
        dsimp only
        rw [session_selects setup s w scene sid agrees authorized phase remote stays]
        refine subscribed_follows setup s _ scene d s _ remote off guard.files ?_ serving rfl Iff.rfl
        simp [ServedConn.trySubs, authorized, stays, remote]
      · refine unsubscribed_follows setup s _ scene d _ ?_ ?_
        · rcases session_subed setup s w scene msg with same | selected
          · exact same.trans off
          · exact (selects selected).elim
        · unfold ServedConn.trySubs
          rw [if_pos authorized]
          split
          · rename_i sid _ _ same
            cases same
            rw [if_neg]
            intro both
            exact selects ⟨sid, rfl, (Bool.and_eq_true_iff.mp both).1, (Bool.and_eq_true_iff.mp both).2⟩
          · rfl
  | _ => exact unsubscribed_follows setup s _ scene d _ off (by simp [ServedConn.trySubs, authorized])

end

theorem monitor_services_conn : (s.trySubMonitorServices setup).conn = s.conn := by
  unfold ServedConn.trySubMonitorServices
  split <;> rfl

section
variable (turn : LoopEvent) (scene : Scene) (d : Conn)

theorem login_turn_follows (guard : Guard setup s)
    (taken : s.conn.step setup.host turn = some d) (serving : d.phase = .serving) (off : s.servicesSubed = false)
    (unauthorized : ¬s.conn.authorized = true) :
    Following setup (s.onTurn setup turn scene d) ↔ ∀ found, s.trySubs setup turn scene d = some found → Settles setup found := by
  rw [serving_turn setup s turn scene d serving, if_neg unauthorized]
  split
  case h_2 other =>
    refine unsubscribed_follows setup s _ scene d _ off ?_
    unfold ServedConn.trySubs
    rw [if_neg unauthorized]
    split
    · rename_i w granted world
      exact (other w granted world).elim
    · rfl
  case h_1 w granted world =>
    have opened : Guard setup { s with conn := d } := conn_guard setup s d turn guard taken
    generalize login : ({ s with conn := d } : ServedConn) = fresh at opened
    have conn : fresh.conn = d := login ▸ rfl
    have subs := log_on_subs setup fresh w scene (loginOptions s.conn turn)
    have opted := answer_login_widens setup fresh w scene (loginOptions s.conn turn) (conn ▸ granted)
    have first : (fresh.answerLogin setup w scene (loginOptions s.conn turn)).servicesSubed = false :=
      (answer_login_subed setup fresh w scene _).trans (login ▸ off)
    have due : s.trySubs setup turn scene d =
        if !fresh.answeredOnly setup w && fresh.subService w && !scene.waitSessionIdConfirm then
          some (fresh.answerLogin setup w scene (loginOptions s.conn turn))
        else none := by
      simp only [ServedConn.trySubs, unauthorized, granted, world, login, Bool.false_eq_true, if_false]
    cases subscribes : !fresh.answeredOnly setup w && fresh.subService w && !scene.waitSessionIdConfirm with
    | false =>
        rw [subscribes] at due
        exact unsubscribed_follows setup s turn scene d _ ((subs.2 subscribes).trans (login ▸ off)) due
    | true =>
        rw [subscribes] at due
        rw [subs.1 subscribes]
        refine subscribed_follows setup s turn scene d _ _ ?_ first ?_ due ?_ rfl Iff.rfl
        · rw [opted.conn]
          simp only [Bool.and_eq_true, ServedConn.subService] at subscribes
          exact subscribes.1.2.1
        · intro known
          rcases opted.added .fileClipboard known with earlier | video
          · exact opened.files earlier
          · cases video
        · rw [monitor_services_conn, opted.conn, conn]
          exact serving

theorem turn_follows (guard : Guard setup s) (follows : Following setup s)
    (taken : s.conn.step setup.host turn = some d) (serving : d.phase = .serving) :
    Following setup (s.onTurn setup turn scene d) ↔ s.TurnSteady setup turn scene d := by
  by_cases subed : s.servicesSubed = true
  · exact subed_turn_follows setup s turn scene d guard follows taken serving subed
  · have off : s.servicesSubed = false := by simpa using subed
    unfold ServedConn.TurnSteady
    rw [if_neg subed]
    by_cases authorized : s.conn.authorized = true
    · exact session_turn_follows setup s turn scene d guard taken serving off authorized
    · exact login_turn_follows setup s turn scene d guard taken serving off authorized

theorem turn_conn (guard : Guard setup s) (taken : s.conn.step setup.host turn = some d) : (s.onTurn setup turn scene d).conn = d := by
  unfold ServedConn.onTurn
  extract_lets acted
  have acts : acted.conn = d := by
    unfold acted
    split
    · split <;> rfl
    · split
      · rename_i w granted world
        obtain ⟨past, session⟩ := (conn_guard setup s d turn guard taken).session
        exact (log_on_widens setup { s with conn := d } w scene _ (session.2 granted) granted).conn
      · rfl
  split
  · exact acts
  · exact acts

end

theorem switch_permission_subed (name : String) (enabled : Bool) :
    (s.switchPermission setup name enabled).servicesSubed = s.servicesSubed := by
  unfold ServedConn.switchPermission
  split
  · exact file_clipboard_subed setup _
  · split
    · rfl
    · split
      · dsimp only
        split
        · exact audio_subed _
        · rfl
      · split
        · exact file_clipboard_subed setup _
        · rfl

theorem voice_call_follows (accepted : Bool) (remote : s.servicesSubed = true → s.conn.RemoteAuthed) (follows : Following setup s) :
    Following setup (s.handleVoiceCall accepted) := by
  unfold ServedConn.handleVoiceCall
  split
  · dsimp only
    split
    · rename_i camera
      intro subed
      rw [remote_not_camera s (remote subed)] at camera
      cases camera
    · exact follows
  · exact follows

theorem close_voice_follows (remote : s.servicesSubed = true → s.conn.RemoteAuthed) (follows : Following setup s) :
    Following setup s.closeVoiceCall := by
  unfold ServedConn.closeVoiceCall
  split
  · rename_i camera
    intro subed
    rw [remote_not_camera s (remote subed)] at camera
    cases camera
  · exact follows

theorem step_follows (event : ServedEvent) (next : ServedConn) (guard : Guard setup s) (follows : Following setup s)
    (taken : s.step setup event = some next) : Following setup next ↔ s.Steady setup event := by
  have always : Following setup next → (Following setup next ↔ True) := fun after => ⟨fun _ => trivial, fun _ => after⟩
  rcases step_cases setup s event next taken with ⟨turn, scene, d, rfl, moved, rfl⟩ | ⟨name, enabled, rfl, phase, rfl⟩ | ⟨accepted, rfl, rfl⟩ |
    ⟨rfl, rfl⟩ | ⟨source, index, rfl, rfl⟩
  · by_cases serving : d.phase = .serving
    · refine (turn_follows setup s turn scene d guard follows moved serving).trans ⟨fun steady other same _ => ?_, fun steady => ?_⟩
      · obtain rfl : d = other := Option.some.inj (moved.symm.trans same)
        exact steady
      · exact steady d moved serving
    · refine ⟨fun _ other same runs => ?_, fun _ _ runs => ?_⟩
      · obtain rfl : d = other := Option.some.inj (moved.symm.trans same)
        exact (serving runs).elim
      · rw [turn_conn setup s turn scene d guard moved] at runs
        exact (serving runs).elim
  · have kept := switch_permission_subed setup s name enabled
    have conn := (switch_permission_grows setup s name enabled).conn
    have running : (s.switchPermission setup name enabled).conn.phase = .serving := by
      rw [conn]
      exact phase
    constructor
    · intro after subed
      have told := switch_permission_follows setup s name enabled guard.files (guard.subed subed) (follows subed phase)
      exact told.mp (after (kept.trans subed) running)
    · intro steady after _
      have subed : s.servicesSubed = true := kept.symm.trans after
      have told := switch_permission_follows setup s name enabled guard.files (guard.subed subed) (follows subed phase)
      exact told.mpr (steady subed)
  · exact always (voice_call_follows setup s accepted guard.subed follows)
  · exact always (close_voice_follows setup s guard.subed follows)
  · exact always (fun subed phase => (service_added_follows setup s source index).mpr (follows subed phase))

end

-- Whatever the order, the subscriptions follow the flags in every state of a run when
-- every step of it is one of those that tell the services what they change, and once a
-- step is not, they do not.
theorem subscriptions_follow (setup : Setup) (hash : Hash) (require2fa : Option TOTP) (shared : Shared)
    (keyboard clipboard audio file : Bool) (past : List (ServedConn × ServedEvent)) (s : ServedConn)
    (reach : Machine.Traced (ServedConn.step setup) (ServedConn.start setup hash require2fa shared keyboard clipboard audio file) past s) :
    ((∀ entry ∈ past, Following setup entry.1) ∧ Following setup s) ↔ ∀ entry ∈ past, entry.1.Steady setup entry.2 := by
  refine Machine.traced_exact (ServedConn.step setup) (Guard setup) (Following setup) (ServedConn.Steady setup) _ s past
    (start_guard setup hash require2fa shared keyboard clipboard audio file) ?_ ?_ ?_ reach
  · exact fun subed => (Bool.false_ne_true subed).elim
  · exact fun s event next guard taken => step_guard setup s event next guard taken
  · exact fun s event next guard follows taken => step_follows setup s event next guard follows taken

theorem subscriptions_follow_remote : remoteServed.servicesSubed = true ∧
    (((∀ entry ∈ remotePast, Following desktopSetup entry.1) ∧ Following desktopSetup remoteServed) ↔
      ∀ entry ∈ remotePast, entry.1.Steady desktopSetup entry.2) :=
  ⟨by decide +kernel, subscriptions_follow desktopSetup desktopHash none quietShared true false true true remotePast remoteServed
    (Machine.traced_run (ServedConn.step desktopSetup) desktopServed remoteRun remote_run_runs)⟩

-- A session that may copy files has its clipboard permission taken away.
def copyingTurn : LoopEvent :=
  .message (.loginRequest { remoteLogin with option := some { enableFileTransfer := .known .yes } }) desktopWorld desktopWorld

def copyingServed : ServedConn := ServedConn.start desktopSetup desktopHash none quietShared true true true true

def revokedRun : List ServedEvent := [.turn copyingTurn desktopScene, .switchPermission "clipboard" false]

theorem revoked_run_runs : (Machine.run (ServedConn.step desktopSetup) copyingServed revokedRun).isSome = true := by decide

def revokedServed : ServedConn := (Machine.run (ServedConn.step desktopSetup) copyingServed revokedRun).get revoked_run_runs

theorem file_clipboard_unrevoked : ∃ past s,
    Machine.Traced (ServedConn.step desktopSetup) copyingServed past s ∧ s.conn.RemoteAuthed ∧ s.servicesSubed = true ∧
      .fileClipboard ∈ s.server.registered ∧ s.perms.canSubFileClipboardService desktopSetup = false ∧
      s.server.subscribed .fileClipboard = true :=
  ⟨_, revokedServed, Machine.traced_run _ copyingServed revokedRun revoked_run_runs,
    ⟨by decide +kernel, by decide +kernel⟩, by decide +kernel, by decide +kernel, by decide +kernel, by decide +kernel⟩

end GotechDesk.Connection
