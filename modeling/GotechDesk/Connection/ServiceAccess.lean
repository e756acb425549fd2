import GotechDesk.Connection.Entitlement

set_option autoImplicit false

namespace GotechDesk.Connection

section
variable (setup : Setup) (s : ServedConn)

theorem remote_flags (agrees : Agrees s.conn) (authorized : s.conn.authorized = true) (remote : s.conn.isRemote = true)
    (direct : s.conn.authedConnType ≠ some .portForward) : s.conn.RemoteAuthed := by
  obtain ⟨kind, recorded, flags, _⟩ := agrees.flags
  have files := flags.fileTransfer
  have camera := flags.viewCamera
  have terminal := flags.terminal
  simp only [Conn.isRemote, Bool.and_eq_true, Bool.not_eq_true'] at remote
  refine ⟨authorized, ?_⟩
  cases kind with
  | remote => exact recorded
  | portForward => exact (direct recorded).elim
  | fileTransfer => simp [Option.isNone_iff_eq_none.mp remote.1.1.1] at files
  | viewCamera => simp [remote.1.2] at camera
  | terminal => simp [remote.2] at terminal

theorem camera_flag (agrees : Agrees s.conn) (authorized : s.conn.authorized = true) (camera : s.conn.viewCamera = true) :
    s.conn.CameraAuthed := by
  obtain ⟨kind, recorded, flags, _⟩ := agrees.flags
  have same : kind = .viewCamera := by simpa [camera] using flags.viewCamera
  exact ⟨authorized, same ▸ recorded⟩

theorem own_video (agrees : Agrees s.conn) (authorized : s.conn.authorized = true)
    (kinds : s.conn.authedConnType = some .remote ∨ s.conn.authedConnType = some .viewCamera) : OwnVideo s := by
  obtain ⟨kind, recorded, flags, _⟩ := agrees.flags
  intro index
  rcases kinds with remote | camera
  · have same : kind = .remote := Option.some.inj (recorded.symm.trans remote)
    have off : s.conn.viewCamera = false := by simpa [same] using flags.viewCamera
    simp only [ServedConn.videoSource, off, Bool.false_eq_true, if_false, getServiceName]
    exact ⟨authorized, remote⟩
  · have same : kind = .viewCamera := Option.some.inj (recorded.symm.trans camera)
    have on : s.conn.viewCamera = true := by simpa [same] using flags.viewCamera
    simp only [ServedConn.videoSource, on, if_true, getServiceName]
    exact ⟨authorized, camera⟩

theorem login_options_widen (options : Option OptionMessage) (authorized : s.conn.authorized = true) :
    Widens s (s.updateScopedLoginOptions setup options) := by
  cases options with
  | none => exact widens_refl s
  | some option =>
      unfold ServedConn.updateScopedLoginOptions
      cases recorded : s.conn.authedConnType with
      | none => exact widens_refl s
      | some kind =>
          dsimp only
          cases keptOf : (scopedLoginOption kind option).1 with
          | none => exact widens_refl s
          | some kept =>
              cases kind with
              | remote => exact options_widens setup s kept ⟨authorized, recorded⟩
              | viewCamera => exact camera_options_widens setup s option kept ⟨authorized, recorded⟩ keptOf
              | terminal => exact terminal_options_widens setup s option kept keptOf
              | fileTransfer | portForward => cases keptOf

theorem log_on_widens (w : World) (scene : Scene) (options : Option OptionMessage) (agrees : Agrees s.conn)
    (authorized : s.conn.authorized = true) : Widens s (s.logOn setup w scene options) := by
  unfold ServedConn.logOn
  split
  case isTrue => exact widens_refl s
  case isFalse further =>
    have direct : s.conn.authedConnType ≠ some .portForward := by
      intro tunnel
      simp [ServedConn.answeredOnly, tunnel] at further
    have shown : Widens s { s with displayIdx := if s.subService w then scene.primaryDisplayIdx else s.displayIdx } :=
      ⟨⟨rfl, .inl, .inl, .inl, fun _ => id, fun _ => .inl, fun _ => .inl⟩, rfl, fun _ => .inl⟩
    have opted : Widens s (s.answerLogin setup w scene options) :=
      widens_trans s _ _ shown (login_options_widen setup _ options authorized)
    have locked := widens_trans s _ _ opted
      (perms_widens (s.answerLogin setup w scene options) { (s.answerLogin setup w scene options).perms with keyboard := false } rfl)
    extract_lets answered keyless lockedConn
    split
    · exact locked
    · split
      · exact locked
      · split
        case isTrue camera =>
          split
          · exact locked
          · refine widens_trans s _ _ locked (camera_displays_widen lockedConn scene ?_)
            rw [locked.conn]
            exact camera_flag s agrees authorized camera
        case isFalse =>
          split
          · refine widens_trans s _ _ opted (monitor_services_widen setup answered ?_)
            rw [opted.conn]
            exact fun remote => remote_flags s agrees authorized remote direct
          · exact opted

theorem close_voice_grows : Grows s s.closeVoiceCall := by
  unfold ServedConn.closeVoiceCall
  have closed : Grows s { s with voiceCalling := false } := ⟨rfl, .inl, .inl, .inl, fun _ => id, fun _ => .inl, fun _ => .inl⟩
  split
  · exact grows_trans s _ _ closed (subscribe_grows _ .audio false)
  · exact closed

theorem voice_call_grows (accepted : Bool) : Grows s (s.handleVoiceCall accepted) := by
  unfold ServedConn.handleVoiceCall
  split
  · have answered : Grows s { s with voiceCallRequested := false, voiceCalling := accepted } :=
      ⟨rfl, .inl, .inl, nofun, fun _ => id, fun _ => .inl, fun _ => .inl⟩
    split
    · exact grows_trans s _ _ answered (subscribe_grows _ .audio _)
    · exact answered
  · exact grows_refl s

-- Whether the call goes on matters to the audio of a camera connection alone, and both
-- handlers tell that service.
theorem call_safe (calling heard : Bool) (requested : Bool) (safe : Safe s)
    (known : ∀ service, s.server.subscribed service = true → service ∈ s.server.registered)
    (camera : s.isAuthedViewCameraConn = true → heard = true → s.conn.CameraAuthed ∧ calling = true) :
    Safe (if s.isAuthedViewCameraConn then
        ServedConn.subscribe { s with voiceCallRequested := requested, voiceCalling := calling } .audio heard
      else { s with voiceCallRequested := requested, voiceCalling := calling }) := by
  have others : ∀ service, service ≠ .audio → Entitled s.conn s.voiceCalling service → Entitled s.conn calling service := by
    intro service different entitled
    cases service with
    | audio => exact (different rfl).elim
    | _ => exact entitled
  split
  case isTrue isCamera =>
    intro service subscribed
    rw [ServedConn.subscribe, subscribe_subscribed] at subscribed
    split at subscribed
    · rename_i audio
      rw [audio.1]
      exact .inr (camera isCamera subscribed)
    · rename_i other
      have different : service ≠ .audio := by
        rintro rfl
        exact other ⟨rfl, known .audio subscribed⟩
      exact others service different (safe service subscribed)
  case isFalse plain =>
    intro service subscribed
    cases service with
    | audio =>
        rcases safe .audio subscribed with remote | ⟨isCamera, _⟩
        · exact .inl remote
        · simp [ServedConn.isAuthedViewCameraConn, isCamera.2] at plain
    | _ => exact safe _ subscribed

theorem close_voice_safe (safe : Safe s) (known : ∀ service, s.server.subscribed service = true → service ∈ s.server.registered) :
    Safe s.closeVoiceCall := by
  have closed := call_safe s false false s.voiceCallRequested safe known (fun _ heard => by cases heard)
  unfold ServedConn.closeVoiceCall
  exact closed

theorem voice_call_safe (accepted : Bool) (safe : Safe s)
    (known : ∀ service, s.server.subscribed service = true → service ∈ s.server.registered)
    (called : s.voiceCallRequested = true → s.conn.authorized = true) : Safe (s.handleVoiceCall accepted) := by
  unfold ServedConn.handleVoiceCall
  split
  · rename_i requested
    apply call_safe s accepted (s.perms.audioEnabled && accepted) false safe known
    intro isCamera heard
    refine ⟨⟨called requested, ?_⟩, ?_⟩
    · simpa [ServedConn.isAuthedViewCameraConn] using isCamera
    · exact (Bool.and_eq_true _ _ ▸ heard).2
  · exact safe

def isDisplayMessage : Message → Bool
  | .misc .switchDisplay | .misc .captureDisplays => true
  | _ => false

theorem display_scope (target : Target) (kind : AuthConnType) (msg : Message) (display : isDisplayMessage msg = true)
    (passes : authorizedMessageScopeViolation target kind msg = none) : kind = .remote ∨ kind = .viewCamera := by
  unfold isDisplayMessage at display
  split at display
  case h_3 => cases display
  all_goals
    cases kind with
    | remote => exact .inl rfl
    | viewCamera => exact .inr rfl
    | fileTransfer | portForward | terminal =>
        simp [authorizedMessageScopeViolation, isConnectionHousekeepingMessage, noopCompat, isRenderBroadcastNoopCompatMessage,
          isTextClipboardNoopCompatMessage, allowedMessage, isFileTransferScopedMessage, isPortForwardScopedMessage,
          isTerminalScopedMessage] at passes

theorem display_kinds (msg : Message) (display : isDisplayMessage msg = true)
    (passes : (s.conn.authorizedScopeViolation setup.host msg).isSome = false) :
    s.conn.authedConnType = some .remote ∨ s.conn.authedConnType = some .viewCamera := by
  unfold Conn.authorizedScopeViolation at passes
  cases recorded : s.conn.authedConnType with
  | none =>
      rw [recorded] at passes
      unfold isDisplayMessage at display
      split at display
      · cases passes
      · cases passes
      · cases display
  | some kind =>
      rw [recorded] at passes
      exact (display_scope setup.host.target kind msg display (Option.not_isSome_iff_eq_none.mp (by simpa using passes))).imp
        (congrArg some) (congrArg some)

theorem serving_direct (agrees : Agrees s.conn) (serving : s.conn.phase = .serving) (remote : s.conn.isRemote = true) :
    s.conn.authedConnType ≠ some .portForward := by
  obtain ⟨kind, recorded, _, tunnel, _⟩ := agrees.flags
  intro forwards
  have same : kind = .portForward := Option.some.inj (recorded.symm.trans forwards)
  simp [Conn.isRemote, tunnel serving, same] at remote

structure Keeps (s next : ServedConn) : Prop where
  grows : Grows s next
  safe : Safe s → Safe next

theorem widens_keeps (next : ServedConn) (widens : Widens s next) : Keeps s next :=
  ⟨widens.toGrows, widens_safe s next widens⟩

theorem session_keeps (w : World) (scene : Scene) (msg : Message) (agrees : Agrees s.conn) (authorized : s.conn.authorized = true)
    (serving : s.conn.phase = .serving) (follow : s.perms.followRemoteWindow = true → s.conn.RemoteAuthed)
    (known : ∀ service, s.server.subscribed service = true → service ∈ s.server.registered) :
    Keeps s (s.onSessionMessage setup w scene msg) := by
  have same : Keeps s s := widens_keeps s s (widens_refl s)
  unfold ServedConn.onSessionMessage
  split
  case isTrue => exact same
  case isFalse passes =>
    simp only [Bool.or_eq_true, not_or, Bool.not_eq_true] at passes
    have own : isDisplayMessage msg = true → OwnVideo s := fun display =>
      own_video s agrees authorized (display_kinds setup s msg display passes.1)
    split
    · exact widens_keeps s _ (switch_display_widens setup s scene (own rfl))
    · exact widens_keeps s _ (capture_displays_widens s scene (own rfl) follow)
    · rename_i o
      split
      · rename_i remote
        exact widens_keeps s _ (options_widens setup s o ⟨authorized, by simpa [ServedConn.isAuthedRemoteConn] using remote⟩)
      · split
        case h_2 => exact same
        case h_1 kept keptOf =>
          cases recorded : s.conn.authedConnType with
          | none =>
              rw [recorded] at keptOf
              cases keptOf
          | some kind =>
              rw [recorded] at keptOf
              cases kind with
              | viewCamera => exact widens_keeps s _ (camera_options_widens setup s o kept ⟨authorized, recorded⟩ keptOf)
              | terminal => exact widens_keeps s _ (terminal_options_widens setup s o kept keptOf)
              | remote | fileTransfer | portForward => cases keptOf
    · split
      · split
        · exact same
        · split
          case isTrue camera => exact widens_keeps s _ (camera_displays_widen s scene (camera_flag s agrees authorized camera))
          case isFalse =>
            split
            · exact same
            · apply widens_keeps s _ (monitor_services_widen setup s _)
              exact fun remote => remote_flags s agrees authorized remote (serving_direct s agrees serving remote)
      · exact same
    · split
      · exact ⟨⟨rfl, .inl, .inl, fun _ => .inr authorized, fun _ => id, fun _ => .inl, fun _ => .inl⟩, id⟩
      · exact ⟨close_voice_grows s, fun safe => close_voice_safe s safe known⟩
    · exact same

def ServedConn.Opens (service : Service) (wanted : Bool) : Prop := service ∈ s.server.registered ∧ wanted = true

-- The switches that leave a connection with no more than it may have. Nobody but the
-- audio branch asks whether the peer has been let in, and it asks for no type.
def ServedConn.Permitted : ServedEvent → Prop
  | .switchPermission name enabled =>
      s.conn.RemoteAuthed ∨
        if name = "keyboard" then
          let perms := { s.perms with keyboard := enabled }
          ¬s.Opens .clipboard (perms.canSubClipboardService setup) ∧
            ¬s.Opens .fileClipboard (setup.unixFileCopyPaste && perms.canSubFileClipboardService setup) ∧
            ¬s.Opens .cursor (enabled || s.perms.showRemoteCursor)
        else if name = "clipboard" then
          ¬s.Opens .clipboard (Permissions.canSubClipboardService setup { s.perms with clipboard := enabled })
        else if name = "audio" then
          s.conn.authorized = true → s.isAuthedViewCameraConn = false →
            ¬s.Opens .audio (Permissions.audioEnabled { s.perms with audio := enabled })
        else if name = "file" then
          ¬s.Opens .fileClipboard (setup.unixFileCopyPaste && Permissions.canSubFileClipboardService setup { s.perms with file := enabled })
        else True
  | .turn _ _ | .voiceCallResponse _ | .closeVoiceCall | .serviceAdded _ _ => True

theorem subscribe_file_clipboard_grows : Grows s (s.subscribeFileClipboard setup) := by
  unfold ServedConn.subscribeFileClipboard
  split
  · exact subscribe_grows s .fileClipboard _
  · exact grows_refl s

theorem subscribe_audio_grows : Grows s s.subscribeAudio := by
  unfold ServedConn.subscribeAudio
  split
  · split
    · exact subscribe_grows s .audio _
    · exact grows_refl s
  · exact subscribe_grows s .audio _

theorem grows_then (mid : ServedConn) (so : Grows s mid) (service : Service) (sub : Bool) : Grows s (mid.subscribe service sub) :=
  grows_trans s mid _ so (subscribe_grows mid service sub)

theorem switch_permission_grows (name : String) (enabled : Bool) : Grows s (s.switchPermission setup name enabled) := by
  unfold ServedConn.switchPermission
  split
  · apply grows_then s _ _ .cursor
    refine grows_trans s _ _ ?_ (subscribe_file_clipboard_grows setup _)
    apply grows_then s _ _ .clipboard
    exact perms_grows s { s.perms with keyboard := enabled } rfl
  · split
    · apply grows_then s _ _ .clipboard
      exact perms_grows s { s.perms with clipboard := enabled } rfl
    · split
      · have set := perms_grows s { s.perms with audio := enabled } rfl
        split
        · exact grows_trans s _ _ set (subscribe_audio_grows _)
        · exact set
      · split
        · exact grows_trans s _ _ (perms_grows s { s.perms with file := enabled } rfl) (subscribe_file_clipboard_grows setup _)
        · exact grows_refl s

-- Telling a service something is safe exactly when it may be told so.
theorem subscribe_safe (service : Service) (sub : Bool) (safe : Safe s) :
    Safe (s.subscribe service sub) ↔ (s.Opens service sub → Entitled s.conn s.voiceCalling service) := by
  constructor
  · rintro after ⟨known, on⟩
    apply after service
    rw [ServedConn.subscribe, subscribe_subscribed, if_pos ⟨rfl, known⟩, on]
  · intro entitled
    exact widens_safe s _ (subscribe_widens s service sub (fun known on => entitled ⟨known, on⟩)) safe

theorem subscribe_file_clipboard_safe (safe : Safe s) : Safe (s.subscribeFileClipboard setup) ↔
    (s.Opens .fileClipboard (setup.unixFileCopyPaste && s.perms.canSubFileClipboardService setup) → s.conn.RemoteAuthed) := by
  unfold ServedConn.subscribeFileClipboard
  cases built : setup.unixFileCopyPaste with
  | true => exact subscribe_safe s .fileClipboard _ safe
  | false => exact ⟨fun _ opens => (Bool.false_ne_true opens.2).elim, fun _ => safe⟩

theorem subscribe_audio_safe (safe : Safe s) (authorized : s.conn.authorized = true) : Safe s.subscribeAudio ↔
    (s.isAuthedViewCameraConn = false → s.Opens .audio s.perms.audioEnabled → s.conn.RemoteAuthed) := by
  cases camera : s.isAuthedViewCameraConn with
  | true =>
      have authed : s.conn.CameraAuthed := ⟨authorized, by simpa [ServedConn.isAuthedViewCameraConn] using camera⟩
      exact ⟨(fun _ plain => by cases plain), fun _ => widens_safe s _ (audio_widens s (.inr authed)) safe⟩
  | false =>
      have plain : ¬s.conn.CameraAuthed := by
        intro authed
        simp [ServedConn.isAuthedViewCameraConn, authed.2] at camera
      have told := subscribe_safe s .audio s.perms.audioEnabled safe
      simp only [ServedConn.subscribeAudio, camera, Bool.false_eq_true, if_false, told, Entitled, plain, false_and, or_false,
        forall_const]

theorem file_clipboard_subscribed (other : Service) : (s.subscribeFileClipboard setup).server.subscribed other =
    if other = .fileClipboard ∧ setup.unixFileCopyPaste = true ∧ .fileClipboard ∈ s.server.registered then
      s.perms.canSubFileClipboardService setup
    else s.server.subscribed other := by
  unfold ServedConn.subscribeFileClipboard
  cases built : setup.unixFileCopyPaste with
  | true =>
      rw [if_pos rfl, ServedConn.subscribe, subscribe_subscribed]
      simp only [true_and]
  | false => simp

theorem file_clipboard_frame : (s.subscribeFileClipboard setup).server.registered = s.server.registered ∧
    (s.subscribeFileClipboard setup).perms = s.perms ∧ (s.subscribeFileClipboard setup).voiceCalling = s.voiceCalling := by
  unfold ServedConn.subscribeFileClipboard
  split
  · exact ⟨subscribe_registered _ _ _, rfl, rfl⟩
  · exact ⟨rfl, rfl, rfl⟩

-- The three services a change of the keyboard reaches.
theorem keyboard_subscribed (enabled : Bool) (other : Service) :
    (s.switchPermission setup "keyboard" enabled).server.subscribed other =
      if other = .cursor ∧ .cursor ∈ s.server.registered then enabled || s.perms.showRemoteCursor
      else if other = .fileClipboard ∧ setup.unixFileCopyPaste = true ∧ .fileClipboard ∈ s.server.registered then
        Permissions.canSubFileClipboardService setup { s.perms with keyboard := enabled }
      else if other = .clipboard ∧ .clipboard ∈ s.server.registered then
        Permissions.canSubClipboardService setup { s.perms with keyboard := enabled }
      else s.server.subscribed other := by
  unfold ServedConn.switchPermission
  rw [if_pos rfl]
  rw [ServedConn.subscribe, subscribe_subscribed, (file_clipboard_frame setup _).1, file_clipboard_subscribed]
  simp only [ServedConn.subscribeClipboard, ServedConn.subscribe, subscribe_subscribed, subscribe_registered]

theorem keyboard_safe (enabled : Bool) (safe : Safe s) (stranger : ¬s.conn.RemoteAuthed) :
    let perms := { s.perms with keyboard := enabled }
    Safe (s.switchPermission setup "keyboard" enabled) ↔
      ¬s.Opens .clipboard (perms.canSubClipboardService setup) ∧
        ¬s.Opens .fileClipboard (setup.unixFileCopyPaste && perms.canSubFileClipboardService setup) ∧
        ¬s.Opens .cursor (enabled || s.perms.showRemoteCursor) := by
  intro perms
  have told := keyboard_subscribed setup s enabled
  have conn := (switch_permission_grows setup s "keyboard" enabled).conn
  have voice : (s.switchPermission setup "keyboard" enabled).voiceCalling = s.voiceCalling := by
    unfold ServedConn.switchPermission
    exact (file_clipboard_frame setup _).2.2
  unfold Safe
  rw [conn, voice]
  constructor
  · intro after
    refine ⟨?_, ?_, ?_⟩
    · rintro ⟨known, on⟩
      refine stranger (after .clipboard ?_)
      rw [told, if_neg (by simp), if_neg (by simp), if_pos ⟨rfl, known⟩]
      exact on
    · rintro ⟨known, on⟩
      have both : setup.unixFileCopyPaste = true ∧ perms.canSubFileClipboardService setup = true := by simpa using on
      refine stranger (after .fileClipboard ?_)
      rw [told, if_neg (by simp), if_pos ⟨rfl, both.1, known⟩]
      exact both.2
    · rintro ⟨known, on⟩
      refine stranger (after .cursor ?_)
      rw [told, if_pos ⟨rfl, known⟩]
      exact on
  · rintro ⟨clipboard, files, cursor⟩ service subscribed
    rw [told] at subscribed
    split at subscribed
    case isTrue here => exact (cursor ⟨here.2, subscribed⟩).elim
    case isFalse =>
      split at subscribed
      case isTrue here => exact (files ⟨here.2.2, Bool.and_eq_true_iff.mpr ⟨here.2.1, subscribed⟩⟩).elim
      case isFalse =>
        split at subscribed
        case isTrue here => exact (clipboard ⟨here.2, subscribed⟩).elim
        case isFalse => exact safe service subscribed

theorem remote_switch_widens (name : String) (enabled : Bool) (remote : s.conn.RemoteAuthed) :
    Widens s (s.switchPermission setup name enabled) := by
  unfold ServedConn.switchPermission ServedConn.subscribeClipboard
  split
  · apply remote_then s _ _ .cursor _ remote nofun
    have clipboard := remote_then s _ (perms_widens s { s.perms with keyboard := enabled } rfl) .clipboard
      (Permissions.canSubClipboardService setup { s.perms with keyboard := enabled }) remote nofun
    exact widens_trans s _ _ clipboard (remote_file_clipboard setup _ (clipboard.conn ▸ remote))
  · split
    · apply remote_then s _ _ .clipboard _ remote nofun
      exact perms_widens s { s.perms with clipboard := enabled } rfl
    · split
      · have set := perms_widens s { s.perms with audio := enabled } rfl
        split
        · exact widens_trans s _ _ set (audio_widens _ (.inl remote))
        · exact set
      · split
        · have set := perms_widens s { s.perms with file := enabled } rfl
          exact widens_trans s _ _ set (remote_file_clipboard setup _ remote)
        · exact widens_refl s

theorem switch_permission_safe (name : String) (enabled : Bool) (safe : Safe s) :
    Safe (s.switchPermission setup name enabled) ↔ s.Permitted setup (.switchPermission name enabled) := by
  by_cases remote : s.conn.RemoteAuthed
  · exact ⟨fun _ => .inl remote, fun _ => widens_safe s _ (remote_switch_widens setup s name enabled remote) safe⟩
  · simp only [ServedConn.Permitted, remote, false_or]
    by_cases keyboard : name = "keyboard"
    · rw [if_pos keyboard, keyboard]
      exact keyboard_safe setup s enabled safe remote
    · rw [if_neg keyboard]
      simp only [ServedConn.switchPermission, if_neg keyboard]
      by_cases clipboard : name = "clipboard"
      · rw [if_pos clipboard, if_pos clipboard]
        exact (subscribe_safe { s with perms := { s.perms with clipboard := enabled } } .clipboard _ safe).trans
          (by simp only [Entitled, remote, imp_false]; rfl)
      · rw [if_neg clipboard, if_neg clipboard]
        by_cases audio : name = "audio"
        · rw [if_pos audio, if_pos audio]
          by_cases authorized : s.conn.authorized = true
          · rw [if_pos authorized]
            refine (subscribe_audio_safe { s with perms := { s.perms with audio := enabled } } safe authorized).trans ?_
            simp only [remote, imp_false, authorized, forall_const]
            rfl
          · rw [if_neg authorized]
            exact ⟨fun _ authed => (authorized authed).elim, fun _ => safe⟩
        · rw [if_neg audio, if_neg audio]
          by_cases file : name = "file"
          · rw [if_pos file, if_pos file]
            exact (subscribe_file_clipboard_safe setup { s with perms := { s.perms with file := enabled } } safe).trans
              (by simp only [remote, imp_false]; rfl)
          · rw [if_neg file, if_neg file]
            exact ⟨fun _ => trivial, fun _ => safe⟩

-- What the later steps of a run rely on: the session's record, and flags that only a
-- remote session sets.
structure Guard (s : ServedConn) : Prop where
  session : ∃ past, SessionInv setup.host past s.conn
  follow : s.perms.followRemoteWindow = true → s.conn.RemoteAuthed
  subed : s.servicesSubed = true → s.conn.RemoteAuthed
  called : s.voiceCallRequested = true → s.conn.authorized = true
  known : ∀ service, s.server.subscribed service = true → service ∈ s.server.registered
  files : .fileClipboard ∈ s.server.registered → setup.unixFileCopyPaste = true

theorem guard_grows (next : ServedConn) (guard : Guard setup s) (grows : Grows s next) : Guard setup next := by
  refine ⟨?_, ?_, ?_, ?_, ?_, ?_⟩
  · rw [grows.conn]
    exact guard.session
  · intro follows
    rw [grows.conn]
    exact (grows.follows follows).elim guard.follow id
  · intro subed
    rw [grows.conn]
    exact (grows.subed subed).elim guard.subed id
  · intro called
    rw [grows.conn]
    exact (grows.called called).elim guard.called id
  · intro service subscribed
    exact (grows.known service subscribed).elim (fun earlier => grows.kept service (guard.known service earlier)) id
  · intro registered
    rcases grows.added .fileClipboard registered with earlier | video
    · exact guard.files earlier
    · cases video

theorem rights_kept (c d : Conn) (event : LoopEvent) (taken : c.step setup.host event = some d) (authorized : c.authorized = true) :
    d.authorized = true ∧ d.authedConnType = c.authedConnType := by
  have settled := step_settled setup.host c d event authorized taken
  exact ⟨settled.authorized, by rw [Conn.authedConnType, settled.recorded, Conn.authedConnType]⟩

theorem conn_guard (d : Conn) (event : LoopEvent) (guard : Guard setup s) (taken : s.conn.step setup.host event = some d) :
    Guard setup { s with conn := d } := by
  have remote : s.conn.RemoteAuthed → d.RemoteAuthed := by
    intro authed
    obtain ⟨authorized, recorded⟩ := rights_kept setup s.conn d event taken authed.1
    exact ⟨authorized, recorded.trans authed.2⟩
  obtain ⟨past, session⟩ := guard.session
  exact ⟨⟨_, step_session setup.host past s.conn d event session taken⟩, fun follows => remote (guard.follow follows),
    fun subed => remote (guard.subed subed), fun called => (rights_kept setup s.conn d event taken (guard.called called)).1,
    guard.known, guard.files⟩

theorem conn_safe (d : Conn) (event : LoopEvent) (safe : Safe s) (taken : s.conn.step setup.host event = some d) :
    Safe { s with conn := d } := by
  intro service subscribed
  have entitled := safe service subscribed
  have remote : s.conn.RemoteAuthed → d.RemoteAuthed := by
    intro authed
    obtain ⟨authorized, recorded⟩ := rights_kept setup s.conn d event taken authed.1
    exact ⟨authorized, recorded.trans authed.2⟩
  have camera : s.conn.CameraAuthed → d.CameraAuthed := by
    intro authed
    obtain ⟨authorized, recorded⟩ := rights_kept setup s.conn d event taken authed.1
    exact ⟨authorized, recorded.trans authed.2⟩
  cases service with
  | clipboard | fileClipboard | cursor | position | windowFocus | monitor => exact remote entitled
  | audio => exact entitled.imp remote (And.imp_left camera)
  | camera index => exact camera entitled
  | display | printer => trivial

theorem removed_keeps : Keeps s { s with server := s.server.removeConnection } := by
  refine ⟨server_grows s _ (fun _ => id) (fun _ => .inl) ?_, ?_⟩
  · intro service subscribed
    cases subscribed
  · intro _ service subscribed
    cases subscribed

theorem message_serving (host : Host) (c d : Conn) (msg : Message) (w later : World)
    (taken : c.step host (.message msg w later) = some d) : c.phase = .serving := by
  cases phase : c.phase with
  | serving => rfl
  | forwarding | ended => simp [Conn.step, phase] at taken

theorem turn_keeps (event : LoopEvent) (scene : Scene) (d : Conn) (guard : Guard setup s)
    (taken : s.conn.step setup.host event = some d) :
    Guard setup (s.onTurn setup event scene d) ∧ (Safe s → Safe (s.onTurn setup event scene d)) := by
  have plain : Guard setup { s with conn := d } ∧ (Safe s → Safe { s with conn := d }) :=
    ⟨conn_guard setup s d event guard taken, fun safe => conn_safe setup s d event safe taken⟩
  have ends : ∀ acted : ServedConn, Guard setup acted ∧ (Safe s → Safe acted) →
      Guard setup (if d.phase = .ended then { acted with server := acted.server.removeConnection } else acted) ∧
        (Safe s → Safe (if d.phase = .ended then { acted with server := acted.server.removeConnection } else acted)) := by
    intro acted kept
    split
    · have removed := removed_keeps acted
      exact ⟨guard_grows setup acted _ kept.1 removed.grows, fun safe => removed.safe (kept.2 safe)⟩
    · exact kept
  unfold ServedConn.onTurn
  apply ends
  by_cases authorized : s.conn.authorized = true
  · rw [if_pos authorized]
    split
    case h_2 => exact plain
    case h_1 msg w later =>
      obtain ⟨past, session⟩ := guard.session
      have keeps := session_keeps setup s w scene msg (session.2 authorized) authorized
        (message_serving setup.host s.conn d msg w later taken) guard.follow guard.known
      have same : (s.onSessionMessage setup w scene msg).conn.step setup.host (.message msg w later) = some d := by
        rw [keeps.grows.conn]
        exact taken
      exact ⟨conn_guard setup _ d _ (guard_grows setup s _ guard keeps.grows) same,
        fun safe => conn_safe setup _ d _ (keeps.safe safe) same⟩
  · rw [if_neg authorized]
    split
    case h_2 => exact plain
    case h_1 w granted world =>
      obtain ⟨past, session⟩ := plain.1.session
      have keeps := widens_keeps _ _ (log_on_widens setup { s with conn := d } w scene (loginOptions s.conn event)
        (session.2 granted) granted)
      exact ⟨guard_grows setup _ _ plain.1 keeps.grows, fun safe => keeps.safe (plain.2 safe)⟩

section
variable (event : ServedEvent) (next : ServedConn)

theorem step_cases (taken : s.step setup event = some next) :
    (∃ turn scene d, event = .turn turn scene ∧ s.conn.step setup.host turn = some d ∧ next = s.onTurn setup turn scene d) ∨
    (∃ name enabled, event = .switchPermission name enabled ∧ s.conn.phase = .serving ∧ next = s.switchPermission setup name enabled) ∨
    (∃ accepted, event = .voiceCallResponse accepted ∧ next = s.handleVoiceCall accepted) ∨
    (event = .closeVoiceCall ∧ next = s.closeVoiceCall) ∨
    (∃ source index, event = .serviceAdded source index ∧ next = { s with server := s.server.addService (getServiceName source index) }) := by
  cases event with
  | turn turn scene =>
      obtain ⟨d, moved, rfl⟩ := Option.map_eq_some_iff.mp taken
      exact .inl ⟨turn, scene, d, rfl, moved, rfl⟩
  | switchPermission name enabled =>
      simp only [ServedConn.step] at taken
      split at taken
      · rename_i serving
        exact .inr (.inl ⟨name, enabled, rfl, serving, (Option.some.inj taken).symm⟩)
      · cases taken
  | voiceCallResponse accepted =>
      simp only [ServedConn.step] at taken
      split at taken
      · exact .inr (.inr (.inl ⟨accepted, rfl, (Option.some.inj taken).symm⟩))
      · cases taken
  | closeVoiceCall =>
      simp only [ServedConn.step] at taken
      split at taken
      · exact .inr (.inr (.inr (.inl ⟨rfl, (Option.some.inj taken).symm⟩)))
      · cases taken
  | serviceAdded source index => exact .inr (.inr (.inr (.inr ⟨source, index, rfl, (Option.some.inj taken).symm⟩)))

theorem step_guard (guard : Guard setup s) (taken : s.step setup event = some next) : Guard setup next := by
  rcases step_cases setup s event next taken with ⟨turn, scene, d, rfl, moved, rfl⟩ | ⟨name, enabled, rfl, _, rfl⟩ | ⟨accepted, rfl, rfl⟩ |
    ⟨rfl, rfl⟩ | ⟨source, index, rfl, rfl⟩
  · exact (turn_keeps setup s turn scene d guard moved).1
  · exact guard_grows setup s _ guard (switch_permission_grows setup s name enabled)
  · exact guard_grows setup s _ guard (voice_call_grows s accepted)
  · exact guard_grows setup s _ guard (close_voice_grows s)
  · exact guard_grows setup s _ guard (add_service_grows s source index)

theorem step_safe (guard : Guard setup s) (safe : Safe s) (taken : s.step setup event = some next) : Safe next ↔ s.Permitted setup event := by
  have allowed : Safe next → (Safe next ↔ True) := fun after => ⟨fun _ => trivial, fun _ => after⟩
  rcases step_cases setup s event next taken with ⟨turn, scene, d, rfl, moved, rfl⟩ | ⟨name, enabled, rfl, _, rfl⟩ | ⟨accepted, rfl, rfl⟩ |
    ⟨rfl, rfl⟩ | ⟨source, index, rfl, rfl⟩
  · exact allowed ((turn_keeps setup s turn scene d guard moved).2 safe)
  · exact switch_permission_safe setup s name enabled safe
  · exact allowed (voice_call_safe s accepted safe guard.known guard.called)
  · exact allowed (close_voice_safe s safe guard.known)
  · exact allowed (widens_safe s _ (add_service_widens s source index) safe)

end

theorem new_server_files (registered : .fileClipboard ∈ (Server.new setup).registered) : setup.unixFileCopyPaste = true := by
  cases built : setup.unixFileCopyPaste with
  | true => rfl
  | false =>
      simp only [Server.new, built, Bool.false_eq_true, if_false, List.mem_append, List.append_nil] at registered
      rcases registered with ((audio | clipboards) | cursors) | printers
      · cases audio with
        | tail _ rest => cases rest
      · split at clipboards <;> simp at clipboards
      · split at cursors
        · simp at cursors
        · split at cursors <;> simp at cursors
      · split at printers <;> simp at printers

theorem start_guard (hash : Hash) (require2fa : Option TOTP) (shared : Shared) (keyboard clipboard audio file : Bool) :
    Guard setup (ServedConn.start setup hash require2fa shared keyboard clipboard audio file) :=
  ⟨⟨[], traced_session setup.host hash require2fa shared [] _ .start⟩, nofun, nofun, nofun, nofun, new_server_files setup⟩

end

-- However the peer and the connection manager interleave, what breaks the entitlement
-- is a switch of a permission of a connection that has not been let in as remote; with
-- none of those that tell a service to send, every subscription is one it may have.
theorem subscriptions_entitled (setup : Setup) (hash : Hash) (require2fa : Option TOTP) (shared : Shared)
    (keyboard clipboard audio file : Bool) (past : List (ServedConn × ServedEvent)) (s : ServedConn)
    (reach : Machine.Traced (ServedConn.step setup) (ServedConn.start setup hash require2fa shared keyboard clipboard audio file) past s) :
    ((∀ entry ∈ past, Safe entry.1) ∧ Safe s) ↔ ∀ entry ∈ past, entry.1.Permitted setup entry.2 := by
  refine Machine.traced_exact (ServedConn.step setup) (Guard setup) Safe (ServedConn.Permitted setup) _ s past
    (start_guard setup hash require2fa shared keyboard clipboard audio file) ?_ ?_ ?_ reach
  · exact fun service subscribed => (Bool.false_ne_true subscribed).elim
  · exact fun s event next guard taken => step_guard setup s event next guard taken
  · exact fun s event next guard safe taken => step_safe setup s event next guard safe taken

def desktopSetup : Setup where
  host := desktop
  unixFileCopyPaste := true
  oneWayClipboardRedirection := false
  oneWayFileTransfer := false
  captureCursorEmbedded := false
  isX11 := true
  printer := false

def desktopScene : Scene where
  display := 0
  add := []
  sub := []
  set := []
  isConnect := false
  monitors := 1
  cameras := 0
  primaryDisplayIdx := 0
  primaryCameraExists := false
  waitSessionIdConfirm := false
  currentProcessSessionId := false

def desktopServed : ServedConn := ServedConn.start desktopSetup desktopHash none quietShared true false true true

def remoteRun : List ServedEvent := [.turn loginTurn desktopScene, .switchPermission "clipboard" true]

theorem remote_run_runs : (Machine.run (ServedConn.step desktopSetup) desktopServed remoteRun).isSome = true := by decide

def remoteServed : ServedConn := (Machine.run (ServedConn.step desktopSetup) desktopServed remoteRun).get remote_run_runs

def remotePast : List (ServedConn × ServedEvent) := Machine.trace (ServedConn.step desktopSetup) desktopServed remoteRun

theorem subscriptions_entitled_remote : remoteServed.server.subscribed (.monitor 0) = true ∧
    remoteServed.server.subscribed .clipboard = true ∧
    (((∀ entry ∈ remotePast, Safe entry.1) ∧ Safe remoteServed) ↔ ∀ entry ∈ remotePast, entry.1.Permitted desktopSetup entry.2) :=
  ⟨by decide +kernel, by decide +kernel, subscriptions_entitled desktopSetup desktopHash none quietShared true false true true
    remotePast remoteServed (Machine.traced_run (ServedConn.step desktopSetup) desktopServed remoteRun remote_run_runs)⟩

-- A peer without a password waits to be accepted, and its permissions can already be
-- clicked in the connection manager.
def strangerTurn : LoopEvent := .message (.loginRequest { remoteLogin with password := [] }) desktopWorld desktopWorld

def strangerRun : List ServedEvent := [.turn strangerTurn desktopScene, .switchPermission "clipboard" true]

theorem stranger_run_runs : (Machine.run (ServedConn.step desktopSetup) desktopServed strangerRun).isSome = true := by decide

def strangerServed : ServedConn := (Machine.run (ServedConn.step desktopSetup) desktopServed strangerRun).get stranger_run_runs

theorem clipboard_sent_to_stranger : ∃ past s,
    Machine.Traced (ServedConn.step desktopSetup) desktopServed past s ∧ s.conn.authorized = false ∧
      s.server.subscribed .clipboard = true ∧ ¬Safe s := by
  have subscribed : strangerServed.server.subscribed .clipboard = true := by decide
  have unauthorized : strangerServed.conn.authorized = false := by decide
  refine ⟨_, strangerServed, Machine.traced_run _ desktopServed strangerRun stranger_run_runs, unauthorized, subscribed, ?_⟩
  intro safe
  have authed : strangerServed.conn.RemoteAuthed := safe .clipboard subscribed
  rw [authed.1] at unauthorized
  cases unauthorized

end GotechDesk.Connection
