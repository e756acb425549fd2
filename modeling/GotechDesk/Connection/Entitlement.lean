import GotechDesk.Connection.Grants

set_option autoImplicit false

namespace GotechDesk.Connection

section
variable (setup : Setup) (s : ServedConn)

theorem remote_subscribe (service : Service) (sub : Bool) (remote : s.conn.RemoteAuthed)
    (notCamera : ∀ index, service ≠ .camera index) : Widens s (s.subscribe service sub) :=
  subscribe_widens s service sub (fun _ _ => remote_entitled s remote service notCamera)

theorem remote_file_clipboard (remote : s.conn.RemoteAuthed) : Widens s (s.subscribeFileClipboard setup) := by
  unfold ServedConn.subscribeFileClipboard
  split
  · exact remote_subscribe s .fileClipboard _ remote nofun
  · exact widens_refl s

theorem remote_not_camera (remote : s.conn.RemoteAuthed) : s.isAuthedViewCameraConn = false := by
  simp only [ServedConn.isAuthedViewCameraConn, remote.2, Option.some.injEq, reduceCtorEq, decide_false]

theorem audio_widens (authed : s.conn.RemoteAuthed ∨ s.conn.CameraAuthed) : Widens s s.subscribeAudio := by
  unfold ServedConn.subscribeAudio
  rcases authed with remote | camera
  · rw [remote_not_camera s remote]
    exact remote_subscribe s .audio _ remote nofun
  · have isCamera : s.isAuthedViewCameraConn = true := by
      simp only [ServedConn.isAuthedViewCameraConn, camera.2, decide_true]
    rw [isCamera, if_pos rfl]
    split
    · rename_i called
      apply subscribe_widens s .audio
      intro _ enabled
      have calling : s.voiceCalling = true := by simpa [enabled] using called
      exact .inr ⟨camera, calling⟩
    · exact widens_refl s

theorem given_widens (option : EnumOrUnknown BoolOption) (change : ServedConn → Bool → ServedConn)
    (changes : ∀ value, Widens s (change s value)) : Widens s (s.given option change) := by
  unfold ServedConn.given
  split
  · exact changes _
  · exact widens_refl s

-- The next service a handler tells, after what it has done so far.
theorem remote_then (mid : ServedConn) (so : Widens s mid) (service : Service) (sub : Bool) (remote : s.conn.RemoteAuthed)
    (notCamera : ∀ index, service ≠ .camera index) : Widens s (mid.subscribe service sub) :=
  widens_trans s mid _ so (remote_subscribe mid service sub (so.conn ▸ remote) notCamera)

section
variable (value : Bool)

theorem set_cursor_widens (remote : s.conn.RemoteAuthed) : Widens s (s.setShowRemoteCursor value) := by
  unfold ServedConn.setShowRemoteCursor
  apply remote_then s _ _ .position _ remote nofun
  apply remote_then s _ _ .cursor _ remote nofun
  exact perms_widens s _ rfl

theorem set_window_widens (remote : s.conn.RemoteAuthed) : Widens s (s.setFollowRemoteWindow value) := by
  unfold ServedConn.setFollowRemoteWindow
  refine widens_trans s { s with perms := { s.perms with followRemoteWindow := value } } _ ?_ (remote_subscribe _ .windowFocus _ remote nofun)
  exact ⟨⟨rfl, fun _ => .inr remote, .inl, .inl, fun _ => id, fun _ => .inl, fun _ => .inl⟩, rfl, fun _ => .inl⟩

theorem set_audio_widens (authed : s.conn.RemoteAuthed ∨ s.conn.CameraAuthed) : Widens s (s.setDisableAudio value) := by
  unfold ServedConn.setDisableAudio
  exact widens_trans s { s with perms := { s.perms with disableAudio := value } } _ (perms_widens s _ rfl) (audio_widens _ authed)

theorem set_files_widens (remote : s.conn.RemoteAuthed) : Widens s (s.setEnableFileTransfer setup value) := by
  unfold ServedConn.setEnableFileTransfer
  exact widens_trans s { s with perms := { s.perms with enableFileTransfer := value } } _ (perms_widens s _ rfl)
    (remote_file_clipboard setup _ remote)

theorem set_clipboard_widens (remote : s.conn.RemoteAuthed) : Widens s (s.setDisableClipboard setup value) := by
  unfold ServedConn.setDisableClipboard ServedConn.subscribeClipboard
  exact widens_trans s { s with perms := { s.perms with disableClipboard := value } } _ (perms_widens s _ rfl)
    (remote_subscribe _ .clipboard _ remote nofun)

theorem set_keyboard_widens (remote : s.conn.RemoteAuthed) : Widens s (s.setDisableKeyboard setup value) := by
  unfold ServedConn.setDisableKeyboard ServedConn.subscribeClipboard
  apply remote_then s _ _ .cursor _ remote nofun
  have clipboard := remote_then s _ (perms_widens s { s.perms with disableKeyboard := value } rfl) .clipboard
    (Permissions.canSubClipboardService setup { s.perms with disableKeyboard := value }) remote nofun
  exact widens_trans s _ _ clipboard (remote_file_clipboard setup _ (clipboard.conn ▸ remote))

end

theorem options_widens (o : OptionMessage) (remote : s.conn.RemoteAuthed) : Widens s (s.updateOptions setup o) := by
  unfold ServedConn.updateOptions
  dsimp only
  have cursor : Widens s (if setup.host.target.mobile then s else s.given o.showRemoteCursor ServedConn.setShowRemoteCursor) := by
    split
    · exact widens_refl s
    · exact given_widens s _ _ (fun value => set_cursor_widens s value remote)
  generalize (if setup.host.target.mobile then s else s.given o.showRemoteCursor ServedConn.setShowRemoteCursor) = first at cursor ⊢
  have remote1 : first.conn.RemoteAuthed := cursor.conn ▸ remote
  have window := widens_trans _ _ _ cursor (given_widens first o.followRemoteWindow _ (fun value => set_window_widens first value remote1))
  generalize first.given o.followRemoteWindow ServedConn.setFollowRemoteWindow = second at window ⊢
  have remote2 : second.conn.RemoteAuthed := window.conn ▸ remote
  have audio := widens_trans _ _ _ window (given_widens second o.disableAudio _ (fun value => set_audio_widens second value (.inl remote2)))
  generalize second.given o.disableAudio ServedConn.setDisableAudio = third at audio ⊢
  have remote3 : third.conn.RemoteAuthed := audio.conn ▸ remote
  have files : Widens third (if setup.host.target = .windows ∨ setup.unixFileCopyPaste then
      third.given o.enableFileTransfer (ServedConn.setEnableFileTransfer setup) else third) := by
    split
    · exact given_widens third _ _ (fun value => set_files_widens setup third value remote3)
    · exact widens_refl third
  have filed := widens_trans _ _ _ audio files
  generalize (if setup.host.target = .windows ∨ setup.unixFileCopyPaste then
      third.given o.enableFileTransfer (ServedConn.setEnableFileTransfer setup) else third) = fourth at filed ⊢
  have remote4 : fourth.conn.RemoteAuthed := filed.conn ▸ remote
  have clipboard := widens_trans _ _ _ filed
    (given_widens fourth o.disableClipboard _ (fun value => set_clipboard_widens setup fourth value remote4))
  generalize fourth.given o.disableClipboard (ServedConn.setDisableClipboard setup) = fifth at clipboard ⊢
  have remote5 : fifth.conn.RemoteAuthed := clipboard.conn ▸ remote
  exact widens_trans _ _ _ clipboard (given_widens fifth o.disableKeyboard _ (fun value => set_keyboard_widens setup fifth value remote5))

theorem kept_if_any (o kept : OptionMessage) (some : keptIfAny o = some kept) : kept = o := by
  unfold keptIfAny at some
  split at some
  · exact (Option.some.inj some).symm
  · cases some

-- A camera session may only turn its audio on and off, a terminal not even that.
theorem camera_options_widens (o kept : OptionMessage) (camera : s.conn.CameraAuthed) (keptOf : (scopedViewCameraOption o).1 = some kept) :
    Widens s (s.updateOptions setup kept) := by
  have same := kept_if_any _ _ keptOf
  have only : s.updateOptions setup kept = s.given kept.disableAudio ServedConn.setDisableAudio := by
    rw [same]
    simp only [ServedConn.updateOptions, ServedConn.given, EnumOrUnknown.setTo, ite_self]
  rw [only]
  exact given_widens s _ _ (fun value => set_audio_widens s value (.inr camera))

theorem terminal_options_widens (o kept : OptionMessage) (keptOf : (scopedTerminalLoginOption o).1 = some kept) :
    Widens s (s.updateOptions setup kept) := by
  have still : s.updateOptions setup kept = s := by
    unfold scopedTerminalLoginOption at keptOf
    split at keptOf
    · rw [kept_if_any _ _ keptOf]
      simp only [ServedConn.updateOptions, ServedConn.given, EnumOrUnknown.setTo, ite_self]
    · rw [kept_if_any {} kept keptOf]
      simp only [ServedConn.updateOptions, ServedConn.given, EnumOrUnknown.setTo, ite_self]
  rw [still]
  exact widens_refl s

theorem monitor_services_widen (remote : s.conn.isRemote = true → s.conn.RemoteAuthed) : Widens s (s.trySubMonitorServices setup) := by
  unfold ServedConn.trySubMonitorServices
  split
  case isFalse => exact widens_refl s
  case isTrue due =>
    have authed : s.conn.RemoteAuthed := remote (by simpa using And.left (by simpa using due))
    have registered : ∀ service, service ∈ (s.server.addService (.monitor s.displayIdx)).registered ↔
        service ∈ s.server.registered ∨ service = .monitor s.displayIdx := add_service_registered s.server _
    refine ⟨⟨rfl, .inl, fun _ => .inr authed, .inl, ?_, ?_, ?_⟩, rfl, ?_⟩
    · exact fun service known => (registered service).mpr (.inl known)
    · intro service known
      rcases (registered service).mp known with earlier | rfl
      · exact .inl earlier
      · exact .inr rfl
    · intro service subscribed
      simp only [Server.addMonitorConnection, add_service_subscribed] at subscribed
      split at subscribed
      · rename_i listed
        exact .inr listed.1
      · exact .inl subscribed
    · intro service subscribed
      simp only [Server.addMonitorConnection, add_service_subscribed] at subscribed
      split at subscribed
      · rename_i listed
        right
        apply remote_entitled s authed service
        rintro index rfl
        exact listed.2.1 ⟨rfl, nofun⟩
      · exact .inl subscribed

theorem camera_displays_widen (scene : Scene) (camera : s.conn.CameraAuthed) : Widens s (s.trySubCameraDisplays scene) := by
  unfold ServedConn.trySubCameraDisplays Server.tryAddPrimaryCameraService Server.addCameraConnection
  split
  · have added := add_service_widens s .camera primaryCameraIdx
    exact widens_trans s _ _ added (subscribe_widens _ (.camera primaryCameraIdx) true (fun _ _ => camera))
  · exact widens_refl s

-- What a connection may switch to and capture is of its own kind.
def OwnVideo (s : ServedConn) : Prop := ∀ index, Entitled s.conn s.voiceCalling (getServiceName s.videoSource index)

theorem switch_display_widens (scene : Scene) (own : OwnVideo s) : Widens s (s.handleSwitchDisplay setup scene) := by
  unfold ServedConn.handleSwitchDisplay
  split
  · exact widens_refl s
  · split
    · exact widens_refl s
    · dsimp only
      have added := add_service_widens s s.videoSource scene.display
      have left : Widens s { s with
          server := if setup.host.getVersionNumber minVerMultiUiSession ≤ setup.host.getVersionNumber s.conn.lr.version.val then
              s.server.addService (getServiceName s.videoSource scene.display)
            else (s.server.addService (getServiceName s.videoSource scene.display)).subscribe
              (getServiceName s.videoSource s.displayIdx) false } := by
        split
        · exact added
        · exact widens_trans s _ _ added (subscribe_widens _ (getServiceName s.videoSource s.displayIdx) false nofun)
      have switched := widens_trans s _ _ left
        (subscribe_widens _ (getServiceName s.videoSource scene.display) true (fun _ _ => own scene.display))
      exact ⟨{ switched with },
        switched.voice, switched.opens⟩

theorem services_added (server : Server) (names : List Service) :
    (names.foldl Server.addService server).subscribed = server.subscribed ∧
      ∀ service, service ∈ (names.foldl Server.addService server).registered ↔ service ∈ server.registered ∨ service ∈ names := by
  induction names generalizing server with
  | nil => simp
  | cons name rest ih =>
      obtain ⟨subscribed, registered⟩ := ih (server.addService name)
      refine ⟨subscribed.trans (add_service_subscribed server name), ?_⟩
      intro service
      rw [List.foldl_cons, registered, add_service_registered, List.mem_cons, or_assoc]

theorem capture_subscribed (server : Server) (displays : List Service) (included excluded : Bool) (service : Service)
    (subscribed : (server.captureDisplays displays included excluded).subscribed service = true) :
    server.subscribed service = true ∨ (service ∈ server.registered ∧ service ∈ displays) := by
  simp only [Server.captureDisplays] at subscribed
  split at subscribed
  · rename_i video
    split at subscribed
    · rename_i asked
      exact .inr ⟨video.1, asked⟩
    · exact .inl (by simpa using And.right (by simpa using subscribed))
  · exact .inl subscribed

-- One of the three requests, over services that have all been added before.
theorem captured_widens (displays asked : List Service) (included excluded : Bool)
    (own : ∀ service ∈ asked, service.isVideo = true ∧ Entitled s.conn s.voiceCalling service)
    (subset : ∀ service ∈ displays, service.isVideo = true ∧ Entitled s.conn s.voiceCalling service) :
    Widens s { s with server := (asked.foldl Server.addService s.server).captureDisplays displays included excluded } := by
  obtain ⟨subscribedSame, registered⟩ := services_added s.server asked
  refine ⟨server_grows s _ ?_ ?_ ?_, rfl, ?_⟩
  · intro service known
    exact (registered service).mpr (.inl known)
  · intro service known
    rcases (registered service).mp known with earlier | added
    · exact .inl earlier
    · exact .inr (own service added).1
  · intro service subscribed
    rcases capture_subscribed _ displays included excluded service subscribed with earlier | ⟨known, _⟩
    · exact .inl (subscribedSame ▸ earlier)
    · exact .inr known
  · intro service subscribed
    rcases capture_subscribed _ displays included excluded service subscribed with earlier | ⟨_, asked⟩
    · exact .inl (subscribedSame ▸ earlier)
    · exact .inr (subset service asked).2

theorem capture_displays_widens (scene : Scene) (own : OwnVideo s)
    (follow : s.perms.followRemoteWindow = true → s.conn.RemoteAuthed) : Widens s (s.captureDisplays scene) := by
  unfold ServedConn.captureDisplays
  extract_lets valid names added captured multi
  have asked : ∀ displays, ∀ service ∈ names displays, service.isVideo = true ∧ Entitled s.conn s.voiceCalling service := by
    intro displays service member
    obtain ⟨index, _, rfl⟩ := List.mem_map.mp member
    refine ⟨?_, own index⟩
    cases s.videoSource with
    | monitor => rfl
    | camera => rfl
  have all : ∀ service ∈ names scene.add ++ names scene.set,
      service.isVideo = true ∧ Entitled s.conn s.voiceCalling service := by
    intro service member
    rcases List.mem_append.mp member with add | set
    · exact asked scene.add service add
    · exact asked scene.set service set
  have widened : Widens s { s with perms := { s.perms with multiUiSession := multi }, server := captured } := by
    have request : ∀ displays included excluded, Widens s { s with server := added.captureDisplays (names displays) included excluded } :=
      fun displays included excluded => captured_widens s (names displays) _ included excluded all (asked displays)
    have captured : Widens s { s with server := captured } := by
      by_cases add : scene.add ≠ []
      · simpa only [captured, if_pos add] using request scene.add true false
      · by_cases sub : scene.sub ≠ []
        · simpa only [captured, if_neg add, if_pos sub] using request scene.sub false true
        · simpa only [captured, if_neg add, if_neg sub] using request scene.set true true
    exact widens_trans s _ _ captured (perms_widens _ { s.perms with multiUiSession := multi } rfl)
  split
  · exact widens_refl s
  · by_cases follows : s.perms.followRemoteWindow = true
    · rw [if_pos follows]
      exact remote_then s _ widened .windowFocus (!multi) (follow follows) nofun
    · rw [if_neg follows]
      exact widened

end

end GotechDesk.Connection
