import GotechDesk.Connection.SessionType

set_option autoImplicit false

namespace GotechDesk.Connection

inductive Service where
  | audio
  | display
  | clipboard
  | fileClipboard
  | cursor
  | position
  | windowFocus
  | printer
  | monitor (index : Nat)
  | camera (index : Nat)
deriving DecidableEq

inductive VideoSource where
  | monitor
  | camera
deriving DecidableEq

def getServiceName : VideoSource → Nat → Service
  | .monitor, index => .monitor index
  | .camera, index => .camera index

def Service.isVideo : Service → Bool
  | .monitor _ | .camera _ => true
  | .audio | .display | .clipboard | .fileClipboard | .cursor | .position | .windowFocus | .printer => false

-- The server as one connection sees it: the services by name, and which of them have
-- this connection among their subscribers.
structure Server where
  registered : List Service
  subscribed : Service → Bool

-- The rest of what the process is built and started with. The two options are builtin.
structure Setup where
  host : Host
  unixFileCopyPaste : Bool
  oneWayClipboardRedirection : Bool
  oneWayFileTransfer : Bool
  captureCursorEmbedded : Bool
  isX11 : Bool
  printer : Bool

def Server.new (setup : Setup) : Server :=
  { registered :=
      [Service.audio] ++
        (if setup.host.target = .ios then []
         else [Service.display, .clipboard] ++ if setup.unixFileCopyPaste then [Service.fileClipboard] else []) ++
        (if setup.host.target.mobile || setup.captureCursorEmbedded then []
         else [Service.cursor, .position] ++ if setup.host.target = .linux ∧ !setup.isX11 then [] else [Service.windowFocus]) ++
        (if setup.host.target = .windows ∧ setup.host.flutter ∧ setup.printer then [Service.printer] else [])
    subscribed := fun _ => false }

def Server.addService (server : Server) (service : Service) : Server :=
  if service ∈ server.registered then server else { server with registered := server.registered ++ [service] }

def Server.subscribe (server : Server) (service : Service) (sub : Bool) : Server :=
  if service ∈ server.registered then
    { server with subscribed := fun other => if other = service then sub else server.subscribed other }
  else server

def primaryCameraIdx : Nat := 0

def Server.tryAddPrimaryCameraService (server : Server) (primaryCameraExists : Bool) : Server :=
  if primaryCameraExists then server.addService (.camera primaryCameraIdx) else server

def Server.addCameraConnection (server : Server) (primaryCameraExists : Bool) : Server :=
  if primaryCameraExists then server.subscribe (.camera primaryCameraIdx) true else server

def Server.addMonitorConnection (server : Server) (noperms : List Service) (displayIdx : Nat) : Server :=
  { server with
    subscribed := fun service =>
      if service ∈ server.registered ∧ ¬ (service.isVideo ∧ service ≠ .monitor displayIdx) ∧ service ∉ noperms then true
      else server.subscribed service }

def Server.removeConnection (server : Server) : Server := { server with subscribed := fun _ => false }

def Server.captureDisplays (server : Server) (displays : List Service) (included excluded : Bool) : Server :=
  { server with
    subscribed := fun service =>
      if service ∈ server.registered ∧ service.isVideo then
        if service ∈ displays then included || server.subscribed service else !excluded && server.subscribed service
      else server.subscribed service }

def Server.getSubbedDisplaysCount (server : Server) : Nat :=
  (server.registered.filter (fun service => service.isVideo && server.subscribed service)).length

-- The fields of the connection its subscriptions are decided by.
structure Permissions where
  keyboard : Bool
  clipboard : Bool
  audio : Bool
  file : Bool
  showRemoteCursor : Bool := false
  followRemoteWindow : Bool := false
  multiUiSession : Bool := false
  disableAudio : Bool := false
  enableFileTransfer : Bool := false
  disableClipboard : Bool := false
  disableKeyboard : Bool := false
deriving DecidableEq

def Permissions.peerKeyboardEnabled (perms : Permissions) : Bool := perms.keyboard && !perms.disableKeyboard

def Permissions.clipboardEnabled (perms : Permissions) : Bool := perms.clipboard && !perms.disableClipboard

def Permissions.audioEnabled (perms : Permissions) : Bool := perms.audio && !perms.disableAudio

def Permissions.fileTransferEnabled (perms : Permissions) : Bool := perms.file && perms.enableFileTransfer

def Permissions.canSubClipboardService (setup : Setup) (perms : Permissions) : Bool :=
  perms.clipboardEnabled && perms.peerKeyboardEnabled && !setup.oneWayClipboardRedirection

def Permissions.canSubFileClipboardService (setup : Setup) (perms : Permissions) : Bool :=
  perms.clipboardEnabled && perms.fileTransferEnabled && !setup.oneWayFileTransfer

structure ServedConn where
  conn : Conn
  perms : Permissions
  voiceCallRequested : Bool := false
  voiceCalling : Bool := false
  servicesSubed : Bool := false
  displayIdx : Nat := 0
  server : Server

-- The payloads the messages above leave out, and what the platform answers while one
-- turn of the loop is handled.
structure Scene where
  display : Nat
  add : List Nat
  sub : List Nat
  set : List Nat
  isConnect : Bool
  monitors : Nat
  cameras : Nat
  primaryDisplayIdx : Nat
  primaryCameraExists : Bool
  waitSessionIdConfirm : Bool
  currentProcessSessionId : Bool

section
variable (setup : Setup)

def ServedConn.subscribe (s : ServedConn) (service : Service) (sub : Bool) : ServedConn :=
  { s with server := s.server.subscribe service sub }

-- What is compiled only with the file clipboard.
def ServedConn.subscribeFileClipboard (s : ServedConn) : ServedConn :=
  if setup.unixFileCopyPaste then s.subscribe .fileClipboard (s.perms.canSubFileClipboardService setup) else s

def ServedConn.subscribeClipboard (s : ServedConn) : ServedConn :=
  s.subscribe .clipboard (s.perms.canSubClipboardService setup)

def ServedConn.isAuthedRemoteConn (s : ServedConn) : Bool := decide (s.conn.authedConnType = some .remote)

def ServedConn.isAuthedViewCameraConn (s : ServedConn) : Bool := decide (s.conn.authedConnType = some .viewCamera)

-- The audio branch of SwitchPermission, behind its own check, and of update_options.
def ServedConn.subscribeAudio (s : ServedConn) : ServedConn :=
  if s.isAuthedViewCameraConn then
    if s.voiceCalling || !s.perms.audioEnabled then s.subscribe .audio s.perms.audioEnabled else s
  else s.subscribe .audio s.perms.audioEnabled

def ServedConn.switchPermission (s : ServedConn) (name : String) (enabled : Bool) : ServedConn :=
  if name = "keyboard" then
    let set := { s with perms := { s.perms with keyboard := enabled } }
    ((set.subscribeClipboard setup).subscribeFileClipboard setup).subscribe .cursor (enabled || s.perms.showRemoteCursor)
  else if name = "clipboard" then
    ServedConn.subscribeClipboard setup { s with perms := { s.perms with clipboard := enabled } }
  else if name = "audio" then
    let set := { s with perms := { s.perms with audio := enabled } }
    if s.conn.authorized then set.subscribeAudio else set
  else if name = "file" then
    ServedConn.subscribeFileClipboard setup { s with perms := { s.perms with file := enabled } }
  else s

def EnumOrUnknown.setTo : EnumOrUnknown BoolOption → Option Bool
  | .known .yes => some true
  | .known .no => some false
  | .known .notSet | .unknown _ => none

def ServedConn.setShowRemoteCursor (s : ServedConn) (value : Bool) : ServedConn :=
  let set := { s with perms := { s.perms with showRemoteCursor := value } }
  (set.subscribe .cursor (set.perms.peerKeyboardEnabled || value)).subscribe .position value

def ServedConn.setFollowRemoteWindow (s : ServedConn) (value : Bool) : ServedConn :=
  ServedConn.subscribe { s with perms := { s.perms with followRemoteWindow := value } } .windowFocus value

def ServedConn.setDisableAudio (s : ServedConn) (value : Bool) : ServedConn :=
  ServedConn.subscribeAudio { s with perms := { s.perms with disableAudio := value } }

def ServedConn.setEnableFileTransfer (s : ServedConn) (value : Bool) : ServedConn :=
  ServedConn.subscribeFileClipboard setup { s with perms := { s.perms with enableFileTransfer := value } }

def ServedConn.setDisableClipboard (s : ServedConn) (value : Bool) : ServedConn :=
  ServedConn.subscribeClipboard setup { s with perms := { s.perms with disableClipboard := value } }

def ServedConn.setDisableKeyboard (s : ServedConn) (value : Bool) : ServedConn :=
  let set := { s with perms := { s.perms with disableKeyboard := value } }
  ((set.subscribeClipboard setup).subscribeFileClipboard setup).subscribe .cursor
    (set.perms.peerKeyboardEnabled || set.perms.showRemoteCursor)

def ServedConn.given (s : ServedConn) (option : EnumOrUnknown BoolOption) (change : ServedConn → Bool → ServedConn) : ServedConn :=
  match option.setTo with
  | some value => change s value
  | none => s

-- update_options, as far as the subscriptions go; enable_file_transfer is compiled on
-- Windows and with the file clipboard.
def ServedConn.updateOptions (s : ServedConn) (o : OptionMessage) : ServedConn :=
  let s := if setup.host.target.mobile then s else s.given o.showRemoteCursor ServedConn.setShowRemoteCursor
  let s := s.given o.followRemoteWindow ServedConn.setFollowRemoteWindow
  let s := s.given o.disableAudio ServedConn.setDisableAudio
  let s := if setup.host.target = .windows ∨ setup.unixFileCopyPaste then s.given o.enableFileTransfer (ServedConn.setEnableFileTransfer setup) else s
  let s := s.given o.disableClipboard (ServedConn.setDisableClipboard setup)
  s.given o.disableKeyboard (ServedConn.setDisableKeyboard setup)

def ServedConn.trySubCameraDisplays (s : ServedConn) (scene : Scene) : ServedConn :=
  { s with
    server := (s.server.tryAddPrimaryCameraService scene.primaryCameraExists).addCameraConnection scene.primaryCameraExists }

def noperms (perms : Permissions) : List Service :=
  (if !perms.peerKeyboardEnabled && !perms.showRemoteCursor then [Service.cursor] else []) ++
    (if !perms.showRemoteCursor then [Service.position] else []) ++
    (if !perms.followRemoteWindow then [Service.windowFocus] else []) ++
    (if !perms.canSubClipboardService setup then [Service.clipboard] else []) ++
    (if setup.unixFileCopyPaste && !perms.canSubFileClipboardService setup then [Service.fileClipboard] else []) ++
    (if !perms.audioEnabled then [Service.audio] else [])

def ServedConn.trySubMonitorServices (s : ServedConn) : ServedConn :=
  if s.conn.isRemote && !s.servicesSubed then
    { s with
      servicesSubed := true
      server := (s.server.addService (.monitor s.displayIdx)).addMonitorConnection (noperms setup s.perms) s.displayIdx }
  else s

def ServedConn.updateScopedLoginOptions (s : ServedConn) (options : Option OptionMessage) : ServedConn :=
  match options, s.conn.authedConnType with
  | some option, some connType =>
      match (scopedLoginOption connType option).1 with
      | some kept => s.updateOptions setup kept
      | none => s
  | _, _ => s

-- Whether the displays could be listed for a remote session.
def ServedConn.subService (s : ServedConn) (w : World) : Bool := s.conn.isRemote && w.displaysError.isNone

-- A login that gets no further than its answer: a tunnel, or a screen nothing can capture.
def ServedConn.answeredOnly (s : ServedConn) (w : World) : Bool :=
  decide (s.conn.authedConnType = some .portForward) ||
    (s.conn.isRemote && decide (setup.host.target = .linux) && w.displayServerError.isSome)

def ServedConn.answerLogin (s : ServedConn) (w : World) (scene : Scene) (options : Option OptionMessage) : ServedConn :=
  ServedConn.updateScopedLoginOptions setup
    { s with displayIdx := if s.subService w then scene.primaryDisplayIdx else s.displayIdx } options

-- The end of send_logon_response_and_keep_alive, for a connection just authorized.
def ServedConn.logOn (s : ServedConn) (w : World) (scene : Scene) (options : Option OptionMessage) : ServedConn :=
  if s.answeredOnly setup w then s
  else
    let opted := s.answerLogin setup w scene options
    let locked := { opted with perms := { opted.perms with keyboard := false } }
    if s.conn.fileTransfer.isSome then locked
    else if s.conn.terminal then locked
    else if s.conn.viewCamera then if scene.waitSessionIdConfirm then locked else locked.trySubCameraDisplays scene
    else if s.subService w && !scene.waitSessionIdConfirm then opted.trySubMonitorServices setup
    else opted

def ServedConn.videoSource (s : ServedConn) : VideoSource := if s.conn.viewCamera then .camera else .monitor

def videoSourceCount (scene : Scene) : VideoSource → Nat
  | .monitor => scene.monitors
  | .camera => scene.cameras

def minVerMultiUiSession : String := "1.2.4"

def ServedConn.handleSwitchDisplay (s : ServedConn) (scene : Scene) : ServedConn :=
  if s.displayIdx = scene.display then s
  else if scene.display ≥ videoSourceCount scene s.videoSource then s
  else
    let added := s.server.addService (getServiceName s.videoSource scene.display)
    let left :=
      if setup.host.getVersionNumber minVerMultiUiSession ≤ setup.host.getVersionNumber s.conn.lr.version.val then added
      else added.subscribe (getServiceName s.videoSource s.displayIdx) false
    { s with displayIdx := scene.display, server := left.subscribe (getServiceName s.videoSource scene.display) true }

-- Passing an invalid sub request on as an empty list would unsubscribe everything.
def ServedConn.captureDisplays (s : ServedConn) (scene : Scene) : ServedConn :=
  let valid := fun displays : List Nat => displays.filter (fun display => decide (display < videoSourceCount scene s.videoSource))
  let names := fun displays : List Nat => (valid displays).map (getServiceName s.videoSource)
  if (scene.add ≠ [] ∧ valid scene.add = []) ∨ (scene.add = [] ∧ scene.sub ≠ [] ∧ valid scene.sub = []) ∨
      (scene.add = [] ∧ scene.sub = [] ∧ scene.set ≠ [] ∧ valid scene.set = []) then s
  else
    let added := (names scene.add ++ names scene.set).foldl Server.addService s.server
    let captured :=
      if scene.add ≠ [] then added.captureDisplays (names scene.add) true false
      else if scene.sub ≠ [] then added.captureDisplays (names scene.sub) false true
      else added.captureDisplays (names scene.set) true true
    let multi := decide (captured.getSubbedDisplaysCount > 1)
    { s with
      perms := { s.perms with multiUiSession := multi }
      server := if s.perms.followRemoteWindow then captured.subscribe .windowFocus (!multi) else captured }

def ServedConn.handleVoiceCall (s : ServedConn) (accepted : Bool) : ServedConn :=
  if s.voiceCallRequested then
    let answered := { s with voiceCallRequested := false, voiceCalling := accepted }
    if s.isAuthedViewCameraConn then answered.subscribe .audio (s.perms.audioEnabled && accepted) else answered
  else s

def ServedConn.closeVoiceCall (s : ServedConn) : ServedConn :=
  let closed := { s with voiceCalling := false }
  if s.isAuthedViewCameraConn then closed.subscribe .audio false else closed

-- The session the peer chose is this process's own, so it goes on here.
def staysInSession (w : World) (scene : Scene) (sid : Nat) : Bool :=
  decide (setup.host.target = .windows) && scene.currentProcessSessionId && !w.connectsToUserSession sid

-- The messages of a running session that reach a subscription.
def ServedConn.onSessionMessage (s : ServedConn) (w : World) (scene : Scene) (msg : Message) : ServedConn :=
  if (s.conn.authorizedScopeViolation setup.host msg).isSome || s.conn.portForwardSocket.isSome then s
  else match msg with
    | .misc .switchDisplay => s.handleSwitchDisplay setup scene
    | .misc .captureDisplays => s.captureDisplays scene
    | .misc (.option o) =>
        if s.isAuthedRemoteConn then s.updateOptions setup o
        else match scopedUpdateOptionMessage s.conn.authedConnType o with
          | some kept => s.updateOptions setup kept
          | none => s
    | .misc (.selectedSid sid) =>
        if staysInSession setup w scene sid then
          if s.conn.fileTransfer.isSome then s
          else if s.conn.viewCamera then s.trySubCameraDisplays scene
          else if s.conn.terminal then s
          else s.trySubMonitorServices setup
        else s
    | .voiceCallRequest => if scene.isConnect then { s with voiceCallRequested := true } else s.closeVoiceCall
    | _ => s

-- The options the connection keeps until it is authorized: a login request that
-- carries some replaces them.
def loginOptions (c : Conn) : LoopEvent → Option OptionMessage
  | .message (.loginRequest lr) _ _ => lr.option.or c.optionsInLogin
  | .message (.switchSidesResponse s) _ _ => (s.lr.bind LoginRequest.option).or c.optionsInLogin
  | _ => c.optionsInLogin

def logonWorld : LoopEvent → Option World
  | .message _ _ later => some later
  | .authorize w => some w
  | _ => none

-- A turn of the loop takes the connection to `next`; out of the loop it is removed from
-- the server.
def ServedConn.onTurn (s : ServedConn) (event : LoopEvent) (scene : Scene) (next : Conn) : ServedConn :=
  let acted :=
    if s.conn.authorized then
      match event with
      | .message msg w _ => { s.onSessionMessage setup w scene msg with conn := next }
      | _ => { s with conn := next }
    else match next.authorized, logonWorld event with
      | true, some w => ServedConn.logOn setup { s with conn := next } w scene (loginOptions s.conn event)
      | _, _ => { s with conn := next }
  if next.phase = .ended then { acted with server := acted.server.removeConnection } else acted

inductive ServedEvent where
  | turn (event : LoopEvent) (scene : Scene)
  | switchPermission (name : String) (enabled : Bool)
  | voiceCallResponse (accepted : Bool)
  | closeVoiceCall
  | serviceAdded (source : VideoSource) (index : Nat)

-- The connection manager's other data comes while the loop runs; another connection may
-- add a video service at any time.
def ServedConn.step (s : ServedConn) : ServedEvent → Option ServedConn
  | .turn event scene => (s.conn.step setup.host event).map (s.onTurn setup event scene)
  | .switchPermission name enabled => if s.conn.phase = .serving then some (s.switchPermission setup name enabled) else none
  | .voiceCallResponse accepted => if s.conn.phase = .serving then some (s.handleVoiceCall accepted) else none
  | .closeVoiceCall => if s.conn.phase = .serving then some s.closeVoiceCall else none
  | .serviceAdded source index => some { s with server := s.server.addService (getServiceName source index) }

def ServedConn.start (hash : Hash) (require2fa : Option TOTP) (shared : Shared) (keyboard clipboard audio file : Bool) : ServedConn :=
  { conn := Conn.start setup.host hash require2fa shared
    perms := { keyboard := keyboard, clipboard := clipboard, audio := audio, file := file }
    server := Server.new setup }

end

end GotechDesk.Connection
