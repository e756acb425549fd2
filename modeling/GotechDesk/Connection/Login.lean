import GotechDesk.Connection.SessionScope

set_option autoImplicit false

namespace GotechDesk.Connection

structure TOTP where
  secret : List UInt8
deriving DecidableEq, Repr

structure TrustedDevice where
  hwid : List UInt8
  time : Nat
  id : Text
  name : Text
  platform : Text
deriving DecidableEq

-- What the process is built with: the target, the flutter feature, and the functions
-- it takes from its crates (sha2, totp_rs, hbb_common).
structure Host where
  target : Target
  flutter : Bool
  sha256 : List UInt8 → Vector UInt8 32
  checkCurrent : TOTP → Nat → String → Option Bool
  getVersionNumber : String → Int
  isDirectIpAccess : String → Bool
  localStorageUsable : String → String → Bool
  presetStorageUsable : String → String → Bool
  decodePermanentH1 : String → Option (List UInt8)
  decodePresetH1 : String → Option (List UInt8)
  outdate : TrustedDevice → Nat → Bool
  addTrustedDevice : List TrustedDevice → TrustedDevice → List TrustedDevice

structure SessionKey where
  peerId : Text
  name : Text
  sessionId : UInt64
deriving DecidableEq

structure Session where
  lastRecvTime : Nat
  randomPassword : String
  tfa : Bool
deriving DecidableEq, Repr

-- SESSIONS, SWITCH_SIDES_UUID and the trusted devices of the configuration: every
-- connection of the process writes them.
structure Shared where
  sessions : SessionKey → Option Session
  switchSidesUuid : Text → Option (Nat × List UInt8)
  trustedDevices : List TrustedDevice

inductive ApproveMode where
  | both
  | password
  | click
deriving DecidableEq, Repr

inductive PermissionOption where
  | fileTransfer
  | camera
  | terminal
  | tunnel
deriving DecidableEq, Repr

-- What a handler finds outside the connection when it looks: the clock, the options,
-- the passwords, the platform, the failure policy, and the tables as other
-- connections left them (`none` when nobody wrote them).
structure World where
  now : Nat
  others : Option Shared
  id : String
  temporaryEnabled : Bool
  temporaryPassword : String
  permanentEnabled : Bool
  localPassword : String × String
  presetPassword : String × String
  approveMode : ApproveMode
  hasValidPassword : Bool
  allowLogonScreenPassword : Bool
  enableTrustedDevices : Bool
  permission : PermissionOption → Bool
  idWhitelistError : Text → Option String
  checkFailure : Nat → Option String
  isInPrivacyMode : Bool
  isInstalled : Bool
  isPrelogin : Bool
  isLocked : Bool
  isLogonUi : Bool
  osCredentialPolicy : Option (Option String)
  osLoginGateBusy : Bool
  logonUserIsAdmin : String → String → Option Bool
  currentSession : Bool
  userToken : Option Nat
  isServiceSpecifiedUser : String → Option Bool
  generatedServiceId : String
  connects : String → Bool
  displayServerError : Option String
  displaysError : Option String
  allowScopeViolationClose : Bool
  anotherRemote : SessionKey → Bool
  connectsToUserSession : Nat → Bool

inductive ConnAuditPrimaryAuth where
  | none
  | click
  | temporaryPassword
  | permanentPassword
  | switchSides
deriving DecidableEq, Repr

inductive ConnAuditTwoFactor where
  | none
  | totp
  | trustedDevice
deriving DecidableEq, Repr

inductive TerminalUserToken where
  | selfUser
  | currentLogonUser (token : Nat)
deriving DecidableEq, Repr

def TerminalUserToken.hasServiceToken : TerminalUserToken → Bool
  | .selfUser => false
  | .currentLogonUser _ => true

structure AuthedConnID where
  connType : AuthConnType
  sessionKey : SessionKey
deriving DecidableEq

-- ipc::Data::Login, less the permission flags.
structure CmLogin where
  isFileTransfer : Bool
  isViewCamera : Bool
  isTerminal : Bool
  portForward : String
  peerId : Text
  name : Text
  avatar : Text
  authorized : Bool
  fromSwitch : Bool
deriving DecidableEq

inductive Reply where
  | loginError (error : String)
  | peerInfo (portForwardMux : Bool)
  | testDelay
  | closeReason (reason : String)
deriving DecidableEq, Repr

-- The select loop is `serving`; a legacy tunnel then moves raw bytes in
-- try_port_forward_loop.
inductive Phase where
  | serving
  | forwarding
  | ended
deriving DecidableEq, Repr

structure Hash where
  salt : String
  challenge : String
deriving DecidableEq, Repr

structure Conn where
  hash : Hash
  fileTransfer : Option (Text × Bool) := none
  viewCamera : Bool := false
  terminal : Bool := false
  portForwardSocket : Option String := none
  portForwardMux : Option String := none
  portForwardAddress : String := ""
  authorized : Bool := false
  require2fa : Option TOTP
  awaiting2fa : Bool := false
  lastTestDelay : Option Nat := none
  lr : LoginRequest := {}
  loginScope : Option (Vector UInt8 32) := none
  fromSwitch : Bool := false
  optionsInLogin : Option OptionMessage := none
  closed : Bool := false
  cmStarted : Bool := false
  authedConnId : Option AuthedConnID := none
  primaryAuth : ConnAuditPrimaryAuth := .none
  twoFactor : ConnAuditTwoFactor := .none
  terminalServiceId : String := ""
  terminalPersistent : Bool := false
  scopeViolationMessages : List String := []
  terminalUserToken : Option TerminalUserToken := none
  shared : Shared
  phase : Phase := .serving
  sent : List Reply := []
  toCm : List CmLogin := []

def sessionTimeout : Nat := 30000
def switchSidesUuidTtl : Nat := 10000
def failureIdxIdWhitelist : Nat := 2

def Conn.see (c : Conn) (w : World) : Conn := { c with shared := w.others.getD c.shared }

def Conn.sendLoginError (c : Conn) (error : String) : Conn := { c with sent := c.sent ++ [.loginError error] }

def Conn.sessionKey (c : Conn) : SessionKey := ⟨c.lr.myId, c.lr.myName, c.lr.sessionId⟩

def Conn.isPortForward (c : Conn) : Bool := c.portForwardSocket.isSome || c.portForwardMux.isSome

def Conn.isRemote (c : Conn) : Bool := c.fileTransfer.isNone && !c.isPortForward && !c.viewCamera && !c.terminal

def Conn.authedConnType (c : Conn) : Option AuthConnType := c.authedConnId.map AuthedConnID.connType

def Shared.retainSessions (s : Shared) (now : Nat) : Shared :=
  { s with sessions := fun key => (s.sessions key).filter (fun session => decide (now - session.lastRecvTime < sessionTimeout)) }

def Shared.retainUuids (s : Shared) (now : Nat) : Shared :=
  { s with switchSidesUuid := fun id => (s.switchSidesUuid id).filter (fun stored => decide (now - stored.1 < switchSidesUuidTtl)) }

def Shared.removeUuid (s : Shared) (id : Text) : Shared :=
  { s with switchSidesUuid := fun other => if other = id then none else s.switchSidesUuid other }

def Shared.setSession (s : Shared) (key : SessionKey) (session : Option Session) : Shared :=
  { s with sessions := fun other => if other = key then session else s.sessions other }

def Shared.updateOrInsertSession (s : Shared) (now : Nat) (key : SessionKey) (password : Option String) (tfa : Option Bool) :
    Shared :=
  match s.sessions key with
  | some session =>
      s.setSession key (some { session with randomPassword := password.getD session.randomPassword, tfa := tfa.getD session.tfa })
  | none => s.setSession key (some ⟨now, password.getD "", tfa.getD false⟩)

def Shared.setSession2fa (s : Shared) (now : Nat) (key : SessionKey) : Shared :=
  match s.sessions key with
  | some session => s.setSession key (some { session with tfa := true })
  | none => s.setSession key (some ⟨now, "", true⟩)

def Conn.checkRemoveSession (c : Conn) (w : World) : Conn :=
  match c.shared.sessions c.sessionKey with
  | some _ =>
      if decide (c.authedConnType = some .remote) || !w.anotherRemote c.sessionKey then
        { c with shared := c.shared.setSession c.sessionKey none }
      else c
  | none => c

def Conn.onClose (c : Conn) : Conn :=
  if c.closed then c else { c with closed := true, portForwardSocket := none, portForwardMux := none }

def Conn.sendCloseReasonNoRetry (c : Conn) (w : World) (reason : String) : Conn :=
  Conn.checkRemoveSession
    { c with sent := c.sent ++ [.closeReason (if reason = "" then "Closed manually by the peer" else reason)] } w

def Conn.verifyH1 (host : Host) (c : Conn) (h1 : List UInt8) : Bool :=
  decide ((host.sha256 (h1 ++ c.hash.challenge.toUTF8.data.toList)).toList = c.lr.password)

def Conn.validatePasswordPlain (host : Host) (c : Conn) (password : String) : Bool :=
  if password = "" then false
  else c.verifyH1 host (host.sha256 (password.toUTF8.data.toList ++ c.hash.salt.toUTF8.data.toList)).toList

def Conn.validatePasswordStorage (host : Host) (c : Conn) (storage : String) : Bool :=
  if storage = "" then false
  else match host.decodePermanentH1 storage with
    | some h1 => c.verifyH1 host h1
    | none => c.validatePasswordPlain host storage

def Conn.validatePresetPasswordStorage (host : Host) (c : Conn) (storage salt : String) : Bool :=
  if salt = "" then c.validatePasswordPlain host storage
  else match host.decodePresetH1 storage with
    | none => false
    | some h1 => c.verifyH1 host h1

def Conn.permanentPasswordMatches (host : Host) (w : World) (c : Conn) : Bool :=
  if w.localPassword.1 ≠ "" then
    host.localStorageUsable w.localPassword.1 w.localPassword.2 && c.validatePasswordStorage host w.localPassword.1
  else
    host.presetStorageUsable w.presetPassword.1 w.presetPassword.2 &&
      c.validatePresetPasswordStorage host w.presetPassword.1 w.presetPassword.2

def Conn.validatePassword (host : Host) (w : World) (c : Conn) (allowPermanentPassword : Bool) : Conn × Bool :=
  if w.temporaryEnabled && c.validatePasswordPlain host w.temporaryPassword then
    ({ c with primaryAuth := .temporaryPassword,
              shared := c.shared.updateOrInsertSession w.now c.sessionKey (some w.temporaryPassword) (some false) }, true)
  else if (w.permanentEnabled || allowPermanentPassword) && c.permanentPasswordMatches host w then
    ({ c with primaryAuth := .permanentPassword }, true)
  else (c, false)

def Conn.recentSessionMatches (host : Host) (c : Conn) (tfa : Bool) (session : Session) : Bool :=
  decide (c.lr.password ≠ []) && (tfa && session.tfa || !tfa && c.validatePasswordPlain host session.randomPassword)

def Conn.isRecentSession (host : Host) (w : World) (c : Conn) (tfa : Bool) : Conn × Bool :=
  let live : Conn := { c with shared := c.shared.retainSessions w.now }
  match live.shared.sessions c.sessionKey with
  | none => (live, false)
  | some session =>
      if c.recentSessionMatches host tfa session then
        if tfa then ({ live with twoFactor := .totp }, true) else ({ live with primaryAuth := .temporaryPassword }, true)
      else (live, false)

-- str::trim: Unicode White_Space at both ends.
def isWhitespace (ch : Char) : Bool :=
  let n := ch.toNat
  (0x9 ≤ n && n ≤ 0xD) || n == 0x20 || n == 0x85 || n == 0xA0 || n == 0x1680 || (0x2000 ≤ n && n ≤ 0x200A) || n == 0x2028 ||
    n == 0x2029 || n == 0x202F || n == 0x205F || n == 0x3000

def trim (s : String) : String :=
  String.ofList ((((s.toList.dropWhile isWhitespace).reverse).dropWhile isWhitespace).reverse)

def shouldUseTerminalOsLoginScope (host : Host) (isTerminal : Bool) (osLoginUsername : String) : Bool :=
  decide (host.target = .windows) && isTerminal && decide (trim osLoginUsername ≠ "")

def Conn.tryStartCmIpc (c : Conn) : Conn := { c with cmStarted := true }

def Conn.tryStartCm (c : Conn) (peerId name : Text) (authorized : Bool) : Conn :=
  { c with toCm := c.toCm ++ [⟨c.fileTransfer.isSome, c.viewCamera, c.terminal, c.portForwardAddress, peerId, name,
                               c.lr.avatar, authorized, c.fromSwitch⟩] }

def handleInstalledUser (w : World) : Except String TerminalUserToken :=
  if !w.currentSession then .error "Failed to get current session id."
  else match w.userToken with
    | some token => .ok (.currentLogonUser token)
    | none => .error "Failed to get user token."

def fillTerminalUserToken (host : Host) (w : World) (username password : String) : Except String TerminalUserToken :=
  if host.target ≠ .windows then .ok .selfUser
  else if username ≠ "" then
    match w.logonUserIsAdmin username password with
    | some true => .ok .selfUser
    | some false | none => .error "Incorrect username or password."
  else if w.isPrelogin then .error "No active console user logged on, please connect and logon first."
  else if w.isInstalled then handleInstalledUser w
  else .ok .selfUser

-- `some false` closes the connection, `none` lets the login go on.
def Conn.prepareTerminalLoginForAuthorization (host : Host) (w : World) (c : Conn) : Conn × Option Bool :=
  if host.target.mobile || !c.terminal || c.terminalUserToken.isSome then (c, none)
  else
    let username := trim c.lr.osLogin.username.val
    let osLogin := shouldUseTerminalOsLoginScope host c.terminal username
    match osLogin, w.osCredentialPolicy with
    | true, some (some error) => (c.sendLoginError error, some false)
    | true, some none => (c, some false)
    | _, _ =>
        if osLogin && w.osLoginGateBusy then (c.sendLoginError "Please try 1 minute later", some false)
        else match fillTerminalUserToken host w username c.lr.osLogin.password.val with
          | .error error => (c.sendLoginError error, some false)
          | .ok token =>
              let filled : Conn := { c with terminalUserToken := some token }
              if (w.isServiceSpecifiedUser c.terminalServiceId).any (fun isUser => isUser != token.hasServiceToken) then
                (filled.sendLoginError "Terminal service user mismatch detected.", some false)
              else (if osLogin then filled.tryStartCmIpc else filled, none)

structure PortForwardTarget where
  address : String
  isRdp : Bool
deriving DecidableEq, Repr

def normalizePortForwardTarget (pf : PortForward) : PortForwardTarget :=
  if pf.host.val = "RDP" ∧ pf.port = 0 then ⟨"localhost:3389", true⟩
  else ⟨(if pf.host.val = "" then "localhost" else pf.host.val) ++ ":" ++ toString pf.port.toInt, false⟩

def Conn.connectPortForwardIfNeeded (w : World) (c : Conn) : Conn × Bool :=
  if c.isPortForward then (c, true)
  else match c.lr.union with
    | some (.portForward pf) =>
        if pf.multiplex then ({ c with portForwardMux := some c.portForwardAddress }, true)
        else
          let target := normalizePortForwardTarget pf
          if w.connects target.address then
            ({ c with portForwardAddress := target.address, portForwardSocket := some target.address }, true)
          else
            (({ c with portForwardAddress := target.address }).sendLoginError
              ("Failed to access remote " ++ (if target.isRdp then "RDP" else target.address) ++
                ". Please make sure it is reachable/open."), false)
    | _ => (c, true)

def Conn.chooseConnType (c : Conn) : AuthConnType :=
  if c.fileTransfer.isSome then .fileTransfer
  else if c.isPortForward then .portForward
  else if c.viewCamera then .viewCamera
  else if c.terminal then .terminal
  else .remote

def Conn.normalizeConnAuditAuthFields (c : Conn) : Conn :=
  match c.primaryAuth with
  | .click | .switchSides => { c with twoFactor := .none }
  | .none | .temporaryPassword | .permanentPassword => c

-- update_options, as far as the fields here go.
def Conn.updateOptions (host : Host) (c : Conn) (o : OptionMessage) : Conn :=
  match host.target.mobile, o.terminalPersistent with
  | false, .known .yes => { c with terminalPersistent := true }
  | false, .known .no => { c with terminalPersistent := false }
  | _, _ => c

def Conn.updateScopedLoginOptions (host : Host) (c : Conn) : Conn :=
  match c.optionsInLogin, c.authedConnType with
  | some o, some connType =>
      match (scopedLoginOption connType o).1 with
      | some kept => ({ c with optionsInLogin := none }).updateOptions host kept
      | none => { c with optionsInLogin := none }
  | _, _ => { c with optionsInLogin := none }

def Conn.initTerminalService (w : World) (c : Conn) : Conn :=
  match c.terminalUserToken with
  | none => c
  | some _ => if c.terminalServiceId = "" then { c with terminalServiceId := w.generatedServiceId } else c

-- The rest of send_logon_response_and_keep_alive once the session is granted.
def Conn.welcome (host : Host) (w : World) (c : Conn) : Conn :=
  if c.isPortForward then { c with sent := c.sent ++ [.peerInfo c.portForwardMux.isSome] }
  else
    match c.isRemote, (if host.target = .linux then w.displayServerError else none), w.displaysError with
    | true, some error, _ => c.sendLoginError error
    | true, none, some error => (c.sendLoginError error).updateScopedLoginOptions host
    | _, _, _ =>
        let welcomed := Conn.updateScopedLoginOptions host { c with sent := c.sent ++ [.peerInfo false] }
        if c.fileTransfer.isNone && c.terminal && !host.target.mobile then welcomed.initTerminalService w else welcomed

def Conn.authorize (host : Host) (w : World) (c : Conn) : Conn :=
  Conn.welcome host w
    (Conn.normalizeConnAuditAuthFields
      { c with authorized := true, authedConnId := some ⟨c.chooseConnType, c.sessionKey⟩ })

def Conn.sendLogonResponseAndKeepAlive (host : Host) (w : World) (c : Conn) : Conn × Bool :=
  if c.authorized then (c, true)
  else
    let asked := c.require2fa.isSome
    -- is_recent_session is asked only when a second factor is required
    let (seen, recent) := if asked then c.isRecentSession host w true else (c, false)
    if asked && !recent && !c.fromSwitch then
      (({ seen with awaiting2fa := true }).sendLoginError "2FA Required", true)
    else
      match Conn.prepareTerminalLoginForAuthorization host w { seen with awaiting2fa := false } with
      | (prepared, some keepAlive) => (prepared, keepAlive)
      | (prepared, none) =>
          match prepared.connectPortForwardIfNeeded w with
          | (connected, false) => (connected, false)
          | (connected, true) => (connected.authorize host w, true)

def Conn.resetSessionScopeForLogin (c : Conn) : Conn :=
  { c with fileTransfer := none, viewCamera := false, terminal := false, portForwardAddress := "", terminalPersistent := false }

-- `error` is the connection on its way to the end of its loop.
def Conn.checkLoginScope (host : Host) (c : Conn) (lr : LoginRequest) : Except Conn Conn :=
  let requested := host.sha256 (loginScopeBytes lr)
  match c.loginScope with
  | some initial => if initial ≠ requested then .error (c.sendLoginError "Connection not allowed") else .ok c
  | none => .ok { c with loginScope := some requested }

def trustedDeviceMatches (host : Host) (w : World) (c : Conn) (lr : LoginRequest) : Bool :=
  c.require2fa.isSome && decide (lr.hwid ≠ []) && w.enableTrustedDevices &&
    (c.shared.trustedDevices.find? (fun device => decide (device.hwid = lr.hwid))).any (fun device =>
      !host.outdate device w.now && decide (device.id = lr.myId) && decide (device.name = lr.myName) &&
        decide (device.platform = lr.myPlatform))

def Conn.handleLoginRequestWithoutValidation (host : Host) (w : World) (c : Conn) (lr : LoginRequest) : Conn :=
  let taken : Conn :=
    { c with lr := lr, optionsInLogin := match lr.option with
               | some o => some o
               | none => c.optionsInLogin }
  if trustedDeviceMatches host w c lr then { taken with twoFactor := .trustedDevice, require2fa := none } else taken

def Conn.checkIdWhitelist (w : World) (c : Conn) : Except Conn Conn :=
  match w.idWhitelistError c.lr.myId with
  | some error => .error (c.sendLoginError error)
  | none => .ok c

def Conn.enterScope (host : Host) (w : World) (c : Conn) (lr : LoginRequest) : Except Conn Conn :=
  match lr.union with
  | some (.fileTransfer ft) =>
      if !w.permission .fileTransfer then .error (c.sendLoginError "No permission of file transfer")
      else .ok { c with fileTransfer := some (ft.dir, ft.showHidden) }
  | some .viewCamera =>
      if !w.permission .camera then .error (c.sendLoginError "No permission of viewing camera")
      else .ok { c with viewCamera := true }
  | some (.terminal t) =>
      if !w.permission .terminal then .error (c.sendLoginError "No permission of terminal")
      else if decide (host.target = .windows) && decide (lr.osLogin.username.val ≠ "") && !w.isInstalled then
        .error (c.sendLoginError "Supported only in the installed version.")
      else
        .ok { c with terminal := true, terminalServiceId := t.serviceId.val,
                     terminalPersistent := match c.optionsInLogin with
                       | some o => decide (o.terminalPersistent = .known .yes)
                       | none => c.terminalPersistent }
  | some (.portForward pf) =>
      if !w.permission .tunnel then .error (c.sendLoginError "No permission of IP tunneling")
      else .ok { c with portForwardAddress := (normalizePortForwardTarget pf).address }
  | some (.unknown _) | none =>
      if w.isInPrivacyMode then .error (c.sendLoginError "Someone turns on privacy mode, exit") else .ok c

def Conn.checkReachable (host : Host) (w : World) (c : Conn) (lr : LoginRequest) : Except Conn Conn :=
  if !host.isDirectIpAccess lr.username.val && decide (lr.username.val ≠ w.id) then .error (c.sendLoginError "Offline")
  else if decide (host.target = .windows) && c.terminal && decide (trim lr.osLogin.username.val = "") && w.isPrelogin then
    .error (c.sendLoginError "No active console user logged on, please connect and logon first.")
  else if !host.target.mobile && !shouldUseTerminalOsLoginScope host c.terminal lr.osLogin.username.val then
    .ok c.tryStartCmIpc
  else .ok c

-- A login request up to the point where its password counts. The source asks once
-- more whether the connection is authorized; on_message has already turned such a
-- request away.
def Conn.loginGate (host : Host) (w : World) (c : Conn) (lr : LoginRequest) : Except Conn Conn :=
  match c.checkLoginScope host lr with
  | .error e => .error e
  | .ok latched =>
      let handled := Conn.handleLoginRequestWithoutValidation host w { latched with awaiting2fa := false } lr
      match handled.resetSessionScopeForLogin.checkIdWhitelist w with
      | .error e => .error e
      | .ok allowed =>
          match allowed.enterScope host w lr with
          | .error e => .error e
          | .ok entered => entered.checkReachable host w lr

inductive Primary where
  | click
  | recent
  | empty
  | blocked (error : String)
  | wrong
  | accepted
deriving DecidableEq, Repr

def Primary.passed : Primary → Bool
  | .recent | .accepted => true
  | .click | .empty | .blocked _ | .wrong => false

def isLogon (host : Host) (w : World) : Bool :=
  match host.target with
  | .windows => w.isPrelogin || w.isLocked || w.isLogonUi
  | .linux | .macos => w.isPrelogin || w.isLocked
  | .android | .ios => w.isPrelogin

def Conn.primary (host : Host) (w : World) (c : Conn) : Conn × Primary :=
  let allow := w.allowLogonScreenPassword && isLogon host w
  if (decide (w.approveMode = .click) && !allow) || (decide (w.approveMode = .both) && !w.hasValidPassword) then (c, .click)
  else match c.isRecentSession host w false with
    | (recent, true) => (recent, .recent)
    | (seen, false) =>
        if seen.lr.password = [] then (seen, .empty)
        else match w.checkFailure 0 with
          | some error => (seen, .blocked error)
          | none =>
              match seen.validatePassword host w allow with
              | (valid, true) => (valid, .accepted)
              | (invalid, false) => (invalid, .wrong)

-- A login that a person has to approve: only a terminal with OS credentials checks
-- anything more before the connection manager is told.
def Conn.askForApproval (host : Host) (w : World) (c : Conn) (lr : LoginRequest) (error : Option String) : Conn × Bool :=
  let (prepared, answer) :=
    if !host.target.mobile && shouldUseTerminalOsLoginScope host c.terminal lr.osLogin.username.val then
      c.prepareTerminalLoginForAuthorization host w
    else (c, none)
  match answer with
  | some keepAlive => (prepared, keepAlive)
  | none =>
      let told := prepared.tryStartCm lr.myId lr.myName false
      match error with
      | some error => (told.sendLoginError error, true)
      | none => (told, true)

def noPasswordAccess (host : Host) (lr : LoginRequest) : Option String :=
  if host.getVersionNumber "1.2.0" ≤ host.getVersionNumber lr.version.val then some "No Password Access" else none

def Conn.logOn (host : Host) (later : World) (c : Conn) (peerId name : Text) : Conn × Bool :=
  match (c.see later).sendLogonResponseAndKeepAlive host later with
  | (denied, false) => (denied, false)
  | (answered, true) => (answered.tryStartCm peerId name answered.authorized, true)

def Conn.onPrimary (host : Host) (w later : World) (c : Conn) (lr : LoginRequest) (outcome : Primary) : Conn × Bool :=
  match outcome with
  | .click => c.askForApproval host w lr (noPasswordAccess host lr)
  | .empty => c.askForApproval host w lr none
  | .recent | .accepted => c.logOn host later lr.myId lr.myName
  | .blocked error => (c.sendLoginError error, true)
  | .wrong => ((c.sendLoginError "Wrong Password").tryStartCm lr.myId lr.myName false, true)

def Conn.onLoginRequest (host : Host) (w later : World) (c : Conn) (lr : LoginRequest) : Conn × Bool :=
  match c.loginGate host w lr with
  | .error e => (e, false)
  | .ok gated =>
      let (checked, outcome) := gated.primary host w
      checked.onPrimary host w later lr outcome

def Conn.trustDevice (host : Host) (w : World) (c : Conn) (hwid : List UInt8) : Conn :=
  let device : TrustedDevice := ⟨hwid, w.now, c.lr.myId, c.lr.myName, c.lr.myPlatform⟩
  { c with shared := { c.shared with trustedDevices := host.addTrustedDevice c.shared.trustedDevices device } }

-- `later` is what the handler finds when it has verified the code.
def Conn.onAuth2fa (host : Host) (w later : World) (c : Conn) (tfa : Auth2FA) : Conn × Bool :=
  if !c.awaiting2fa then (c, true)
  else match w.checkFailure 1, c.require2fa with
    | some error, _ => (c.sendLoginError error, true)
    | none, none => (c, true)
    | none, some totp =>
        match host.checkCurrent totp w.now tfa.code.val with
        | none => (c, true)
        | some false => (c.sendLoginError "Wrong 2FA Code", true)
        | some true =>
            let accepted : Conn :=
              { c with require2fa := none, twoFactor := .totp, shared := c.shared.setSession2fa w.now c.sessionKey }
            match accepted.logOn host later c.lr.myId c.lr.myName with
            | (denied, false) => (denied, false)
            | (answered, true) =>
                (if decide (tfa.hwid ≠ []) && later.enableTrustedDevices then answered.trustDevice host later tfa.hwid
                 else answered, true)

-- Uuid::from_slice takes sixteen bytes and nothing else.
def parseUuid (bytes : List UInt8) : Option (List UInt8) := if bytes.length = 16 then some bytes else none

def Conn.liveUuid (w : World) (c : Conn) (id : Text) : Option (List UInt8) :=
  ((c.shared.retainUuids w.now).switchSidesUuid id).map Prod.snd

def Conn.onSwitchSidesResponse (host : Host) (w later : World) (c : Conn) (s : SwitchSidesResponse) : Conn × Bool :=
  match host.flutter && !host.target.mobile, s.lr with
  | true, some lr =>
      let removed : Conn := { c with shared := (c.shared.retainUuids w.now).removeUuid lr.myId }
      match parseUuid s.uuid, c.liveUuid w lr.myId with
      | some uuid, some stored =>
          if uuid = stored then
            if lr.union.isSome then (removed.sendLoginError "Connection not allowed", false)
            else
              match (removed.resetSessionScopeForLogin.handleLoginRequestWithoutValidation host w lr).checkIdWhitelist w with
              | .error e => (e, false)
              | .ok allowed =>
                  match Conn.logOn host later { allowed with fromSwitch := true, primaryAuth := .switchSides } lr.myId lr.myName with
                  | (denied, false) => (denied, false)
                  | (answered, true) => (answered.tryStartCmIpc, true)
          else (removed, true)
      | _, _ => (removed, true)
  | _, _ => (c, true)

def Conn.authorizedScopeViolation (host : Host) (c : Conn) (msg : Message) : Option String :=
  match c.authedConnType with
  | none => if isConnectionHousekeepingMessage msg then none else some "session.auth_type"
  | some connType => authorizedMessageScopeViolation host.target connType msg

def Conn.handleAuthorizedScopeViolation (w : World) (c : Conn) (message : String) : Conn × Bool :=
  let noted : Conn := { c with scopeViolationMessages :=
    if message ∈ c.scopeViolationMessages then c.scopeViolationMessages else c.scopeViolationMessages ++ [message] }
  if w.allowScopeViolationClose then ((noted.sendCloseReasonNoRetry w "Connection not allowed").onClose, false)
  else (noted, true)

-- The messages of a running session. None but these touches a field of the login.
def Conn.onSessionMessage (host : Host) (w : World) (c : Conn) (msg : Message) : Conn × Bool :=
  if c.portForwardSocket.isSome then (c, true)
  else match msg with
    | .misc (.option o) =>
        if c.authedConnType = some .remote then (c.updateOptions host o, true)
        else match scopedUpdateOptionMessage c.authedConnType o with
          | some kept => (c.updateOptions host kept, true)
          | none => (c, true)
    | .misc (.switchSidesRequest uuid) =>
        if host.flutter && !host.target.mobile && (parseUuid uuid).isSome then (c.onClose, false) else (c, true)
    | .misc (.selectedSid sid) =>
        if decide (host.target = .windows) && w.connectsToUserSession sid then (c, false) else (c, true)
    | _ => (c, true)

def Conn.dispatch (host : Host) (w later : World) (c : Conn) (msg : Message) : Conn × Bool :=
  match msg with
  | .loginRequest lr => c.onLoginRequest host w later lr
  | .auth2fa tfa => c.onAuth2fa host w later tfa
  | .testDelay fromClient =>
      if fromClient then ({ c with sent := c.sent ++ [.testDelay] }, true) else ({ c with lastTestDelay := none }, true)
  | .switchSidesResponse s => c.onSwitchSidesResponse host w later s
  | _ => if c.authorized then c.onSessionMessage host w msg else (c, true)

def Conn.onMessage (host : Host) (w later : World) (c : Conn) (msg : Message) : Conn × Bool :=
  match msg with
  | .misc (.closeReason _) => (c.onClose.checkRemoveSession w, false)
  | _ =>
      if c.authorized then
        match msg with
        | .loginRequest _ => (c, true)
        | _ =>
            match c.authorizedScopeViolation host msg with
            | some message => c.handleAuthorizedScopeViolation w message
            | none => c.dispatch host w later msg
      else c.dispatch host w later msg

def Conn.finish (c : Conn) : Conn := { c with phase := .ended }

-- Out of the select loop: a legacy tunnel hands its socket to the forwarding loop,
-- any other connection is over.
def Conn.leave (c : Conn) : Conn :=
  match c.portForwardSocket with
  | some _ => { c with portForwardSocket := none, phase := .forwarding }
  | none => c.onClose.finish

-- One turn of the loop. `closing` stands for every branch that closes the connection
-- on its own account (eviction, the login deadline, a timeout, a broken stream, the
-- web console); `cmOther` for the data of the connection manager that no login
-- field depends on.
inductive LoopEvent where
  | message (msg : Message) (w later : World)
  | authorize (w : World)
  | cmClose (w : World)
  | cmWindowClosed
  | cmErr (error : String)
  | cmOther
  | testDelayTick (now : Nat)
  | closing
  | forwardingEnds (w : World)

def Conn.onAuthorize (host : Host) (w : World) (c : Conn) : Conn :=
  match Conn.sendLogonResponseAndKeepAlive host w { c.see w with primaryAuth := .click, require2fa := none } with
  | (denied, false) => denied.leave
  | (answered, true) => if answered.portForwardSocket.isSome then answered.leave else answered

def Conn.onStream (host : Host) (w later : World) (c : Conn) (msg : Message) : Conn :=
  match (c.see w).onMessage host w later msg with
  | (left, false) => left.leave
  | (kept, true) =>
      if kept.portForwardSocket.isSome && kept.authorized && kept.lastTestDelay.isNone then kept.leave else kept

-- The connection manager lists a connection when its Login arrives, and only a listed
-- one can be authorized.
def Conn.step (host : Host) (c : Conn) (event : LoopEvent) : Option Conn :=
  match c.phase, event with
  | .serving, .message msg w later => some (c.onStream host w later msg)
  | .serving, .authorize w => if c.cmStarted && decide (c.toCm ≠ []) then some (c.onAuthorize host w) else none
  | .serving, .cmClose w => some ((c.see w).sendCloseReasonNoRetry w "").onClose.leave
  | .serving, .cmWindowClosed => if host.target = .linux then some c.onClose.leave else none
  | .serving, .cmErr error => if error = "expected" then some c else some c.onClose.leave
  | .serving, .cmOther => some c
  | .serving, .testDelayTick now =>
      if c.lastTestDelay.isNone && !(c.portForwardSocket.isSome && c.authorized) then some { c with lastTestDelay := some now }
      else some c
  | .serving, .closing => some c.onClose.leave
  | .forwarding, .forwardingEnds w => some ((c.see w).onClose.checkRemoveSession w).finish
  | _, _ => none

def Conn.start (host : Host) (hash : Hash) (require2fa : Option TOTP) (shared : Shared) : Conn :=
  { hash := hash, require2fa := require2fa, cmStarted := decide (host.target = .android), shared := shared }

end GotechDesk.Connection
