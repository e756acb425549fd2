import GotechDesk.Connection.Login

set_option autoImplicit false

namespace GotechDesk.Connection

section
variable (host : Host) (w : World) (c : Conn)

theorem recent_frame (tfa : Bool) :
    ∃ shared first second, (c.isRecentSession host w tfa).1 =
      { c with shared := shared, primaryAuth := first, twoFactor := second } := by
  unfold Conn.isRecentSession
  dsimp only
  split
  · exact ⟨_, _, _, rfl⟩
  · split
    · split
      · exact ⟨_, _, _, rfl⟩
      · exact ⟨_, _, _, rfl⟩
    · exact ⟨_, _, _, rfl⟩

theorem prepare_frame :
    ∃ token started sent, (c.prepareTerminalLoginForAuthorization host w).1 =
      { c with terminalUserToken := token, cmStarted := started, sent := sent } := by
  unfold Conn.prepareTerminalLoginForAuthorization
  dsimp only
  split
  · exact ⟨_, _, _, rfl⟩
  · split
    · exact ⟨_, _, _, rfl⟩
    · exact ⟨_, _, _, rfl⟩
    · split
      · exact ⟨_, _, _, rfl⟩
      · split
        · exact ⟨_, _, _, rfl⟩
        · split
          · exact ⟨_, _, _, rfl⟩
          · split
            · exact ⟨_, _, _, rfl⟩
            · exact ⟨_, _, _, rfl⟩

theorem prepare_answer (keepAlive : Bool) (answer : (c.prepareTerminalLoginForAuthorization host w).2 = some keepAlive) : keepAlive = false := by
  unfold Conn.prepareTerminalLoginForAuthorization at answer
  dsimp only at answer
  split at answer
  · cases answer
  · split at answer
    · exact (Option.some.inj answer).symm
    · exact (Option.some.inj answer).symm
    · split at answer
      · exact (Option.some.inj answer).symm
      · split at answer
        · exact (Option.some.inj answer).symm
        · split at answer
          · exact (Option.some.inj answer).symm
          · cases answer

end

theorem update_options_frame (host : Host) (c : Conn) (o : OptionMessage) :
    ∃ persistent, c.updateOptions host o = { c with terminalPersistent := persistent } := by
  unfold Conn.updateOptions
  split
  · exact ⟨_, rfl⟩
  · exact ⟨_, rfl⟩
  · exact ⟨_, rfl⟩

theorem scoped_options_frame (host : Host) (c : Conn) :
    ∃ persistent, c.updateScopedLoginOptions host = { c with optionsInLogin := none, terminalPersistent := persistent } := by
  unfold Conn.updateScopedLoginOptions
  split
  · split
    · obtain ⟨persistent, same⟩ := update_options_frame host { c with optionsInLogin := none } _
      exact ⟨persistent, same⟩
    · exact ⟨_, rfl⟩
  · exact ⟨_, rfl⟩

theorem init_service_frame (w : World) (c : Conn) :
    ∃ service, c.initTerminalService w = { c with terminalServiceId := service } ∧
      (c.terminalServiceId = "" ∨ service = c.terminalServiceId) := by
  unfold Conn.initTerminalService
  split
  · exact ⟨_, rfl, .inr rfl⟩
  · split
    · next absent => exact ⟨_, rfl, .inl absent⟩
    · exact ⟨_, rfl, .inr rfl⟩

theorem welcome_frame (host : Host) (w : World) (c : Conn) :
    ∃ sent options persistent service, c.welcome host w =
      { c with sent := sent, optionsInLogin := options, terminalPersistent := persistent, terminalServiceId := service } ∧
      (c.terminalServiceId = "" ∨ service = c.terminalServiceId) := by
  unfold Conn.welcome
  split
  · exact ⟨_, _, _, _, rfl, .inr rfl⟩
  · split
    · exact ⟨_, _, _, _, rfl, .inr rfl⟩
    · obtain ⟨persistent, same⟩ := scoped_options_frame host (c.sendLoginError ‹String›)
      exact ⟨_, _, _, _, same, .inr rfl⟩
    · obtain ⟨persistent, same⟩ := scoped_options_frame host { c with sent := c.sent ++ [.peerInfo false] }
      rw [same]
      split
      · obtain ⟨service, filled, kept⟩ := init_service_frame w
          { c with sent := c.sent ++ [.peerInfo false], optionsInLogin := none, terminalPersistent := persistent }
        exact ⟨_, _, _, _, filled, kept⟩
      · exact ⟨_, _, _, _, rfl, .inr rfl⟩

-- What no answer to a login touches.
structure Steady (c d : Conn) : Prop where
  lr : d.lr = c.lr
  fileTransfer : d.fileTransfer = c.fileTransfer
  viewCamera : d.viewCamera = c.viewCamera
  terminal : d.terminal = c.terminal
  loginScope : d.loginScope = c.loginScope
  require2fa : d.require2fa = c.require2fa
  fromSwitch : d.fromSwitch = c.fromSwitch
  phase : d.phase = c.phase
  closed : d.closed = c.closed

-- The session is not granted and the scope stays as it is.
structure Held (c d : Conn) : Prop where
  steady : Steady c d
  authorized : d.authorized = false
  socket : d.portForwardSocket = c.portForwardSocket
  mux : d.portForwardMux = c.portForwardMux
  address : d.portForwardAddress = c.portForwardAddress
  service : d.terminalServiceId = c.terminalServiceId

def asksTunnel : Option LoginUnion → Bool
  | some (.portForward _) => true
  | _ => false

structure Granted (c d : Conn) : Prop where
  steady : Steady c d
  authorized : d.authorized = true
  recorded : d.authedConnId = some ⟨d.chooseConnType, c.sessionKey⟩
  tunnel : d.isPortForward = (c.isPortForward || asksTunnel c.lr.union)
  address : d.portForwardAddress = c.portForwardAddress ∨
    ∃ pf, c.lr.union = some (.portForward pf) ∧ d.portForwardAddress = (normalizePortForwardTarget pf).address
  service : c.terminalServiceId = "" ∨ d.terminalServiceId = c.terminalServiceId

theorem steady_refl (c : Conn) : Steady c c := ⟨rfl, rfl, rfl, rfl, rfl, rfl, rfl, rfl, rfl⟩

theorem steady_trans (c d e : Conn) (first : Steady c d) (second : Steady d e) : Steady c e :=
  ⟨second.lr.trans first.lr, second.fileTransfer.trans first.fileTransfer, second.viewCamera.trans first.viewCamera,
    second.terminal.trans first.terminal, second.loginScope.trans first.loginScope,
    second.require2fa.trans first.require2fa, second.fromSwitch.trans first.fromSwitch, second.phase.trans first.phase,
    second.closed.trans first.closed⟩

theorem held_trans (c d e : Conn) (first : Held c d) (second : Held d e) : Held c e :=
  ⟨steady_trans c d e first.steady second.steady, second.authorized, second.socket.trans first.socket,
    second.mux.trans first.mux, second.address.trans first.address, second.service.trans first.service⟩

theorem held_tunnel (c d : Conn) (held : Held c d) : d.isPortForward = c.isPortForward := by
  rw [Conn.isPortForward, held.socket, held.mux, Conn.isPortForward]

theorem held_key (c d : Conn) (held : Held c d) : d.sessionKey = c.sessionKey := by
  rw [Conn.sessionKey, held.steady.lr, Conn.sessionKey]

theorem held_granted (c d e : Conn) (held : Held c d) (granted : Granted d e) : Granted c e := by
  refine ⟨steady_trans c d e held.steady granted.steady, granted.authorized, ?_, ?_, ?_, ?_⟩
  · rw [granted.recorded, held_key c d held]
  · rw [granted.tunnel, held_tunnel c d held, held.steady.lr]
  · rw [← held.address, ← held.steady.lr]
    exact granted.address
  · rw [← held.service]
    exact granted.service

theorem connect_unauthorized (w : World) (c : Conn) : (c.connectPortForwardIfNeeded w).1.authorized = c.authorized := by
  unfold Conn.connectPortForwardIfNeeded
  split
  · rfl
  · split
    · split
      · rfl
      · dsimp only
        split <;> rfl
    · rfl

structure Connected (c d : Conn) : Prop where
  steady : Steady c d
  tunnel : d.isPortForward = (c.isPortForward || asksTunnel c.lr.union)
  address : d.portForwardAddress = c.portForwardAddress ∨
    ∃ pf, c.lr.union = some (.portForward pf) ∧ d.portForwardAddress = (normalizePortForwardTarget pf).address
  service : d.terminalServiceId = c.terminalServiceId
  key : d.sessionKey = c.sessionKey

theorem connect_connected (w : World) (c : Conn) (connects : (c.connectPortForwardIfNeeded w).2 = true) :
    Connected c (c.connectPortForwardIfNeeded w).1 := by
  have frame : ∀ socket mux address, Steady c
      { c with portForwardSocket := socket, portForwardMux := mux, portForwardAddress := address } :=
    fun _ _ _ => ⟨rfl, rfl, rfl, rfl, rfl, rfl, rfl, rfl, rfl⟩
  unfold Conn.connectPortForwardIfNeeded at connects ⊢
  split
  · next tunnel => exact ⟨steady_refl c, by simp [tunnel], .inl rfl, rfl, rfl⟩
  · split
    · next pf asked =>
        split
        · exact ⟨frame _ _ _, by simp [Conn.isPortForward, asked, asksTunnel], .inl rfl, rfl, rfl⟩
        · dsimp only
          split
          · exact ⟨frame _ _ _, by simp [Conn.isPortForward, asked, asksTunnel], .inr ⟨pf, asked, rfl⟩, rfl, rfl⟩
          · simp [*] at connects
    · next other =>
        refine ⟨steady_refl c, ?_, .inl rfl, rfl, rfl⟩
        have none : asksTunnel c.lr.union = false := by
          cases asked : c.lr.union with
          | none => rfl
          | some union =>
              cases union with
              | portForward pf => exact absurd asked (other pf)
              | fileTransfer _ | viewCamera | terminal _ | unknown _ => rfl
        simp [none]

theorem authorize_granted (host : Host) (w : World) (c d : Conn) (connected : Connected c d) :
    Granted c (d.authorize host w) := by
  unfold Conn.authorize
  obtain ⟨twoFactor, noted⟩ : ∃ twoFactor, Conn.normalizeConnAuditAuthFields
      { d with authorized := true, authedConnId := some ⟨d.chooseConnType, d.sessionKey⟩ } =
      { d with authorized := true, authedConnId := some ⟨d.chooseConnType, d.sessionKey⟩, twoFactor := twoFactor } := by
    unfold Conn.normalizeConnAuditAuthFields
    split <;> exact ⟨_, rfl⟩
  obtain ⟨sent, options, persistent, service, same, kept⟩ := welcome_frame host w
    { d with authorized := true, authedConnId := some ⟨d.chooseConnType, d.sessionKey⟩, twoFactor := twoFactor }
  rw [noted, same]
  obtain ⟨steady, tunnel, address, services, key⟩ := connected
  refine ⟨{ steady with }, rfl, ?_, tunnel, address, ?_⟩
  · rw [← key]
    rfl
  · rw [← services]
    exact kept

def Cleared (host : Host) (w : World) (c : Conn) : Prop :=
  c.require2fa = none ∨ (c.isRecentSession host w true).2 = true ∨ c.fromSwitch = true

-- Every way through send_logon_response_and_keep_alive for a connection that is not
-- authorized yet.
inductive Logon (host : Host) (w : World) (c : Conn) : Conn × Bool → Prop where
  | waiting (d : Conn) : Held c d → c.require2fa ≠ none → c.fromSwitch = false → d.awaiting2fa = true → d.toCm = c.toCm →
      Logon host w c (d, true)
  | denied (d : Conn) : d.authorized = false → Logon host w c (d, false)
  | granted (d : Conn) : Granted c d → Cleared host w c → Logon host w c (d, true)

theorem logon_connect (host : Host) (w : World) (c ready : Conn) (start : Held c ready) (cleared : Cleared host w c) :
    Logon host w c
      (match ready.connectPortForwardIfNeeded w with
        | (connected, false) => (connected, false)
        | (connected, true) => (connected.authorize host w, true)) := by
  have still := connect_unauthorized w ready
  have joined := connect_connected w ready
  cases outcome : ready.connectPortForwardIfNeeded w with
  | mk connected connects =>
      rw [outcome] at still joined
      cases connects with
      | false => exact .denied _ (still.trans start.authorized)
      | true =>
          have granted := authorize_granted host w ready connected (joined rfl)
          exact .granted _ (held_granted c ready _ start granted) cleared

theorem logon_after_factor (host : Host) (w : World) (c seen : Conn) (unauthorized : c.authorized = false)
    (cleared : Cleared host w c)
    (same : ∃ shared first second, seen = { c with shared := shared, primaryAuth := first, twoFactor := second }) :
    Logon host w c
      (match Conn.prepareTerminalLoginForAuthorization host w { seen with awaiting2fa := false } with
        | (prepared, some keepAlive) => (prepared, keepAlive)
        | (prepared, none) =>
            match prepared.connectPortForwardIfNeeded w with
            | (connected, false) => (connected, false)
            | (connected, true) => (connected.authorize host w, true)) := by
  obtain ⟨shared, first, second, rfl⟩ := same
  obtain ⟨token, started, sent, frame⟩ := prepare_frame host w
    { c with shared := shared, primaryAuth := first, twoFactor := second, awaiting2fa := false }
  have answer := prepare_answer host w
    { c with shared := shared, primaryAuth := first, twoFactor := second, awaiting2fa := false }
  cases outcome : Conn.prepareTerminalLoginForAuthorization host w
      { c with shared := shared, primaryAuth := first, twoFactor := second, awaiting2fa := false } with
  | mk prepared reply =>
      rw [outcome] at frame answer
      have start : Held c prepared := by
        dsimp only at frame
        rw [frame]
        exact ⟨⟨rfl, rfl, rfl, rfl, rfl, rfl, rfl, rfl, rfl⟩, unauthorized, rfl, rfl, rfl, rfl⟩
      cases reply with
      | some keepAlive =>
          cases answer keepAlive rfl
          exact .denied _ start.authorized
      | none => exact logon_connect host w c prepared start cleared

theorem logon_cases (host : Host) (w : World) (c : Conn) (unauthorized : c.authorized = false) :
    Logon host w c (c.sendLogonResponseAndKeepAlive host w) := by
  unfold Conn.sendLogonResponseAndKeepAlive
  rw [if_neg (by simp [unauthorized])]
  cases factor : c.require2fa with
  | none =>
      exact logon_after_factor host w c c unauthorized (.inl factor) ⟨_, _, _, rfl⟩
  | some totp =>
      simp only [Option.isSome_some, if_true, Bool.true_and]
      have frame := recent_frame host w c true
      cases known : c.isRecentSession host w true with
      | mk seen recent =>
          rw [known] at frame
          by_cases asks : (!recent && !c.fromSwitch) = true
          · rw [if_pos asks]
            obtain ⟨shared, first, second, rfl⟩ := frame
            simp only [Bool.and_eq_true, Bool.not_eq_true'] at asks
            exact .waiting _ ⟨⟨rfl, rfl, rfl, rfl, rfl, factor ▸ rfl, rfl, rfl, rfl⟩, unauthorized, rfl, rfl, rfl, rfl⟩
              (by simp [factor]) asks.2 rfl rfl
          · rw [if_neg asks]
            have cleared : Cleared host w c := by
              simp only [Bool.and_eq_true, Bool.not_eq_true', not_and, Bool.not_eq_false] at asks
              cases recent with
              | true => exact .inr (.inl (by rw [known]))
              | false => exact .inr (.inr (asks rfl))
            exact logon_after_factor host w c seen unauthorized cleared frame

theorem see_held (c : Conn) (w : World) (unauthorized : c.authorized = false) : Held c (c.see w) :=
  ⟨⟨rfl, rfl, rfl, rfl, rfl, rfl, rfl, rfl, rfl⟩, unauthorized, rfl, rfl, rfl, rfl⟩

theorem told_held (d : Conn) (peerId name : Text) (authorized : Bool) (unauthorized : d.authorized = false) :
    Held d (d.tryStartCm peerId name authorized) :=
  ⟨⟨rfl, rfl, rfl, rfl, rfl, rfl, rfl, rfl, rfl⟩, unauthorized, rfl, rfl, rfl, rfl⟩

theorem granted_end (c d e : Conn) (granted : Granted c d) (steady : Steady d e) (authorized : e.authorized = d.authorized)
    (recorded : e.authedConnId = d.authedConnId) (socket : e.portForwardSocket = d.portForwardSocket)
    (mux : e.portForwardMux = d.portForwardMux) (address : e.portForwardAddress = d.portForwardAddress)
    (service : e.terminalServiceId = d.terminalServiceId) : Granted c e := by
  have tunnel : e.isPortForward = d.isPortForward := by rw [Conn.isPortForward, socket, mux, Conn.isPortForward]
  have chosen : e.chooseConnType = d.chooseConnType := by
    rw [Conn.chooseConnType, steady.fileTransfer, tunnel, steady.viewCamera, steady.terminal, Conn.chooseConnType]
  refine ⟨steady_trans c d e granted.steady steady, authorized.trans granted.authorized, ?_, tunnel.trans granted.tunnel, ?_, ?_⟩
  · rw [recorded, granted.recorded, chosen]
  · rw [address]
    exact granted.address
  · rw [service]
    exact granted.service

-- A login answered from the point where its password was accepted.
inductive LoggedOn (host : Host) (later : World) (c : Conn) : Conn × Bool → Prop where
  | waiting (d : Conn) : Held c d → c.require2fa ≠ none → c.fromSwitch = false → d.awaiting2fa = true →
      LoggedOn host later c (d, true)
  | denied (d : Conn) : d.authorized = false → LoggedOn host later c (d, false)
  | granted (d : Conn) : Granted c d → Cleared host later (c.see later) → LoggedOn host later c (d, true)

theorem log_on_cases (host : Host) (later : World) (c : Conn) (peerId name : Text) (unauthorized : c.authorized = false) :
    LoggedOn host later c (c.logOn host later peerId name) := by
  have seen := see_held c later unauthorized
  have cases := logon_cases host later (c.see later) unauthorized
  unfold Conn.logOn
  cases outcome : (c.see later).sendLogonResponseAndKeepAlive host later with
  | mk answered keepAlive =>
      rw [outcome] at cases
      cases cases with
      | waiting _ held factor unswitched waits told =>
          have kept := held_trans c _ _ seen held
          exact .waiting _ (held_trans c _ _ kept (told_held answered _ _ _ kept.authorized)) factor unswitched waits
      | denied _ still => exact .denied _ still
      | granted _ granted cleared =>
          have kept := held_granted c _ _ seen granted
          exact .granted _ (granted_end c answered _ kept ⟨rfl, rfl, rfl, rfl, rfl, rfl, rfl, rfl, rfl⟩ rfl rfl rfl rfl rfl rfl) cleared

def Scope.directory : Scope → Option (Text × Bool)
  | .fileTransfer dir showHidden => some (dir, showHidden)
  | .remote | .viewCamera | .terminal _ | .portForward _ _ _ => none

def Scope.address : Scope → String
  | .portForward host port multiplex => (normalizePortForwardTarget ⟨host, port, multiplex⟩).address
  | .remote | .fileTransfer _ _ | .viewCamera | .terminal _ => ""

-- The fields of the connection say what the login asked for.
structure InScope (c : Conn) (s : Scope) : Prop where
  fileTransfer : c.fileTransfer = s.directory
  viewCamera : c.viewCamera = decide (s.kind = .viewCamera)
  terminal : c.terminal = decide (s.kind = .terminal)
  address : c.portForwardAddress = s.address
  service : ∀ id, s = .terminal id → c.terminalServiceId = id.val

theorem in_scope_held (c d : Conn) (s : Scope) (inScope : InScope c s) (held : Held c d) : InScope d s :=
  ⟨held.steady.fileTransfer.trans inScope.fileTransfer, held.steady.viewCamera.trans inScope.viewCamera,
    held.steady.terminal.trans inScope.terminal, held.address.trans inScope.address,
    fun id same => held.service.trans (inScope.service id same)⟩

-- A login request that got as far as its password.
structure Gated (host : Host) (w : World) (c : Conn) (lr : LoginRequest) (g : Conn) : Prop where
  request : g.lr = lr
  authorized : g.authorized = c.authorized
  awaiting : g.awaiting2fa = false
  fromSwitch : g.fromSwitch = c.fromSwitch
  require2fa : g.require2fa = if trustedDeviceMatches host w c lr then none else c.require2fa
  latched : g.loginScope = some (host.sha256 (loginScopeBytes lr))
  bound : c.loginScope = none ∨ c.loginScope = some (host.sha256 (loginScopeBytes lr))
  inScope : InScope g (scopeOf lr.union)
  socket : g.portForwardSocket = c.portForwardSocket
  mux : g.portForwardMux = c.portForwardMux
  phase : g.phase = c.phase

theorem check_login_scope_spec (host : Host) (c latched : Conn) (lr : LoginRequest)
    (passes : c.checkLoginScope host lr = .ok latched) :
    latched = { c with loginScope := some (host.sha256 (loginScopeBytes lr)) } ∧
      (c.loginScope = none ∨ c.loginScope = some (host.sha256 (loginScopeBytes lr))) := by
  unfold Conn.checkLoginScope at passes
  cases known : c.loginScope with
  | none =>
      rw [known] at passes
      exact ⟨(Except.ok.inj passes).symm, .inl rfl⟩
  | some initial =>
      rw [known] at passes
      dsimp only at passes
      split at passes
      · cases passes
      · next same =>
          have initially : initial = host.sha256 (loginScopeBytes lr) := by simpa using same
          refine ⟨?_, .inr (by rw [initially])⟩
          rw [← Except.ok.inj passes, ← initially, ← known]

-- The connection a login request is measured on, before the scope is set.
structure Reset (host : Host) (w : World) (c : Conn) (lr : LoginRequest) (r : Conn) : Prop where
  request : r.lr = lr
  authorized : r.authorized = c.authorized
  awaiting : r.awaiting2fa = c.awaiting2fa
  fromSwitch : r.fromSwitch = c.fromSwitch
  require2fa : r.require2fa = if trustedDeviceMatches host w c lr then none else c.require2fa
  loginScope : r.loginScope = c.loginScope
  fileTransfer : r.fileTransfer = none
  viewCamera : r.viewCamera = false
  terminal : r.terminal = false
  address : r.portForwardAddress = ""
  socket : r.portForwardSocket = c.portForwardSocket
  mux : r.portForwardMux = c.portForwardMux
  phase : r.phase = c.phase

section
variable (host : Host) (w : World) (c : Conn) (lr : LoginRequest)

theorem handled_reset : Reset host w c lr (c.handleLoginRequestWithoutValidation host w lr).resetSessionScopeForLogin := by
  unfold Conn.handleLoginRequestWithoutValidation
  dsimp only
  split
  · next trusted => exact ⟨rfl, rfl, rfl, rfl, by simp [trusted, Conn.resetSessionScopeForLogin], rfl, rfl, rfl, rfl, rfl, rfl, rfl, rfl⟩
  · next untrusted => exact ⟨rfl, rfl, rfl, rfl, by simp [untrusted, Conn.resetSessionScopeForLogin], rfl, rfl, rfl, rfl, rfl, rfl, rfl, rfl⟩

theorem reset_handled : Reset host w c lr (c.resetSessionScopeForLogin.handleLoginRequestWithoutValidation host w lr) := by
  have same : trustedDeviceMatches host w c.resetSessionScopeForLogin lr = trustedDeviceMatches host w c lr := rfl
  unfold Conn.handleLoginRequestWithoutValidation
  dsimp only
  rw [same]
  split
  · next trusted => exact ⟨rfl, rfl, rfl, rfl, by simp [trusted], rfl, rfl, rfl, rfl, rfl, rfl, rfl, rfl⟩
  · next untrusted => exact ⟨rfl, rfl, rfl, rfl, by simp [untrusted, Conn.resetSessionScopeForLogin], rfl, rfl, rfl, rfl, rfl, rfl, rfl, rfl⟩

end

theorem whitelist_spec (w : World) (c allowed : Conn) (passes : c.checkIdWhitelist w = .ok allowed) : allowed = c := by
  unfold Conn.checkIdWhitelist at passes
  split at passes
  · cases passes
  · exact (Except.ok.inj passes).symm

theorem whitelist_error (w : World) (c refused : Conn) (fails : c.checkIdWhitelist w = .error refused) :
    refused.authorized = c.authorized := by
  unfold Conn.checkIdWhitelist at fails
  split at fails
  · rw [← Except.error.inj fails]
    rfl
  · cases fails

-- enter_scope and check_reachable change the scope fields and nothing the second
-- factor depends on.
structure Entered (c g : Conn) (s : Scope) : Prop where
  lr : g.lr = c.lr
  authorized : g.authorized = c.authorized
  awaiting : g.awaiting2fa = c.awaiting2fa
  fromSwitch : g.fromSwitch = c.fromSwitch
  require2fa : g.require2fa = c.require2fa
  loginScope : g.loginScope = c.loginScope
  inScope : InScope g s
  socket : g.portForwardSocket = c.portForwardSocket
  mux : g.portForwardMux = c.portForwardMux
  phase : g.phase = c.phase

section
variable (host : Host) (w : World)

theorem enter_scope_spec (c g : Conn) (lr : LoginRequest) (files : c.fileTransfer = none)
    (camera : c.viewCamera = false) (terminal : c.terminal = false) (address : c.portForwardAddress = "")
    (passes : c.enterScope host w lr = .ok g) : Entered c g (scopeOf lr.union) := by
  unfold Conn.enterScope at passes
  cases asked : lr.union with
  | none =>
      rw [asked] at passes
      dsimp only at passes
      split at passes
      · cases passes
      · cases passes
        exact ⟨rfl, rfl, rfl, rfl, rfl, rfl, ⟨files, camera, terminal, address, nofun⟩, rfl, rfl, rfl⟩
  | some union =>
      rw [asked] at passes
      cases union with
      | fileTransfer ft =>
          dsimp only at passes
          split at passes
          · cases passes
          · cases passes
            exact ⟨rfl, rfl, rfl, rfl, rfl, rfl, ⟨rfl, camera, terminal, address, nofun⟩, rfl, rfl, rfl⟩
      | viewCamera =>
          dsimp only at passes
          split at passes
          · cases passes
          · cases passes
            exact ⟨rfl, rfl, rfl, rfl, rfl, rfl, ⟨files, rfl, terminal, address, nofun⟩, rfl, rfl, rfl⟩
      | terminal t =>
          dsimp only at passes
          split at passes
          · cases passes
          · split at passes
            · cases passes
            · cases passes
              refine ⟨rfl, rfl, rfl, rfl, rfl, rfl, ⟨files, camera, rfl, address, ?_⟩, rfl, rfl, rfl⟩
              intro id same
              cases same
              rfl
      | portForward pf =>
          dsimp only at passes
          split at passes
          · cases passes
          · cases passes
            exact ⟨rfl, rfl, rfl, rfl, rfl, rfl, ⟨files, camera, terminal, rfl, nofun⟩, rfl, rfl, rfl⟩
      | unknown field =>
          dsimp only at passes
          split at passes
          · cases passes
          · cases passes
            exact ⟨rfl, rfl, rfl, rfl, rfl, rfl, ⟨files, camera, terminal, address, nofun⟩, rfl, rfl, rfl⟩

theorem enter_scope_error (c refused : Conn) (lr : LoginRequest)
    (fails : c.enterScope host w lr = .error refused) : refused.authorized = c.authorized := by
  unfold Conn.enterScope at fails
  split at fails
  all_goals
    split at fails
    · rw [← Except.error.inj fails]
      rfl
    · first
      | cases fails
      | split at fails
        · rw [← Except.error.inj fails]
          rfl
        · cases fails

theorem reachable_spec (c g : Conn) (lr : LoginRequest) (passes : c.checkReachable host w lr = .ok g) :
    ∃ started, g = { c with cmStarted := started } := by
  unfold Conn.checkReachable at passes
  split at passes
  · cases passes
  · split at passes
    · cases passes
    · split at passes
      · cases passes
        exact ⟨_, rfl⟩
      · cases passes
        exact ⟨_, rfl⟩

theorem reachable_error (c refused : Conn) (lr : LoginRequest)
    (fails : c.checkReachable host w lr = .error refused) : refused.authorized = c.authorized := by
  unfold Conn.checkReachable at fails
  split at fails
  · rw [← Except.error.inj fails]
    rfl
  · split at fails
    · rw [← Except.error.inj fails]
      rfl
    · split at fails
      · cases fails
      · cases fails

theorem gate_spec (c g : Conn) (lr : LoginRequest) (passes : c.loginGate host w lr = .ok g) : Gated host w c lr g := by
  unfold Conn.loginGate at passes
  cases latches : c.checkLoginScope host lr with
  | error e => simp [latches] at passes
  | ok latched =>
      obtain ⟨rfl, bound⟩ := check_login_scope_spec host c latched lr latches
      rw [latches] at passes
      dsimp only at passes
      have reset := handled_reset host w
        { c with loginScope := some (host.sha256 (loginScopeBytes lr)), awaiting2fa := false } lr
      revert passes
      generalize (Conn.handleLoginRequestWithoutValidation host w
        { c with loginScope := some (host.sha256 (loginScopeBytes lr)), awaiting2fa := false } lr).resetSessionScopeForLogin
        = fresh at reset
      intro passes
      cases listed : fresh.checkIdWhitelist w with
      | error e => simp [listed] at passes
      | ok allowed =>
          obtain rfl := whitelist_spec w fresh allowed listed
          rw [listed] at passes
          dsimp only at passes
          cases enters : allowed.enterScope host w lr with
          | error e => simp [enters] at passes
          | ok entered =>
              rw [enters] at passes
              have spec := enter_scope_spec host w allowed entered lr reset.fileTransfer reset.viewCamera reset.terminal
                reset.address enters
              obtain ⟨started, rfl⟩ := reachable_spec host w entered g lr passes
              exact ⟨spec.lr.trans reset.request, spec.authorized.trans reset.authorized, spec.awaiting.trans reset.awaiting,
                spec.fromSwitch.trans reset.fromSwitch, spec.require2fa.trans reset.require2fa,
                spec.loginScope.trans reset.loginScope, bound, ⟨spec.inScope.fileTransfer, spec.inScope.viewCamera,
                spec.inScope.terminal, spec.inScope.address, spec.inScope.service⟩, spec.socket.trans reset.socket,
                spec.mux.trans reset.mux, spec.phase.trans reset.phase⟩

theorem gate_error (c e : Conn) (lr : LoginRequest) (fails : c.loginGate host w lr = .error e) : e.authorized = c.authorized := by
  unfold Conn.loginGate at fails
  cases latches : c.checkLoginScope host lr with
  | error refused =>
      rw [latches] at fails
      cases fails
      unfold Conn.checkLoginScope at latches
      dsimp only at latches
      split at latches
      · split at latches
        · rw [← Except.error.inj latches]
          rfl
        · cases latches
      · cases latches
  | ok latched =>
      obtain ⟨rfl, bound⟩ := check_login_scope_spec host c latched lr latches
      rw [latches] at fails
      dsimp only at fails
      have reset := handled_reset host w
        { c with loginScope := some (host.sha256 (loginScopeBytes lr)), awaiting2fa := false } lr
      revert fails
      generalize (Conn.handleLoginRequestWithoutValidation host w
        { c with loginScope := some (host.sha256 (loginScopeBytes lr)), awaiting2fa := false } lr).resetSessionScopeForLogin
        = fresh at reset
      intro fails
      cases listed : fresh.checkIdWhitelist w with
      | error refused =>
          rw [listed] at fails
          cases fails
          exact (whitelist_error w fresh _ listed).trans reset.authorized
      | ok allowed =>
          obtain rfl := whitelist_spec w fresh allowed listed
          rw [listed] at fails
          dsimp only at fails
          cases enters : allowed.enterScope host w lr with
          | error refused =>
              rw [enters] at fails
              cases fails
              exact (enter_scope_error host w allowed _ lr enters).trans reset.authorized
          | ok entered =>
              rw [enters] at fails
              have spec := enter_scope_spec host w allowed entered lr reset.fileTransfer reset.viewCamera reset.terminal
                reset.address enters
              exact (reachable_error host w entered e lr fails).trans (spec.authorized.trans reset.authorized)

end

end GotechDesk.Connection
