import GotechDesk.Connection.Authorization

set_option autoImplicit false

namespace GotechDesk.Connection

def logins (past : Past) : List LoginRequest := past.filterMap (fun entry => entry.2.login)

def firstLogin (past : Past) : Option LoginRequest := (logins past).head?

-- No two login requests of the run that ask for different things share a digest.
def CollisionFree (host : Host) (past : Past) : Prop :=
  ∀ a ∈ logins past, ∀ b ∈ logins past, host.sha256 (loginScopeBytes a) = host.sha256 (loginScopeBytes b) →
    loginScopeBytes a = loginScopeBytes b

-- The session `d` was granted is the one `first` asked for. An empty service id asks
-- for a service of its own.
structure FixedBy (first : LoginRequest) (d : Conn) : Prop where
  kind : d.authedConnType = some (scopeOf first.union).kind
  recordedId : d.authedConnId.map (fun authed => authed.sessionKey.peerId) = some first.myId
  controller : d.lr.myId = first.myId
  scope : scopeOf d.lr.union = scopeOf first.union
  directory : d.fileTransfer = (scopeOf first.union).directory
  target : d.portForwardAddress = (scopeOf first.union).address
  service : ∀ id, scopeOf first.union = .terminal id → id.val = "" ∨ d.terminalServiceId = id.val

def LoopEvent.switches : LoopEvent → Bool
  | .message (.switchSidesResponse _) _ _ => true
  | _ => false

structure FlagsAgree (c : Conn) (kind : AuthConnType) : Prop where
  fileTransfer : c.fileTransfer.isSome = decide (kind = .fileTransfer)
  viewCamera : c.viewCamera = decide (kind = .viewCamera)
  terminal : c.terminal = decide (kind = .terminal)

theorem first_login_append (past : Past) (entry : Conn × LoopEvent) :
    firstLogin (past ++ [entry]) = (firstLogin past).or entry.2.login := by
  have last : (List.filterMap (fun entry : Conn × LoopEvent => entry.2.login) [entry]).head? = entry.2.login := by
    cases known : entry.2.login with
    | none => simp [known]
    | some lr => simp [known]
  rw [firstLogin, firstLogin, logins, logins, List.filterMap_append, List.head?_append, last]

theorem first_login_mem (past : Past) (first : LoginRequest) (known : firstLogin past = some first) : first ∈ logins past :=
  List.mem_of_head? known

theorem logins_later (past : Past) (entry : Conn × LoopEvent) (lr : LoginRequest) (known : lr ∈ logins past) :
    lr ∈ logins (past ++ [entry]) := by
  simp only [logins, List.filterMap_append, List.mem_append]
  exact .inl known

-- A connection that is served and not authorized: the digest is the first login's, and
-- once anybody could let the peer in, the scope fields are those of the login kept.
structure Latched (host : Host) (past : Past) (c : Conn) : Prop where
  digest : c.loginScope = (firstLogin past).map (fun first => host.sha256 (loginScopeBytes first))
  noTunnel : c.isPortForward = false
  entered : (c.toCm = [] ∧ c.awaiting2fa = false) ∨
    (c.loginScope = some (host.sha256 (loginScopeBytes c.lr)) ∧ c.lr ∈ logins past ∧ InScope c (scopeOf c.lr.union))

def LatchedWhileOpen (host : Host) (past : Past) (c : Conn) : Prop :=
  c.phase = .serving → c.authorized = false → Latched host past c

theorem gated_first (host : Host) (w later : World) (past : Past) (c g : Conn) (lr : LoginRequest)
    (latched : Latched host past c) (gated : Gated host w (c.see w) lr g) :
    g.loginScope = (firstLogin (past ++ [(c, .message (.loginRequest lr) w later)])).map
      (fun first => host.sha256 (loginScopeBytes first)) := by
  rw [gated.latched, first_login_append]
  have before := latched.digest
  cases known : firstLogin past with
  | none => rfl
  | some first =>
      rw [known] at before
      have scope : c.loginScope = some (host.sha256 (loginScopeBytes lr)) := by
        rcases gated.bound with none | same
        · exact absurd (none.symm.trans before) (by simp)
        · exact same
      rw [before] at scope
      exact scope.symm

theorem held_latched (host : Host) (w later : World) (past : Past) (c g d : Conn) (lr : LoginRequest)
    (latched : Latched host past c) (gated : Gated host w (c.see w) lr g) (held : Held g d) :
    Latched host (past ++ [(c, .message (.loginRequest lr) w later)]) d := by
  have mine : lr ∈ logins (past ++ [(c, .message (.loginRequest lr) w later)]) := by
    simp [logins, LoopEvent.login, Message.login]
  have request : d.lr = lr := held.steady.lr.trans gated.request
  refine ⟨held.steady.loginScope.trans (gated_first host w later past c g lr latched gated), ?_, .inr ⟨?_, ?_, ?_⟩⟩
  · rw [held_tunnel g d held, Conn.isPortForward, gated.socket, gated.mux]
    exact latched.noTunnel
  · rw [held.steady.loginScope, gated.latched, request]
  · rw [request]
    exact mine
  · rw [request]
    exact in_scope_held g d _ gated.inScope held

section
variable (host : Host) (past : Past) (c d : Conn) (event : LoopEvent)

theorem turn_latched (latched : Latched host past c) (turn : OpenTurn host c event d) : Latched host (past ++ [(c, event)]) d := by
  cases turn with
  | idle _ _ quiet idle =>
      refine ⟨?_, ?_, ?_⟩
      · rw [idle.held.steady.loginScope, latched.digest, first_login_append]
        simp [quiet]
      · rw [held_tunnel c d idle.held]
        exact latched.noTunnel
      · rcases latched.entered with ⟨told, waits⟩ | ⟨scope, mine, inScope⟩
        · exact .inl ⟨idle.toCm.trans told, idle.awaiting.trans waits⟩
        · refine .inr ⟨?_, ?_, ?_⟩
          · rw [idle.held.steady.loginScope, idle.held.steady.lr, scope]
          · rw [idle.held.steady.lr]
            exact logins_later past _ _ mine
          · rw [idle.held.steady.lr]
            exact in_scope_held c d _ inScope idle.held
  | login w later lr g _ gate held _ => exact held_latched host w later past c g d lr latched (gate_spec host w (c.see w) g lr gate) held

theorem step_latched (latched : LatchedWhileOpen host past c)
    (taken : c.step host event = some d) : LatchedWhileOpen host (past ++ [(c, event)]) d := by
  intro serving still
  obtain ⟨phase, before, turn⟩ := open_before host c d event taken serving still
  exact turn_latched host past c d event (latched phase before) turn

end

-- The choice between the kinds follows the scope of the login.
theorem granted_kind (c e : Conn) (s : Scope) (granted : Granted c e) (inScope : InScope c s) (scope : scopeOf c.lr.union = s)
    (noTunnel : c.isPortForward = false) :
    e.chooseConnType = s.kind ∧ FlagsAgree e s.kind ∧ e.isPortForward = decide (s.kind = .portForward) := by
  have tunnel : e.isPortForward = asksTunnel c.lr.union := by simp [granted.tunnel, noTunnel]
  have asked : asksTunnel c.lr.union = decide (s.kind = .portForward) := by
    rw [← scope]
    cases c.lr.union with
    | none => rfl
    | some union => cases union <;> rfl
  have files : e.fileTransfer = s.directory := granted.steady.fileTransfer.trans inScope.fileTransfer
  have camera : e.viewCamera = decide (s.kind = .viewCamera) := granted.steady.viewCamera.trans inScope.viewCamera
  have terminal : e.terminal = decide (s.kind = .terminal) := granted.steady.terminal.trans inScope.terminal
  have flags : FlagsAgree e s.kind := by
    refine ⟨?_, camera, terminal⟩
    rw [files]
    cases s <;> rfl
  refine ⟨?_, flags, tunnel.trans asked⟩
  rw [Conn.chooseConnType, flags.fileTransfer, tunnel, asked, flags.viewCamera, flags.terminal]
  cases s <;> rfl

theorem leave_frame (c : Conn) : c.leave.authedConnId = c.authedConnId ∧ c.leave.lr = c.lr ∧
    c.leave.fileTransfer = c.fileTransfer ∧ c.leave.viewCamera = c.viewCamera ∧ c.leave.terminal = c.terminal ∧
    c.leave.portForwardAddress = c.portForwardAddress ∧ c.leave.terminalServiceId = c.terminalServiceId := by
  unfold Conn.leave
  split
  · exact ⟨rfl, rfl, rfl, rfl, rfl, rfl, rfl⟩
  · unfold Conn.onClose
    split
    · exact ⟨rfl, rfl, rfl, rfl, rfl, rfl, rfl⟩
    · exact ⟨rfl, rfl, rfl, rfl, rfl, rfl, rfl⟩

theorem granted_fixed (c e d : Conn) (first : LoginRequest) (granted : Granted c e) (after : After e d)
    (inScope : InScope c (scopeOf c.lr.union)) (noTunnel : c.isPortForward = false) (controller : c.lr.myId = first.myId)
    (scope : scopeOf c.lr.union = scopeOf first.union) : FixedBy first d := by
  obtain ⟨kind, _, _⟩ := granted_kind c e _ granted inScope rfl noTunnel
  have key : c.sessionKey.peerId = first.myId := controller
  have whole : FixedBy first e := by
    refine ⟨?_, ?_, ?_, ?_, ?_, ?_, ?_⟩
    · rw [Conn.authedConnType, granted.recorded, Option.map_some, kind, scope]
    · rw [granted.recorded, Option.map_some, key]
    · rw [granted.steady.lr, controller]
    · rw [granted.steady.lr, scope]
    · rw [granted.steady.fileTransfer, inScope.fileTransfer, scope]
    · rcases granted.address with same | ⟨pf, asked, address⟩
      · rw [same, inScope.address, scope]
      · rw [address, ← scope, asked]
        rfl
    · intro id terminal
      have service := inScope.service id (scope.trans terminal)
      rcases granted.service with absent | same
      · exact .inl (service.symm.trans absent)
      · exact .inr (same.trans service)
  rcases after with rfl | rfl
  · exact whole
  · obtain ⟨recorded, lr, files, _, _, address, service⟩ := leave_frame e
    exact ⟨by rw [Conn.authedConnType, recorded]; exact whole.kind, by rw [recorded]; exact whole.recordedId,
      by rw [lr]; exact whole.controller, by rw [lr]; exact whole.scope, by rw [files]; exact whole.directory,
      by rw [address]; exact whole.target, by rw [service]; exact whole.service⟩

-- The recorded type and the flags of an authorized connection, in every phase.
structure Agrees (c : Conn) : Prop where
  flags : ∃ kind, c.authedConnType = some kind ∧ FlagsAgree c kind ∧
    (c.phase = .serving → c.isPortForward = decide (kind = .portForward)) ∧ (c.isPortForward = true → kind = .portForward)

theorem settled_agrees (c d : Conn) (settled : Settled c d) (agrees : Agrees c)
    (phase : d.phase = .serving → c.phase = .serving) : Agrees d := by
  obtain ⟨kind, recorded, flags, tunnel, only⟩ := agrees.flags
  refine ⟨kind, ?_, ?_, ?_, ?_⟩
  · rw [Conn.authedConnType, settled.recorded]
    exact recorded
  · rcases settled.scope with ⟨files, camera, terminal⟩ | ⟨remote, files, camera, terminal⟩
    · exact ⟨by rw [files]; exact flags.fileTransfer, camera.trans flags.viewCamera, terminal.trans flags.terminal⟩
    · have kinds : kind = .remote := Option.some.inj (recorded.symm.trans remote)
      subst kinds
      exact ⟨by rw [files]; rfl, camera, terminal⟩
  · intro serving
    obtain ⟨socket, mux⟩ := settled.tunnel serving
    rw [Conn.isPortForward, socket, mux]
    exact tunnel (phase serving)
  · intro forwards
    apply only
    cases before : c.isPortForward with
    | true => rfl
    | false => exact absurd ((settled.noTunnel before).symm.trans forwards) (by simp)

theorem after_agrees (c e d : Conn) (s : Scope) (granted : Granted c e) (after : After e d) (inScope : InScope c s)
    (scope : scopeOf c.lr.union = s) (noTunnel : c.isPortForward = false) : Agrees d := by
  obtain ⟨kind, flags, tunnel⟩ := granted_kind c e s granted inScope scope noTunnel
  have recorded : e.authedConnType = some s.kind := by
    rw [Conn.authedConnType, granted.recorded, Option.map_some, kind]
  have whole : Agrees e := by
    refine ⟨s.kind, recorded, flags, fun _ => tunnel, ?_⟩
    intro forwards
    rw [tunnel] at forwards
    simpa using forwards
  rcases after with rfl | rfl
  · exact whole
  · refine settled_agrees e e.leave (settled_leave e e ?_) whole (fun serving => absurd serving (leave_phase e))
    exact (settled_same e e granted.authorized rfl rfl rfl rfl rfl rfl).toRecorded

theorem reset_in_scope (host : Host) (w : World) (c r : Conn) (lr : LoginRequest) (reset : Reset host w c lr r) :
    InScope { r with fromSwitch := true } .remote :=
  { reset with service := nofun }

-- What an authorizing turn is granted on: the scope of the login that is kept and somebody could let
-- in, of the one just handled, or of a remote session after a switch of sides.
structure Opens (host : Host) (past : Past) (c : Conn) (event : LoopEvent) (g : Conn) : Prop where
  inScope : InScope g (scopeOf g.lr.union)
  noTunnel : g.isPortForward = false
  switched : event.switches = true → scopeOf g.lr.union = .remote
  asked : event.switches = false →
    (g.lr = c.lr ∧ c.loginScope = some (host.sha256 (loginScopeBytes g.lr)) ∧ g.lr ∈ logins past ∧ (c.toCm ≠ [] ∨ c.awaiting2fa = true)) ∨
      ∃ w later, event = .message (.loginRequest g.lr) w later ∧ (c.see w).loginGate host w g.lr = .ok g

section
variable (host : Host) (past : Past) (c d : Conn) (event : LoopEvent)

theorem turn_opens (latched : Latched host past c)
    (turn : Turn host c event d) (authorized : d.authorized = true) : ∃ g e, Granted g e ∧ After e d ∧ Opens host past c event g := by
  have kept : c.toCm ≠ [] ∨ c.awaiting2fa = true → event.switches = false → Opens host past c event { c with require2fa := none } := by
    intro known plain
    rcases latched.entered with ⟨silent, idle⟩ | ⟨scope, mine, inScope⟩
    · exact (known.elim (absurd silent) (fun waits => absurd (idle.symm.trans waits) Bool.false_ne_true))
    · exact ⟨{ inScope with }, latched.noTunnel,
        (fun switches => absurd (plain.symm.trans switches) Bool.false_ne_true), fun _ => .inl ⟨rfl, scope, mine, known⟩⟩
  cases turn with
  | beyond _ _ still _ => exact absurd (still.symm.trans authorized) (by simp)
  | idle _ _ _ idle => exact absurd (idle.held.authorized.symm.trans authorized) (by simp)
  | unpassed w later lr g _ gate passed held waits | asked w later lr g _ gate passed held waits =>
      exact absurd (held.authorized.symm.trans authorized) (by simp)
  | factor w later tfa e _ accepts granted after =>
      simp only [acceptsCode, Bool.and_eq_true] at accepts
      exact ⟨_, e, granted, after, kept (.inr accepts.1.1) rfl⟩
  | clicked w e _ listed granted after => exact ⟨_, e, granted, after, kept (.inl listed) rfl⟩
  | logged w later lr g e _ gate passed granted cleared after =>
      have gated := gate_spec host w (c.see w) g lr gate
      obtain rfl := gated.request
      refine ⟨g, e, granted, after, gated.inScope, ?_, fun switches => absurd switches Bool.false_ne_true, fun _ => .inr ⟨w, later, rfl, gate⟩⟩
      rw [Conn.isPortForward, gated.socket, gated.mux]
      exact latched.noTunnel
  | switched w later s r e _ live remote reset granted after =>
      have scope : scopeOf r.lr.union = .remote := by rw [reset.request, remote]; rfl
      refine ⟨_, e, granted, after, scope ▸ reset_in_scope host w _ r _ reset, ?_, fun _ => scope, fun plain => absurd plain.symm Bool.false_ne_true⟩
      have same : Conn.isPortForward { r with fromSwitch := true } = r.isPortForward := rfl
      rw [same, Conn.isPortForward, reset.socket, reset.mux]
      exact latched.noTunnel

theorem turn_agrees (latched : Latched host past c) (turn : Turn host c event d) (authorized : d.authorized = true) : Agrees d := by
  obtain ⟨g, e, granted, after, opens⟩ := turn_opens host past c d event latched turn authorized
  exact after_agrees g e d _ granted after opens.inScope rfl opens.noTunnel

end

def SessionInv (host : Host) (past : Past) (c : Conn) : Prop :=
  LatchedWhileOpen host past c ∧ (c.authorized = true → Agrees c)

theorem step_session (host : Host) (past : Past) (c d : Conn) (event : LoopEvent) (inv : SessionInv host past c)
    (taken : c.step host event = some d) : SessionInv host (past ++ [(c, event)]) d := by
  refine ⟨step_latched host past c d event inv.1 taken, ?_⟩
  intro authorized
  have phases := step_phase host c d event taken
  cases before : c.authorized with
  | true =>
      refine settled_agrees c d (step_settled host c d event before taken) (inv.2 before) ?_
      intro serving
      rcases phases with phase | ⟨beyond, _⟩
      · exact phase
      · exact absurd (beyond.symm.trans serving) (by simp)
  | false =>
      rcases phases with phase | ⟨_, same⟩
      · exact turn_agrees host past c d event (inv.1 phase before) (step_turn host c d event before taken) authorized
      · exact absurd (before.symm.trans (same.symm.trans authorized)) (by simp)

theorem traced_session (host : Host) (hash : Hash) (require2fa : Option TOTP) (shared : Shared) (past : Past) (c : Conn)
    (traced : Machine.Traced (Conn.step host) (Conn.start host hash require2fa shared) past c) : SessionInv host past c := by
  refine Machine.traced_invariant (Conn.step host) (SessionInv host) _ c past ?_ ?_ traced
  · refine ⟨?_, nofun⟩
    intro _ _
    exact ⟨rfl, rfl, .inl ⟨rfl, rfl⟩⟩
  · intro past state label after inv taken
    exact step_session host past state after label inv taken

-- Two login requests of one run with the same digest ask for the same thing.
theorem same_digest (host : Host) (past : Past) (a b : LoginRequest) (free : CollisionFree host past) (knownA : a ∈ logins past)
    (knownB : b ∈ logins past) (same : host.sha256 (loginScopeBytes a) = host.sha256 (loginScopeBytes b)) :
    a.myId = b.myId ∧ scopeOf a.union = scopeOf b.union :=
  login_scope_bytes_inj a b (free a knownA b knownB same)

theorem latched_first (host : Host) (past : Past) (c : Conn) (latched : Latched host past c)
    (scope : c.loginScope = some (host.sha256 (loginScopeBytes c.lr))) :
    ∃ first, firstLogin past = some first ∧ host.sha256 (loginScopeBytes c.lr) = host.sha256 (loginScopeBytes first) := by
  have digest := latched.digest
  cases known : firstLogin past with
  | none =>
      rw [known, scope] at digest
      cases digest
  | some first =>
      rw [known, scope] at digest
      exact ⟨first, rfl, Option.some.inj digest⟩

theorem first_login_later (past : Past) (entry : Conn × LoopEvent) (first : LoginRequest) (known : firstLogin past = some first) :
    firstLogin (past ++ [entry]) = some first := by
  rw [first_login_append, known, Option.some_or]

section
variable (host : Host) (past : Past) (c d : Conn) (event : LoopEvent)

theorem turn_fixed (latched : Latched host past c)
    (free : CollisionFree host (past ++ [(c, event)])) (turn : Turn host c event d) (authorized : d.authorized = true)
    (plain : event.switches = false) : ∃ first, firstLogin (past ++ [(c, event)]) = some first ∧ FixedBy first d := by
  obtain ⟨g, e, granted, after, opens⟩ := turn_opens host past c d event latched turn authorized
  have fixed : ∀ first, firstLogin (past ++ [(c, event)]) = some first → g.lr ∈ logins (past ++ [(c, event)]) →
      host.sha256 (loginScopeBytes g.lr) = host.sha256 (loginScopeBytes first) →
      ∃ first, firstLogin (past ++ [(c, event)]) = some first ∧ FixedBy first d := by
    intro first known mine digest
    obtain ⟨controller, scope⟩ := same_digest host _ g.lr first free mine (first_login_mem _ first known) digest
    exact ⟨first, known, granted_fixed g e d first granted after opens.inScope opens.noTunnel controller scope⟩
  rcases opens.asked plain with ⟨same, scope, mine, _⟩ | ⟨w, later, asked, gate⟩
  · obtain ⟨first, known, digest⟩ := latched_first host past c latched (same ▸ scope)
    exact fixed first (first_login_later past _ first known) (logins_later past _ _ mine) (same ▸ digest)
  · subst asked
    have gated := gate_spec host w (c.see w) g g.lr gate
    have digest := gated_first host w later past c g g.lr latched gated
    rw [gated.latched] at digest
    obtain ⟨first, known, same⟩ := Option.map_eq_some_iff.mp digest.symm
    exact fixed first known (by simp [logins, LoopEvent.login, Message.login]) same.symm

theorem turn_switched (latched : Latched host past c)
    (turn : Turn host c event d) (authorized : d.authorized = true) (switches : event.switches = true) :
    d.authedConnType = some .remote := by
  obtain ⟨g, e, granted, after, opens⟩ := turn_opens host past c d event latched turn authorized
  rw [(granted_fixed g e d g.lr granted after opens.inScope opens.noTunnel rfl rfl).kind, opens.switched switches]
  rfl

end

-- The first login fixes the session: whatever is retried, clicked or answered, the type
-- recorded when the connection is authorized is the one it asked for, a switch of
-- sides makes a remote session, the record never changes, and while the loop runs the
-- flags say the same. Only the tunnel itself leaves the connection when the loop does.
theorem session_type_fixed (host : Host) (hash : Hash) (require2fa : Option TOTP) (shared : Shared) (past : Past) (c : Conn)
    (reach : Machine.Traced (Conn.step host) (Conn.start host hash require2fa shared) past c) :
    (∀ event next, c.step host event = some next → c.authorized = false → next.authorized = true →
      (event.switches = false → CollisionFree host (past ++ [(c, event)]) →
        ∃ first, firstLogin (past ++ [(c, event)]) = some first ∧ FixedBy first next) ∧
      (event.switches = true → next.authedConnType = some .remote)) ∧
    (∀ event next, c.step host event = some next → c.authorized = true →
      next.authorized = true ∧ next.authedConnId = c.authedConnId) ∧
    (c.authorized = true → ∃ kind, c.authedConnType = some kind ∧ FlagsAgree c kind ∧
      (c.phase = .serving → c.isPortForward = decide (kind = .portForward)) ∧ (c.isPortForward = true → kind = .portForward)) := by
  have inv := traced_session host hash require2fa shared past c reach
  refine ⟨?_, ?_, fun authorized => (inv.2 authorized).flags⟩
  · intro event next taken before authorized
    have serving : c.phase = .serving := by
      rcases step_phase host c next event taken with phase | ⟨_, same⟩
      · exact phase
      · exact absurd (before.symm.trans (same.symm.trans authorized)) (by simp)
    have turn := step_turn host c next event before taken
    exact ⟨fun plain free => turn_fixed host past c next event (inv.1 serving before) free turn authorized plain,
      turn_switched host past c next event (inv.1 serving before) turn authorized⟩
  · intro event next taken authorized
    have settled := step_settled host c next event authorized taken
    exact ⟨settled.authorized, settled.recorded⟩

def authorizedByCode : Conn := (waitingForCode.step desktop codeTurn).get code_turn_runs

theorem authorized_by_code_traced :
    Machine.Traced (Conn.step desktop) desktopStart [(desktopStart, loginTurn), (waitingForCode, codeTurn)] authorizedByCode :=
  .next [(desktopStart, loginTurn)] waitingForCode authorizedByCode codeTurn waiting_traced (by simp [authorizedByCode])

theorem session_type_fixed_with_code : authorizedByCode.authorized = true ∧
    ∃ kind, authorizedByCode.authedConnType = some kind ∧ FlagsAgree authorizedByCode kind ∧
      (authorizedByCode.phase = .serving → authorizedByCode.isPortForward = decide (kind = .portForward)) ∧
      (authorizedByCode.isPortForward = true → kind = .portForward) := by
  have authorized : authorizedByCode.authorized = true := by decide
  have fixed := session_type_fixed desktop desktopHash (some desktopTotp) quietShared _ authorizedByCode authorized_by_code_traced
  exact ⟨authorized, fixed.2.2 authorized⟩

-- A legacy tunnel: the loop hands the socket to the raw pipe and the flag turns false
-- in an authorized connection recorded as a port forward.
def tunnelTurn : LoopEvent := .message (.loginRequest tunnelLogin) desktopWorld desktopWorld

def tunnelStart : Conn := Conn.start desktop desktopHash none quietShared

theorem tunnel_turn_runs : (tunnelStart.step desktop tunnelTurn).isSome = true := by decide

def forwardingRawPipe : Conn := (tunnelStart.step desktop tunnelTurn).get tunnel_turn_runs

theorem tunnel_flag_dropped : ∃ past c, Machine.Traced (Conn.step desktop) tunnelStart past c ∧ c.authorized = true ∧
    c.authedConnType = some .portForward ∧ c.isPortForward = false := by
  refine ⟨[(tunnelStart, tunnelTurn)], forwardingRawPipe, ?_, ?_, ?_, ?_⟩
  · exact .next [] tunnelStart forwardingRawPipe tunnelTurn .start (by simp [forwardingRawPipe])
  · decide
  · decide
  · decide

def World.permits (w : World) : AuthConnType → Bool
  | .fileTransfer => w.permission .fileTransfer
  | .viewCamera => w.permission .camera
  | .terminal => w.permission .terminal
  | .portForward => w.permission .tunnel
  | .remote => !w.isInPrivacyMode

-- A login request of the run whose controller was on the whitelist, and whose kind was permitted.
def LetIn (past : Past) (lr : LoginRequest) : Prop :=
  ∃ entry ∈ past, ∃ w later, entry.2 = .message (.loginRequest lr) w later ∧ w.idWhitelistError lr.myId = none ∧
    w.permits (scopeOf lr.union).kind = true

theorem gate_allows (host : Host) (w : World) (c g : Conn) (lr : LoginRequest) (passes : c.loginGate host w lr = .ok g) :
    w.idWhitelistError lr.myId = none ∧ w.permits (scopeOf lr.union).kind = true := by
  unfold Conn.loginGate at passes
  cases latches : c.checkLoginScope host lr with
  | error e => simp [latches] at passes
  | ok latched =>
      rw [latches] at passes
      dsimp only at passes
      have request := (handled_reset host w { latched with awaiting2fa := false } lr).request
      generalize (Conn.handleLoginRequestWithoutValidation host w { latched with awaiting2fa := false } lr).resetSessionScopeForLogin
        = fresh at passes request
      cases listed : fresh.checkIdWhitelist w with
      | error e => simp [listed] at passes
      | ok allowed =>
          rw [listed] at passes
          cases enters : allowed.enterScope host w lr with
          | error e => simp [enters] at passes
          | ok entered =>
              constructor
              · rw [Conn.checkIdWhitelist, request] at listed
                split at listed
                · cases listed
                · assumption
              · unfold Conn.enterScope at enters
                split at enters
                all_goals
                  rename_i asked
                  split at enters
                  · cases enters
                  · rename_i permitted
                    rw [asked]
                    simpa [scopeOf, Scope.kind, World.permits] using permitted

theorem login_let_in (host : Host) (past : Past) (c g : Conn) (w later : World) (lr : LoginRequest)
    (gate : (c.see w).loginGate host w lr = .ok g) : LetIn (past ++ [(c, .message (.loginRequest lr) w later)]) lr :=
  ⟨_, List.mem_append_right _ (List.mem_singleton.mpr rfl), w, later, rfl, gate_allows host w (c.see w) g lr gate⟩

theorem let_in_later (past : Past) (entry : Conn × LoopEvent) (lr : LoginRequest) (known : LetIn past lr) : LetIn (past ++ [entry]) lr := by
  obtain ⟨first, member, rest⟩ := known
  exact ⟨first, List.mem_append_left _ member, rest⟩

theorem turn_let_in (host : Host) (past : Past) (c d : Conn) (event : LoopEvent)
    (known : (c.toCm = [] ∧ c.awaiting2fa = false) ∨ LetIn past c.lr) (turn : OpenTurn host c event d) :
    (d.toCm = [] ∧ d.awaiting2fa = false) ∨ LetIn (past ++ [(c, event)]) d.lr := by
  cases turn with
  | idle _ _ quiet idle =>
      rw [idle.toCm, idle.awaiting, idle.held.steady.lr]
      exact known.imp_right (let_in_later past _ c.lr)
  | login w later lr g _ gate held passed =>
      rw [held.steady.lr, (gate_spec host w (c.see w) g lr gate).request]
      exact .inr (login_let_in host past c g w later lr gate)

end GotechDesk.Connection
