import GotechDesk.Connection.LoginSteps

set_option autoImplicit false

namespace GotechDesk.Connection

section
variable (host : Host) (w : World) (c : Conn)

theorem validate_frame (allow : Bool) :
    ∃ shared first, (c.validatePassword host w allow).1 = { c with shared := shared, primaryAuth := first } := by
  unfold Conn.validatePassword
  split
  · exact ⟨_, _, rfl⟩
  · split
    · exact ⟨_, _, rfl⟩
    · exact ⟨_, _, rfl⟩

theorem primary_frame :
    ∃ shared first second, (c.primary host w).1 = { c with shared := shared, primaryAuth := first, twoFactor := second } := by
  have frame := recent_frame host w c false
  unfold Conn.primary
  dsimp only
  split
  · exact ⟨_, _, _, rfl⟩
  · cases known : c.isRecentSession host w false with
    | mk seen recent =>
        rw [known] at frame
        obtain ⟨shared, first, second, rfl⟩ := frame
        cases recent with
        | true => exact ⟨_, _, _, rfl⟩
        | false =>
            dsimp only
            split
            · exact ⟨_, _, _, rfl⟩
            · split
              · exact ⟨_, _, _, rfl⟩
              · obtain ⟨sessions, method, same⟩ := validate_frame host w
                  { c with shared := shared, primaryAuth := first, twoFactor := second }
                  (w.allowLogonScreenPassword && isLogon host w)
                cases valid : Conn.validatePassword host w
                    { c with shared := shared, primaryAuth := first, twoFactor := second }
                    (w.allowLogonScreenPassword && isLogon host w) with
                | mk checked accepts =>
                    rw [valid] at same
                    cases accepts with
                    | true => exact ⟨_, _, _, same⟩
                    | false => exact ⟨_, _, _, same⟩

theorem primary_held (unauthorized : c.authorized = false) : Held c (c.primary host w).1 ∧ (c.primary host w).1.awaiting2fa = c.awaiting2fa := by
  obtain ⟨shared, first, second, same⟩ := primary_frame host w c
  rw [same]
  exact ⟨⟨⟨rfl, rfl, rfl, rfl, rfl, rfl, rfl, rfl, rfl⟩, unauthorized, rfl, rfl, rfl, rfl⟩, rfl⟩

theorem approval_held (lr : LoginRequest) (error : Option String) (unauthorized : c.authorized = false) :
    ((c.askForApproval host w lr error).1.authorized = false) ∧
      ((c.askForApproval host w lr error).2 = true →
        Held c (c.askForApproval host w lr error).1 ∧ (c.askForApproval host w lr error).1.awaiting2fa = c.awaiting2fa) := by
  have told : ∀ (token : Option TerminalUserToken) (started : Bool) (sent : List Reply) (toCm : List CmLogin),
      Held c { c with terminalUserToken := token, cmStarted := started, sent := sent, toCm := toCm } :=
    fun _ _ _ _ => ⟨⟨rfl, rfl, rfl, rfl, rfl, rfl, rfl, rfl, rfl⟩, unauthorized, rfl, rfl, rfl, rfl⟩
  have frame : ∃ token started sent,
      (if !host.target.mobile && shouldUseTerminalOsLoginScope host c.terminal lr.osLogin.username.val then
        c.prepareTerminalLoginForAuthorization host w else (c, none)).1 =
        { c with terminalUserToken := token, cmStarted := started, sent := sent } := by
    split
    · exact prepare_frame host w c
    · exact ⟨_, _, _, rfl⟩
  have closes : ∀ keepAlive,
      (if !host.target.mobile && shouldUseTerminalOsLoginScope host c.terminal lr.osLogin.username.val then
        c.prepareTerminalLoginForAuthorization host w else (c, none)).2 = some keepAlive → keepAlive = false := by
    intro keepAlive answer
    split at answer
    · exact prepare_answer host w c keepAlive answer
    · cases answer
  unfold Conn.askForApproval
  cases outcome : (if !host.target.mobile && shouldUseTerminalOsLoginScope host c.terminal lr.osLogin.username.val then
      c.prepareTerminalLoginForAuthorization host w else (c, none)) with
  | mk prepared answer =>
      rw [outcome] at frame closes
      obtain ⟨token, started, sent, rfl⟩ := frame
      cases answer with
      | some keepAlive =>
          cases closes keepAlive rfl
          exact ⟨unauthorized, nofun⟩
      | none =>
          cases error with
          | none => exact ⟨unauthorized, fun _ => ⟨told _ _ _ _, rfl⟩⟩
          | some error => exact ⟨unauthorized, fun _ => ⟨told _ _ _ _, rfl⟩⟩

end

structure Idle (c d : Conn) : Prop where
  held : Held c d
  awaiting : d.awaiting2fa = c.awaiting2fa
  toCm : d.toCm = c.toCm

theorem idle_refl (c : Conn) (unauthorized : c.authorized = false) : Idle c c :=
  ⟨⟨steady_refl c, unauthorized, rfl, rfl, rfl, rfl⟩, rfl, rfl⟩

def switchRequest (s : SwitchSidesResponse) : LoginRequest := s.lr.getD {}

-- The uuid of the response is the one stored for its id, and it is not stale.
def switchMatches (host : Host) (w : World) (c : Conn) (s : SwitchSidesResponse) : Bool :=
  host.flutter && !host.target.mobile && s.lr.isSome && (parseUuid s.uuid).isSome &&
    decide (parseUuid s.uuid = c.liveUuid w (switchRequest s).myId)

def acceptsCode (host : Host) (w : World) (c : Conn) (tfa : Auth2FA) : Bool :=
  c.awaiting2fa && (w.checkFailure 1).isNone && c.require2fa.any (fun totp => host.checkCurrent totp w.now tfa.code.val == some true)

def Message.login : Message → Option LoginRequest
  | .loginRequest lr => some lr
  | _ => none

-- Every way a message of the peer is answered before the connection is authorized.
-- `g` is the connection at the point where the password counts.
inductive Answer (host : Host) (w later : World) (c : Conn) : Message → Conn × Bool → Prop where
  | closed (msg : Message) (d : Conn) : d.authorized = false → Answer host w later c msg (d, false)
  | idle (msg : Message) (d : Conn) : msg.login = none → Idle c d → Answer host w later c msg (d, true)
  | unpassed (lr : LoginRequest) (g d : Conn) : c.loginGate host w lr = .ok g → (g.primary host w).2.passed = false →
      Held g d → d.awaiting2fa = false → Answer host w later c (.loginRequest lr) (d, true)
  | asked (lr : LoginRequest) (g d : Conn) : c.loginGate host w lr = .ok g → (g.primary host w).2.passed = true →
      Held g d → d.awaiting2fa = true → Answer host w later c (.loginRequest lr) (d, true)
  | granted (lr : LoginRequest) (g d : Conn) : c.loginGate host w lr = .ok g → (g.primary host w).2.passed = true →
      Granted g d → Cleared host later ((g.primary host w).1.see later) → Answer host w later c (.loginRequest lr) (d, true)
  | factor (tfa : Auth2FA) (d : Conn) : acceptsCode host w c tfa = true → Granted { c with require2fa := none } d →
      Answer host w later c (.auth2fa tfa) (d, true)
  | switched (s : SwitchSidesResponse) (r d : Conn) : switchMatches host w c s = true → (switchRequest s).union = none →
      Reset host w c (switchRequest s) r → Granted { r with fromSwitch := true } d →
      Answer host w later c (.switchSidesResponse s) (d, true)

section
variable (host : Host) (w later : World) (c : Conn)

theorem factor_answer (tfa : Auth2FA) (unauthorized : c.authorized = false) : Answer host w later c (.auth2fa tfa) (c.onAuth2fa host w later tfa) := by
  have sent : ∀ error, Idle c (c.sendLoginError error) :=
    fun _ => ⟨⟨⟨rfl, rfl, rfl, rfl, rfl, rfl, rfl, rfl, rfl⟩, unauthorized, rfl, rfl, rfl, rfl⟩, rfl, rfl⟩
  have same : Idle c c := idle_refl c unauthorized
  unfold Conn.onAuth2fa
  by_cases waits : c.awaiting2fa = true
  case neg =>
      rw [if_pos (by simp [waits])]
      exact .idle _ _ rfl same
  case pos =>
      rw [if_neg (by simp [waits])]
      cases failures : w.checkFailure 1 with
      | some error => exact .idle _ _ rfl (sent error)
      | none =>
          cases factor : c.require2fa with
          | none => exact .idle _ _ rfl same
          | some totp =>
              dsimp only
              cases checks : host.checkCurrent totp w.now tfa.code.val with
              | none => exact .idle _ _ rfl same
              | some right =>
                  cases right with
                  | false => exact .idle _ _ rfl (sent _)
                  | true =>
                      have accepts : acceptsCode host w c tfa = true := by simp [acceptsCode, waits, failures, factor, checks]
                      have log := log_on_cases host later
                        { c with require2fa := none, twoFactor := .totp, shared := c.shared.setSession2fa w.now c.sessionKey }
                        c.lr.myId c.lr.myName unauthorized
                      generalize Conn.logOn host later
                        { c with require2fa := none, twoFactor := .totp, shared := c.shared.setSession2fa w.now c.sessionKey }
                        c.lr.myId c.lr.myName = result at log
                      cases log with
                      | waiting d _ missing => exact absurd rfl missing
                      | denied d fails => exact .closed _ _ fails
                      | granted d granted _ =>
                          refine .factor tfa _ accepts ?_
                          have whole : Granted { c with require2fa := none } d := by
                            refine held_granted _ _ d ?_ granted
                            exact ⟨⟨rfl, rfl, rfl, rfl, rfl, rfl, rfl, rfl, rfl⟩, unauthorized, rfl, rfl, rfl, rfl⟩
                          split
                          · exact granted_end _ d _ whole ⟨rfl, rfl, rfl, rfl, rfl, rfl, rfl, rfl, rfl⟩ rfl rfl rfl rfl rfl rfl
                          · exact whole

theorem login_answer (lr : LoginRequest) (unauthorized : c.authorized = false) :
    Answer host w later c (.loginRequest lr) (c.onLoginRequest host w later lr) := by
  unfold Conn.onLoginRequest
  cases gate : c.loginGate host w lr with
  | error e => exact .closed _ _ ((gate_error host w c e lr gate).trans unauthorized)
  | ok g =>
      have gated := gate_spec host w c g lr gate
      have still : g.authorized = false := gated.authorized.trans unauthorized
      obtain ⟨held, waits⟩ := primary_held host w g still
      rw [gated.awaiting] at waits
      dsimp only
      cases checks : g.primary host w with
      | mk checked outcome =>
          rw [checks] at held waits
          have passes : (g.primary host w).2.passed = true →
              Answer host w later c (.loginRequest lr) (checked.logOn host later lr.myId lr.myName) := by
            intro passed
            have log := log_on_cases host later checked lr.myId lr.myName held.authorized
            generalize checked.logOn host later lr.myId lr.myName = result at log
            cases log with
            | waiting d kept _ _ awaits => exact .asked lr g d gate passed (held_trans g checked d held kept) awaits
            | denied d fails => exact .closed _ _ fails
            | granted d granted cleared =>
                exact .granted lr g d gate passed (held_granted g checked d held granted) (by rw [checks]; exact cleared)
          have asks : (g.primary host w).2.passed = false →
              ∀ error, Answer host w later c (.loginRequest lr) (checked.askForApproval host w lr error) := by
            intro passed error
            obtain ⟨still', kept⟩ := approval_held host w checked lr error held.authorized
            cases asked : checked.askForApproval host w lr error with
            | mk d keepAlive =>
                rw [asked] at still' kept
                cases keepAlive with
                | false => exact .closed _ _ still'
                | true => exact .unpassed lr g d gate passed (held_trans g checked d held (kept rfl).1) ((kept rfl).2.trans waits)
          cases outcome with
          | click => exact asks (by rw [checks]; rfl) (noPasswordAccess host lr)
          | empty => exact asks (by rw [checks]; rfl) none
          | blocked error | wrong =>
              exact .unpassed lr g _ gate (by rw [checks]; rfl) (held_trans g checked _ held
                ⟨⟨rfl, rfl, rfl, rfl, rfl, rfl, rfl, rfl, rfl⟩, held.authorized, rfl, rfl, rfl, rfl⟩) waits
          | recent => exact passes (by rw [checks]; rfl)
          | accepted => exact passes (by rw [checks]; rfl)

theorem switch_answer (s : SwitchSidesResponse) (unauthorized : c.authorized = false) :
    Answer host w later c (.switchSidesResponse s) (c.onSwitchSidesResponse host w later s) := by
  unfold Conn.onSwitchSidesResponse
  cases built : host.flutter && !host.target.mobile with
  | false => exact .idle _ _ rfl (idle_refl c unauthorized)
  | true =>
      cases asked : s.lr with
      | none => exact .idle _ _ rfl (idle_refl c unauthorized)
      | some lr =>
          have removed : Idle c { c with shared := (c.shared.retainUuids w.now).removeUuid lr.myId } :=
            ⟨⟨⟨rfl, rfl, rfl, rfl, rfl, rfl, rfl, rfl, rfl⟩, unauthorized, rfl, rfl, rfl, rfl⟩, rfl, rfl⟩
          dsimp only
          cases parsed : parseUuid s.uuid with
          | none => exact .idle _ _ rfl removed
          | some uuid =>
              cases stored : c.liveUuid w lr.myId with
              | none => exact .idle _ _ rfl removed
              | some live =>
                  dsimp only
                  by_cases same : uuid = live
                  · rw [if_pos same]
                    cases remote : lr.union with
                    | some union => exact .closed _ _ unauthorized
                    | none =>
                        rw [if_neg (by simp)]
                        have request : switchRequest s = lr := by simp [switchRequest, asked]
                        have matches' : switchMatches host w c s = true := by
                          simp [switchMatches, built, asked, parsed, switchRequest, stored, same]
                        have reset : Reset host w c lr
                            (Conn.handleLoginRequestWithoutValidation host w
                              (Conn.resetSessionScopeForLogin
                                { c with shared := (c.shared.retainUuids w.now).removeUuid lr.myId }) lr) := by
                          have fresh := reset_handled host w { c with shared := (c.shared.retainUuids w.now).removeUuid lr.myId } lr
                          exact { fresh with }
                        generalize Conn.handleLoginRequestWithoutValidation host w
                          (Conn.resetSessionScopeForLogin
                            { c with shared := (c.shared.retainUuids w.now).removeUuid lr.myId }) lr = taken at reset
                        cases listed : taken.checkIdWhitelist w with
                        | error refused =>
                            exact .closed _ _ ((whitelist_error w taken refused listed).trans (reset.authorized.trans unauthorized))
                        | ok allowed =>
                            obtain rfl := whitelist_spec w taken allowed listed
                            dsimp only
                            have log := log_on_cases host later { allowed with fromSwitch := true, primaryAuth := .switchSides }
                              lr.myId lr.myName (reset.authorized.trans unauthorized)
                            generalize Conn.logOn host later { allowed with fromSwitch := true, primaryAuth := .switchSides }
                              lr.myId lr.myName = result at log
                            cases log with
                            | waiting d _ _ unswitched => exact absurd unswitched (by simp)
                            | denied d fails => exact .closed _ _ fails
                            | granted d granted _ =>
                                refine .switched s allowed _ matches' (request ▸ remote) (request ▸ reset) ?_
                                have whole : Granted { allowed with fromSwitch := true } d := by
                                  refine held_granted _ _ d ?_ granted
                                  exact ⟨⟨rfl, rfl, rfl, rfl, rfl, rfl, rfl, rfl, rfl⟩, reset.authorized.trans unauthorized, rfl, rfl,
                                    rfl, rfl⟩
                                exact granted_end _ d _ whole ⟨rfl, rfl, rfl, rfl, rfl, rfl, rfl, rfl, rfl⟩ rfl rfl rfl rfl rfl rfl
                  · rw [if_neg same]
                    exact .idle _ _ rfl removed

end

theorem close_unauthorized (c : Conn) : c.onClose.authorized = c.authorized := by
  unfold Conn.onClose
  split <;> rfl

theorem remove_session_unauthorized (c : Conn) (w : World) : (c.checkRemoveSession w).authorized = c.authorized := by
  unfold Conn.checkRemoveSession
  split
  · split <;> rfl
  · rfl

section
variable (host : Host) (w later : World) (c : Conn) (msg : Message)

theorem message_dispatch (unauthorized : c.authorized = false)
    (plain : ∀ reason, msg ≠ .misc (.closeReason reason)) : c.onMessage host w later msg = c.dispatch host w later msg := by
  unfold Conn.onMessage
  split
  · next reason => exact absurd rfl (plain reason)
  · rw [if_neg (by simp [unauthorized])]

theorem message_answer (unauthorized : c.authorized = false) : Answer host w later c msg (c.onMessage host w later msg) := by
  by_cases plain : ∀ reason, msg ≠ .misc (.closeReason reason)
  · rw [message_dispatch host w later c msg unauthorized plain]
    cases msg with
    | loginRequest lr => exact login_answer host w later c lr unauthorized
    | auth2fa tfa => exact factor_answer host w later c tfa unauthorized
    | switchSidesResponse s => exact switch_answer host w later c s unauthorized
    | testDelay fromClient =>
        unfold Conn.dispatch
        dsimp only
        split
        · exact .idle _ _ rfl ⟨⟨⟨rfl, rfl, rfl, rfl, rfl, rfl, rfl, rfl, rfl⟩, unauthorized, rfl, rfl, rfl, rfl⟩, rfl, rfl⟩
        · exact .idle _ _ rfl ⟨⟨⟨rfl, rfl, rfl, rfl, rfl, rfl, rfl, rfl, rfl⟩, unauthorized, rfl, rfl, rfl, rfl⟩, rfl, rfl⟩
    | _ =>
        unfold Conn.dispatch
        rw [if_neg (by simp [unauthorized])]
        exact .idle _ _ rfl (idle_refl c unauthorized)
  · obtain ⟨reason, rfl⟩ := by simpa using plain
    exact .closed _ _ ((remove_session_unauthorized _ w).trans ((close_unauthorized c).trans unauthorized))

end

theorem leave_phase (c : Conn) : c.leave.phase ≠ .serving := by
  unfold Conn.leave
  split
  · simp
  · simp [Conn.finish]

theorem leave_authorized (c : Conn) : c.leave.authorized = c.authorized := by
  unfold Conn.leave
  split
  · rfl
  · exact close_unauthorized c

def LoopEvent.login : LoopEvent → Option LoginRequest
  | .message msg _ _ => msg.login
  | _ => none

def After (e d : Conn) : Prop := d = e ∨ d = e.leave

-- Every turn of the loop of a connection that is not authorized yet.
inductive Turn (host : Host) (c : Conn) : LoopEvent → Conn → Prop where
  | beyond (event : LoopEvent) (d : Conn) : d.authorized = false → d.phase ≠ .serving → Turn host c event d
  | idle (event : LoopEvent) (d : Conn) : event.login = none → Idle c d → Turn host c event d
  | unpassed (w later : World) (lr : LoginRequest) (g d : Conn) : (c.see w).loginGate host w lr = .ok g →
      (g.primary host w).2.passed = false → Held g d → d.awaiting2fa = false → Turn host c (.message (.loginRequest lr) w later) d
  | asked (w later : World) (lr : LoginRequest) (g d : Conn) : (c.see w).loginGate host w lr = .ok g →
      (g.primary host w).2.passed = true → Held g d → d.awaiting2fa = true → Turn host c (.message (.loginRequest lr) w later) d
  | logged (w later : World) (lr : LoginRequest) (g e d : Conn) : (c.see w).loginGate host w lr = .ok g →
      (g.primary host w).2.passed = true → Granted g e → Cleared host later ((g.primary host w).1.see later) → After e d →
      Turn host c (.message (.loginRequest lr) w later) d
  | factor (w later : World) (tfa : Auth2FA) (e d : Conn) : acceptsCode host w (c.see w) tfa = true →
      Granted { c with require2fa := none } e → After e d → Turn host c (.message (.auth2fa tfa) w later) d
  | switched (w later : World) (s : SwitchSidesResponse) (r e d : Conn) : switchMatches host w (c.see w) s = true →
      (switchRequest s).union = none → Reset host w (c.see w) (switchRequest s) r → Granted { r with fromSwitch := true } e →
      After e d → Turn host c (.message (.switchSidesResponse s) w later) d
  | clicked (w : World) (e d : Conn) : c.toCm ≠ [] → Granted { c with require2fa := none } e → After e d →
      Turn host c (.authorize w) d

theorem stream_turn (host : Host) (w later : World) (c : Conn) (msg : Message) (unauthorized : c.authorized = false) :
    Turn host c (.message msg w later) (c.onStream host w later msg) := by
  have seen := see_held c w unauthorized
  have answer := message_answer host w later (c.see w) msg unauthorized
  unfold Conn.onStream
  generalize (c.see w).onMessage host w later msg = result at answer
  have stays : ∀ d : Conn, d.authorized = false →
      (if d.portForwardSocket.isSome && d.authorized && d.lastTestDelay.isNone then d.leave else d) = d := by
    intro d still
    rw [if_neg (by simp [still])]
  have after : ∀ d : Conn, After d
      (if d.portForwardSocket.isSome && d.authorized && d.lastTestDelay.isNone then d.leave else d) := by
    intro d
    split
    · exact .inr rfl
    · exact .inl rfl
  cases answer with
  | closed _ d still => exact .beyond _ _ ((leave_authorized d).trans still) (leave_phase d)
  | idle _ d quiet idle =>
      dsimp only
      rw [stays d idle.held.authorized]
      exact .idle _ _ quiet ⟨held_trans c _ d seen idle.held, idle.awaiting, idle.toCm⟩
  | unpassed lr g d gate passed held waits =>
      dsimp only
      rw [stays d held.authorized]
      exact .unpassed w later lr g d gate passed held waits
  | asked lr g d gate passed held waits =>
      dsimp only
      rw [stays d held.authorized]
      exact .asked w later lr g d gate passed held waits
  | granted lr g d gate passed granted cleared => exact .logged w later lr g d _ gate passed granted cleared (after d)
  | factor tfa d accepts granted =>
      have whole : Granted { c with require2fa := none } d := by
        refine held_granted _ _ d ?_ granted
        exact ⟨⟨rfl, rfl, rfl, rfl, rfl, rfl, rfl, rfl, rfl⟩, unauthorized, rfl, rfl, rfl, rfl⟩
      exact .factor w later tfa d _ accepts whole (after d)
  | switched s r d live remote reset granted => exact .switched w later s r d _ live remote reset granted (after d)

theorem authorize_turn (host : Host) (w : World) (c : Conn) (unauthorized : c.authorized = false) (listed : c.toCm ≠ []) :
    Turn host c (.authorize w) (c.onAuthorize host w) := by
  have log := logon_cases host w { c.see w with primaryAuth := .click, require2fa := none } unauthorized
  unfold Conn.onAuthorize
  generalize Conn.sendLogonResponseAndKeepAlive host w { c.see w with primaryAuth := .click, require2fa := none } = result at log
  cases log with
  | waiting d _ missing => exact absurd rfl missing
  | denied d fails => exact .beyond _ _ ((leave_authorized d).trans fails) (leave_phase d)
  | granted d granted _ =>
      have whole : Granted { c with require2fa := none } d := by
        refine held_granted _ _ d ?_ granted
        exact ⟨⟨rfl, rfl, rfl, rfl, rfl, rfl, rfl, rfl, rfl⟩, unauthorized, rfl, rfl, rfl, rfl⟩
      refine .clicked w d _ listed whole ?_
      dsimp only
      split
      · exact .inr rfl
      · exact .inl rfl

-- No step leads back into the loop.
theorem step_phase (host : Host) (c d : Conn) (event : LoopEvent) (taken : c.step host event = some d) :
    c.phase = .serving ∨ (d.phase = .ended ∧ d.authorized = c.authorized) := by
  cases phase : c.phase with
  | serving => exact .inl rfl
  | ended => simp [Conn.step, phase] at taken
  | forwarding =>
      cases event with
      | forwardingEnds w =>
          simp only [Conn.step, phase, Option.some.injEq] at taken
          subst taken
          exact .inr ⟨rfl, (remove_session_unauthorized _ w).trans (close_unauthorized (c.see w))⟩
      | _ => simp [Conn.step, phase] at taken

theorem step_turn (host : Host) (c d : Conn) (event : LoopEvent) (unauthorized : c.authorized = false)
    (taken : c.step host event = some d) : Turn host c event d := by
  have closes : ∀ e : Conn, e.authorized = false → Turn host c event e.onClose.leave := fun e still =>
    .beyond _ _ ((leave_authorized _).trans ((close_unauthorized e).trans still)) (leave_phase _)
  rcases step_phase host c d event taken with phase | ⟨beyond, still⟩
  case inr => exact .beyond _ _ (still.trans unauthorized) (by simp [beyond])
  case inl =>
      cases event with
      | message msg w later =>
          simp only [Conn.step, phase, Option.some.injEq] at taken
          exact taken ▸ stream_turn host w later c msg unauthorized
      | authorize w =>
          simp only [Conn.step, phase] at taken
          split at taken
          · next listed =>
              rw [← Option.some.inj taken]
              simp only [Bool.and_eq_true, decide_eq_true_eq] at listed
              exact authorize_turn host w c unauthorized listed.2
          · cases taken
      | cmClose w =>
          simp only [Conn.step, phase, Option.some.injEq] at taken
          subst taken
          exact closes _ (remove_session_unauthorized _ w |>.trans unauthorized)
      | cmWindowClosed =>
          simp only [Conn.step, phase] at taken
          split at taken
          · rw [← Option.some.inj taken]
            exact closes c unauthorized
          · cases taken
      | cmErr error =>
          simp only [Conn.step, phase] at taken
          split at taken
          · rw [← Option.some.inj taken]
            exact .idle _ _ rfl (idle_refl c unauthorized)
          · rw [← Option.some.inj taken]
            exact closes c unauthorized
      | cmOther =>
          simp only [Conn.step, phase, Option.some.injEq] at taken
          exact taken ▸ .idle _ _ rfl (idle_refl c unauthorized)
      | testDelayTick now =>
          simp only [Conn.step, phase] at taken
          split at taken
          · rw [← Option.some.inj taken]
            exact .idle _ _ rfl ⟨⟨⟨rfl, rfl, rfl, rfl, rfl, rfl, rfl, phase.symm, rfl⟩, unauthorized, rfl, rfl, rfl, rfl⟩, rfl, rfl⟩
          · rw [← Option.some.inj taken]
            exact .idle _ _ rfl (idle_refl c unauthorized)
      | closing =>
          simp only [Conn.step, phase, Option.some.injEq] at taken
          exact taken ▸ closes c unauthorized
      | forwardingEnds w => simp [Conn.step, phase] at taken

-- What a turn of the loop leaves of a session that has been granted. Only a switch of
-- sides writes the scope again, and it finds a remote session.
structure Recorded (c d : Conn) : Prop where
  authorized : d.authorized = true
  recorded : d.authedConnId = c.authedConnId
  scope : (d.fileTransfer = c.fileTransfer ∧ d.viewCamera = c.viewCamera ∧ d.terminal = c.terminal) ∨
    (c.authedConnType = some .remote ∧ d.fileTransfer = none ∧ d.viewCamera = false ∧ d.terminal = false)
  noTunnel : c.isPortForward = false → d.isPortForward = false

structure Settled (c d : Conn) : Prop extends Recorded c d where
  tunnel : d.phase = .serving → d.portForwardSocket = c.portForwardSocket ∧ d.portForwardMux = c.portForwardMux

theorem settled_same (c d : Conn) (authorized : d.authorized = true) (recorded : d.authedConnId = c.authedConnId)
    (fileTransfer : d.fileTransfer = c.fileTransfer) (viewCamera : d.viewCamera = c.viewCamera) (terminal : d.terminal = c.terminal)
    (socket : d.portForwardSocket = c.portForwardSocket) (mux : d.portForwardMux = c.portForwardMux) : Settled c d :=
  ⟨⟨authorized, recorded, .inl ⟨fileTransfer, viewCamera, terminal⟩, by
    intro none
    rw [Conn.isPortForward, socket, mux]
    exact none⟩, fun _ => ⟨socket, mux⟩⟩

theorem recorded_close (c e : Conn) (recorded : Recorded c e) : Recorded c e.onClose := by
  unfold Conn.onClose
  split
  · exact recorded
  · exact { recorded with noTunnel := fun _ => rfl }

theorem recorded_remove_session (c e : Conn) (w : World) (recorded : Recorded c e) : Recorded c (e.checkRemoveSession w) := by
  unfold Conn.checkRemoveSession
  split
  · split
    · exact { recorded with }
    · exact recorded
  · exact recorded

theorem recorded_finish (c e : Conn) (recorded : Recorded c e) : Recorded c e.finish :=
  { recorded with }

theorem settled_leave (c e : Conn) (recorded : Recorded c e) : Settled c e.leave := by
  refine ⟨?_, fun serving => absurd serving (leave_phase e)⟩
  unfold Conn.leave
  split
  · refine { recorded with noTunnel := ?_ }
    intro none
    have tunnel := recorded.noTunnel none
    simp only [Conn.isPortForward, Bool.or_eq_false_iff] at tunnel ⊢
    exact ⟨rfl, tunnel.2⟩
  · exact recorded_finish c _ (recorded_close c e recorded)

theorem log_on_authorized (host : Host) (later : World) (c : Conn) (peerId name : Text) (authorized : c.authorized = true) :
    c.logOn host later peerId name = ((c.see later).tryStartCm peerId name true, true) := by
  have kept : (c.see later).authorized = true := authorized
  have same : (c.see later).sendLogonResponseAndKeepAlive host later = (c.see later, true) := if_pos kept
  rw [Conn.logOn, same]
  dsimp only
  rw [kept]

theorem factor_settled (host : Host) (w later : World) (c : Conn) (tfa : Auth2FA) (authorized : c.authorized = true) :
    Settled c (c.onAuth2fa host w later tfa).1 ∧ (c.onAuth2fa host w later tfa).2 = true := by
  have same : Settled c c := settled_same c c authorized rfl rfl rfl rfl rfl rfl
  have sent : ∀ error, Settled c (c.sendLoginError error) := fun _ => settled_same c _ authorized rfl rfl rfl rfl rfl rfl
  unfold Conn.onAuth2fa
  split
  · exact ⟨same, rfl⟩
  · split
    · exact ⟨sent _, rfl⟩
    · exact ⟨same, rfl⟩
    · split
      · exact ⟨same, rfl⟩
      · exact ⟨sent _, rfl⟩
      · dsimp only
        rw [log_on_authorized]
        · dsimp only
          split
          · exact ⟨settled_same c _ authorized rfl rfl rfl rfl rfl rfl, rfl⟩
          · exact ⟨settled_same c _ authorized rfl rfl rfl rfl rfl rfl, rfl⟩
        · exact authorized

theorem switch_settled (host : Host) (w later : World) (c : Conn) (s : SwitchSidesResponse) (authorized : c.authorized = true)
    (remote : c.authedConnType = some .remote) : Settled c (c.onSwitchSidesResponse host w later s).1 := by
  have same : Settled c c := settled_same c c authorized rfl rfl rfl rfl rfl rfl
  unfold Conn.onSwitchSidesResponse
  split
  · next lr _ asked =>
      have removed : Settled c { c with shared := (c.shared.retainUuids w.now).removeUuid lr.myId } :=
        settled_same c _ authorized rfl rfl rfl rfl rfl rfl
      dsimp only
      split
      · split
        · split
          · exact settled_same c _ authorized rfl rfl rfl rfl rfl rfl
          · have taken : ∀ r : Conn, (r.fileTransfer = none ∧ r.viewCamera = false ∧ r.terminal = false) →
                r.authorized = c.authorized → r.authedConnId = c.authedConnId → r.portForwardSocket = c.portForwardSocket →
                r.portForwardMux = c.portForwardMux → Settled c r := by
              intro r cleared still recorded socket mux
              refine ⟨⟨still.trans authorized, recorded, .inr ⟨remote, cleared⟩, ?_⟩, fun _ => ⟨socket, mux⟩⟩
              intro none
              rw [Conn.isPortForward, socket, mux]
              exact none
            have fresh : ∀ r, r = Conn.handleLoginRequestWithoutValidation host w
                (Conn.resetSessionScopeForLogin { c with shared := (c.shared.retainUuids w.now).removeUuid lr.myId }) lr →
                (r.fileTransfer = none ∧ r.viewCamera = false ∧ r.terminal = false) ∧ r.authorized = c.authorized ∧
                r.authedConnId = c.authedConnId ∧ r.portForwardSocket = c.portForwardSocket ∧
                r.portForwardMux = c.portForwardMux := by
              rintro r rfl
              unfold Conn.handleLoginRequestWithoutValidation
              dsimp only
              split
              · exact ⟨⟨rfl, rfl, rfl⟩, rfl, rfl, rfl, rfl⟩
              · exact ⟨⟨rfl, rfl, rfl⟩, rfl, rfl, rfl, rfl⟩
            generalize Conn.handleLoginRequestWithoutValidation host w
              (Conn.resetSessionScopeForLogin { c with shared := (c.shared.retainUuids w.now).removeUuid lr.myId }) lr = r at fresh
            obtain ⟨cleared, still, recorded, socket, mux⟩ := fresh r rfl
            unfold Conn.checkIdWhitelist
            split
            · next error fails =>
                split at fails
                · cases fails
                  exact taken _ cleared still recorded socket mux
                · cases fails
            · next allowed passes =>
                split at passes
                · cases passes
                · cases passes
                  rw [log_on_authorized]
                  · exact taken _ cleared still recorded socket mux
                  · exact still.trans authorized
        · exact removed
      · exact removed
  · exact same

theorem violation_settled (w : World) (c : Conn) (message : String) (authorized : c.authorized = true) :
    Recorded c (c.handleAuthorizedScopeViolation w message).1 ∧
      ((c.handleAuthorizedScopeViolation w message).2 = true → Settled c (c.handleAuthorizedScopeViolation w message).1) := by
  unfold Conn.handleAuthorizedScopeViolation
  dsimp only
  split
  · refine ⟨recorded_close c _ (recorded_remove_session c _ w ?_), nofun⟩
    refine Settled.toRecorded (settled_same c _ ?_ rfl rfl rfl rfl rfl rfl)
    exact authorized
  · have noted := settled_same c
      { c with scopeViolationMessages := if message ∈ c.scopeViolationMessages then c.scopeViolationMessages
                 else c.scopeViolationMessages ++ [message] } authorized rfl rfl rfl rfl rfl rfl
    exact ⟨noted.toRecorded, fun _ => noted⟩

theorem session_settled (host : Host) (w : World) (c : Conn) (msg : Message) (authorized : c.authorized = true) :
    Recorded c (c.onSessionMessage host w msg).1 ∧
      ((c.onSessionMessage host w msg).2 = true → Settled c (c.onSessionMessage host w msg).1) := by
  have same : Settled c c := settled_same c c authorized rfl rfl rfl rfl rfl rfl
  have options : ∀ o, Settled c (c.updateOptions host o) := by
    intro o
    obtain ⟨persistent, frame⟩ := update_options_frame host c o
    rw [frame]
    exact settled_same c _ authorized rfl rfl rfl rfl rfl rfl
  unfold Conn.onSessionMessage
  split
  · exact ⟨same.toRecorded, fun _ => same⟩
  · split
    · split
      · exact ⟨(options _).toRecorded, fun _ => options _⟩
      · split
        · exact ⟨(options _).toRecorded, fun _ => options _⟩
        · exact ⟨same.toRecorded, fun _ => same⟩
    · split
      · exact ⟨recorded_close c c same.toRecorded, nofun⟩
      · exact ⟨same.toRecorded, fun _ => same⟩
    · split
      · exact ⟨same.toRecorded, nofun⟩
      · exact ⟨same.toRecorded, fun _ => same⟩
    · exact ⟨same.toRecorded, fun _ => same⟩

section
variable (host : Host) (w later : World) (c : Conn) (msg : Message)

theorem dispatch_settled (authorized : c.authorized = true) (quiet : msg.login = none) (passes : c.authorizedScopeViolation host msg = none) :
    Recorded c (c.dispatch host w later msg).1 ∧
      ((c.dispatch host w later msg).2 = true → Settled c (c.dispatch host w later msg).1) := by
  unfold Conn.dispatch
  split
  · cases quiet
  · next tfa =>
      have settled := (factor_settled host w later c tfa authorized).1
      exact ⟨settled.toRecorded, fun _ => settled⟩
  · split
    · have settled := settled_same c { c with sent := c.sent ++ [.testDelay] } authorized rfl rfl rfl rfl rfl rfl
      exact ⟨settled.toRecorded, fun _ => settled⟩
    · have settled := settled_same c { c with lastTestDelay := none } authorized rfl rfl rfl rfl rfl rfl
      exact ⟨settled.toRecorded, fun _ => settled⟩
  · next s =>
      have remote : c.authedConnType = some .remote := by
        unfold Conn.authorizedScopeViolation at passes
        cases connType : c.authedConnType with
        | none => simp [connType, isConnectionHousekeepingMessage] at passes
        | some kind =>
            rw [connType] at passes
            rw [switch_sides_scope host.target kind s passes]
      have settled := switch_settled host w later c s authorized remote
      exact ⟨settled.toRecorded, fun _ => settled⟩
  · rw [if_pos authorized]
    exact session_settled host w c msg authorized

theorem message_settled (authorized : c.authorized = true) : Recorded c (c.onMessage host w later msg).1 ∧
      ((c.onMessage host w later msg).2 = true → Settled c (c.onMessage host w later msg).1) := by
  have same : Settled c c := settled_same c c authorized rfl rfl rfl rfl rfl rfl
  unfold Conn.onMessage
  split
  · exact ⟨recorded_remove_session c _ w (recorded_close c c same.toRecorded), nofun⟩
  · rw [if_pos authorized]
    split
    · exact ⟨same.toRecorded, fun _ => same⟩
    · next plain =>
        split
        · exact violation_settled w c _ authorized
        · next passes =>
            have quiet : msg.login = none := by
              cases msg with
              | loginRequest lr => exact absurd rfl (plain lr)
              | _ => rfl
            exact dispatch_settled host w later c msg authorized quiet passes

end

theorem see_settled (c d : Conn) (w : World) (settled : Settled (c.see w) d) : Settled c d :=
  ⟨{ settled with }, settled.tunnel⟩

theorem see_recorded (c d : Conn) (w : World) (recorded : Recorded (c.see w) d) : Recorded c d :=
  { recorded with }

theorem step_settled (host : Host) (c d : Conn) (event : LoopEvent) (authorized : c.authorized = true)
    (taken : c.step host event = some d) : Settled c d := by
  have same : Settled c c := settled_same c c authorized rfl rfl rfl rfl rfl rfl
  have closes : Settled c c.onClose.leave := settled_leave c _ (recorded_close c c same.toRecorded)
  unfold Conn.step at taken
  split at taken
  · next msg w later _ =>
      rw [← Option.some.inj taken]
      obtain ⟨recorded, settled⟩ := message_settled host w later (c.see w) msg authorized
      unfold Conn.onStream
      cases outcome : (c.see w).onMessage host w later msg with
      | mk kept keepAlive =>
          rw [outcome] at recorded settled
          cases keepAlive with
          | false => exact settled_leave c kept (see_recorded c kept w recorded)
          | true =>
              dsimp only
              split
              · exact settled_leave c kept (see_recorded c kept w recorded)
              · exact see_settled c kept w (settled rfl)
  · next w _ =>
      split at taken
      · rw [← Option.some.inj taken]
        unfold Conn.onAuthorize
        have answered : Conn.sendLogonResponseAndKeepAlive host w { c.see w with primaryAuth := .click, require2fa := none } =
            ({ c.see w with primaryAuth := .click, require2fa := none }, true) := if_pos authorized
        have kept := settled_same c { c.see w with primaryAuth := .click, require2fa := none } authorized rfl rfl rfl rfl rfl rfl
        rw [answered]
        dsimp only
        split
        · exact settled_leave c _ kept.toRecorded
        · exact kept
      · cases taken
  · next w _ =>
      rw [← Option.some.inj taken]
      refine settled_leave c _ (recorded_close c _ (recorded_remove_session c _ w ?_))
      refine Settled.toRecorded (settled_same c _ ?_ rfl rfl rfl rfl rfl rfl)
      exact authorized
  · split at taken
    · exact Option.some.inj taken ▸ closes
    · cases taken
  · split at taken
    · exact Option.some.inj taken ▸ same
    · exact Option.some.inj taken ▸ closes
  · exact Option.some.inj taken ▸ same
  · split at taken
    · exact Option.some.inj taken ▸ settled_same c _ authorized rfl rfl rfl rfl rfl rfl
    · exact Option.some.inj taken ▸ same
  · exact Option.some.inj taken ▸ closes
  · next w _ =>
      rw [← Option.some.inj taken]
      have beyond := recorded_finish c _ (recorded_remove_session c _ w (recorded_close c (c.see w)
        (settled_same c (c.see w) authorized rfl rfl rfl rfl rfl rfl).toRecorded))
      exact ⟨beyond, nofun⟩
  · cases taken

end GotechDesk.Connection
