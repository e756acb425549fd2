import GotechDesk.Machine
import GotechDesk.Connection.LoginTurns

set_option autoImplicit false

namespace GotechDesk.Connection

-- What a run says about the peer, read off its steps with the code's own checks in
-- the state each step was taken in.
abbrev Past : Type := List (Conn × LoopEvent)

def isLogin (entry : Conn × LoopEvent) : Bool := entry.2.login.isSome

def passedPrimary (host : Host) (entry : Conn × LoopEvent) : Prop :=
  ∃ lr w later g, entry.2 = .message (.loginRequest lr) w later ∧ (entry.1.see w).loginGate host w lr = .ok g ∧
    (g.primary host w).2.passed = true

def LatestLoginPassed (host : Host) (past : Past) : Prop :=
  ∃ entry, (past.filter isLogin).getLast? = some entry ∧ passedPrimary host entry

def Clicked (past : Past) : Prop := ∃ entry ∈ past, ∃ w, entry.2 = .authorize w

def Switched (host : Host) (past : Past) : Prop :=
  ∃ entry ∈ past, ∃ s w later, entry.2 = .message (.switchSidesResponse s) w later ∧
    switchMatches host w (entry.1.see w) s = true

def Trusted (host : Host) (past : Past) : Prop :=
  ∃ entry ∈ past, ∃ lr w later, entry.2 = .message (.loginRequest lr) w later ∧
    trustedDeviceMatches host w (entry.1.see w) lr = true

-- A code was accepted while the connection waited for one, and the login it completed
-- had passed.
def CodeAccepted (host : Host) (past : Past) : Prop :=
  ∃ earlier entry rest, past = earlier ++ entry :: rest ∧ LatestLoginPassed host earlier ∧
    ∃ tfa w later, entry.2 = .message (.auth2fa tfa) w later ∧ entry.1.awaiting2fa = true ∧
      acceptsCode host w (entry.1.see w) tfa = true

def Conn.liveSessionTfa (w : World) (c : Conn) : Bool :=
  ((c.shared.retainSessions w.now).sessions c.sessionKey).any Session.tfa

-- The session of the login's key is alive and already has its second factor.
def SessionHasTfa (host : Host) (entry : Conn × LoopEvent) : Prop :=
  ∃ lr w later g, entry.2 = .message (.loginRequest lr) w later ∧ (entry.1.see w).loginGate host w lr = .ok g ∧
    ((g.primary host w).1.see later).liveSessionTfa later = true

theorem recent_tfa (host : Host) (w : World) (c : Conn) (recent : (c.isRecentSession host w true).2 = true) :
    c.liveSessionTfa w = true := by
  unfold Conn.isRecentSession at recent
  dsimp only at recent
  unfold Conn.liveSessionTfa
  cases live : (c.shared.retainSessions w.now).sessions c.sessionKey with
  | none => simp [live] at recent
  | some session =>
      rw [live] at recent
      dsimp only at recent
      split at recent
      · next matched =>
          simp only [Conn.recentSessionMatches, Bool.and_eq_true, Bool.true_and, Bool.not_true, Bool.false_and,
            Bool.or_false] at matched
          exact matched.2
      · cases recent

section
variable (host : Host) (past : Past) (entry : Conn × LoopEvent)

theorem latest_login (login : isLogin entry = true) (passed : passedPrimary host entry) : LatestLoginPassed host (past ++ [entry]) :=
  ⟨entry, by simp [List.filter_append, login], passed⟩

theorem latest_quiet (quiet : entry.2.login = none) (passed : LatestLoginPassed host past) : LatestLoginPassed host (past ++ [entry]) := by
  obtain ⟨latest, last, primary⟩ := passed
  exact ⟨latest, by simp [List.filter_append, isLogin, quiet, last], primary⟩

theorem trusted_later (trusted : Trusted host past) : Trusted host (past ++ [entry]) := by
  obtain ⟨known, member, rest⟩ := trusted
  exact ⟨known, List.mem_append_left _ member, rest⟩

end

-- While the connection is served and not authorized, what it remembers of the login is
-- what the run says.
structure Vouched (host : Host) (past : Past) (c : Conn) : Prop where
  waits : c.awaiting2fa = true → LatestLoginPassed host past
  factor : c.require2fa = none → Trusted host past
  switch : c.fromSwitch = false

def VouchedWhileOpen (host : Host) (past : Past) (c : Conn) : Prop :=
  c.phase = .serving → c.authorized = false → Vouched host past c

theorem gated_factor (host : Host) (w later : World) (past : Past) (c g : Conn) (lr : LoginRequest)
    (vouched : Vouched host past c) (gated : Gated host w (c.see w) lr g) (none : g.require2fa = none) :
    Trusted host (past ++ [(c, .message (.loginRequest lr) w later)]) := by
  by_cases trusted : trustedDeviceMatches host w (c.see w) lr = true
  · exact ⟨_, List.mem_append_right _ (List.mem_singleton.mpr rfl), lr, w, later, rfl, trusted⟩
  · have before : c.require2fa = Option.none := by
      rw [gated.require2fa, if_neg trusted] at none
      exact none
    exact trusted_later host past _ (vouched.factor before)

-- A connection that is not authorized has not been granted anything.
theorem granted_gone (g e d : Conn) (granted : Granted g e) (after : After e d) (still : d.authorized = false) : False := by
  have authorized : d.authorized = true := by
    rcases after with rfl | rfl
    · exact granted.authorized
    · exact (leave_authorized e).trans granted.authorized
  rw [still] at authorized
  cases authorized

-- The turns that leave a connection served and not authorized.
inductive OpenTurn (host : Host) (c : Conn) : LoopEvent → Conn → Prop where
  | idle (event : LoopEvent) (d : Conn) : event.login = none → Idle c d → OpenTurn host c event d
  | login (w later : World) (lr : LoginRequest) (g d : Conn) : (c.see w).loginGate host w lr = .ok g → Held g d →
      (d.awaiting2fa = true → (g.primary host w).2.passed = true) → OpenTurn host c (.message (.loginRequest lr) w later) d

section
variable (host : Host)

theorem turn_open (c d : Conn) (event : LoopEvent) (turn : Turn host c event d) (still : d.authorized = false)
    (serving : d.phase = .serving) : OpenTurn host c event d := by
  cases turn with
  | beyond _ _ _ beyond => exact absurd serving beyond
  | idle _ _ quiet idle => exact .idle event d quiet idle
  | unpassed w later lr g _ gate passed held off =>
      exact .login w later lr g d gate held (fun on => absurd (off.symm.trans on) Bool.false_ne_true)
  | asked w later lr g _ gate passed held _ => exact .login w later lr g d gate held (fun _ => passed)
  | logged w later lr g e _ gate passed granted cleared after => exact (granted_gone g e d granted after still).elim
  | factor w later tfa e _ accepts granted after => exact (granted_gone _ e d granted after still).elim
  | switched w later s r e _ live remote reset granted after => exact (granted_gone _ e d granted after still).elim
  | clicked w e _ listed granted after => exact (granted_gone _ e d granted after still).elim

theorem open_before (c d : Conn) (event : LoopEvent) (taken : c.step host event = some d) (serving : d.phase = .serving)
    (still : d.authorized = false) : c.phase = .serving ∧ c.authorized = false ∧ OpenTurn host c event d := by
  have before : c.authorized = false := by
    cases authorized : c.authorized with
    | false => rfl
    | true =>
        have kept := (step_settled host c d event authorized taken).authorized
        rw [still] at kept
        cases kept
  rcases step_phase host c d event taken with phase | ⟨beyond, _⟩
  · exact ⟨phase, before, turn_open host c d event (step_turn host c d event before taken) still serving⟩
  · rw [beyond] at serving
    cases serving

-- What these turns keep holds of a connection as long as it is served and not authorized.
theorem traced_open (inv : Past → Conn → Prop)
    (kept : ∀ past c d event, inv past c → OpenTurn host c event d → inv (past ++ [(c, event)]) d) (init c : Conn) (past : Past)
    (start : inv [] init) (traced : Machine.Traced (Conn.step host) init past c) : c.phase = .serving → c.authorized = false → inv past c := by
  refine Machine.traced_invariant (Conn.step host) (fun past c => c.phase = .serving → c.authorized = false → inv past c) init c past
    (fun _ _ => start) ?_ traced
  intro past state label after holds taken serving still
  obtain ⟨phase, before, turn⟩ := open_before host state after label taken serving still
  exact kept past state after label (holds phase before) turn

theorem turn_waits (past : Past) (c d : Conn) (event : LoopEvent) (waits : c.awaiting2fa = true → LatestLoginPassed host past)
    (turn : OpenTurn host c event d) : d.awaiting2fa = true → LatestLoginPassed host (past ++ [(c, event)]) := by
  intro waiting
  cases turn with
  | idle _ _ quiet idle => exact latest_quiet host past (c, event) quiet (waits (idle.awaiting ▸ waiting))
  | login w later lr g _ gate held passed => exact latest_login host past _ rfl ⟨lr, w, later, g, rfl, gate, passed waiting⟩

theorem turn_vouched (past : Past) (c d : Conn) (event : LoopEvent) (vouched : Vouched host past c)
    (turn : OpenTurn host c event d) : Vouched host (past ++ [(c, event)]) d := by
  have waits := turn_waits host past c d event vouched.waits turn
  cases turn with
  | idle _ _ quiet idle =>
      refine ⟨waits, ?_, idle.held.steady.fromSwitch.trans vouched.switch⟩
      intro none
      exact trusted_later host past _ (vouched.factor (idle.held.steady.require2fa ▸ none))
  | login w later lr g _ gate held passed =>
      have gated := gate_spec host w (c.see w) g lr gate
      refine ⟨waits, ?_, held.steady.fromSwitch.trans (gated.fromSwitch.trans vouched.switch)⟩
      intro none
      exact gated_factor host w later past c g lr vouched gated (held.steady.require2fa ▸ none)

theorem traced_vouched (hash : Hash) (totp : TOTP) (shared : Shared) (past : Past) (c : Conn)
    (traced : Machine.Traced (Conn.step host) (Conn.start host hash (some totp) shared) past c) :
    VouchedWhileOpen host past c :=
  traced_open host (Vouched host) (turn_vouched host) _ c past ⟨(fun waits => by cases waits), (fun none => by cases none), rfl⟩ traced

end

-- However the messages of the peer and of the connection manager are ordered, the turn
-- that authorizes a connection with a second factor configured has a reason in the
-- run: a click, a live switch uuid, or a password the latest login itself passed
-- together with its second factor.
theorem authorization_sound (host : Host) (hash : Hash) (totp : TOTP) (shared : Shared) (past : Past) (c next : Conn)
    (event : LoopEvent)
    (reach : Machine.Traced (Conn.step host) (Conn.start host hash (some totp) shared) past c)
    (taken : c.step host event = some next) (before : c.authorized = false) (after : next.authorized = true) :
    Clicked (past ++ [(c, event)]) ∨ Switched host (past ++ [(c, event)]) ∨
      (LatestLoginPassed host (past ++ [(c, event)]) ∧
        (CodeAccepted host (past ++ [(c, event)]) ∨ SessionHasTfa host (c, event) ∨ Trusted host (past ++ [(c, event)]))) := by
  have known := traced_vouched host hash totp shared past c reach
  have turn := step_turn host c next event before taken
  have here : (c, event) ∈ past ++ [(c, event)] := List.mem_append_right _ (List.mem_singleton.mpr rfl)
  have serving : c.phase = .serving := by
    rcases step_phase host c next event taken with phase | ⟨_, same⟩
    · exact phase
    · exact absurd (before.symm.trans (same.symm.trans after)) (by simp)
  have vouched := known serving before
  cases turn with
  | beyond _ _ still _ =>
      rw [still] at after
      cases after
  | idle _ _ _ idle =>
      rw [idle.held.authorized] at after
      cases after
  | unpassed w later lr g _ gate passed held _ =>
      rw [held.authorized] at after
      cases after
  | asked w later lr g _ gate passed held _ =>
      rw [held.authorized] at after
      cases after
  | clicked w e _ _ _ _ => exact .inl ⟨_, here, w, rfl⟩
  | switched w later s r e _ live _ _ _ _ => exact .inr (.inl ⟨_, here, s, w, later, rfl, live⟩)
  | factor w later tfa e _ accepts _ _ =>
      have waits : c.awaiting2fa = true := by
        simp only [acceptsCode, Bool.and_eq_true] at accepts
        exact accepts.1.1
      have passed := vouched.waits waits
      refine .inr (.inr ⟨latest_quiet host past _ rfl passed, .inl ?_⟩)
      exact ⟨past, _, [], rfl, passed, tfa, w, later, rfl, waits, accepts⟩
  | logged w later lr g e _ gate passed granted cleared _ =>
      have gated := gate_spec host w (c.see w) g lr gate
      obtain ⟨sessions, first, second, same⟩ := primary_frame host w g
      refine .inr (.inr ⟨latest_login host past _ rfl ⟨lr, w, later, g, rfl, gate, passed⟩, .inr ?_⟩)
      rcases cleared with factor | recent | switch
      · rw [same] at factor
        exact .inr (gated_factor host w later past c g lr vouched gated factor)
      · exact .inl ⟨lr, w, later, g, rfl, gate, recent_tfa host later _ recent⟩
      · rw [same] at switch
        have off : g.fromSwitch = false := gated.fromSwitch.trans vouched.switch
        exact absurd (off.symm.trans switch) (by simp)

-- A linux desktop with the temporary password "abc123". `sha256` and the one-time code
-- are the real ones on what the runs below hash and check.
def desktopPasswordHash : Vector UInt8 32 :=
  #v[88, 238, 153, 171, 59, 128, 150, 137, 153, 137, 98, 223, 54, 153, 120, 155, 107, 155, 189, 230, 96, 128, 156, 177, 87, 17,
    153, 233, 55, 107, 66, 100]

def desktopChallengeHash : Vector UInt8 32 :=
  #v[21, 223, 145, 232, 154, 188, 46, 69, 204, 42, 130, 248, 130, 9, 12, 14, 206, 158, 255, 63, 250, 61, 207, 9, 176, 82, 251,
    242, 61, 185, 8, 80]

def remoteScopeHash : Vector UInt8 32 :=
  #v[116, 146, 68, 2, 105, 62, 211, 62, 123, 187, 155, 193, 61, 83, 28, 57, 105, 137, 166, 125, 194, 62, 129, 245, 143, 57, 45,
    32, 52, 133, 125, 5]

def tunnelScopeHash : Vector UInt8 32 :=
  #v[28, 174, 139, 118, 0, 248, 64, 113, 109, 162, 21, 123, 74, 134, 77, 47, 59, 0, 171, 84, 135, 177, 177, 214, 139, 208,
    138, 173, 177, 216, 55, 9]

def desktopHash : Hash := ⟨"salt", "wxyz"⟩

def remoteLogin : LoginRequest := { myId := ⟨"peer", by decide⟩, password := desktopChallengeHash.toList }

def tunnelLogin : LoginRequest :=
  { remoteLogin with union := some (.portForward ⟨⟨"localhost", by decide⟩, 80, false⟩) }

def desktopSha256 (bytes : List UInt8) : Vector UInt8 32 :=
  if bytes = "abc123salt".toUTF8.data.toList then desktopPasswordHash
  else if bytes = desktopPasswordHash.toList ++ "wxyz".toUTF8.data.toList then desktopChallengeHash
  else if bytes = loginScopeBytes remoteLogin then remoteScopeHash
  else if bytes = loginScopeBytes tunnelLogin then tunnelScopeHash
  else Vector.replicate 32 0

def desktopTotp : TOTP := ⟨"12345678901234567890".toUTF8.data.toList⟩

def desktop : Host where
  target := .linux
  flutter := true
  sha256 := desktopSha256
  checkCurrent := fun totp now code => some (decide (totp = desktopTotp) && decide (now = 59000) && decide (code = "287082"))
  getVersionNumber := fun _ => 0
  isDirectIpAccess := fun _ => true
  localStorageUsable := fun _ _ => false
  presetStorageUsable := fun _ _ => false
  decodePermanentH1 := fun _ => none
  decodePresetH1 := fun _ => none
  outdate := fun _ _ => true
  addTrustedDevice := fun devices device => devices ++ [device]

def quietShared : Shared := ⟨fun _ => none, fun _ => none, []⟩

def desktopWorld : World where
  now := 59000
  others := none
  id := "host"
  temporaryEnabled := true
  temporaryPassword := "abc123"
  permanentEnabled := false
  localPassword := ("", "")
  presetPassword := ("", "")
  approveMode := .both
  hasValidPassword := true
  allowLogonScreenPassword := false
  enableTrustedDevices := false
  permission := fun _ => true
  idWhitelistError := fun _ => none
  checkFailure := fun _ => none
  isInPrivacyMode := false
  isInstalled := true
  isPrelogin := false
  isLocked := false
  isLogonUi := false
  osCredentialPolicy := none
  osLoginGateBusy := false
  logonUserIsAdmin := fun _ _ => none
  currentSession := true
  userToken := none
  isServiceSpecifiedUser := fun _ => none
  generatedServiceId := "service"
  connects := fun _ => true
  displayServerError := none
  displaysError := none
  allowScopeViolationClose := false
  anotherRemote := fun _ => false
  connectsToUserSession := fun _ => false

def loginTurn : LoopEvent := .message (.loginRequest remoteLogin) desktopWorld desktopWorld
def codeTurn : LoopEvent := .message (.auth2fa ⟨⟨"287082", by decide⟩, []⟩) desktopWorld desktopWorld

def desktopStart : Conn := Conn.start desktop desktopHash (some desktopTotp) quietShared

theorem login_turn_runs : (desktopStart.step desktop loginTurn).isSome = true := by decide

def waitingForCode : Conn := (desktopStart.step desktop loginTurn).get login_turn_runs

theorem code_turn_runs : (waitingForCode.step desktop codeTurn).isSome = true := by decide

theorem waiting_traced : Machine.Traced (Conn.step desktop) desktopStart [(desktopStart, loginTurn)] waitingForCode :=
  .next [] desktopStart waitingForCode loginTurn .start (by simp [waitingForCode])

-- The password, then the code.
theorem authorization_sound_with_code :
    let past := [(desktopStart, loginTurn), (waitingForCode, codeTurn)]
    waitingForCode.awaiting2fa = true ∧
      (Clicked past ∨ Switched desktop past ∨
        (LatestLoginPassed desktop past ∧
          (CodeAccepted desktop past ∨ SessionHasTfa desktop (waitingForCode, codeTurn) ∨ Trusted desktop past))) :=
  ⟨by decide +kernel, authorization_sound desktop desktopHash desktopTotp quietShared [(desktopStart, loginTurn)] waitingForCode
    ((waitingForCode.step desktop codeTurn).get code_turn_runs) codeTurn waiting_traced (by simp) (by decide +kernel)
    (by decide +kernel)⟩

theorem authorizing_serving (host : Host) (c next : Conn) (event : LoopEvent) (taken : c.step host event = some next)
    (before : c.authorized = false) (after : next.authorized = true) : c.phase = .serving := by
  rcases step_phase host c next event taken with phase | ⟨_, same⟩
  · exact phase
  · exact absurd (before.symm.trans (same.symm.trans after)) Bool.false_ne_true

section
variable (host : Host) (hash : Hash) (require2fa : Option TOTP) (shared : Shared) (past : Past) (c next : Conn) (event : LoopEvent)

-- With or without a second factor configured.
theorem authorized_reason (reach : Machine.Traced (Conn.step host) (Conn.start host hash require2fa shared) past c)
    (taken : c.step host event = some next) (before : c.authorized = false) (after : next.authorized = true) :
    Clicked (past ++ [(c, event)]) ∨ Switched host (past ++ [(c, event)]) ∨ LatestLoginPassed host (past ++ [(c, event)]) := by
  have here : (c, event) ∈ past ++ [(c, event)] := List.mem_append_right _ (List.mem_singleton.mpr rfl)
  have waits := traced_open host (fun past c => c.awaiting2fa = true → LatestLoginPassed host past) (turn_waits host) _ c past
    (fun waits => by cases waits) reach (authorizing_serving host c next event taken before after) before
  cases step_turn host c next event before taken with
  | beyond _ _ still _ => exact absurd (still.symm.trans after) Bool.false_ne_true
  | idle _ _ _ idle => exact absurd (idle.held.authorized.symm.trans after) Bool.false_ne_true
  | unpassed w later lr g _ gate passed held _ | asked w later lr g _ gate passed held _ =>
      exact absurd (held.authorized.symm.trans after) Bool.false_ne_true
  | clicked w e _ _ _ _ => exact .inl ⟨_, here, w, rfl⟩
  | switched w later s r e _ live _ _ _ _ => exact .inr (.inl ⟨_, here, s, w, later, rfl, live⟩)
  | factor w later tfa e _ accepts _ _ =>
      simp only [acceptsCode, Bool.and_eq_true] at accepts
      exact .inr (.inr (latest_quiet host past _ rfl (waits accepts.1.1)))
  | logged w later lr g e _ gate passed _ _ _ => exact .inr (.inr (latest_login host past _ rfl ⟨lr, w, later, g, rfl, gate, passed⟩))

-- Where logins have to be approved by a click, neither a password nor a recent session nor a code
-- authorizes a connection.
theorem click_only (reach : Machine.Traced (Conn.step host) (Conn.start host hash require2fa shared) past c) (taken : c.step host event = some next)
    (before : c.authorized = false) (after : next.authorized = true)
    (mode : ∀ entry ∈ past ++ [(c, event)], ∀ lr w later, entry.2 = .message (.loginRequest lr) w later →
      w.approveMode = .click ∧ (w.allowLogonScreenPassword && isLogon host w) = false) :
    Clicked (past ++ [(c, event)]) ∨ Switched host (past ++ [(c, event)]) := by
  rcases authorized_reason host hash require2fa shared past c next event reach taken before after with clicked | switched | passed
  · exact .inl clicked
  · exact .inr switched
  · obtain ⟨entry, last, lr, w, later, g, login, _, passed⟩ := passed
    obtain ⟨click, screen⟩ := mode entry (List.mem_filter.mp (List.mem_of_getLast? last)).1 lr w later login
    simp [Conn.primary, click, screen, Primary.passed] at passed

end

def clickWorld : World := { desktopWorld with approveMode := .click }

def clickTurn : LoopEvent := .message (.loginRequest remoteLogin) clickWorld clickWorld

theorem click_turn_runs : (desktopStart.step desktop clickTurn).isSome = true := by decide

def waitingForClick : Conn := (desktopStart.step desktop clickTurn).get click_turn_runs

theorem click_runs : (waitingForClick.step desktop (.authorize clickWorld)).isSome = true := by decide

theorem click_only_approved :
    let past := [(desktopStart, clickTurn), (waitingForClick, .authorize clickWorld)]
    Clicked past ∨ Switched desktop past := by
  refine click_only desktop desktopHash (some desktopTotp) quietShared [(desktopStart, clickTurn)] waitingForClick
    ((waitingForClick.step desktop (.authorize clickWorld)).get click_runs) (.authorize clickWorld)
    (.next [] desktopStart waitingForClick clickTurn .start (by simp [waitingForClick])) (by simp) (by decide +kernel) (by decide +kernel) ?_
  intro entry member lr w later login
  obtain rfl | rfl : entry = (desktopStart, clickTurn) ∨ entry = (waitingForClick, .authorize clickWorld) := by simpa using member
  · cases login
    exact ⟨rfl, rfl⟩
  · cases login

end GotechDesk.Connection
