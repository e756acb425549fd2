import GotechDesk.PortForward.ChannelSteps

set_option autoImplicit false

namespace GotechDesk.PortForward

def payload : Inbound → Option Bytes
  | .data bytes => some bytes
  | _ => none

def TunnelToSocket.current (half : TunnelToSocket) : List Bytes :=
  match half.point with
  | .writing chunk _ => [chunk]
  | _ => []

-- The data accepted and not yet drained, in the order it will be written.
def TunnelToSocket.undrained (half : TunnelToSocket) : List Bytes :=
  half.current ++ half.pending ++ half.inbound.filterMap payload

def chargeSum (chunks : List Bytes) : Nat := (chunks.map (fun bytes => charge bytes.length)).sum

def TunnelToSocket.buffered (half : TunnelToSocket) : Nat := chargeSum half.undrained

def TunnelToSocket.accounted (half : TunnelToSocket) : Nat :=
  half.window.remaining + half.window.drainedSinceUpdate + half.buffered

structure Bounded (half : TunnelToSocket) : Prop where
  bound : half.accounted ≤ half.granted
  capped : half.granted ≤ channelWindow
  below : half.window.drainedSinceUpdate < updateThreshold

theorem charge_sum_nil : chargeSum [] = 0 := rfl

theorem charge_sum_cons (chunk : Bytes) (rest : List Bytes) :
    chargeSum (chunk :: rest) = charge chunk.length + chargeSum rest := by simp [chargeSum]

theorem charge_sum_append (a b : List Bytes) : chargeSum (a ++ b) = chargeSum a + chargeSum b := by
  simp [chargeSum]

theorem charge_sum_counts (chunks : List Bytes) : minFrameCharge * chunks.length ≤ chargeSum chunks := by
  induction chunks with
  | nil => simp [chargeSum]
  | cons chunk rest ih =>
      have least := charge_min chunk.length
      rw [charge_sum_cons, List.length_cons, Nat.mul_succ]
      omega

-- A chunk that passed the window is no longer than its charge.
theorem charge_sum_covers (chunks : List Bytes) (small : chargeSum chunks ≤ channelWindow) :
    (chunks.map List.length).sum ≤ chargeSum chunks := by
  induction chunks with
  | nil => simp [chargeSum]
  | cons chunk rest ih =>
      rw [charge_sum_cons] at small ⊢
      have tail := ih (by omega)
      have covered := charge_covers chunk.length (by omega)
      simp only [List.map_cons, List.sum_cons]
      omega

theorem finish_accounted (half : TunnelToSocket) (reason : RelayEnd) :
    (half.finish reason).accounted ≤ half.accounted := by
  simp only [TunnelToSocket.accounted, TunnelToSocket.finish, TunnelToSocket.buffered, TunnelToSocket.undrained,
    TunnelToSocket.current, List.filterMap_nil, List.append_nil, charge_sum_nil]
  omega

theorem finish_bounded (half : TunnelToSocket) (reason : RelayEnd) (bounded : Bounded half) :
    Bounded (half.finish reason) :=
  ⟨Nat.le_trans (finish_accounted half reason) bounded.bound, bounded.capped, bounded.below⟩

-- The only place a relay loop adds to the window: nothing saturates, and what
-- leaves the buffers enters `remaining` or `drained_since_update` in full.
theorem drained_spec (window next : RecvWindow) (n : Nat) (update : Option Nat) (granted : Nat)
    (fits : window.remaining + window.drainedSinceUpdate + charge n ≤ granted) (capped : granted ≤ channelWindow)
    (called : window.drained n = (next, update)) :
    next.remaining + next.drainedSinceUpdate =
        window.remaining + window.drainedSinceUpdate + charge n ∧
      next.drainedSinceUpdate < updateThreshold ∧
      next.remaining = window.remaining + update.getD 0 := by
  have word : channelWindow ≤ u32Max := by decide
  have first : saturatingAdd window.drainedSinceUpdate (charge n) = window.drainedSinceUpdate + charge n :=
    saturating_add_exact _ _ (by omega)
  by_cases small : window.drainedSinceUpdate + charge n < updateThreshold
  · simp only [RecvWindow.drained, first, if_pos small, Prod.mk.injEq] at called
    obtain ⟨rfl, rfl⟩ := called
    exact ⟨(Nat.add_assoc _ _ _).symm, small, rfl⟩
  · have second : saturatingAdd window.remaining (window.drainedSinceUpdate + charge n) =
        window.remaining + (window.drainedSinceUpdate + charge n) := saturating_add_exact _ _ (by omega)
    simp only [RecvWindow.drained, first, if_neg small, second, Prod.mk.injEq] at called
    obtain ⟨rfl, rfl⟩ := called
    have positive : 0 < updateThreshold := by decide
    exact ⟨by simp only []; omega, positive, rfl⟩

theorem writing_accounted (half : TunnelToSocket) (chunk : Bytes) (done : Nat) (here : half.point = .writing chunk done) :
    half.accounted = half.window.remaining + half.window.drainedSinceUpdate + charge chunk.length +
      chargeSum (half.pending ++ half.inbound.filterMap payload) := by
  simp only [TunnelToSocket.accounted, TunnelToSocket.buffered, TunnelToSocket.undrained, TunnelToSocket.current, here,
    List.cons_append, List.nil_append, charge_sum_cons]
  omega

theorem wrote_accounted (half : TunnelToSocket) (chunk : Bytes) (done : Nat) (bounded : Bounded half)
    (here : half.point = .writing chunk done) :
    (half.wrote chunk).accounted = half.accounted ∧
      (half.wrote chunk).window.drainedSinceUpdate < updateThreshold := by
  have split := writing_accounted half chunk done here
  have bound := bounded.bound
  obtain ⟨total, below, _⟩ := drained_spec half.window _ chunk.length _ half.granted (by omega) bounded.capped
    (Prod.eta (half.window.drained chunk.length)).symm
  have idle : (half.wrote chunk).current = [] := by
    simp only [TunnelToSocket.current, TunnelToSocket.wrote]
    cases (half.window.drained chunk.length).2 <;> rfl
  refine ⟨?_, below⟩
  rw [split]
  simp only [TunnelToSocket.accounted, TunnelToSocket.buffered, TunnelToSocket.undrained, idle, List.nil_append]
  simp only [TunnelToSocket.wrote]
  omega

theorem to_socket_account (id : ChannelId) (listed cancelled : Bool) (half next : TunnelToSocket) (act : ToSocketAct)
    (frame : Option Frame) (bounded : Bounded half) (step : ToSocketStep id listed cancelled half act next frame) :
    Bounded next ∧ next.granted = half.granted ∧
      (next.hasEnded = false → half.hasEnded = false ∧ next.accounted = half.accounted) := by
  cases step with
  | popPending chunk rest here held =>
      have same : TunnelToSocket.accounted { half with pending := rest, point := .writing chunk 0 } = half.accounted := by
        simp [TunnelToSocket.accounted, TunnelToSocket.buffered, TunnelToSocket.undrained, TunnelToSocket.current, here, held]
      exact ⟨⟨same ▸ bounded.bound, bounded.capped, bounded.below⟩, rfl,
        fun _ => ⟨by simp [TunnelToSocket.hasEnded, here], same⟩⟩
  | receive chunk rest here empty queued =>
      have same : TunnelToSocket.accounted { half with inbound := rest, point := .writing chunk 0 } = half.accounted := by
        simp [TunnelToSocket.accounted, TunnelToSocket.buffered, TunnelToSocket.undrained, TunnelToSocket.current, here,
          empty, queued, payload]
      exact ⟨⟨same ▸ bounded.bound, bounded.capped, bounded.below⟩, rfl,
        fun _ => ⟨by simp [TunnelToSocket.hasEnded, here], same⟩⟩
  | write n chunk done here positive within =>
      have same : TunnelToSocket.accounted
          { half with point := .writing chunk (done + n), written := half.written ++ (chunk.drop done).take n } =
            half.accounted := by
        simp [TunnelToSocket.accounted, TunnelToSocket.buffered, TunnelToSocket.undrained, TunnelToSocket.current, here]
      exact ⟨⟨same ▸ bounded.bound, bounded.capped, bounded.below⟩, rfl,
        fun _ => ⟨by simp [TunnelToSocket.hasEnded, here], same⟩⟩
  | wrote chunk here =>
      obtain ⟨same, below⟩ := wrote_accounted half chunk _ bounded here
      exact ⟨⟨same ▸ bounded.bound, bounded.capped, below⟩, rfl,
        fun _ => ⟨by simp [TunnelToSocket.hasEnded, here], same⟩⟩
  | updated add here =>
      have same : TunnelToSocket.accounted { half with point := .waiting } = half.accounted := by
        simp [TunnelToSocket.accounted, TunnelToSocket.buffered, TunnelToSocket.undrained, TunnelToSocket.current, here]
      exact ⟨⟨same ▸ bounded.bound, bounded.capped, bounded.below⟩, rfl,
        fun _ => ⟨by simp [TunnelToSocket.hasEnded, here], same⟩⟩
  | _ => exact ⟨finish_bounded half _ bounded, rfl, fun alive => by simp [TunnelToSocket.hasEnded, TunnelToSocket.finish] at alive⟩

-- Which phases belong to which end of the tunnel.
def Phase.fits : Side → Phase → Bool
  | _, .unborn | _, .relaying | _, .joining | _, .closing | _, .done => true
  | .controller, .admitted _ _ | .controller, .opening _ _ | .controller, .removing => true
  | .controlled, .connecting _ _ _ | .controlled, .connected | .controlled, .leaving => true
  | _, _ => false

-- The window a channel has been granted: the controlled side's is the initial
-- one until its connect succeeds. A finished controlled task may be either.
def Phase.grant : Side → Phase → Option Nat
  | .controller, _ => some channelWindow
  | .controlled, .unborn | .controlled, .connecting _ _ _ | .controlled, .leaving => some initialWindow
  | .controlled, .done => none
  | .controlled, _ => some channelWindow

example (side : Side) : Phase.fits side .done = true ∧ Phase.grant .controlled .done = none := by simp [Phase.fits, Phase.grant]

structure Account (c : Channel) : Prop where
  bounded : Bounded c.toSocket
  exact : c.receiving = true → c.toSocket.accounted = c.toSocket.granted
  sided : c.phase.fits c.side = true
  granted : ∀ total, c.phase.grant c.side = some total → c.toSocket.granted = total
  charged : ∀ addr isRdp polled, c.phase = .connecting addr isRdp polled →
    c.pendingLen = chargeSum c.toSocket.pending

theorem receiving_iff (c : Channel) :
    c.receiving = true ↔ c.phase ≠ .done ∧ c.toSocket.hasEnded = false := by
  simp [Channel.receiving]

theorem account_of_phase (c next : Channel) (account : Account c) (alive : next.receiving = true → c.receiving = true)
    (same : next.toSocket = c.toSocket) (length : next.pendingLen = c.pendingLen) (side : next.side = c.side)
    (sided : next.phase.fits c.side = true)
    (granted : ∀ total, next.phase.grant c.side = some total → c.phase.grant c.side = some total)
    (charged : ∀ addr isRdp polled, next.phase = .connecting addr isRdp polled →
      ∃ before, c.phase = .connecting addr isRdp before) : Account next := by
  refine ⟨same ▸ account.bounded, fun receiving => same ▸ account.exact (alive receiving), side ▸ sided, ?_, ?_⟩
  · intro total grant
    rw [same]
    exact account.granted total (granted total (side ▸ grant))
  · intro addr isRdp polled here
    obtain ⟨before, earlier⟩ := charged addr isRdp polled here
    rw [same, length]
    exact account.charged addr isRdp before earlier

theorem new_accounted (granted : Nat) : (TunnelToSocket.new granted).accounted = (TunnelToSocket.new granted).granted := rfl

theorem new_bounded (granted : Nat) (fits : granted ≤ channelWindow) : Bounded (TunnelToSocket.new granted) := by
  have initial : initialWindow ≤ channelWindow := by decide
  have positive : 0 < updateThreshold := by decide
  exact ⟨Nat.le_of_eq (new_accounted granted), Nat.max_le.mpr ⟨fits, initial⟩, positive⟩

theorem account_controller (id : ChannelId) (host : String) (port : Int) (prebuf : Bytes) :
    Account (Channel.controller id host port prebuf) := by
  refine ⟨new_bounded channelWindow (Nat.le_refl _), fun _ => rfl, rfl, ?_, ?_⟩
  · intro total grant
    exact Option.some.inj grant
  · intro addr isRdp polled here
    cases here

theorem account_controlled (id : ChannelId) (addr : String) (isRdp : Bool) (window : Nat) :
    Account (Channel.controlled id addr isRdp window) := by
  refine ⟨new_bounded initialWindow (by decide), fun _ => rfl, rfl, ?_, fun _ _ _ _ => rfl⟩
  intro total grant
  exact Option.some.inj grant

section
variable (c : Channel)

theorem relays_phase (relays : c.relays = true) : c.phase = .relaying ∨ c.phase = .joining := by
  simpa [Channel.relays] using relays

theorem after_relay_fits : c.afterRelay.fits c.side = true := by
  cases side : c.side <;> simp [Channel.afterRelay, side, Phase.fits]

theorem after_relay_grant (total : Nat) (grant : c.afterRelay.grant c.side = some total) : c.side = .controller ∧ total = channelWindow := by
  cases side : c.side with
  | controller =>
      simp only [Channel.afterRelay, side, Phase.grant, Option.some.injEq] at grant
      exact ⟨rfl, grant.symm⟩
  | controlled => simp [Channel.afterRelay, side, Phase.grant] at grant

theorem connecting_granted (account : Account c) (addr : String) (isRdp polled : Bool)
    (here : c.phase = .connecting addr isRdp polled) : c.side = .controlled ∧ c.toSocket.granted = initialWindow := by
  have side : c.side = .controlled := by
    have sided := account.sided
    cases side : c.side with
    | controlled => rfl
    | controller => simp [here, side, Phase.fits] at sided
  exact ⟨side, account.granted initialWindow (by simp [here, side, Phase.grant])⟩

-- The pending list never overflows: what the demultiplexer accepted is bounded by
-- the initial window, and everything accepted is still buffered.
theorem connecting_fits (account : Account c) (addr : String) (isRdp polled : Bool) (bytes : Bytes)
    (rest : List Inbound) (here : c.phase = .connecting addr isRdp polled)
    (queued : c.toSocket.inbound = .data bytes :: rest) : pendingFits c.pendingLen bytes.length = true := by
  obtain ⟨_, granted⟩ := connecting_granted c account addr isRdp polled here
  have bound := account.bounded.bound
  have length := account.charged addr isRdp polled here
  simp only [TunnelToSocket.accounted, TunnelToSocket.buffered, TunnelToSocket.undrained, queued, charge_sum_append,
    List.filterMap_cons, payload, charge_sum_cons] at bound
  have fits : c.pendingLen + charge bytes.length ≤ initialWindow := by omega
  exact decide_eq_true (Nat.le_trans (Nat.min_le_left _ _) fits)

theorem account_to_socket (account : Account c) (act : ToSocketAct) (half : TunnelToSocket) (frame : Option Frame) (relays : c.relays = true)
    (step : ToSocketStep c.id c.listed c.cancel c.toSocket act half frame) :
    Account ({ c with toSocket := half }.append frame) := by
  obtain ⟨bounded, granted, alive⟩ := to_socket_account _ _ _ _ _ _ _ account.bounded step
  refine ⟨bounded, ?_, account.sided, fun total grant => granted.trans (account.granted total grant), ?_⟩
  · intro receiving
    obtain ⟨notDone, running⟩ := (receiving_iff _).mp receiving
    obtain ⟨before, same⟩ := alive running
    exact (same.trans (account.exact ((receiving_iff c).mpr ⟨notDone, before⟩))).trans granted.symm
  · intro addr isRdp polled here
    rcases relays_phase c relays with phase | phase <;>
      (change c.phase = _ at here; rw [phase] at here; cases here)

theorem account_command_data (account : Account c) (addr : String) (isRdp : Bool) (bytes : Bytes)
    (rest : List Inbound) (here : c.phase = .connecting addr isRdp false)
    (queued : c.toSocket.inbound = .data bytes :: rest) :
    Account { c with pendingLen := c.pendingLen + charge bytes.length,
                     toSocket := { c.toSocket with inbound := rest, pending := c.toSocket.pending ++ [bytes] } } := by
  have same : TunnelToSocket.accounted
      { c.toSocket with inbound := rest, pending := c.toSocket.pending ++ [bytes] } = c.toSocket.accounted := by
    simp [TunnelToSocket.accounted, TunnelToSocket.buffered, TunnelToSocket.undrained, TunnelToSocket.current, queued,
      payload]
  refine ⟨⟨same ▸ account.bounded.bound, account.bounded.capped, account.bounded.below⟩,
    fun receiving => same.trans (account.exact receiving), account.sided, account.granted, ?_⟩
  intro _ _ _ _
  have length := account.charged addr isRdp false here
  simp only [length, charge_sum_append, charge_sum_cons, charge_sum_nil, Nat.add_zero]

end

theorem grant_accounted (half : TunnelToSocket) (extra : Nat) (fits : half.window.remaining + extra ≤ u32Max) :
    (half.grant extra).accounted = half.accounted + extra := by
  have sum : (half.window.grant extra).remaining = half.window.remaining + extra := saturating_add_exact _ _ fits
  simp only [TunnelToSocket.accounted, TunnelToSocket.grant, sum, grant_drained, TunnelToSocket.buffered,
    TunnelToSocket.undrained, TunnelToSocket.current]
  omega

-- `extra` is CHANNEL_WINDOW - INITIAL_WINDOW, kept abstract: only the sum matters.
theorem account_connect_ok (c : Channel) (account : Account c) (addr : String) (isRdp : Bool) (extra : Nat)
    (wider : initialWindow + extra = channelWindow) (here : c.phase = .connecting addr isRdp true) :
    Account { c with phase := .connected, toSocket := c.toSocket.grant extra } := by
  obtain ⟨side, granted⟩ := connecting_granted c account addr isRdp true here
  have bound := account.bounded.bound
  have word : channelWindow ≤ u32Max := by decide
  have whole : (c.toSocket.grant extra).granted = channelWindow := by
    rw [← wider, ← granted]
    rfl
  have total := grant_accounted c.toSocket extra (by simp only [TunnelToSocket.accounted] at bound; omega)
  refine ⟨⟨?_, ?_, ?_⟩, ?_, by simp [side, Phase.fits], ?_, ?_⟩
  · rw [total]
    exact Nat.add_le_add_right bound _
  · exact Nat.le_of_eq whole
  · exact account.bounded.below
  · intro receiving
    have before : c.receiving = true :=
      (receiving_iff c).mpr ⟨by simp [here], ((receiving_iff _).mp receiving).2⟩
    exact total.trans (congrArg (· + extra) (account.exact before))
  · intro grant known
    have same : grant = channelWindow := by simpa [side, Phase.grant] using known.symm
    exact whole.trans same.symm
  · intro _ _ _ impossible
    cases impossible

theorem account_polled (c : Channel) (account : Account c) (addr : String) (isRdp before after : Bool)
    (here : c.phase = .connecting addr isRdp before) : Account { c with phase := .connecting addr isRdp after } := by
  have sided := account.sided
  refine account_of_phase c _ account ?_ rfl rfl rfl ?_ ?_ ?_
  · simp [receiving_iff, here, TunnelToSocket.hasEnded]
  · cases side : c.side <;> simp_all [Phase.fits]
  · intro total grant
    cases side : c.side <;> simp_all [Phase.grant]
  · intro _ _ _ same
    cases same
    exact ⟨before, here⟩

theorem account_leaving (c : Channel) (account : Account c) (addr : String) (isRdp polled : Bool) (frame : Option Frame)
    (here : c.phase = .connecting addr isRdp polled) : Account ({ c with phase := .leaving }.append frame) := by
  have sided := account.sided
  refine account_of_phase c _ account ?_ rfl rfl rfl ?_ ?_ (fun _ _ _ impossible => nomatch impossible)
  · simp [receiving_iff, here, TunnelToSocket.hasEnded, Channel.append]
  · cases side : c.side <;> simp_all [Phase.fits, Channel.append]
  · intro total grant
    cases side : c.side <;> simp_all [Phase.grant, Channel.append]

theorem account_done (c next : Channel) (account : Account c) (same : next.toSocket = c.toSocket)
    (length : next.pendingLen = c.pendingLen) (side : next.side = c.side) (here : next.phase = .done) : Account next := by
  refine account_of_phase c next account ?_ same length side ?_ ?_ ?_
  · simp [receiving_iff, here]
  · rw [here]
    cases c.side <;> rfl
  · intro total grant
    rw [here] at grant
    cases kind : c.side <;> simp_all [Phase.grant]
  · intro _ _ _ impossible
    rw [here] at impossible
    cases impossible

theorem account_step (c next : Channel) (act : Act) (frame : Option Frame) (account : Account c)
    (step : ChannelStep c act next frame) : Account next := by
  have sided := account.sided
  cases step with
  | toTunnel act half frame relays _ =>
      exact account_of_phase c _ account (fun alive => alive) rfl rfl rfl sided (fun _ grant => grant)
        (fun _ _ polled here => ⟨polled, here⟩)
  | toSocket act half frame relays step => exact account_to_socket c account act half frame relays step
  | cancelHalves teardown here cause =>
      refine account_of_phase c _ account ?_ rfl rfl rfl ?_ ?_ (fun _ _ _ impossible => nomatch impossible)
      · simp [receiving_iff, here, TunnelToSocket.hasEnded]
      · cases c.side <;> rfl
      · intro total grant
        cases side : c.side <;> simp_all [Phase.grant]
  | join first second here tunnelEnd socketEnd =>
      by_cases closes : sendsClose first second = true
      · refine account_of_phase c _ account ?_ rfl rfl rfl ?_ ?_ ?_ <;> simp only [closes, if_true]
        · simp [receiving_iff, here, TunnelToSocket.hasEnded]
        · cases c.side <;> rfl
        · intro total grant
          cases side : c.side <;> simp_all [Phase.grant]
        · exact fun _ _ _ impossible => nomatch impossible
      · refine account_of_phase c _ account ?_ rfl rfl rfl ?_ ?_ ?_ <;> simp only [closes, if_false, Bool.false_eq_true]
        · simp [receiving_iff, here, TunnelToSocket.hasEnded, socketEnd]
        · exact after_relay_fits c
        · intro total grant
          obtain ⟨side, rfl⟩ := after_relay_grant c total grant
          simp [side, Phase.grant]
        · intro addr isRdp polled impossible
          cases side : c.side <;> simp [Channel.afterRelay, side] at impossible
  | sendClose sent here =>
      refine account_of_phase c _ account ?_ rfl rfl rfl (after_relay_fits c) ?_ ?_
      · intro receiving
        exact (receiving_iff c).mpr ⟨by simp [here], ((receiving_iff _).mp receiving).2⟩
      · intro total grant
        obtain ⟨side, rfl⟩ := after_relay_grant c total grant
        simp [side, Phase.grant]
      · intro addr isRdp polled impossible
        cases side : c.side <;> simp [Channel.append, Channel.afterRelay, side] at impossible
  | spawn host port here =>
      refine account_of_phase c _ account ?_ rfl rfl rfl ?_ ?_ (fun _ _ _ impossible => nomatch impossible)
      · simp [receiving_iff, here, TunnelToSocket.hasEnded]
      · cases side : c.side <;> simp_all [Phase.fits]
      · intro total grant
        cases side : c.side <;> simp_all [Phase.grant]
  | sendOpen sent host port here =>
      have side : c.side = .controller := by
        cases side : c.side <;> simp_all [Phase.fits]
      refine account_of_phase c _ account ?_ rfl rfl rfl ?_ ?_ ?_
      · intro receiving
        exact (receiving_iff c).mpr ⟨by simp [here], ((receiving_iff _).mp receiving).2⟩
      · cases sent <;> simp [Channel.append, side, Phase.fits]
      · cases sent <;> simp [Channel.append, side, Phase.grant]
      · cases sent <;> exact fun _ _ _ impossible => nomatch impossible
  | remove here => exact account_done c _ account rfl rfl rfl rfl
  | commandData sent addr isRdp bytes rest here queued fits =>
      exact account_command_data c account addr isRdp bytes rest here queued
  | commandOver sent addr isRdp bytes rest here queued beyond => exact account_leaving c account addr isRdp false _ here
  | commandViolation sent addr isRdp rest here queued => exact account_leaving c account addr isRdp false _ here
  | commandEnd sent addr isRdp here ending => exact account_done c _ account rfl rfl rfl rfl
  | commandNone sent addr isRdp here queued still => exact account_polled c account addr isRdp false true here
  | connectPending addr isRdp here => exact account_polled c account addr isRdp true false here
  | connectFail sent addr isRdp here => exact account_leaving c account addr isRdp true _ here
  | connectOk addr isRdp here => exact account_connect_ok c account addr isRdp _ (by decide) here
  | sendOpened sent here =>
      refine account_of_phase c _ account ?_ rfl rfl rfl ?_ ?_ ?_
      · intro receiving
        exact (receiving_iff c).mpr ⟨by simp [here], ((receiving_iff _).mp receiving).2⟩
      · cases sent <;> cases side : c.side <;> simp_all [Phase.fits, Channel.append]
      · intro total grant
        cases sent <;> cases side : c.side <;> simp_all [Phase.grant, Channel.append]
      · cases sent <;> exact fun _ _ _ impossible => nomatch impossible
  | leave here => exact account_done c _ account rfl rfl rfl rfl

theorem account_unlist (c : Channel) (account : Account c) : Account c.unlist :=
  account_of_phase c _ account (fun alive => alive) rfl rfl rfl account.sided (fun _ grant => grant)
    (fun _ _ polled here => ⟨polled, here⟩)

theorem push_accounted (half : TunnelToSocket) (window : RecvWindow) (command : Inbound)
    (paid : window.remaining + chargeSum (payload command).toList = half.window.remaining)
    (drained : window.drainedSinceUpdate = half.window.drainedSinceUpdate) :
    TunnelToSocket.accounted { half with window, inbound := half.inbound ++ [command],
                                         got := half.got ++ inboundBytes command } = half.accounted := by
  have listed : List.filterMap payload (half.inbound ++ [command]) =
      half.inbound.filterMap payload ++ (payload command).toList := by
    cases command <;> simp [payload]
  simp only [TunnelToSocket.accounted, TunnelToSocket.buffered, TunnelToSocket.undrained, TunnelToSocket.current, listed,
    ← List.append_assoc, charge_sum_append _ (payload command).toList, drained]
  omega

theorem account_push (c : Channel) (account : Account c) (window : RecvWindow) (command : Inbound)
    (paid : window.remaining + chargeSum (payload command).toList = c.toSocket.window.remaining)
    (drained : window.drainedSinceUpdate = c.toSocket.window.drainedSinceUpdate) :
    Account ({ c with toSocket := { c.toSocket with window } }.push command) := by
  by_cases receiving : c.receiving = true
  · have alive : Channel.receiving { c with toSocket := { c.toSocket with window } } = true := receiving
    have same := push_accounted c.toSocket window command paid drained
    rw [Channel.push, if_pos alive]
    exact ⟨⟨same ▸ account.bounded.bound, account.bounded.capped, drained ▸ account.bounded.below⟩,
      fun _ => same.trans (account.exact receiving), account.sided, account.granted, account.charged⟩
  · have dead : ¬ Channel.receiving { c with toSocket := { c.toSocket with window } } = true := receiving
    have less : TunnelToSocket.accounted { c.toSocket with window } ≤ c.toSocket.accounted := by
      simp only [TunnelToSocket.accounted, TunnelToSocket.buffered, TunnelToSocket.undrained, TunnelToSocket.current, drained]
      omega
    rw [Channel.push, if_neg dead]
    exact ⟨⟨Nat.le_trans less account.bounded.bound, account.bounded.capped, drained ▸ account.bounded.below⟩,
      fun alive => absurd alive receiving, account.sided, account.granted, account.charged⟩

theorem account_on_close (c : Channel) (account : Account c) : Account c.onClose :=
  account_unlist _ (account_push c account c.toSocket.window .close rfl rfl)

theorem account_on_data (c : Channel) (account : Account c) (data : Bytes) : Account (c.onData data) := by
  by_cases fits : charge data.length ≤ c.toSocket.window.remaining
  · have paid : (c.toSocket.window.remaining - charge data.length) + chargeSum (payload (.data data)).toList =
        c.toSocket.window.remaining := by
      simp only [payload, Option.toList_some, charge_sum_cons, charge_sum_nil]
      omega
    have charged := account_push c account
      { c.toSocket.window with remaining := c.toSocket.window.remaining - charge data.length } (.data data) paid rfl
    simp only [Channel.onData, accept_spec _ _ fits, if_true]
    by_cases receiving : c.receiving = true
    · simpa only [receiving, if_true] using charged
    · have dead : ¬ Channel.receiving
          { c with toSocket := { c.toSocket with window := { c.toSocket.window with
              remaining := c.toSocket.window.remaining - charge data.length } } } = true := receiving
      rw [Channel.push, if_neg dead] at charged
      simpa only [receiving, Bool.false_eq_true, if_false] using account_unlist _ charged
  · have refused : c.toSocket.window.accept data.length = (c.toSocket.window, false) := if_neg fits
    simp only [Channel.onData, refused, Bool.false_eq_true, if_false]
    exact account_unlist _ (account_push c account c.toSocket.window .violation rfl rfl)

theorem account_on_frame (c : Channel) (account : Account c) (frame : Frame) : Account (c.onFrame frame) := by
  by_cases holds : c.holds frame.channelId = true
  · simp only [Channel.onFrame, holds, if_true]
    have kept : ∀ next : Channel, next.toSocket = c.toSocket → next.phase = c.phase → next.side = c.side →
        next.pendingLen = c.pendingLen → Account next := by
      intro next same phase side length
      refine account_of_phase c next account ?_ same length side (phase ▸ account.sided) (phase ▸ fun _ grant => grant)
        (fun _ _ polled here => ⟨polled, phase ▸ here⟩)
      simp only [receiving_iff, same, phase]
      exact fun alive => alive
    cases frame with
    | openMsg => exact account
    | openedMsg id success message window =>
        by_cases side : c.side = .controller
        · simp only [if_pos side, Channel.onOpened]
          cases success with
          | true =>
              by_cases opened : c.opened = true
              · simpa only [opened, if_true] using account
              · simp only [opened, if_true, Bool.false_eq_true, if_false]
                exact kept _ rfl rfl rfl rfl
          | false => exact account_on_close c account
        · simpa only [if_neg side] using account
    | dataMsg id data => exact account_on_data c account data
    | closeMsg id => exact account_on_close c account
    | windowUpdateMsg id add => exact kept _ rfl rfl rfl rfl
  · simpa only [Channel.onFrame, holds, if_false, Bool.false_eq_true] using account

end GotechDesk.PortForward
