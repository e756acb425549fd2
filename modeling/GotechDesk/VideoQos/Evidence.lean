import GotechDesk.VideoQos.Isolation

set_option autoImplicit false

namespace GotechDesk.VideoQos

section
variable (value low high : Nat)

theorem clamp_le (fits : low ≤ high) : clamp value low high ≤ high := by
  simp only [clamp]
  split
  · exact fits
  · split <;> omega

theorem le_clamp (fits : low ≤ high) : low ≤ clamp value low high := by
  simp only [clamp]
  split
  · exact Nat.le_refl low
  · split <;> omega

-- Below the upper end the clamp only lifts.
theorem min_le_clamp : min value high ≤ clamp value low high := by
  simp only [clamp]
  split
  · omega
  · split <;> omega

theorem clamp_le_max : clamp value low high ≤ max value low := by
  simp only [clamp]
  split
  · omega
  · split <;> omega

end

theorem fps_cap_pos (user : UserData) : 1 ≤ user.fpsCap := le_clamp _ minFps maxFps (by decide)

theorem recover_rises (d : UserDelay) (current fps : Nat) : current + 1 ≤ (d.recover current fps).2 := by
  rw [UserDelay.recover]
  split
  · rename_i level _ held
    have above := (Option.filter_eq_some_iff.mp held).2
    simp only [decide_eq_true_eq] at above
    omega
  · rename_i level _ held
    have above := (Option.filter_eq_some_iff.mp held).2
    simp only [decide_eq_true_eq] at above
    omega
  · omega
  · omega

-- What the limiter does with a bad reply: nothing, or one step down.
structure StepDown (current fps excess : Nat) (braked : Bool) (result : Nat) : Prop where
  unbraked : braked = false
  lower : fps < current
  half : result = max fps (current - max (current / 2) 1) ∨ result = max fps (current - max (current / 5) 1)
  gentle : excess < 600 → result = max fps (current - max (current / 5) 1)

section
variable (d : UserDelay)

theorem step_down_spec (current fps excess : Nat) (failedRestore bitrateFirst braked : Bool) (severe : failedRestore = true → 600 ≤ excess) :
    (d.stepDown current fps excess failedRestore bitrateFirst braked).2 = current ∨
      StepDown current fps excess braked (d.stepDown current fps excess failedRestore bitrateFirst braked).2 := by
  rw [UserDelay.stepDown]
  by_cases stays : (decide (current ≤ fps) || braked) = true
  · rw [if_pos stays]
    exact .inl rfl
  · rw [if_neg stays]
    simp only [Bool.or_eq_true, decide_eq_true_eq, not_or, Bool.not_eq_true] at stays
    split
    · exact .inl rfl
    · apply Or.inr
      by_cases hard : (decide (1000 ≤ excess) || failedRestore) = true
      · rw [if_pos hard]
        refine ⟨stays.2, by omega, .inl rfl, ?_⟩
        intro mild
        simp only [Bool.or_eq_true, decide_eq_true_eq] at hard
        rcases hard with long | failed
        · omega
        · exact absurd (severe failed) (by omega)
      · rw [if_neg hard]
        exact ⟨stays.2, by omega, .inr rfl, fun _ => rfl⟩

theorem limit_bad_spec (current fps excess : Nat) (bitrateFirst braked : Bool) : (d.limitBad current fps excess bitrateFirst braked).2 = current ∨
      StepDown current fps excess braked (d.limitBad current fps excess bitrateFirst braked).2 := by
  apply step_down_spec
  intro failed
  simp only [Bool.and_eq_true, decide_eq_true_eq] at failed
  exact failed.1

theorem limit_spec (current fps delay : Nat) (bitrateFirst braked : Bool) :
    (d.excess delay < 150 → current + 1 ≤ (d.limitFpsChange current fps delay bitrateFirst braked).2) ∧
      (150 ≤ d.excess delay → (d.limitFpsChange current fps delay bitrateFirst braked).2 = current ∨
        StepDown current fps (d.excess delay) braked (d.limitFpsChange current fps delay bitrateFirst braked).2) := by
  by_cases good : d.excess delay < delayThreshold150ms
  · rw [UserDelay.limitFpsChange, if_pos good]
    exact ⟨fun _ => recover_rises _ current fps, fun bad => absurd good (Nat.not_lt.mpr bad)⟩
  · rw [UserDelay.limitFpsChange, if_neg good]
    exact ⟨fun better => absurd better good, fun _ => limit_bad_spec _ current fps (d.excess delay) bitrateFirst braked⟩

theorem accelerate_spec (current fps cap delay : Nat) (braked : Bool) :
    (50 ≤ d.excess delay → (d.accelerateStartup current fps cap delay braked).2 = fps) ∧
      min fps cap ≤ (d.accelerateStartup current fps cap delay braked).2 := by
  rw [UserDelay.accelerateStartup]
  by_cases beyond : d.startupGoodSamples = u8Max
  · rw [if_pos beyond]
    exact ⟨fun _ => rfl, Nat.min_le_left fps cap⟩
  · rw [if_neg beyond]
    by_cases ends : (braked || decide (50 ≤ d.excess delay) || decide (cap ≤ current)) = true
    · rw [if_pos ends]
      exact ⟨fun _ => rfl, Nat.min_le_left fps cap⟩
    · rw [if_neg ends]
      simp only [Bool.or_eq_true, decide_eq_true_eq, not_or, Bool.not_eq_true] at ends
      refine ⟨fun queue => absurd queue ends.1.2, ?_⟩
      split
      · exact Nat.min_le_left fps cap
      · simp only
        omega

-- The baseline a reply leaves is the one it is judged by.
theorem recover_rtt (current fps : Nat) : (d.recover current fps).1.rttCalculator = d.rttCalculator := by
  rw [UserDelay.recover]
  split <;> rfl

theorem limit_rtt (current fps delay : Nat) (bitrateFirst braked : Bool) :
    (d.limitFpsChange current fps delay bitrateFirst braked).1.rttCalculator = d.rttCalculator := by
  rw [UserDelay.limitFpsChange]
  split
  · rw [recover_rtt]
  · have guarded : ∀ (e : UserDelay) (failed : Bool), (e.guardRestore current failed).rttCalculator = e.rttCalculator := by
      intro e failed
      rw [UserDelay.guardRestore]
      split <;> rfl
    have stepped : ∀ (e : UserDelay) (excess : Nat) (failed : Bool),
        (e.stepDown current fps excess failed bitrateFirst braked).1.rttCalculator = e.rttCalculator := by
      intro e excess failed
      rw [UserDelay.stepDown]
      split
      · rfl
      · split <;> rfl
    rw [UserDelay.limitBad, stepped, guarded]
    rfl

theorem accelerate_rtt (current fps cap delay : Nat) (braked : Bool) :
    (d.accelerateStartup current fps cap delay braked).1.rttCalculator = d.rttCalculator := by
  rw [UserDelay.accelerateStartup]
  split
  · rfl
  · split
    · rfl
    · split <;> rfl

end

section
variable (quotient : Nat → Nat → Nat)

theorem wanted_floor (d : UserDelay) (band : Band) (bitrateFirst : Bool) (oldAvg cap current : Nat) :
    min minAutoFps cap ≤ (d.wanted quotient band bitrateFirst oldAvg cap current).2 := Nat.le_max_right _ _

-- How a reply moves the target from `before` to `after`, the queue delay it showed being
-- `excess`. A limit the viewer has lowered in the meantime applies at once.
structure Moved (before after cap excess : Nat) (braked : Bool) : Prop where
  badNeverRaises : 150 ≤ excess → after ≤ before
  goodNeverLowers : excess < 150 → min before cap ≤ after
  goodRaises : excess < 150 → before < cap → before + 1 ≤ after
  badHalves : 150 ≤ excess → min cap (before - max 1 (before / 2)) ≤ after
  badGentle : 150 ≤ excess → excess < 600 → min cap (before - max 1 (before / 5)) ≤ after
  lateNeverLowers : braked = true → min before cap ≤ after
  floor : min minAutoFps cap ≤ before → min minAutoFps cap ≤ after

theorem moved_up (before limited accelerated after cap excess : Nat) (braked : Bool) (good : excess < 150)
    (up : before + 1 ≤ limited) (reaches : min limited cap ≤ accelerated) (above : min accelerated cap ≤ after) :
    Moved before after cap excess braked := by
  have risen : min (before + 1) cap ≤ after := by omega
  have never : ¬ 150 ≤ excess := by omega
  refine ⟨fun bad => absurd bad never, fun _ => ?_, fun _ room => ?_, fun bad => absurd bad never, fun bad => absurd bad never,
    fun _ => ?_, fun floor => ?_⟩
  · omega
  · omega
  · omega
  · omega

theorem moved_still (before after cap excess : Nat) (braked : Bool) (bad : 150 ≤ excess) (positive : 1 ≤ before)
    (above : min before cap ≤ after) (below : after ≤ max before 1) : Moved before after cap excess braked := by
  have never : ¬ excess < 150 := by omega
  refine ⟨fun _ => ?_, fun good => absurd good never, fun good => absurd good never, fun _ => ?_, fun _ _ => ?_, fun _ => above,
    fun floor => ?_⟩
  · omega
  · omega
  · omega
  · omega

theorem moved_down (before fps result after cap excess : Nat) (braked : Bool) (bad : 150 ≤ excess) (positive : 1 ≤ before)
    (down : StepDown before fps excess braked result) (floored : min minAutoFps cap ≤ fps) (above : min result cap ≤ after)
    (below : after ≤ max result 1) : Moved before after cap excess braked := by
  have never : ¬ excess < 150 := by omega
  have lower := down.lower
  have atLeast : before - max (before / 2) 1 ≤ result := by
    rcases down.half with half | fifth
    · omega
    · omega
  have under : result ≤ before := by
    rcases down.half with half | fifth
    · omega
    · omega
  have kept : fps ≤ result := by
    rcases down.half with half | fifth
    · omega
    · omega
  refine ⟨fun _ => ?_, fun good => absurd good never, fun good => absurd good never, fun _ => ?_, fun _ mild => ?_, fun late => ?_,
    fun floor => ?_⟩
  · omega
  · omega
  · have fifth := down.gentle mild
    omega
  · rw [down.unbraked] at late
    cases late
  · omega

section
variable (d : UserDelay) (current fps cap delay : Nat) (bitrateFirst braked : Bool)

theorem settle_rtt : (d.settle current fps cap delay bitrateFirst braked).rttCalculator = d.rttCalculator := by
  simp only [UserDelay.settle]
  rw [accelerate_rtt, limit_rtt]

-- The last three steps, from what the limiter is handed to the stored target.
theorem settle_moved (positive : 1 ≤ current) (floored : min minAutoFps cap ≤ fps) :
    Moved current ((d.settle current fps cap delay bitrateFirst braked).currentFps cap) cap (d.excess delay) braked := by
  let limited := d.limitFpsChange current fps delay bitrateFirst braked
  have stored : (d.settle current fps cap delay bitrateFirst braked).currentFps cap =
      clamp (limited.1.accelerateStartup current limited.2 cap delay braked).2 minFps cap := rfl
  rw [stored]
  obtain ⟨good, bad⟩ := limit_spec d current fps delay bitrateFirst braked
  obtain ⟨still, reaches⟩ := accelerate_spec limited.1 current limited.2 cap delay braked
  have same : limited.1.excess delay = d.excess delay := by rw [UserDelay.excess, limit_rtt, UserDelay.excess]
  rw [same] at still
  have above := min_le_clamp (limited.1.accelerateStartup current limited.2 cap delay braked).2 minFps cap
  by_cases queue : d.excess delay < 150
  · exact moved_up current limited.2 _ _ cap _ braked queue (good queue) reaches above
  · have long : 150 ≤ d.excess delay := Nat.not_lt.mp queue
    have below := clamp_le_max limited.2 minFps cap
    rw [still (Nat.le_trans (by decide) long)] at above ⊢
    rcases bad long with unchanged | down
    · have equal : limited.2 = current := unchanged
      rw [equal] at above below ⊢
      exact moved_still current _ cap _ braked long positive above below
    · exact moved_down current fps limited.2 _ cap _ braked long positive down floored above below

end

def UserData.target (user : UserData) : Nat := user.delay.currentFps user.fpsCap

-- A stored target is at least one frame, and a stall that is being braked has one.
structure Sane (d : UserDelay) : Prop where
  positive : ∀ fps, d.fps = some fps → 1 ≤ fps
  stalled : d.stallReferenceFps.isSome = true → d.fps.isSome = true

theorem sane_current (d : UserDelay) (cap : Nat) (sane : Sane d) (some : 1 ≤ cap) : 1 ≤ d.currentFps cap := by
  rw [UserDelay.currentFps]
  cases held : d.fps with
  | none =>
      have init : initFps = 15 := rfl
      simp only [Option.getD_none]
      omega
  | some fps => exact sane.positive fps held

theorem network_delay_moved (d : UserDelay) (band : Band) (bitrateFirst : Bool) (cap delay : Nat) (sane : Sane d) (some : 1 ≤ cap) :
    let next := (d.networkDelay quotient band bitrateFirst cap delay).1
    Moved (d.currentFps cap) (next.currentFps cap) cap (next.excess (max delay 10)) d.stallReferenceFps.isSome := by
  rw [UserDelay.networkDelay]
  dsimp only
  generalize wants : (d.receive (max delay 10)).wanted quotient band bitrateFirst
    (UserDelay.avgDelay { d with stallTicks := 0, stallReferenceFps := none }) cap (d.currentFps cap) = wanted
  have floored : min minAutoFps cap ≤ wanted.2 := by
    rw [← wants]
    exact wanted_floor quotient _ band bitrateFirst _ cap _
  have moved := settle_moved wanted.1 (d.currentFps cap) wanted.2 cap (max delay 10) bitrateFirst d.stallReferenceFps.isSome
    (sane_current d cap sane some) floored
  rw [UserDelay.excess, settle_rtt]
  exact moved

-- The source judges a delay under ten milliseconds as ten, which no band tells apart.
theorem moved_raw (before after cap baseline delay : Nat) (braked : Bool)
    (moved : Moved before after cap (max delay 10 - baseline) braked) : Moved before after cap (delay - baseline) braked := by
  constructor
  · intro bad
    exact moved.badNeverRaises (by omega)
  · intro good
    exact moved.goodNeverLowers (by omega)
  · intro good
    exact moved.goodRaises (by omega)
  · intro bad
    exact moved.badHalves (by omega)
  · intro bad mild
    exact moved.badGentle (by omega) (by omega)
  · exact moved.lateNeverLowers
  · exact moved.floor

theorem network_delay_sane (d : UserDelay) (band : Band) (bitrateFirst : Bool) (cap delay : Nat) (some : 1 ≤ cap) :
    Sane (d.networkDelay quotient band bitrateFirst cap delay).1 := by
  constructor
  · intro fps stored
    rw [← Option.some.inj stored]
    exact le_clamp _ minFps cap some
  · intro _
    rfl

-- A tick past two seconds takes the target down, never below the floor it stood above, and never up.
theorem response_elapsed_spec (d : UserDelay) (cap elapsed : Nat) (sane : Sane d) (some : 1 ≤ cap) :
    Sane (d.responseElapsed cap elapsed) ∧ (d.responseElapsed cap elapsed).currentFps cap ≤ d.currentFps cap ∧
      (min minAutoFps cap ≤ d.currentFps cap → min minAutoFps cap ≤ (d.responseElapsed cap elapsed).currentFps cap) := by
  by_cases early : elapsed ≤ 2000
  · rw [UserDelay.responseElapsed, if_pos early]
    exact ⟨sane, Nat.le_refl _, id⟩
  · have current := sane_current d cap sane some
    -- The target the tick starts from is the stored one, or the one a first reply would start from.
    have start : d.fps.getD (d.stallReferenceFps.getD (d.currentFps cap)) = d.currentFps cap := by
      cases stored : d.fps with
      | some fps => simp [UserDelay.currentFps, stored]
      | none =>
          cases stall : d.stallReferenceFps with
          | none => simp
          | some reference =>
              have has := sane.stalled (by rw [stall]; rfl)
              rw [stored] at has
              cases has
    have stored : (d.responseElapsed cap elapsed).fps = Option.some (min (clamp (d.stallReferenceFps.getD (d.currentFps cap) /
        2 ^ min (elapsed / 1000 % 2 ^ 32 - 1) 5) (min minAutoFps cap) cap) (d.currentFps cap)) := by
      rw [UserDelay.responseElapsed, if_neg early]
      simp only [start]
    have low := le_clamp (d.stallReferenceFps.getD (d.currentFps cap) / 2 ^ min (elapsed / 1000 % 2 ^ 32 - 1) 5)
      (min minAutoFps cap) cap (Nat.min_le_right _ _)
    have after : (d.responseElapsed cap elapsed).currentFps cap = min (clamp (d.stallReferenceFps.getD (d.currentFps cap) /
        2 ^ min (elapsed / 1000 % 2 ^ 32 - 1) 5) (min minAutoFps cap) cap) (d.currentFps cap) := by
      rw [UserDelay.currentFps, stored, Option.getD_some]
    generalize clamp (d.stallReferenceFps.getD (d.currentFps cap) / 2 ^ min (elapsed / 1000 % 2 ^ 32 - 1) 5)
      (min minAutoFps cap) cap = braked at stored low after
    have five : minAutoFps = 5 := rfl
    refine ⟨⟨?_, ?_⟩, ?_, ?_⟩
    · intro fps held
      rw [stored] at held
      have equal := Option.some.inj held
      omega
    · intro _
      rw [stored]
      rfl
    · rw [after]
      exact Nat.min_le_right _ _
    · intro floor
      rw [after]
      omega

def AllSane (s : VideoQoS) : Prop := ∀ id user, Table.get s.users id = some user → Sane user.delay

theorem sane_forget (user other : UserData) (same : other.forget = user.forget) (sane : Sane user.delay) : Sane other.delay := by
  have fps : other.delay.fps = user.delay.fps := congrArg (fun user => user.delay.fps) same
  have stall : other.delay.stallReferenceFps = user.delay.stallReferenceFps := congrArg (fun user => user.delay.stallReferenceFps) same
  constructor
  · rw [fps]
    exact sane.positive
  · rw [fps, stall]
    exact sane.stalled

theorem after_sane (user : UserData) (band : Band) (bitrateFirst : Bool) (event : Event) (sane : Sane user.delay) :
    Sane (user.after quotient band bitrateFirst event).delay := by
  cases event with
  | networkDelay id delay now => exact network_delay_sane quotient user.delay band bitrateFirst user.fpsCap delay (fps_cap_pos user)
  | delayResponseElapsed id elapsed now => exact (response_elapsed_spec user.delay user.fpsCap elapsed sane (fps_cap_pos user)).1
  | customFps id fps =>
      rw [UserData.after]
      split <;> exact sane
  | autoAdjustFps id fps =>
      rw [UserData.after]
      split <;> exact sane
  | _ => exact sane

theorem fresh_sane : Sane {} := ⟨nofun, nofun⟩

theorem step_sane (linux : Bool) (s next : VideoQoS) (event : Event) (sane : AllSane s)
    (taken : s.step quotient linux event = some next) : AllSane next := by
  obtain ⟨change, keeps, _, users⟩ := step_seen quotient linux s next event taken
  intro id user found
  rw [users id] at found
  obtain ⟨before, meant, rfl⟩ := Option.map_eq_some_iff.mp found
  apply sane_forget before _ (keeps before)
  rw [VideoQoS.afterCall] at meant
  split at meant
  · cases event with
    | connectionOpen other enableAbr now =>
        rw [← Option.some.inj meant]
        exact fresh_sane
    | connectionClose => cases meant
    | _ =>
        obtain ⟨held, known, rfl⟩ := Option.map_eq_some_iff.mp meant
        exact after_sane quotient held _ _ _ (sane id held known)
  · exact sane id before meant

theorem reachable_sane (linux : Bool) (start : Nat) (s : VideoQoS)
    (reach : Machine.Reachable (VideoQoS.step quotient linux) (.default linux start) s) : AllSane s := by
  refine Machine.reachable_invariant (VideoQoS.step quotient linux) AllSane _ s ?_ ?_ reach
  · have nobody : (VideoQoS.default linux start).users = [] := rfl
    intro id user found
    rw [nobody] at found
    cases found
  · exact fun state event next sane taken => step_sane quotient linux state next event sane taken

-- What the controller leaves of a viewer has the target and the baseline its own call gave it.
theorem forget_target (user other : UserData) (same : other.forget = user.forget) :
    other.fpsCap = user.fpsCap ∧ other.target = user.target ∧ other.delay.excess = user.delay.excess := by
  have custom : other.customFps = user.customFps := congrArg (fun user => user.customFps) same
  have adjust : other.autoAdjustFps = user.autoAdjustFps := congrArg (fun user => user.autoAdjustFps) same
  have fps : other.delay.fps = user.delay.fps := congrArg (fun user => user.delay.fps) same
  have rtt : other.delay.rttCalculator = user.delay.rttCalculator := congrArg (fun user => user.delay.rttCalculator) same
  have cap : other.fpsCap = user.fpsCap := by rw [UserData.fpsCap, UserData.fpsCap, custom, adjust]
  refine ⟨cap, ?_, ?_⟩
  · rw [UserData.target, UserData.target, cap, UserDelay.currentFps, UserDelay.currentFps, fps]
  · funext delay
    rw [UserDelay.excess, UserDelay.excess, rtt]

section
variable (user : UserData) (band : Band) (bitrateFirst : Bool) (delay : Nat)

theorem reply_cap : (user.reply quotient band bitrateFirst delay).fpsCap = user.fpsCap := by
  rw [UserData.fpsCap, UserData.fpsCap, UserData.reply]

theorem reply_moved (sane : Sane user.delay) : Moved user.target (user.reply quotient band bitrateFirst delay).target user.fpsCap
      ((user.reply quotient band bitrateFirst delay).delay.excess delay) user.delay.stallReferenceFps.isSome := by
  have cap := reply_cap quotient user band bitrateFirst delay
  have moved := network_delay_moved quotient user.delay band bitrateFirst user.fpsCap delay sane (fps_cap_pos user)
  dsimp only at moved
  rw [UserDelay.excess] at moved
  rw [UserData.target, UserData.target, cap, UserData.reply, UserDelay.excess]
  exact moved_raw _ _ _ _ _ _ moved

end

section
variable (linux : Bool) (s next : VideoQoS) (id : Int) (user : UserData)

theorem reply_target (delay now : Nat) (sane : Sane user.delay)
    (found : Table.get s.users id = some user) (taken : s.step quotient linux (.networkDelay id delay now) = some next) :
    ∃ after, Table.get next.users id = some after ∧ after.fpsCap = user.fpsCap ∧
      Moved user.target after.target user.fpsCap (after.delay.excess delay) user.delay.stallReferenceFps.isSome := by
  obtain ⟨change, keeps, _, users⟩ := step_seen quotient linux s next _ taken
  let meant := user.reply quotient (bandOf s.latestQuality.ratio) s.canReduceBitrate delay
  obtain ⟨cap, target, excess⟩ := forget_target meant (change meant) (keeps meant)
  refine ⟨change meant, ?_, cap.trans (reply_cap quotient user _ _ delay), ?_⟩
  · rw [users id, after_call_named quotient s _ id rfl, VideoQoS.named, found]
    · rfl
    · intro other fps time same
      cases same
    · intro other time same
      cases same
  · rw [target, excess]
    exact reply_moved quotient user _ _ delay sane

theorem timeout_target (elapsed now : Nat) (sane : Sane user.delay)
    (found : Table.get s.users id = some user) (taken : s.step quotient linux (.delayResponseElapsed id elapsed now) = some next) :
    ∃ after, Table.get next.users id = some after ∧ after.fpsCap = user.fpsCap ∧ after.target ≤ user.target ∧
      (min minAutoFps user.fpsCap ≤ user.target → min minAutoFps user.fpsCap ≤ after.target) := by
  obtain ⟨change, keeps, _, users⟩ := step_seen quotient linux s next _ taken
  let meant := user.timeout elapsed
  obtain ⟨cap, target, _⟩ := forget_target meant (change meant) (keeps meant)
  refine ⟨change meant, ?_, cap, ?_⟩
  · rw [users id, after_call_named quotient s _ id rfl, VideoQoS.named, found]
    · rfl
    · intro other fps time same
      cases same
    · intro other time same
      cases same
  · rw [target]
    exact (response_elapsed_spec user.delay user.fpsCap elapsed sane (fps_cap_pos user)).2

end

-- Whatever the counters of a viewer are and whatever the quotient gives: how one reply and one
-- timeout tick move its target.
theorem evidence_monotone (linux : Bool) (start : Nat) (s : VideoQoS) (id : Int) (user : UserData)
    (reach : Machine.Reachable (VideoQoS.step quotient linux) (.default linux start) s)
    (found : Table.get s.users id = some user) :
    (∀ delay now next, s.step quotient linux (.networkDelay id delay now) = some next →
      ∃ after, Table.get next.users id = some after ∧ after.fpsCap = user.fpsCap ∧
        Moved user.target after.target user.fpsCap (after.delay.excess delay) user.delay.stallReferenceFps.isSome) ∧
    (∀ elapsed now next, s.step quotient linux (.delayResponseElapsed id elapsed now) = some next →
      ∃ after, Table.get next.users id = some after ∧ after.fpsCap = user.fpsCap ∧ after.target ≤ user.target ∧
        (min minAutoFps user.fpsCap ≤ user.target → min minAutoFps user.fpsCap ≤ after.target)) := by
  have sane := reachable_sane quotient linux start s reach id user found
  constructor
  · intro delay now next taken
    exact reply_target quotient linux s next id user delay now sane found taken
  · intro elapsed now next taken
    exact timeout_target quotient linux s next id user elapsed now sane found taken

end

theorem band_cases (targetRatio : Float32) :
    bandOf targetRatio = ⟨8, 16⟩ ∨ bandOf targetRatio = ⟨10, 20⟩ ∨ bandOf targetRatio = ⟨12, 24⟩ := by
  rw [bandOf]
  split
  · exact .inl rfl
  · split
    · exact .inr (.inl rfl)
    · exact .inr (.inr rfl)

-- A viewer that watches at sixteen frames asks for five, and the next slow reply takes it there at once.
def loweredLimit : List Event := [.connectionOpen 1 "N" 0, .networkDelay 1 10 5, .customFps 1 5]

def slowReply : Event := .networkDelay 1 610 9

theorem lowered_limit_runs : (Machine.run (VideoQoS.step devideFps true) (.default true 0) loweredLimit).isSome = true := by
  simp [Machine.run, loweredLimit, VideoQoS.step]

def loweredState : VideoQoS := (Machine.run (VideoQoS.step devideFps true) (.default true 0) loweredLimit).get lowered_limit_runs

def Viewer.drops (viewer : Viewer) : Bool :=
  let after := viewer.step devideFps (.reply 610)
  decide (viewer.delay.currentFps viewer.cap = 16) && decide (after.delay.currentFps after.cap = 5) &&
    decide (after.delay.excess 610 = 600)

theorem lowered_viewer : (viewerRun devideFps (ownEvents 1 loweredLimit)).any Viewer.drops = true := by
  have own : ownEvents 1 loweredLimit = [.opened, .reply 10, .customFps 5] := by decide
  rw [own]
  rcases band_cases Quality.balanced.ratio with band | band | band
  · simp only [viewerRun, List.foldl, viewerStep, Viewer.step, balancedBand, band]
    decide
  · simp only [viewerRun, List.foldl, viewerStep, Viewer.step, balancedBand, band]
    decide
  · simp only [viewerRun, List.foldl, viewerStep, Viewer.step, balancedBand, band]
    decide

theorem lowered_plain : Plain loweredLimit := by simp [Plain, loweredLimit, Event.plain]

theorem lowered_reachable : Machine.Reachable (VideoQoS.step devideFps true) (.default true 0) loweredState :=
  Machine.reachable_run _ _ _ lowered_limit_runs

theorem lowered_user : Quiet loweredState ∧ ∃ user, Table.get loweredState.users 1 = some user ∧ user.viewer.drops = true := by
  have ran : Machine.run (VideoQoS.step devideFps true) (.default true 0) loweredLimit = some loweredState := by simp [loweredState]
  obtain ⟨quiet, alone⟩ := viewer_run devideFps true 1 loweredLimit _ loweredState (quiet_default true 0) lowered_plain ran
  have drops := lowered_viewer
  have nobody : (Table.get (VideoQoS.default true 0).users (1 : Int)).map UserData.viewer = none := rfl
  rw [nobody] at alone
  rw [viewerRun, ← alone] at drops
  refine ⟨quiet, ?_⟩
  cases found : Table.get loweredState.users (1 : Int) with
  | none =>
      rw [found] at drops
      cases drops
  | some user => exact ⟨user, rfl, by simpa [found] using drops⟩

theorem evidence_monotone_lowered : ∃ user next after, Table.get loweredState.users 1 = some user ∧
    loweredState.step devideFps true slowReply = some next ∧ Table.get next.users 1 = some after ∧
    Moved user.target after.target user.fpsCap (after.delay.excess 610) user.delay.stallReferenceFps.isSome := by
  obtain ⟨_, user, found, _⟩ := lowered_user
  obtain ⟨after, kept, _, moved⟩ := (evidence_monotone devideFps true 0 loweredState 1 user lowered_reachable found).1 610 9 _ rfl
  exact ⟨user, _, after, found, rfl, kept, moved⟩

-- The literal bound on one slow reply: no less than half of the target it found.
theorem lowered_limit_drops : ∃ s user next after, Machine.Reachable (VideoQoS.step devideFps true) (.default true 0) s ∧
    Table.get s.users 1 = some user ∧ s.step devideFps true slowReply = some next ∧ Table.get next.users 1 = some after ∧
    150 ≤ after.delay.excess 610 ∧ after.target < user.target - max 1 (user.target / 2) := by
  obtain ⟨quiet, user, found, drops⟩ := lowered_user
  have stepped := viewer_step devideFps true 1 loweredState _ slowReply quiet rfl rfl
  rw [found] at stepped
  obtain ⟨after, kept, viewer⟩ := Option.map_eq_some_iff.mp (stepped.trans rfl : _ = some (user.viewer.step devideFps (.reply 610)))
  simp only [Viewer.drops, ← viewer, Bool.and_eq_true, decide_eq_true_eq] at drops
  have before : user.target = 16 := drops.1.1
  have lowered : after.target = 5 := drops.1.2
  have excess : after.delay.excess 610 = 600 := drops.2
  refine ⟨loweredState, user, _, after, lowered_reachable, found, rfl, kept, ?_, ?_⟩
  · rw [excess]
    decide
  · rw [before, lowered]
    decide

end GotechDesk.VideoQos
