import GotechDesk.VideoQos.ArithmeticSafety

set_option autoImplicit false

namespace GotechDesk.VideoQos

open GotechDesk.Checked

theorem adjust_fps_checked (s : VideoQoS) (now : Nat) : s.checkedAdjustFps now = some (s.adjustFps now) := by
  have highest : s.checkedHighestFps = some s.highestFps := by
    unfold VideoQoS.checkedHighestFps
    simp only [cap_checked]
    rw [← Option.pure_def, List.mapM_pure]
    exact clamp_checked _ minFps maxFps (by decide)
  have low : minFps ≤ s.highestFps := le_clamp _ minFps maxFps (by decide)
  unfold VideoQoS.checkedAdjustFps
  rw [highest, Option.bind_eq_bind, Option.bind_some]
  dsimp only
  rw [clamp_checked _ _ _ low]
  rfl

theorem adjust_fps_range (s : VideoQoS) (now : Nat) : minFps ≤ (s.adjustFps now).fps ∧ (s.adjustFps now).fps ≤ maxFps := by
  have low : minFps ≤ s.highestFps := le_clamp _ minFps maxFps (by decide)
  exact ⟨le_clamp _ minFps s.highestFps low, Nat.le_trans (clamp_le _ minFps s.highestFps low) (clamp_le _ minFps maxFps (by decide))⟩

-- Every viewer's stored delays fit their type together.
def Summable (users : List (Int × UserData)) : Prop := Table.All (fun user => user.delay.delayHistory.sum < 2 ^ 32) users

theorem adjust_ratio_checked (s : VideoQoS) (dynamicScreen : Bool) (now : Nat) (sums : s.inVbrState = true → Summable s.users) :
    s.checkedAdjustRatio dynamicScreen now = some (s.adjustRatio dynamicScreen now) := by
  unfold VideoQoS.checkedAdjustRatio
  by_cases vbr : s.inVbrState = true
  · have averages : s.users.all (fun entry => entry.2.delay.checkedAvgDelay.isSome) = true := by
      rw [List.all_eq_true]
      intro entry member
      rw [avg_fits _ (sums vbr entry member)]
      rfl
    rw [averages, vbr]
    rfl
  · have off := Bool.eq_false_iff.mpr vbr
    unfold VideoQoS.adjustRatio
    rw [off]
    rfl

theorem answer_history (user : UserData) (lowered : Bool) : (user.answerReduction lowered).delay.delayHistory = user.delay.delayHistory :=
  congrArg (fun user => user.delay.delayHistory) (answer_forget user lowered)

theorem adjust_ratio_summable (s : VideoQoS) (dynamicScreen : Bool) (now : Nat) (sums : Summable s.users) : Summable (s.adjustRatio dynamicScreen now).users := by
  obtain ⟨_, same | ⟨lowered, users⟩⟩ := adjust_ratio_users s dynamicScreen now
  · rw [same]
    exact sums
  · rw [users]
    apply Table.all_map_values _ s.users _ sums
    intro id user fits
    rw [answer_history]
    exact fits

theorem answer_reply_checked (s : VideoQoS) (first reduce : Bool) (now : Nat) (sums : s.inVbrState = true → s.cooled now = true → Summable s.users) :
    s.checkedAnswerReply first reduce now = some (s.answerReply first reduce now) := by
  have sums : (s.adjustFps now).inVbrState = true → (s.adjustFps now).cooled now = true → Summable (s.adjustFps now).users := sums
  unfold VideoQoS.checkedAnswerReply VideoQoS.answerReply
  rw [adjust_fps_checked, Option.bind_eq_bind, Option.bind_some]
  dsimp only
  generalize s.adjustFps now = mid at sums ⊢
  by_cases triggers : (first && mid.firstReplyAdjustsRatio && mid.cooled now) = true
  · have cooled : mid.cooled now = true := (Bool.and_eq_true_iff.mp triggers).2
    rw [if_pos triggers, if_pos triggers, adjust_ratio_checked mid false now (fun vbr => sums vbr cooled), Option.bind_some]
    split
    · apply adjust_ratio_checked
      intro vbr
      by_cases on : mid.inVbrState = true
      · exact adjust_ratio_summable mid false now (sums on cooled)
      · have off := Bool.eq_false_iff.mpr on
        unfold VideoQoS.adjustRatio at vbr
        rw [off] at vbr
        exact absurd vbr on
    · rfl
  · rw [if_neg triggers, if_neg triggers, Option.bind_some]
    by_cases reduces : (reduce && mid.cooled now) = true
    · rw [if_pos reduces, if_pos reduces]
      exact adjust_ratio_checked mid false now (fun vbr => sums vbr (Bool.and_eq_true_iff.mp reduces).2)
    · rw [if_neg reduces, if_neg reduces]

theorem band_small (targetRatio : Float32) : (bandOf targetRatio).minFps ≤ maxFps := by
  obtain eight | ten | twelve := band_cases targetRatio
  · rw [eight]
    decide
  · rw [ten]
    decide
  · rw [twelve]
    decide

section
variable (quotient : Nat → Nat → Nat)

-- A property of a viewer's delay state that its own calls and the stream's answers keep holds of every viewer.
theorem step_delays (holds : UserDelay → Prop) (linux : Bool) (s next : VideoQoS) (event : Event) (fresh : holds {})
    (answered : ∀ d lowered, holds d → holds (d.answerReduction lowered))
    (replied : ∀ id delay now (user : UserData) band bitrateFirst, event = .networkDelay id delay now → Table.get s.users id = some user → band.minFps ≤ maxFps →
      holds user.delay → holds (user.delay.networkDelay quotient band bitrateFirst user.fpsCap delay).1)
    (ticked : ∀ elapsed (user : UserData), holds user.delay → holds (user.delay.responseElapsed user.fpsCap elapsed))
    (all : Table.All (fun user => holds user.delay) s.users) (taken : s.step quotient linux event = some next) :
    Table.All (fun user => holds user.delay) next.users := by
  have kept : ∀ (id : Int) (change : UserData → UserData), (∀ user, holds user.delay → holds (change user).delay) →
      Table.All (fun user => holds user.delay) (Table.modify s.users id change) :=
    fun id change same => Table.all_modify (fun user => holds user.delay) s.users id change all same
  have adjusted : ∀ (mid : VideoQoS) (dynamicScreen : Bool) (now : Nat), Table.All (fun user => holds user.delay) mid.users →
      Table.All (fun user => holds user.delay) (mid.adjustRatio dynamicScreen now).users := by
    intro mid dynamicScreen now before
    obtain ⟨_, same | ⟨lowered, users⟩⟩ := adjust_ratio_users mid dynamicScreen now
    · rw [same]
      exact before
    · rw [users]
      refine Table.all_map_values (fun user => holds user.delay) mid.users _ before ?_
      exact fun _ user held => answered user.delay lowered held
  have replies : ∀ (mid : VideoQoS) (first reduce : Bool) (now : Nat), Table.All (fun user => holds user.delay) mid.users →
      Table.All (fun user => holds user.delay) (mid.answerReply first reduce now).users := by
    intro mid first reduce now before
    have before : Table.All (fun user => holds user.delay) (mid.adjustFps now).users := before
    unfold VideoQoS.answerReply
    dsimp only
    generalize mid.adjustFps now = mid at before ⊢
    have late : Table.All (fun user => holds user.delay)
        (if first && mid.firstReplyAdjustsRatio && mid.cooled now then mid.adjustRatio false now else mid).users := by
      split
      · exact adjusted mid false now before
      · exact before
    generalize (if first && mid.firstReplyAdjustsRatio && mid.cooled now then mid.adjustRatio false now else mid) = mid at late ⊢
    split
    · exact adjusted mid false now late
    · exact late
  cases event with
  | connectionOpen id enableAbr now =>
      cases taken
      exact Table.all_insert _ s.users id _ all fresh
  | connectionClose id now =>
      cases taken
      unfold VideoQoS.onConnectionClose
      dsimp only
      split
      · intro entry member
        cases member
      · exact Table.all_remove _ s.users id all
  | customFps id fps =>
      cases taken
      unfold VideoQoS.userCustomFps
      split
      · exact all
      · dsimp only
        refine kept id _ ?_
        exact fun _ held => held
  | autoAdjustFps id fps =>
      cases taken
      unfold VideoQoS.userAutoAdjustFps
      split
      · exact all
      · dsimp only
        refine kept id _ ?_
        exact fun _ held => held
  | imageQuality id quality time =>
      cases taken
      unfold VideoQoS.userImageQuality
      split
      · exact all
      · dsimp only
        refine kept id _ ?_
        exact fun _ held => held
  | record id v =>
      cases taken
      unfold VideoQoS.userRecord
      dsimp only
      refine kept id _ ?_
      exact fun _ held => held
  | networkDelay id delay now =>
      cases taken
      unfold VideoQoS.userNetworkDelay
      split
      · exact replies s false false now all
      · rename_i user found
        apply replies
        have moved := replied id delay now user (bandOf s.latestQuality.ratio) s.canReduceBitrate rfl found (band_small _) (Table.all_get _ s.users id user all found)
        dsimp only
        refine kept id _ ?_
        exact fun _ _ => moved
  | delayResponseElapsed id elapsed now =>
      cases taken
      unfold VideoQoS.userDelayResponseElapsed
      split
      · exact all
      · split
        · exact all
        · unfold VideoQoS.adjustFps
          dsimp only
          refine kept id _ ?_
          exact fun user held => ticked elapsed user held
  | updateDisplayData name counter now =>
      cases taken
      unfold VideoQoS.updateDisplayData
      dsimp only
      split
      · split
        · exact adjusted _ _ now all
        · exact all
      · exact all
  | newDisplay | removeDisplay | setSupportChangingQuality | storeBitrate =>
      cases taken
      exact all
  | ratio =>
      cases taken
      unfold VideoQoS.takeRatio
      split <;> exact all
  | rehash order =>
      simp only [VideoQoS.step] at taken
      split at taken
      · cases taken
        exact Table.all_reorder _ s.users order all
      · cases taken

theorem answer_bounded (d : UserDelay) (lowered : Bool) (bounded : Bounded d) : Bounded (d.answerReduction lowered) := by
  unfold UserDelay.answerReduction
  split
  · refine { bounded with replies := ?_ }
    intro replies held
    rw [← Option.some.inj held]
    split <;> decide
  · exact bounded

theorem step_bounded (linux : Bool) (s next : VideoQoS) (event : Event) (all : Table.All (fun user => Bounded user.delay) s.users)
    (taken : s.step quotient linux event = some next) : Table.All (fun user => Bounded user.delay) next.users := by
  apply step_delays quotient Bounded linux s next event bounded_fresh answer_bounded _ _ all taken
  · intro id delay now user band bitrateFirst _ _ narrow bounded
    exact network_delay_bounded quotient user.delay band bitrateFirst user.fpsCap delay bounded (cap_range user).1 (cap_range user).2 narrow
  · intro elapsed user bounded
    exact response_elapsed_bounded user.delay user.fpsCap elapsed bounded (cap_range user).1 (cap_range user).2

theorem step_fps (linux : Bool) (s next : VideoQoS) (event : Event) (range : minFps ≤ s.fps ∧ s.fps ≤ maxFps)
    (taken : s.step quotient linux event = some next) : minFps ≤ next.fps ∧ next.fps ≤ maxFps := by
  have adjusted : ∀ (mid : VideoQoS) (dynamicScreen : Bool) (now : Nat), (mid.adjustRatio dynamicScreen now).fps = mid.fps := by
    intro mid dynamicScreen now
    unfold VideoQoS.adjustRatio
    split
    · rfl
    · split
      · rfl
      · dsimp only
        split <;> rfl
  have replies : ∀ (mid : VideoQoS) (first reduce : Bool) (now : Nat), (mid.answerReply first reduce now).fps = (mid.adjustFps now).fps := by
    intro mid first reduce now
    unfold VideoQoS.answerReply
    dsimp only
    generalize mid.adjustFps now = mid
    have late : (if first && mid.firstReplyAdjustsRatio && mid.cooled now then mid.adjustRatio false now else mid).fps = mid.fps := by
      split
      · exact adjusted mid false now
      · rfl
    rw [← late]
    generalize (if first && mid.firstReplyAdjustsRatio && mid.cooled now then mid.adjustRatio false now else mid) = mid
    split
    · exact adjusted mid false now
    · rfl
  cases event with
  | connectionClose id now =>
      cases taken
      unfold VideoQoS.onConnectionClose
      dsimp only
      split
      · show minFps ≤ fpsDefault ∧ fpsDefault ≤ maxFps
        decide
      · exact adjust_fps_range _ now
  | customFps id fps =>
      cases taken
      unfold VideoQoS.userCustomFps
      split <;> exact range
  | autoAdjustFps id fps =>
      cases taken
      unfold VideoQoS.userAutoAdjustFps
      split <;> exact range
  | imageQuality id quality time =>
      cases taken
      unfold VideoQoS.userImageQuality
      split <;> exact range
  | networkDelay id delay now =>
      cases taken
      unfold VideoQoS.userNetworkDelay
      split
      · rw [replies]
        exact adjust_fps_range s now
      · rw [replies]
        exact adjust_fps_range _ now
  | delayResponseElapsed id elapsed now =>
      cases taken
      unfold VideoQoS.userDelayResponseElapsed
      split
      · exact range
      · split
        · exact range
        · exact adjust_fps_range _ now
  | updateDisplayData name counter now =>
      cases taken
      unfold VideoQoS.updateDisplayData
      dsimp only
      split
      · split
        · rw [adjusted]
          exact adjust_fps_range _ now
        · exact adjust_fps_range _ now
      · exact adjust_fps_range _ now
  | connectionOpen | record | newDisplay | removeDisplay | setSupportChangingQuality | storeBitrate =>
      cases taken
      exact range
  | ratio =>
      cases taken
      unfold VideoQoS.takeRatio
      split <;> exact range
  | rehash order =>
      simp only [VideoQoS.step] at taken
      split at taken
      · cases taken
        exact range
      · cases taken

-- The delay a reply brings fits its type together with the one stored before it, and so do the stored two.
def Pairs (user : UserData) (delay : Nat) : Prop :=
  user.delay.delayHistory.sum < 2 ^ 32 ∧ user.delay.delayHistory.getLast?.getD 0 + max delay 10 < 2 ^ 32

-- A call that may average delays finds only delays that fit their type together.
def Fits (s : VideoQoS) : Event → Prop
  | .networkDelay id delay now => (∀ user, Table.get s.users id = some user → Pairs user delay) ∧
      (s.inVbrState = true → s.cooled now = true → ∀ entry ∈ s.users, entry.1 ≠ id → entry.2.delay.delayHistory.sum < 2 ^ 32)
  | .updateDisplayData _ _ now => s.inVbrState = true → s.cooled now = true → Summable s.users
  | _ => True

theorem network_delay_checked (s : VideoQoS) (id : Int) (delay now : Nat) (bounded : Table.All (fun user => Bounded user.delay) s.users)
    (small : Table.All (fun user => SmallSamples user.delay.rttCalculator) s.users) (fits : Fits s (.networkDelay id delay now)) :
    s.checkedUserNetworkDelay quotient id delay now = some (s.userNetworkDelay quotient id delay now) := by
  obtain ⟨own, others⟩ := fits
  unfold VideoQoS.checkedUserNetworkDelay VideoQoS.userNetworkDelay
  cases found : Table.get s.users id with
  | none =>
      apply answer_reply_checked
      intro vbr cooled entry member
      apply others vbr cooled entry member
      intro same
      apply (Table.get_none s.users id).mp found
      rw [← same]
      exact List.mem_map_of_mem member
  | some user =>
      obtain ⟨stored, pair⟩ := own user found
      have userBounded := Table.all_get _ s.users id user bounded found
      obtain ⟨replied, _⟩ := network_delay_safe quotient user.delay (bandOf s.latestQuality.ratio) s.canReduceBitrate user.fpsCap delay userBounded
        (Table.all_get _ s.users id user small found) (cap_range user).1 (cap_range user).2 (band_small _) stored pair
      dsimp only
      rw [cap_checked, Option.bind_eq_bind, Option.bind_some]
      have same : fpsCap user.customFps user.autoAdjustFps = user.fpsCap := rfl
      rw [same, replied, Option.bind_eq_bind, Option.bind_some]
      apply answer_reply_checked
      intro vbr cooled entry member
      obtain ⟨before, listed, rfl⟩ := List.mem_map.mp member
      dsimp only
      split
      · dsimp only
        rw [network_delay_history, (add_delay_spec user.delay (max delay 10) userBounded.history).2]
        exact pair
      · exact others vbr cooled before listed ‹_›

theorem counted_support (displays : List (String × DisplayData)) (name : String) (counter : Nat) :
    (Table.modify displays name (fun display => { display with sendCounter := display.sendCounter + counter })).all
      (fun entry => entry.2.supportChangingQuality) = displays.all (fun entry => entry.2.supportChangingQuality) := by
  unfold Table.modify Table.mapValues
  rw [List.all_map]
  congr 1
  funext entry
  dsimp only [Function.comp_apply]
  split <;> rfl

theorem step_safe (linux : Bool) (s next : VideoQoS) (event : Event) (bounded : Table.All (fun user => Bounded user.delay) s.users)
    (small : Table.All (fun user => SmallSamples user.delay.rttCalculator) s.users) (fits : Fits s event) (taken : s.step quotient linux event = some next) :
    s.checkedStep quotient linux event = some next := by
  cases event with
  | networkDelay id delay now =>
      rw [← taken]
      exact network_delay_checked quotient s id delay now bounded small fits
  | connectionClose id now =>
      rw [← taken]
      simp only [VideoQoS.checkedStep, VideoQoS.step]
      unfold VideoQoS.checkedOnConnectionClose VideoQoS.onConnectionClose
      dsimp only
      split
      · rfl
      · exact adjust_fps_checked _ now
  | delayResponseElapsed id elapsed now =>
      rw [← taken]
      simp only [VideoQoS.checkedStep, VideoQoS.step]
      unfold VideoQoS.checkedUserDelayResponseElapsed VideoQoS.userDelayResponseElapsed
      cases found : Table.get s.users id with
      | none => rfl
      | some user =>
          dsimp only
          split
          · rfl
          · rw [cap_checked, Option.bind_eq_bind, Option.bind_some, response_elapsed_safe, Option.bind_eq_bind, Option.bind_some]
            exact adjust_fps_checked _ now
  | updateDisplayData name counter now =>
      rw [← taken]
      simp only [VideoQoS.checkedStep, VideoQoS.step]
      unfold VideoQoS.checkedUpdateDisplayData VideoQoS.updateDisplayData
      dsimp only
      rw [adjust_fps_checked, Option.bind_eq_bind, Option.bind_some]
      split
      · split
        · apply adjust_ratio_checked
          intro vbr
          have on : (s.abrConfig && (Table.modify s.displays name (fun display => { display with sendCounter := display.sendCounter + counter })).all
              (fun entry => entry.2.supportChangingQuality)) = true := vbr
          rw [counted_support] at on
          exact fits on ‹_›
        · rfl
      · rfl
  | _ => exact taken

theorem network_delay_panics (d : UserDelay) (band : Band) (bitrateFirst : Bool) (cap delay : Nat) (bounded : Bounded d)
    (misfit : ¬ (d.delayHistory.sum < 2 ^ 32 ∧ d.delayHistory.getLast?.getD 0 + max delay 10 < 2 ^ 32)) :
    d.checkedNetworkDelay quotient band bitrateFirst cap delay = none := by
  unfold UserDelay.checkedNetworkDelay
  by_cases stored : d.delayHistory.sum < 2 ^ 32
  · have pair : ¬ d.delayHistory.getLast?.getD 0 + max delay 10 < 2 ^ 32 := fun fits => misfit ⟨stored, fits⟩
    rw [avg_fits { d with stallTicks := 0, stallReferenceFps := none } stored, Option.bind_eq_bind, Option.bind_some]
    cases received : d.checkedReceive (max delay 10) with
    | none => rfl
    | some after =>
        have history : after.delayHistory = (d.addDelay (max delay 10)).delayHistory := by
          unfold UserDelay.checkedReceive at received
          split at received
          · obtain ⟨rtt, _, same⟩ := Option.bind_eq_some_iff.mp received
            rw [← Option.some.inj same]
            rfl
          · obtain ⟨rtt, _, same⟩ := Option.bind_eq_some_iff.mp received
            rw [← Option.some.inj same]
            rfl
        have average : after.checkedAvgDelay = none := by
          rw [avg_checked, history, (add_delay_spec d (max delay 10) bounded.history).2, if_neg pair]
        unfold UserDelay.checkedWanted
        rw [Option.bind_eq_bind, Option.bind_some, average]
        rfl
  · have average : UserDelay.checkedAvgDelay { d with stallTicks := 0, stallReferenceFps := none } = none := by
      rw [avg_checked]
      exact if_neg stored
    rw [average]
    rfl

-- A reply whose viewer's delays do not fit is one that panics.
theorem pairs_needed (linux : Bool) (s : VideoQoS) (id : Int) (user : UserData) (delay now : Nat) (bounded : Bounded user.delay)
    (found : Table.get s.users id = some user) (misfit : ¬ Pairs user delay) : s.checkedStep quotient linux (.networkDelay id delay now) = none := by
  simp only [VideoQoS.checkedStep]
  unfold VideoQoS.checkedUserNetworkDelay
  rw [found]
  dsimp only
  rw [cap_checked, Option.bind_eq_bind, Option.bind_some, network_delay_panics quotient user.delay _ _ _ delay bounded misfit]
  rfl

theorem network_delay_small (user : UserData) (delay : Nat) (band : Band) (bitrateFirst : Bool) (bounded : Bounded user.delay)
    (small : SmallSamples user.delay.rttCalculator) (narrow : band.minFps ≤ maxFps) (pairs : Pairs user delay) :
    SmallSamples (user.delay.networkDelay quotient band bitrateFirst user.fpsCap delay).1.rttCalculator :=
  (network_delay_safe quotient user.delay band bitrateFirst user.fpsCap delay bounded small (cap_range user).1 (cap_range user).2 narrow pairs.1 pairs.2).2

theorem response_elapsed_rtt (d : UserDelay) (cap elapsed : Nat) : (d.responseElapsed cap elapsed).rttCalculator = d.rttCalculator := by
  unfold UserDelay.responseElapsed
  split
  · rfl
  · dsimp only
    split <;> rfl

theorem step_small (linux : Bool) (s next : VideoQoS) (event : Event) (bounded : Table.All (fun user => Bounded user.delay) s.users)
    (small : Table.All (fun user => SmallSamples user.delay.rttCalculator) s.users) (fits : Fits s event) (taken : s.step quotient linux event = some next) :
    Table.All (fun user => SmallSamples user.delay.rttCalculator) next.users := by
  apply step_delays quotient (fun d => SmallSamples d.rttCalculator) linux s next event _ _ _ _ small taken
  · intro sample member
    cases member
  · intro d lowered held
    unfold UserDelay.answerReduction
    split <;> exact held
  · intro id delay now user band bitrateFirst same found narrow held
    rw [same] at fits
    exact network_delay_small quotient user delay band bitrateFirst (Table.all_get _ s.users id user bounded found) held narrow (fits.1 user found)
  · intro elapsed user held
    rw [response_elapsed_rtt]
    exact held

theorem traced_bounded (linux : Bool) (start : Nat) (past : List (VideoQoS × Event)) (s : VideoQoS)
    (traced : Machine.Traced (VideoQoS.step quotient linux) (.default linux start) past s) :
    (minFps ≤ s.fps ∧ s.fps ≤ maxFps) ∧ Table.All (fun user => Bounded user.delay) s.users := by
  refine Machine.traced_invariant (VideoQoS.step quotient linux)
    (fun _ s => (minFps ≤ s.fps ∧ s.fps ≤ maxFps) ∧ Table.All (fun user => Bounded user.delay) s.users) _ s past ?_ ?_ traced
  · refine ⟨?_, fun entry member => ?_⟩
    · show minFps ≤ fpsDefault ∧ fpsDefault ≤ maxFps
      decide
    · cases member
  · intro _ state event next held taken
    exact ⟨step_fps quotient linux state next event held.1 taken, step_bounded quotient linux state next event held.2 taken⟩

theorem arithmetic_safe (linux : Bool) (start : Nat) (past : List (VideoQoS × Event)) (s : VideoQoS)
    (traced : Machine.Traced (VideoQoS.step quotient linux) (.default linux start) past s) :
    (minFps ≤ s.fps ∧ s.fps ≤ maxFps ∧
      ∀ id user fps, Table.get s.users id = some user → user.delay.fps = some fps → minFps ≤ fps ∧ fps ≤ maxFps) ∧
    ((∀ entry ∈ past, Fits entry.1 entry.2) →
      ∀ entry ∈ past, ∃ next, entry.1.step quotient linux entry.2 = some next ∧ entry.1.checkedStep quotient linux entry.2 = some next) ∧
    ∀ entry ∈ past, ∀ id user delay now, entry.2 = .networkDelay id delay now → Table.get entry.1.users id = some user → ¬ Pairs user delay →
      entry.1.checkedStep quotient linux entry.2 = none := by
  obtain ⟨⟨low, high⟩, bounded⟩ := traced_bounded quotient linux start past s traced
  have bounds := Machine.traced_invariant (VideoQoS.step quotient linux)
    (fun past s => Table.All (fun user => Bounded user.delay) s.users ∧ (∀ entry ∈ past, Table.All (fun user => Bounded user.delay) entry.1.users) ∧
      ((∀ entry ∈ past, Fits entry.1 entry.2) → Table.All (fun user => SmallSamples user.delay.rttCalculator) s.users ∧
        ∀ entry ∈ past, ∃ next, entry.1.step quotient linux entry.2 = some next ∧ entry.1.checkedStep quotient linux entry.2 = some next))
    _ s past ?_ ?_ traced
  · refine ⟨⟨low, high, fun id user fps found stored => ?_⟩, fun fits => (bounds.2.2 fits).2, fun entry member id user delay now same found misfit => ?_⟩
    · exact (Table.all_get _ s.users id user bounded found).target fps stored
    · rw [same]
      exact pairs_needed quotient linux entry.1 id user delay now (Table.all_get _ entry.1.users id user (bounds.2.1 entry member) found) found misfit
  · refine ⟨fun entry member => ?_, fun entry member => ?_, fun _ => ⟨fun entry member => ?_, fun entry member => ?_⟩⟩
    · cases member
    · cases member
    · cases member
    · cases member
  · rintro earlier state event next ⟨here, before, safe⟩ taken
    refine ⟨step_bounded quotient linux state next event here taken, ?_, fun fits => ?_⟩
    · exact List.forall_mem_append.mpr ⟨before, List.forall_mem_singleton.mpr here⟩
    · obtain ⟨fitted, last⟩ := List.forall_mem_append.mp fits
      obtain ⟨small, ran⟩ := safe fitted
      have fit := List.forall_mem_singleton.mp last
      refine ⟨step_small quotient linux state next event here small fit taken, List.forall_mem_append.mpr ⟨ran, List.forall_mem_singleton.mpr ?_⟩⟩
      exact ⟨next, taken, step_safe quotient linux state next event here small fit taken⟩

end

-- A probe that stays out for more than 2^31 milliseconds: two looks at it are two delays whose sum no longer fits.
def longProbe : List Event := [.connectionOpen 1 "N" 0, .delayResponseElapsed 1 2147483648 5, .delayResponseElapsed 1 2147484648 6]

theorem long_probe_runs : (Machine.run (VideoQoS.step devideFps true) (.default true 0) longProbe).isSome = true := rfl

theorem long_probe_panics : ∃ past s id delay now, Machine.Traced (VideoQoS.step devideFps true) (.default true 0) past s ∧ delay < 2 ^ 32 ∧
    s.checkedStep devideFps true (.networkDelay id delay now) = none := by
  refine ⟨_, _, 1, 2147485000, 7, Machine.traced_run (VideoQoS.step devideFps true) (.default true 0) longProbe long_probe_runs, by decide, ?_⟩
  have bounded := (traced_bounded devideFps true 0 _ _ (Machine.traced_run (VideoQoS.step devideFps true) (.default true 0) longProbe long_probe_runs)).2
  obtain ⟨user, found, history⟩ : ∃ user, Table.get ((Machine.run (VideoQoS.step devideFps true) (.default true 0) longProbe).get long_probe_runs).users 1 = some user ∧
      user.delay.delayHistory = [2147483648, 2147484648] := ⟨_, rfl, rfl⟩
  apply pairs_needed devideFps true _ 1 user 2147485000 7 (Table.all_get _ _ 1 user bounded found) found
  rintro ⟨stored, _⟩
  rw [history] at stored
  exact absurd stored (by decide)

theorem arithmetic_safe_probe : (Machine.run (VideoQoS.step devideFps true) (.default true 0) longProbe).isSome = true ∧
    ∀ entry ∈ Machine.trace (VideoQoS.step devideFps true) (.default true 0) longProbe,
      ∃ next, entry.1.step devideFps true entry.2 = some next ∧ entry.1.checkedStep devideFps true entry.2 = some next := by
  have traced := Machine.traced_run (VideoQoS.step devideFps true) (.default true 0) longProbe long_probe_runs
  refine ⟨long_probe_runs, (arithmetic_safe devideFps true 0 _ _ traced).2.1 ?_⟩
  intro entry member
  have label := Machine.trace_labels _ _ _ entry member
  rcases List.mem_cons.mp label with opened | rest
  · rw [opened]
    exact trivial
  · rcases List.mem_cons.mp rest with first | last
    · rw [first]
      exact trivial
    · rw [List.mem_singleton.mp last]
      exact trivial

end GotechDesk.VideoQos
