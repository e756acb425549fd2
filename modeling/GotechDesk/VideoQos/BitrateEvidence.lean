import GotechDesk.VideoQos.ExactRatio

set_option autoImplicit false

namespace GotechDesk.VideoQos.Exact

theorem low_le_clamp (value low high : ℚ) (ordered : low ≤ high) : low ≤ clamp value low high := by
  unfold clamp
  split
  · exact le_refl low
  · split
    · exact ordered
    · exact le_of_not_gt ‹_›

-- A cut is what its factor says unless the floor lifts it or the ceiling presses it down.
theorem clamp_cut (ratio factor low high : ℚ) (positive : 0 < ratio) (cuts : factor < 1) (ordered : low ≤ high) :
    (clamp (ratio * factor) low high ≤ ratio ∧ min ratio low ≤ clamp (ratio * factor) low high ∧ ratio * factor ≤ clamp (ratio * factor) low high) ↔
      low ≤ ratio ∧ ratio * factor ≤ high := by
  have cut : ratio * factor < ratio := mul_lt_of_lt_one_right positive cuts
  generalize ratio * factor = value at cut ⊢
  unfold clamp
  split
  · rename_i under
    constructor
    · rintro ⟨below, _, _⟩
      exact ⟨below, by linarith⟩
    · rintro ⟨below, _⟩
      exact ⟨below, min_le_right _ _, le_of_lt under⟩
  · rename_i floored
    split
    · rename_i beyond
      constructor
      · rintro ⟨_, _, kept⟩
        exact absurd kept (not_le.mpr beyond)
      · rintro ⟨_, kept⟩
        exact absurd kept (not_le.mpr beyond)
    · rename_i fits
      have above := le_of_not_gt floored
      constructor
      · intro _
        exact ⟨by linarith, le_of_not_gt fits⟩
      · intro _
        exact ⟨le_of_lt cut, (min_le_right _ _).trans above, le_refl value⟩

theorem reduction_cuts (d : UserDelay) (factor : ℚ) (asked : ratioReduction d = some factor) : 0 < factor ∧ factor < 1 := by
  obtain ⟨_, same⟩ := Option.ite_some_none_eq_some.mp asked
  rw [← same]
  split
  · norm_num
  · split
    · norm_num
    · split
      · split <;> norm_num
      · split <;> norm_num

-- A quality the code can store asks for at least the lowest ratio.
def Asks (user : UserData) : Prop := ∀ time quality, user.quality = some (time, quality) → brMin ≤ quality.ratio

structure Rated (s : VideoQoS) : Prop where
  ratio : brMinHighResolution ≤ s.ratio
  users : Table.All Asks s.users

theorem latest_member (qualities : List (Int × Quality)) (start : Option (Int × Quality)) (latest : Int × Quality)
    (found : qualities.foldl latestOf start = some latest) : start = some latest ∨ latest ∈ qualities := by
  induction qualities generalizing start with
  | nil => exact .inl found
  | cons quality rest ih =>
      obtain held | later := ih (latestOf start quality) found
      · cases start with
        | none =>
            cases held
            exact .inr List.mem_cons_self
        | some best =>
            simp only [latestOf] at held
            split at held
            · cases held
              exact .inr List.mem_cons_self
            · exact .inl held
      · exact .inr (List.mem_cons_of_mem _ later)

theorem latest_ratio (s : VideoQoS) (users : Table.All Asks s.users) : brMin ≤ s.latestQuality.ratio := by
  unfold VideoQoS.latestQuality
  cases found : (s.users.filterMap (fun entry => entry.2.quality)).foldl latestOf none with
  | none =>
      dsimp only [Quality.ratio]
      norm_num [brMin, brBalanced]
  | some latest =>
      obtain none | member := latest_member _ _ latest found
      · cases none
      · obtain ⟨entry, listed, held⟩ := List.mem_filterMap.mp member
        exact users entry listed latest.1 latest.2 held

theorem lowered_le (floor : ℚ) (ratio1mbps : Option ℚ) : lowered floor ratio1mbps ≤ floor := by
  cases ratio1mbps with
  | none => exact le_refl floor
  | some ratio =>
      unfold lowered
      dsimp only
      split
      · exact le_of_lt ‹_›
      · exact le_refl floor

theorem min_ratio_range (s : VideoQoS) (users : Table.All Asks s.users) : brMinHighResolution ≤ s.minRatio ∧ s.minRatio ≤ s.latestQuality.ratio := by
  have asked := latest_ratio s users
  have high : brMinHighResolution ≤ brMin := by norm_num [brMinHighResolution, brMin]
  unfold VideoQoS.minRatio
  generalize (if 0 < s.bitrateStore then some (max (s.ratio * 1000 / s.bitrateStore) brMinHighResolution) else none) = ratio1mbps
  cases latest : s.latestQuality with
  | best =>
      dsimp only [Quality.ratio]
      refine ⟨high.trans (le_max_right _ _), max_le ((lowered_le _ _).trans ?_) ?_⟩
      · norm_num [brBest]
      · norm_num [brBest, brMin]
  | balanced =>
      dsimp only [Quality.ratio]
      refine ⟨le_max_right _ _, max_le ((lowered_le _ _).trans ((min_le_left _ _).trans ?_)) ?_⟩
      · norm_num [brBalanced]
      · norm_num [brBalanced, brMinHighResolution]
  | low | custom ratio =>
      rw [latest] at asked
      exact ⟨le_refl _, high.trans asked⟩

-- With a factor below one the limit on increases has nothing to limit.
theorem next_ratio_cut (s : VideoQoS) (dynamicScreen : Bool) (factor : ℚ) (maxDelay : Nat) (positive : 0 < s.ratio) (cuts : factor < 1) :
    s.nextRatio dynamicScreen (some factor) maxDelay = s.ratio * factor := by
  have cut : s.ratio * factor < s.ratio := mul_lt_of_lt_one_right positive cuts
  unfold VideoQoS.nextRatio
  dsimp only
  split
  · split
    · rename_i limits
      simp only [Bool.and_eq_true, decide_eq_true_eq] at limits
      linarith [limits.1.1, limits.1.2]
    · rfl
  · rfl

-- The factor an adjustment multiplies by: the smallest that any viewer asks for.
def Smallest (s : VideoQoS) (factor : ℚ) : Prop :=
  (∃ entry ∈ s.users, ratioReduction entry.2.delay = some factor) ∧
    ∀ entry ∈ s.users, ∀ other, ratioReduction entry.2.delay = some other → factor ≤ other

theorem smallest_min (s : VideoQoS) (factor : ℚ) (smallest : Smallest s factor) :
    (s.users.filterMap (fun entry => ratioReduction entry.2.delay)).min? = some factor := by
  obtain ⟨⟨entry, listed, asked⟩, least⟩ := smallest
  rw [List.min?_eq_some_iff]
  refine ⟨List.mem_filterMap.mpr ⟨entry, listed, asked⟩, fun other member => ?_⟩
  obtain ⟨viewer, present, asks⟩ := List.mem_filterMap.mp member
  exact least viewer present other asks

theorem adjust_ratio_cut (s : VideoQoS) (dynamicScreen : Bool) (now : Nat) (factor : ℚ) (rated : Rated s) (vbr : s.inVbrState = true)
    (smallest : Smallest s factor) :
    (s.adjustRatio dynamicScreen now).ratio = clamp (s.ratio * factor) s.minRatio s.latestQuality.ratio := by
  obtain ⟨⟨entry, listed, asked⟩, _⟩ := smallest
  have positive : 0 < s.ratio := lt_of_lt_of_le (by norm_num [brMinHighResolution]) rated.ratio
  obtain ⟨_, cuts⟩ := reduction_cuts entry.2.delay factor asked
  unfold VideoQoS.adjustRatio
  rw [vbr]
  cases delays : (s.users.map (fun entry => entry.2.delay.avgDelay)).max? with
  | none =>
      rw [List.max?_eq_none_iff, List.map_eq_nil_iff] at delays
      rw [delays] at listed
      cases listed
  | some maxDelay =>
      rw [smallest_min s factor ⟨⟨entry, listed, asked⟩, ‹_›⟩]
      dsimp only
      rw [if_neg (by decide), if_neg (by simp), next_ratio_cut s dynamicScreen factor maxDelay positive cuts]
      unfold VideoQoS.resetSendCounters maxBrMultiple
      rw [mul_one]

theorem adjust_ratio_unconfirmed (s : VideoQoS) (dynamicScreen : Bool) (now : Nat)
    (nobody : ∀ entry ∈ s.users, ratioReduction entry.2.delay = none) (elevated : ∃ entry ∈ s.users, delayThreshold150ms ≤ entry.2.delay.avgDelay) :
    (s.adjustRatio dynamicScreen now).ratio = s.ratio := by
  obtain ⟨entry, listed, slow⟩ := elevated
  have none : s.users.filterMap (fun entry => ratioReduction entry.2.delay) = [] := List.filterMap_eq_nil_iff.mpr nobody
  unfold VideoQoS.adjustRatio
  split
  · rfl
  · cases delays : (s.users.map (fun entry => entry.2.delay.avgDelay)).max? with
    | none => rfl
    | some maxDelay =>
        have most := (List.max?_eq_some_iff.mp delays).2 entry.2.delay.avgDelay (List.mem_map_of_mem listed)
        rw [none]
        dsimp only
        rw [if_pos (by simp; omega)]
        rfl

theorem convert_quality_ratio (q : Int) : brMin ≤ (convertQuality q).ratio := by
  unfold convertQuality
  split
  · norm_num [Quality.ratio, brMin, brBalanced]
  · split
    · norm_num [Quality.ratio, brMin, brSpeed]
    · split
      · norm_num [Quality.ratio, brMin, brBest]
      · exact low_le_clamp _ brMin brMax (by norm_num [brMin, brMax])

theorem rated_default (linux : Bool) (now : Nat) : Rated (.default linux now) := by
  refine ⟨?_, fun entry member => ?_⟩
  · show brMinHighResolution ≤ brBalanced
    norm_num [brMinHighResolution, brBalanced]
  · cases member

theorem rated_latest (s : VideoQoS) (users : Table.All Asks s.users) : brMinHighResolution ≤ s.latestQuality.ratio :=
  (min_ratio_range s users).1.trans (min_ratio_range s users).2

theorem rated_adjust (s : VideoQoS) (dynamicScreen : Bool) (now : Nat) (rated : Rated s) : Rated (s.adjustRatio dynamicScreen now) := by
  obtain ⟨low, ordered⟩ := min_ratio_range s rated.users
  have ceiling : s.latestQuality.ratio * maxBrMultiple = s.latestQuality.ratio := by
    unfold maxBrMultiple
    rw [mul_one]
  unfold VideoQoS.adjustRatio
  split
  · exact rated
  · split
    · exact rated
    · dsimp only
      split
      · exact ⟨rated.ratio, rated.users⟩
      · rw [ceiling]
        refine ⟨low.trans (low_le_clamp _ _ _ ordered), ?_⟩
        unfold VideoQoS.resetSendCounters
        dsimp only
        split
        · refine Table.all_map_values Asks s.users _ rated.users ?_
          exact fun _ _ asks => asks
        · exact rated.users

theorem rated_reply (s : VideoQoS) (first reduce : Bool) (now : Nat) (rated : Rated s) : Rated (s.answerReply first reduce now) := by
  have triggered : Rated (if first && s.firstReplyAdjustsRatio && s.cooled now then s.adjustRatio false now else s) := by
    split
    · exact rated_adjust s false now rated
    · exact rated
  unfold VideoQoS.answerReply
  dsimp only
  generalize (if first && s.firstReplyAdjustsRatio && s.cooled now then s.adjustRatio false now else s) = late at triggered ⊢
  split
  · exact rated_adjust late false now triggered
  · exact triggered

-- A call that only writes the limits or the delays of one viewer.
theorem rated_modify (s : VideoQoS) (id : Int) (change : UserData → UserData) (rated : Rated s) (same : ∀ user, (change user).quality = user.quality) :
    Rated { s with users := Table.modify s.users id change } := by
  refine ⟨rated.ratio, Table.all_modify Asks s.users id change rated.users ?_⟩
  intro user asks time quality held
  rw [same] at held
  exact asks time quality held

section
variable (quotient : Nat → Nat → Nat)

theorem rated_step (linux : Bool) (s next : VideoQoS) (event : Event) (rated : Rated s) (taken : s.step quotient linux event = some next) : Rated next := by
  cases event with
  | connectionOpen id enableAbr now =>
      cases taken
      refine ⟨rated.ratio, Table.all_insert Asks s.users id {} rated.users ?_⟩
      intro time quality held
      cases held
  | connectionClose id now =>
      cases taken
      unfold VideoQoS.onConnectionClose
      dsimp only
      split
      · exact rated_default linux now
      · exact ⟨rated.ratio, Table.all_remove Asks s.users id rated.users⟩
  | customFps id fps =>
      cases taken
      unfold VideoQoS.userCustomFps
      split
      · exact rated
      · exact rated_modify s id _ rated (fun _ => rfl)
  | autoAdjustFps id fps =>
      cases taken
      unfold VideoQoS.userAutoAdjustFps
      split
      · exact rated
      · exact rated_modify s id _ rated (fun _ => rfl)
  | imageQuality id quality time =>
      cases taken
      unfold VideoQoS.userImageQuality
      split
      · exact rated
      · have users : Table.All Asks (Table.modify s.users id (fun user => { user with quality := some (time, convertQuality quality) })) := by
          refine Table.all_modify Asks s.users id _ rated.users ?_
          intro user _ when asked held
          cases held
          exact convert_quality_ratio quality
        exact ⟨rated_latest { s with users := _ } users, users⟩
  | networkDelay id delay now =>
      cases taken
      unfold VideoQoS.userNetworkDelay
      split
      · exact rated
      · exact rated_reply _ _ _ now (rated_modify s id _ rated (fun _ => rfl))
  | delayResponseElapsed id elapsed now =>
      cases taken
      exact rated_modify s id _ rated (fun _ => rfl)
  | updateDisplayData name counter now =>
      cases taken
      have counted : Rated { s with displays := Table.modify s.displays name (fun display => { display with sendCounter := display.sendCounter + counter }) } :=
        ⟨rated.ratio, rated.users⟩
      unfold VideoQoS.updateDisplayData
      dsimp only
      split
      · split
        · exact rated_adjust _ _ now counted
        · exact counted
      · exact ⟨rated_latest _ counted.users, counted.users⟩
  | record | newDisplay | removeDisplay | setSupportChangingQuality | storeBitrate =>
      cases taken
      exact ⟨rated.ratio, rated.users⟩
  | ratio =>
      cases taken
      unfold VideoQoS.takeRatio
      split
      · exact ⟨(rated_default linux 0).ratio, rated.users⟩
      · exact rated
  | rehash order =>
      simp only [VideoQoS.step] at taken
      split at taken
      · cases taken
        exact ⟨rated.ratio, Table.all_reorder Asks s.users order rated.users⟩
      · cases taken

theorem bitrate_evidence (linux : Bool) (start : Nat) (s : VideoQoS) (dynamicScreen : Bool) (now : Nat)
    (reach : Machine.Reachable (VideoQoS.step quotient linux) (.default linux start) s) (vbr : s.inVbrState = true) :
    let next := s.adjustRatio dynamicScreen now
    (∀ factor, Smallest s factor →
      ((next.ratio ≤ s.ratio ∧ min s.ratio s.minRatio ≤ next.ratio ∧ s.ratio * factor ≤ next.ratio) ↔
        s.minRatio ≤ s.ratio ∧ s.ratio * factor ≤ s.latestQuality.ratio)) ∧
    ((∀ entry ∈ s.users, ratioReduction entry.2.delay = none) → (∃ entry ∈ s.users, delayThreshold150ms ≤ entry.2.delay.avgDelay) → next.ratio = s.ratio) := by
  have rated : Rated s := Machine.reachable_invariant (VideoQoS.step quotient linux) Rated _ s (rated_default linux start)
    (fun state event next held taken => rated_step quotient linux state next event held taken) reach
  refine ⟨fun factor smallest => ?_, adjust_ratio_unconfirmed s dynamicScreen now⟩
  obtain ⟨⟨entry, listed, asked⟩, _⟩ := smallest
  have positive : 0 < s.ratio := lt_of_lt_of_le (by norm_num [brMinHighResolution]) rated.ratio
  rw [adjust_ratio_cut s dynamicScreen now factor rated vbr ⟨⟨entry, listed, asked⟩, ‹_›⟩]
  exact clamp_cut s.ratio factor s.minRatio s.latestQuality.ratio positive (reduction_cuts entry.2.delay factor asked).2 (min_ratio_range s rated.users).2

end

-- The viewer that asked for the lower quality last leaves, and the one that stays loses its probe twice.
def qualityLeaves : List Event :=
  [.connectionOpen 1 "" 0, .connectionOpen 2 "" 0, .imageQuality 1 4 1, .imageQuality 2 2 2, .connectionClose 2 5,
    .delayResponseElapsed 1 3000 6, .delayResponseElapsed 1 4000 7]

theorem quality_leaves_runs : (Machine.run (VideoQoS.step devideFps true) (.default true 0) qualityLeaves).isSome = true := rfl

def qualityLeft : VideoQoS := (Machine.run (VideoQoS.step devideFps true) (.default true 0) qualityLeaves).get quality_leaves_runs

theorem quality_left_reachable : Machine.Reachable (VideoQoS.step devideFps true) (.default true 0) qualityLeft :=
  Machine.reachable_run _ _ qualityLeaves quality_leaves_runs

theorem quality_left_facts : qualityLeft.ratio = brSpeed ∧ qualityLeft.inVbrState = true ∧ qualityLeft.minRatio = 3 / 5 ∧
    qualityLeft.latestQuality = .best ∧ Smallest qualityLeft (4 / 5) := by
  obtain ⟨user, users, asked⟩ : ∃ user, qualityLeft.users = [(1, user)] ∧ ratioReduction user.delay = some (4 / 5) := ⟨_, rfl, rfl⟩
  have latest : qualityLeft.latestQuality = .best := rfl
  have bitrate : qualityLeft.bitrateStore = 0 := rfl
  refine ⟨rfl, rfl, ?_, latest, ?_⟩
  · unfold VideoQoS.minRatio
    rw [latest, bitrate]
    norm_num [lowered, brBest, brMin]
  · unfold Smallest
    rw [users]
    refine ⟨⟨(1, user), List.mem_singleton_self _, asked⟩, ?_⟩
    intro entry member other asks
    rw [List.mem_singleton.mp member, asked] at asks
    exact le_of_eq (Option.some.inj asks)

theorem bitrate_evidence_left : ((qualityLeft.adjustRatio true 9).ratio ≤ qualityLeft.ratio ∧
      min qualityLeft.ratio qualityLeft.minRatio ≤ (qualityLeft.adjustRatio true 9).ratio ∧ qualityLeft.ratio * (4 / 5) ≤ (qualityLeft.adjustRatio true 9).ratio) ↔
    qualityLeft.minRatio ≤ qualityLeft.ratio ∧ qualityLeft.ratio * (4 / 5) ≤ qualityLeft.latestQuality.ratio := by
  obtain ⟨_, vbr, _, _, smallest⟩ := quality_left_facts
  exact (bitrate_evidence devideFps true 0 qualityLeft true 9 quality_left_reachable vbr).1 (4 / 5) smallest

theorem cut_raises_ratio : ∃ s dynamicScreen now, Machine.Reachable (VideoQoS.step devideFps true) (.default true 0) s ∧ s.inVbrState = true ∧
    (∃ entry ∈ s.users, (ratioReduction entry.2.delay).isSome = true) ∧ s.ratio < (s.adjustRatio dynamicScreen now).ratio := by
  obtain ⟨ratio, vbr, low, latest, smallest⟩ := quality_left_facts
  obtain ⟨⟨entry, listed, asked⟩, least⟩ := smallest
  have rated : Rated qualityLeft := by
    refine Machine.reachable_invariant (VideoQoS.step devideFps true) Rated _ qualityLeft (rated_default true 0) ?_ quality_left_reachable
    exact fun state event next held taken => rated_step devideFps true state next event held taken
  refine ⟨qualityLeft, true, 9, quality_left_reachable, vbr, ⟨entry, listed, by rw [asked]; rfl⟩, ?_⟩
  rw [adjust_ratio_cut qualityLeft true 9 (4 / 5) rated vbr ⟨⟨entry, listed, asked⟩, least⟩, ratio, low, latest]
  norm_num [clamp, brSpeed]

end GotechDesk.VideoQos.Exact
