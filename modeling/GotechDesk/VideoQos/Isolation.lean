import GotechDesk.VideoQos.ControllerSteps

set_option autoImplicit false

namespace GotechDesk.VideoQos

-- What one viewer does and what happens to its probes.
inductive ViewerEvent where
  | opened
  | closed
  | reply (delay : Nat)
  | timeout (elapsed : Nat)
  | customFps (fps : Nat)
  | autoAdjustFps (fps : Nat)
deriving DecidableEq, Repr

def Event.own (v : Int) : Event → Option ViewerEvent
  | .connectionOpen id _ _ => if id = v then some .opened else none
  | .connectionClose id _ => if id = v then some .closed else none
  | .networkDelay id delay _ => if id = v then some (.reply delay) else none
  | .delayResponseElapsed id elapsed _ => if id = v then some (.timeout elapsed) else none
  | .customFps id fps => if id = v then some (.customFps fps) else none
  | .autoAdjustFps id fps => if id = v then some (.autoAdjustFps fps) else none
  | _ => none

def ownEvents (v : Int) (history : List Event) : List ViewerEvent := history.filterMap (Event.own v)

-- Adaptive bitrate is switched off whenever the setting is read, and nobody changes the image quality.
def Event.plain : Event → Bool
  | .connectionOpen _ enableAbr _ => enableAbr == "N"
  | .imageQuality _ _ _ => false
  | _ => true

def Plain (history : List Event) : Prop := ∀ event ∈ history, event.plain = true

-- The viewer alone: its limits and its delay state, with nothing shared.
structure Viewer where
  customFps : Option Nat
  autoAdjustFps : Option Nat
  delay : UserDelay
deriving DecidableEq, Repr

def UserData.viewer (user : UserData) : Viewer := ⟨user.customFps, user.autoAdjustFps, user.delay⟩

def Viewer.cap (viewer : Viewer) : Nat := fpsCap viewer.customFps viewer.autoAdjustFps

def balancedBand : Band := bandOf Quality.balanced.ratio

section
variable (quotient : Nat → Nat → Nat)

def Viewer.step (viewer : Viewer) : ViewerEvent → Viewer
  | .reply delay => { viewer with delay := (viewer.delay.networkDelay quotient balancedBand false viewer.cap delay).1 }
  | .timeout elapsed => { viewer with delay := viewer.delay.responseElapsed viewer.cap elapsed }
  | .customFps fps => if fpsInRange fps then { viewer with customFps := some fps } else viewer
  | .autoAdjustFps fps => if fpsInRange fps then { viewer with autoAdjustFps := some fps } else viewer
  | _ => viewer

def viewerStep (viewer : Option Viewer) : ViewerEvent → Option Viewer
  | .opened => some ⟨none, none, {}⟩
  | .closed => none
  | event => viewer.map (fun viewer => viewer.step quotient event)

def viewerRun (events : List ViewerEvent) : Option Viewer := events.foldl (viewerStep quotient) none

def Unset (user : UserData) : Prop := user.quality = none

-- While anybody watches, adaptive bitrate is off and no quality has been asked for.
structure Quiet (s : VideoQoS) : Prop where
  off : ∀ id user, Table.get s.users id = some user → s.abrConfig = false
  unset : Table.All Unset s.users

theorem latest_quality_unset (s : VideoQoS) (unset : Table.All Unset s.users) :
    s.latestQuality = .balanced := by
  have none : s.users.filterMap (fun entry => entry.2.quality) = [] := by
    rw [List.filterMap_eq_nil_iff]
    intro entry member
    exact unset entry member
  rw [VideoQoS.latestQuality, none]
  rfl

theorem can_reduce_off (s : VideoQoS) (off : s.abrConfig = false) : s.canReduceBitrate = false := by
  simp [VideoQoS.canReduceBitrate, VideoQoS.inVbrState, off]

-- A call that does not open a connection leaves the setting, or leaves nobody.
theorem step_config (linux : Bool) (s next : VideoQoS) (event : Event) (plain : event.plain = true)
    (taken : s.step quotient linux event = some next) :
    next.abrConfig = false ∨ next.abrConfig = s.abrConfig ∨ next.users = [] := by
  cases event with
  | connectionOpen id enableAbr now =>
      cases taken
      have setting : enableAbr = "N" := by simpa [Event.plain] using plain
      exact .inl (by simp [VideoQoS.onConnectionOpen, setting])
  | connectionClose id now =>
      cases taken
      rw [VideoQoS.onConnectionClose]
      split
      · exact .inr (.inr rfl)
      · exact .inr (.inl rfl)
  | imageQuality => cases plain
  | customFps id fps =>
      cases taken
      rw [VideoQoS.userCustomFps]
      split <;> exact .inr (.inl rfl)
  | autoAdjustFps id fps =>
      cases taken
      rw [VideoQoS.userAutoAdjustFps]
      split <;> exact .inr (.inl rfl)
  | networkDelay id delay now =>
      cases taken
      rw [VideoQoS.userNetworkDelay]
      cases Table.get s.users id with
      | none =>
          obtain ⟨_, _, _, _, config⟩ := answer_reply_answers s false false now
          exact .inr (.inl config)
      | some user =>
          refine .inr (.inl ?_)
          dsimp only
          generalize user.delay.networkDelay quotient _ _ _ _ = reply
          obtain ⟨_, _, _, _, config⟩ := answer_reply_answers
            { s with users := Table.modify s.users id (fun user => { user with delay := reply.1 }) } user.delay.fps.isNone reply.2 now
          exact config
  | delayResponseElapsed id elapsed now =>
      cases taken
      rw [VideoQoS.userDelayResponseElapsed]
      cases Table.get s.users id with
      | none => exact .inr (.inl rfl)
      | some user =>
          dsimp only
          split <;> exact .inr (.inl rfl)
  | updateDisplayData name counter now =>
      cases taken
      refine .inr (.inl ?_)
      rw [VideoQoS.updateDisplayData]
      split
      · split
        · rw [(adjust_ratio_users _ _ now).1]
          rfl
        · rfl
      · rfl
  | ratio =>
      cases taken
      rw [VideoQoS.takeRatio]
      split <;> exact .inr (.inl rfl)
  | rehash order =>
      simp only [VideoQoS.step] at taken
      split at taken
      · cases taken
        exact .inr (.inl rfl)
      · cases taken
  | record | newDisplay | removeDisplay | setSupportChangingQuality | storeBitrate =>
      cases taken
      exact .inr (.inl rfl)

theorem modify_unset (users : List (Int × UserData)) (id : Int) (change : UserData → UserData) (unset : Table.All Unset users)
    (same : ∀ user, (change user).quality = user.quality) : Table.All Unset (Table.modify users id change) := by
  apply Table.all_modify Unset users id change unset
  intro user held
  exact (same user).trans held

theorem adjust_ratio_unset (s : VideoQoS) (dynamicScreen : Bool) (now : Nat)
    (unset : Table.All Unset s.users) :
    Table.All Unset (s.adjustRatio dynamicScreen now).users := by
  obtain ⟨_, same | ⟨lowered, users⟩⟩ := adjust_ratio_users s dynamicScreen now
  · rw [same]
    exact unset
  · rw [users]
    exact Table.all_map_values _ _ _ unset (fun _ _ held => held)

theorem answer_reply_unset (s : VideoQoS) (first reduce : Bool) (now : Nat) (unset : Table.All Unset s.users) :
    Table.All Unset (s.answerReply first reduce now).users := by
  have adjusted : Table.All Unset (s.adjustFps now).users := unset
  rw [VideoQoS.answerReply]
  generalize s.adjustFps now = mid at adjusted
  have triggered : Table.All Unset
      (if first && mid.firstReplyAdjustsRatio && mid.cooled now then mid.adjustRatio false now else mid).users := by
    split
    · exact adjust_ratio_unset mid false now adjusted
    · exact adjusted
  generalize (if first && mid.firstReplyAdjustsRatio && mid.cooled now then mid.adjustRatio false now else mid) = late at triggered
  split
  · exact adjust_ratio_unset late false now triggered
  · exact triggered

theorem close_unset (linux : Bool) (s : VideoQoS) (id : Int) (now : Nat) (unset : Table.All Unset s.users) :
    Table.All Unset (s.onConnectionClose linux id now).users := by
  rw [VideoQoS.onConnectionClose]
  split
  · intro entry member
    cases member
  · exact Table.all_remove Unset s.users id unset

theorem step_unset (linux : Bool) (s next : VideoQoS) (event : Event) (plain : event.plain = true)
    (taken : s.step quotient linux event = some next) (unset : Table.All Unset s.users) :
    Table.All Unset next.users := by
  cases event with
  | connectionOpen id enableAbr now =>
      cases taken
      exact Table.all_insert _ s.users id _ unset rfl
  | connectionClose id now =>
      cases taken
      exact close_unset linux s id now unset
  | imageQuality => cases plain
  | customFps id fps =>
      cases taken
      rw [VideoQoS.userCustomFps]
      split
      · exact unset
      · dsimp only
        apply modify_unset s.users id _ unset
        intro user
        rfl
  | autoAdjustFps id fps =>
      cases taken
      rw [VideoQoS.userAutoAdjustFps]
      split
      · exact unset
      · dsimp only
        apply modify_unset s.users id _ unset
        intro user
        rfl
  | record id v =>
      cases taken
      dsimp only [VideoQoS.userRecord]
      apply modify_unset s.users id _ unset
      intro user
      rfl
  | networkDelay id delay now =>
      cases taken
      rw [VideoQoS.userNetworkDelay]
      cases Table.get s.users id with
      | none => exact answer_reply_unset s false false now unset
      | some user =>
          apply answer_reply_unset
          dsimp only
          apply modify_unset s.users id _ unset
          intro user
          rfl
  | delayResponseElapsed id elapsed now =>
      cases taken
      rw [VideoQoS.userDelayResponseElapsed]
      cases Table.get s.users id with
      | none => exact unset
      | some user =>
          dsimp only
          split
          · exact unset
          · dsimp only [VideoQoS.adjustFps]
            apply modify_unset s.users id _ unset
            intro user
            rfl
  | updateDisplayData name counter now =>
      cases taken
      rw [VideoQoS.updateDisplayData]
      split
      · split
        · exact adjust_ratio_unset _ _ now unset
        · exact unset
      · exact unset
  | ratio =>
      cases taken
      rw [VideoQoS.takeRatio]
      split <;> exact unset
  | rehash order =>
      simp only [VideoQoS.step] at taken
      split at taken
      · cases taken
        exact Table.all_reorder _ s.users order unset
      · cases taken
  | newDisplay | removeDisplay | setSupportChangingQuality | storeBitrate =>
      cases taken
      exact unset

theorem quiet_step (linux : Bool) (s next : VideoQoS) (event : Event) (quiet : Quiet s) (plain : event.plain = true)
    (taken : s.step quotient linux event = some next) : Quiet next := by
  refine ⟨?_, step_unset quotient linux s next event plain taken quiet.unset⟩
  intro id user found
  rcases step_config quotient linux s next event plain taken with off | same | nobody
  · exact off
  · cases event with
    | connectionOpen other enableAbr now =>
        cases taken
        have setting : enableAbr = "N" := by simpa [Event.plain] using plain
        simp [VideoQoS.onConnectionOpen, setting]
    | _ =>
        -- Nobody but `open` brings a viewer in, so there was one before.
        obtain ⟨change, _, _, users⟩ := step_seen quotient linux s next _ taken
        rw [users id, VideoQoS.afterCall] at found
        cases held : Table.get s.users id with
        | some before => exact same.trans (quiet.off id before held)
        | none => simp [held, VideoQoS.named] at found
  · rw [nobody] at found
    cases found

theorem own_named (v : Int) (event : Event) (own : ViewerEvent) (mine : event.own v = some own) : event.viewer = some v := by
  cases event <;> simp [Event.own] at mine <;> simp [Event.viewer, mine]

theorem viewer_cap (user : UserData) : user.viewer.cap = user.fpsCap := rfl

theorem viewer_reply (user : UserData) (delay : Nat) :
    (user.reply quotient balancedBand false delay).viewer = user.viewer.step quotient (.reply delay) := by
  rw [UserData.reply, Viewer.step, viewer_cap]
  simp only [UserData.viewer]

theorem viewer_timeout (user : UserData) (elapsed : Nat) :
    (user.timeout elapsed).viewer = user.viewer.step quotient (.timeout elapsed) := by
  rw [UserData.timeout, Viewer.step, viewer_cap]
  simp only [UserData.viewer]

-- What a call that is the viewer's own means to it, with the stream's data out of the way.
theorem after_viewer (v : Int) (user : UserData) (event : Event) (own : ViewerEvent) (mine : event.own v = some own)
    (stays : own ≠ .opened ∧ own ≠ .closed) :
    (user.after quotient balancedBand false event).viewer = user.viewer.step quotient own := by
  cases event with
  | customFps id fps | autoAdjustFps id fps =>
      simp only [Event.own, Option.ite_none_right_eq_some, Option.some.injEq] at mine
      rw [← mine.2, UserData.after, Viewer.step]
      split <;> rfl
  | networkDelay id delay now =>
      simp only [Event.own, Option.ite_none_right_eq_some, Option.some.injEq] at mine
      rw [← mine.2, UserData.after, viewer_reply]
  | delayResponseElapsed id elapsed now =>
      simp only [Event.own, Option.ite_none_right_eq_some, Option.some.injEq] at mine
      rw [← mine.2, UserData.after, viewer_timeout]
  | connectionOpen id enableAbr now =>
      simp only [Event.own, Option.ite_none_right_eq_some, Option.some.injEq] at mine
      exact absurd mine.2.symm stays.1
  | connectionClose id now =>
      simp only [Event.own, Option.ite_none_right_eq_some, Option.some.injEq] at mine
      exact absurd mine.2.symm stays.2
  | _ => simp [Event.own] at mine

-- A call that is not the viewer's own may still name it (it records), and leaves its viewer state.
theorem after_foreign (v : Int) (user : UserData) (event : Event) (plain : event.plain = true) (foreign : event.own v = none)
    (named : event.viewer = some v) : (user.after quotient balancedBand false event).viewer = user.viewer := by
  cases event with
  | record id v => rfl
  | newDisplay | removeDisplay | updateDisplayData | setSupportChangingQuality | storeBitrate | ratio | rehash => rfl
  | imageQuality => cases plain
  | _ => simp_all [Event.own, Event.viewer]

def ownStep (viewer : Option Viewer) : Option ViewerEvent → Option Viewer
  | some own => viewerStep quotient viewer own
  | none => viewer

theorem named_viewer (v : Int) (s : VideoQoS) (user : UserData) (event : Event) (plain : event.plain = true)
    (off : s.abrConfig = false) (unset : Table.All Unset s.users) (held : Table.get s.users v = some user) :
    (s.afterCall quotient v event).map UserData.viewer = ownStep quotient (some user.viewer) (event.own v) := by
  have band : bandOf s.latestQuality.ratio = balancedBand := by rw [latest_quality_unset s unset, balancedBand]
  have never := can_reduce_off s off
  by_cases named : event.viewer = some v
  · rw [after_call_named quotient s event v named]
    cases own : event.own v with
    | none =>
        have same := after_foreign quotient v user event plain own named
        cases event with
        | connectionOpen | connectionClose => simp_all [Event.own, Event.viewer]
        | _ => simpa [VideoQoS.named, held, band, never, ownStep] using same
    | some mine =>
        cases event with
        | connectionOpen id enableAbr now | connectionClose id now =>
            simp only [Event.own, Option.ite_none_right_eq_some, Option.some.injEq] at own
            rw [← own.2]
            rfl
        | _ =>
            have same := after_viewer quotient v user _ mine own (by
              constructor <;> rintro rfl <;> simp [Event.own] at own)
            cases mine <;> simp_all [VideoQoS.named, ownStep, viewerStep, Event.own]
  · have foreign : event.own v = none := by
      cases own : event.own v with
      | none => rfl
      | some mine => exact absurd (own_named v event mine own) named
    rw [VideoQoS.afterCall, if_neg named, held, foreign]
    rfl

section
variable (linux : Bool) (v : Int) (s next : VideoQoS) (event : Event)

-- A viewer that is not there comes in by `open` and no other way.
theorem absent_viewer (absent : Table.get s.users v = none) (taken : s.step quotient linux event = some next) :
    (Table.get next.users v).map UserData.viewer = ownStep quotient none (event.own v) := by
  obtain ⟨change, _, _, users⟩ := step_seen quotient linux s next event taken
  cases event with
  | connectionOpen id enableAbr now =>
      cases taken
      rw [VideoQoS.onConnectionOpen, Table.get_insert, Event.own]
      by_cases same : v = id
      · rw [if_pos same, if_pos same.symm]
        rfl
      · rw [if_neg same, if_neg (fun equal => same equal.symm), absent]
        rfl
  | _ =>
      rw [users v, VideoQoS.afterCall]
      simp only [VideoQoS.named, absent, Option.map_none, ite_self]
      simp only [Event.own]
      first
        | rfl
        | (split <;> rfl)

theorem viewer_step (quiet : Quiet s) (plain : event.plain = true) (taken : s.step quotient linux event = some next) :
    (Table.get next.users v).map UserData.viewer =
      ownStep quotient ((Table.get s.users v).map UserData.viewer) (event.own v) := by
  obtain ⟨change, _, still, users⟩ := step_seen quotient linux s next event taken
  cases held : Table.get s.users v with
  | some user =>
      have off := quiet.off v user held
      have users := users v
      rw [still off, Option.map_id_fun, id] at users
      rw [users]
      exact named_viewer quotient v s user event plain off quiet.unset held
  | none =>
      exact absent_viewer quotient linux v s next event held taken

end

theorem quiet_default (linux : Bool) (now : Nat) : Quiet (.default linux now) := by
  have nobody : (VideoQoS.default linux now).users = [] := rfl
  constructor
  · intro id user found
    rw [nobody] at found
    cases found
  · rw [nobody]
    intro entry member
    cases member

-- Along a whole history the shared controller computes, for this viewer, what the viewer alone computes.
theorem viewer_run (linux : Bool) (v : Int) (history : List Event) (s final : VideoQoS) (quiet : Quiet s) (plain : Plain history)
    (ran : Machine.run (VideoQoS.step quotient linux) s history = some final) :
    Quiet final ∧ (Table.get final.users v).map UserData.viewer =
      (ownEvents v history).foldl (viewerStep quotient) ((Table.get s.users v).map UserData.viewer) := by
  induction history generalizing s with
  | nil =>
      have same : s = final := by simpa [Machine.run] using ran
      rw [← same]
      exact ⟨quiet, rfl⟩
  | cons event rest ih =>
      cases taken : s.step quotient linux event with
      | none => simp [Machine.run, taken] at ran
      | some next =>
          have ordinary := plain event (by simp)
          obtain ⟨still, later⟩ := ih next (quiet_step quotient linux s next event quiet ordinary taken)
            (fun other member => plain other (by simp [member])) (by simpa [Machine.run, taken] using ran)
          refine ⟨still, ?_⟩
          rw [later, viewer_step quotient linux v s next event quiet ordinary taken, ownEvents, ownEvents, List.filterMap_cons]
          cases event.own v with
          | none => rfl
          | some own => rfl

theorem own_initial (v : Int) (early history : List Event) (cut : early <+: history) : ownEvents v early <+: ownEvents v history := by
  obtain ⟨rest, rfl⟩ := cut
  exact ⟨ownEvents v rest, by simp [ownEvents]⟩

-- Two histories with the same calls of viewer v and anything else in between: up to each
-- of v's calls its delay state, its private target included, is the same in both.
theorem viewer_isolation (linux : Bool) (v : Int) (start other : Nat) (history history' early early' : List Event) (s s' : VideoQoS)
    (plain : Plain history) (plain' : Plain history') (same : ownEvents v history = ownEvents v history')
    (cut : early <+: history) (cut' : early' <+: history') (level : (ownEvents v early).length = (ownEvents v early').length)
    (ran : Machine.run (VideoQoS.step quotient linux) (.default linux start) early = some s)
    (ran' : Machine.run (VideoQoS.step quotient linux) (.default linux other) early' = some s') :
    (Table.get s.users v).map UserData.delay = (Table.get s'.users v).map UserData.delay := by
  have shared : ownEvents v early = ownEvents v early' := by
    have first := List.prefix_iff_eq_take.mp (own_initial v early history cut)
    have second := List.prefix_iff_eq_take.mp (own_initial v early' history' cut')
    rw [first, second, same, level]
  obtain ⟨_, alone⟩ := viewer_run quotient linux v early _ s (quiet_default linux start)
    (fun event member => plain event (cut.subset member)) ran
  obtain ⟨_, alone'⟩ := viewer_run quotient linux v early' _ s' (quiet_default linux other)
    (fun event member => plain' event (cut'.subset member)) ran'
  have equal : (Table.get s.users v).map UserData.viewer = (Table.get s'.users v).map UserData.viewer := by
    rw [alone, alone', shared]
    rfl
  have states := congrArg (Option.map Viewer.delay) equal
  simpa [Option.map_map, Function.comp_def, UserData.viewer] using states

end

-- One viewer alone, and beside a second one that stalls, limits itself and leaves.
def aloneHistory : List Event :=
  [.connectionOpen 1 "N" 0, .networkDelay 1 40 5, .networkDelay 1 900 6, .delayResponseElapsed 1 3001 9]

def sharedHistory : List Event :=
  [.connectionOpen 2 "N" 0, .newDisplay "screen", .connectionOpen 1 "N" 3, .customFps 2 5, .networkDelay 2 10 4, .networkDelay 1 40 8,
    .delayResponseElapsed 2 9000 9, .updateDisplayData "screen" 7 9, .connectionClose 2 10, .networkDelay 1 900 11,
    .delayResponseElapsed 1 3001 12]

theorem alone_runs : (Machine.run (VideoQoS.step devideFps true) (.default true 0) aloneHistory).isSome = true := by
  simp [Machine.run, aloneHistory, VideoQoS.step]

theorem shared_runs : (Machine.run (VideoQoS.step devideFps true) (.default true 7) sharedHistory).isSome = true := by
  simp [Machine.run, sharedHistory, VideoQoS.step]

theorem viewer_isolation_beside :
    (Table.get ((Machine.run (VideoQoS.step devideFps true) (.default true 0) aloneHistory).get alone_runs).users 1).map
        UserData.delay =
      (Table.get ((Machine.run (VideoQoS.step devideFps true) (.default true 7) sharedHistory).get shared_runs).users 1).map
        UserData.delay :=
  viewer_isolation devideFps true 1 0 7 aloneHistory sharedHistory aloneHistory sharedHistory _ _
    (by simp [Plain, aloneHistory, Event.plain]) (by simp [Plain, sharedHistory, Event.plain]) (by decide) (List.prefix_refl _) (List.prefix_refl _) (by decide) (by simp) (by simp)

end GotechDesk.VideoQos
