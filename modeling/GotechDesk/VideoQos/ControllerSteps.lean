import GotechDesk.VideoQos.Controller

set_option autoImplicit false

namespace GotechDesk.VideoQos

-- A viewer's state without the count that a change of the bitrate starts, which is all
-- the shared controller ever writes into it.
def UserData.forget (user : UserData) : UserData :=
  { user with delay := { user.delay with repliesAfterBitrateReduction := none } }

theorem answer_forget (user : UserData) (lowered : Bool) : (user.answerReduction lowered).forget = user.forget := by
  rw [UserData.answerReduction, UserDelay.answerReduction]
  split <;> rfl

-- A part of a call that works on the stream: viewers keep everything but that count, and
-- without adaptive bitrate they keep that too.
def Answers (s next : VideoQoS) : Prop :=
  ∃ change : UserData → UserData, (∀ user, (change user).forget = user.forget) ∧ (s.abrConfig = false → change = id) ∧
    (∀ key, Table.get next.users key = (Table.get s.users key).map change) ∧ next.abrConfig = s.abrConfig

-- How such a part changes them: by adjusting the bitrate some number of times.
def Answered (s next : VideoQoS) : Prop :=
  ∃ answers : List Bool, (s.abrConfig = false → answers = []) ∧
    (∀ key, Table.get next.users key = (Table.get s.users key).map (fun user => answers.foldl UserData.answerReduction user)) ∧
    next.abrConfig = s.abrConfig

theorem answers_forget (answers : List Bool) (user : UserData) : (answers.foldl UserData.answerReduction user).forget = user.forget := by
  induction answers generalizing user with
  | nil => rfl
  | cons lowered rest ih => rw [List.foldl_cons, ih, answer_forget]

theorem answered_answers (s next : VideoQoS) (answered : Answered s next) : Answers s next := by
  obtain ⟨answers, still, users, config⟩ := answered
  refine ⟨fun user => answers.foldl UserData.answerReduction user, answers_forget answers, ?_, users, config⟩
  intro off
  rw [still off]
  rfl

theorem answered_same (s next : VideoQoS) (users : next.users = s.users) (config : next.abrConfig = s.abrConfig) :
    Answered s next := by
  refine ⟨[], fun _ => rfl, ?_, config⟩
  intro key
  rw [users]
  exact Option.map_id'.symm

theorem answered_trans (s mid next : VideoQoS) (first : Answered s mid) (second : Answered mid next) : Answered s next := by
  obtain ⟨before, still, users, config⟩ := first
  obtain ⟨after, still', users', config'⟩ := second
  refine ⟨before ++ after, ?_, ?_, config'.trans config⟩
  · intro off
    rw [still off, still' (config.trans off)]
    rfl
  · intro key
    simp only [users', users, Option.map_map, Function.comp_def, List.foldl_append]

theorem adjust_fps_answered (s : VideoQoS) (now : Nat) : Answered s (s.adjustFps now) := answered_same _ _ rfl rfl

section
variable (s : VideoQoS) (dynamicScreen : Bool) (now : Nat)

theorem adjust_ratio_off (off : s.abrConfig = false) : s.adjustRatio dynamicScreen now = s := by
  simp [VideoQoS.adjustRatio, VideoQoS.inVbrState, off]

theorem adjust_ratio_users : (s.adjustRatio dynamicScreen now).abrConfig = s.abrConfig ∧
      ((s.adjustRatio dynamicScreen now).users = s.users ∨
        ∃ lowered, (s.adjustRatio dynamicScreen now).users = Table.mapValues s.users (fun _ user => user.answerReduction lowered)) := by
  rw [VideoQoS.adjustRatio]
  by_cases vbr : s.inVbrState = true
  · rw [vbr]
    cases delays : (s.users.map (fun entry => entry.2.delay.avgDelay)).max? with
    | none => exact ⟨rfl, .inl rfl⟩
    | some maxDelay =>
        simp only [Bool.not_true, Bool.false_eq_true, if_false]
        split
        · exact ⟨rfl, .inl rfl⟩
        · refine ⟨rfl, ?_⟩
          simp only [VideoQoS.resetSendCounters]
          split
          · exact .inr ⟨_, rfl⟩
          · exact .inl rfl
  · simp [vbr]

theorem adjust_ratio_answered : Answered s (s.adjustRatio dynamicScreen now) := by
  obtain ⟨config, same | ⟨lowered, users⟩⟩ := adjust_ratio_users s dynamicScreen now
  · exact answered_same _ _ same config
  · by_cases off : s.abrConfig = false
    · rw [adjust_ratio_off s dynamicScreen now off]
      exact answered_same s s rfl rfl
    · refine ⟨[lowered], fun no => absurd no off, ?_, config⟩
      intro key
      rw [users, Table.get_map_values]
      rfl

end

theorem answer_reply_answered (s : VideoQoS) (first reduce : Bool) (now : Nat) : Answered s (s.answerReply first reduce now) := by
  have adjusted := adjust_fps_answered s now
  rw [VideoQoS.answerReply]
  generalize s.adjustFps now = mid at adjusted
  have triggered : Answered mid
      (if first && mid.firstReplyAdjustsRatio && mid.cooled now then mid.adjustRatio false now else mid) := by
    split
    · exact adjust_ratio_answered mid false now
    · exact answered_same mid mid rfl rfl
  refine answered_trans s mid _ adjusted (answered_trans mid _ _ triggered ?_)
  generalize (if first && mid.firstReplyAdjustsRatio && mid.cooled now then mid.adjustRatio false now else mid) = late
  split
  · exact adjust_ratio_answered late false now
  · exact answered_same late late rfl rfl

theorem answer_reply_answers (s : VideoQoS) (first reduce : Bool) (now : Nat) : Answers s (s.answerReply first reduce now) :=
  answered_answers _ _ (answer_reply_answered s first reduce now)

section
variable (quotient : Nat → Nat → Nat)

def UserData.reply (user : UserData) (band : Band) (bitrateFirst : Bool) (delay : Nat) : UserData :=
  { user with delay := (user.delay.networkDelay quotient band bitrateFirst user.fpsCap delay).1 }

def UserData.timeout (user : UserData) (elapsed : Nat) : UserData :=
  { user with delay := user.delay.responseElapsed user.fpsCap elapsed }

def fpsInRange (fps : Nat) : Bool := !(fps < minFps || maxFps < fps)

-- What a call means for the viewer it names; a call for another viewer, for a display or
-- for the stream means nothing to it.
def UserData.after (user : UserData) (band : Band) (bitrateFirst : Bool) : Event → UserData
  | .customFps _ fps => if fpsInRange fps then { user with customFps := some fps } else user
  | .autoAdjustFps _ fps => if fpsInRange fps then { user with autoAdjustFps := some fps } else user
  | .imageQuality _ quality time => { user with quality := some (time, convertQuality quality) }
  | .record _ v => { user with record := v }
  | .networkDelay _ delay _ => user.reply quotient band bitrateFirst delay
  | .delayResponseElapsed _ elapsed _ => user.timeout elapsed
  | _ => user

def Event.viewer : Event → Option Int
  | .connectionOpen id _ _ | .connectionClose id _ | .customFps id _ | .autoAdjustFps id _ | .imageQuality id _ _ | .record id _
  | .networkDelay id _ _ | .delayResponseElapsed id _ _ => some id
  | _ => none

def VideoQoS.named (s : VideoQoS) (id : Int) (event : Event) : Option UserData :=
  match event with
  | .connectionOpen _ _ now => some { joinedAt := some now }
  | .connectionClose _ _ => none
  | _ => (Table.get s.users id).map (fun user => user.after quotient (bandOf s.latestQuality.ratio) s.canReduceBitrate event)

def VideoQoS.afterCall (s : VideoQoS) (id : Int) (event : Event) : Option UserData :=
  if event.viewer = some id then s.named quotient id event else Table.get s.users id

-- A call changes the viewer it names as its own data say, and then the stream.
def Seen (s next : VideoQoS) (event : Event) : Prop :=
  ∃ change : UserData → UserData, (∀ user, (change user).forget = user.forget) ∧ (s.abrConfig = false → change = id) ∧
    ∀ id, Table.get next.users id = (s.afterCall quotient id event).map change

-- The same with the adjustments of the bitrate one by one.
def Streamed (s next : VideoQoS) (event : Event) : Prop :=
  ∃ answers : List Bool, (s.abrConfig = false → answers = []) ∧
    ∀ id, Table.get next.users id = (s.afterCall quotient id event).map (fun user => answers.foldl UserData.answerReduction user)

theorem streamed_seen (s next : VideoQoS) (event : Event) (streamed : Streamed quotient s next event) : Seen quotient s next event := by
  obtain ⟨answers, still, users⟩ := streamed
  refine ⟨fun user => answers.foldl UserData.answerReduction user, answers_forget answers, ?_, users⟩
  intro off
  rw [still off]
  rfl

theorem streamed_exact (s next : VideoQoS) (event : Event)
    (exact : ∀ id, Table.get next.users id = s.afterCall quotient id event) : Streamed quotient s next event := by
  refine ⟨[], fun _ => rfl, ?_⟩
  intro key
  rw [exact key]
  exact Option.map_id'.symm

theorem streamed_answered (s mid next : VideoQoS) (event : Event) (config : mid.abrConfig = s.abrConfig)
    (exact : ∀ id, Table.get mid.users id = s.afterCall quotient id event) (answered : Answered mid next) :
    Streamed quotient s next event := by
  obtain ⟨answers, still, users, _⟩ := answered
  refine ⟨answers, fun off => still (config.trans off), ?_⟩
  intro id
  rw [users, exact]

section
variable (s : VideoQoS)

theorem after_call_other (event : Event) (id key : Int) (viewer : event.viewer = some id) (apart : key ≠ id) :
    s.afterCall quotient key event = Table.get s.users key := by
  rw [VideoQoS.afterCall, viewer, if_neg]
  exact fun equal => apart (Option.some.inj equal).symm

theorem after_call_named (event : Event) (id : Int) (viewer : event.viewer = some id) : s.afterCall quotient id event = s.named quotient id event := by
  rw [VideoQoS.afterCall, if_pos viewer]

theorem after_call_stream (event : Event) (key : Int) (viewer : event.viewer = none) : s.afterCall quotient key event = Table.get s.users key := by
  rw [VideoQoS.afterCall, viewer, if_neg nofun]

-- A call that rewrites one entry, or leaves the table as it is.
theorem modify_exact (users : List (Int × UserData)) (event : Event) (id : Int) (change : UserData → UserData)
    (viewer : event.viewer = some id) (written : users = Table.modify s.users id change)
    (meant : s.named quotient id event = (Table.get s.users id).map change) (key : Int) :
    Table.get users key = s.afterCall quotient key event := by
  rw [written, Table.get_modify]
  by_cases same : key = id
  · rw [if_pos same, same, after_call_named quotient s event id viewer, meant]
  · rw [if_neg same, after_call_other quotient s event id key viewer same]

theorem unchanged_exact (event : Event) (id : Int) (viewer : event.viewer = some id)
    (meant : s.named quotient id event = Table.get s.users id) (key : Int) :
    Table.get s.users key = s.afterCall quotient key event := by
  by_cases same : key = id
  · rw [same, after_call_named quotient s event id viewer, meant]
  · rw [after_call_other quotient s event id key viewer same]

theorem limit_streamed (event : Event) (id : Int) (fps : Nat) (change : UserData → UserData) (viewer : event.viewer = some id)
    (meant : s.named quotient id event = (Table.get s.users id).map (fun user => if fpsInRange fps then change user else user)) :
    Streamed quotient s (if fps < minFps || maxFps < fps then s else { s with users := Table.modify s.users id change }) event := by
  apply streamed_exact
  by_cases outside : (fps < minFps || maxFps < fps) = true
  · rw [if_pos outside]
    apply unchanged_exact quotient s event id viewer
    rw [meant]
    simp [fpsInRange, outside]
  · rw [if_neg outside]
    apply modify_exact quotient s _ event id change viewer rfl
    rw [meant]
    simp [fpsInRange, outside]

theorem reply_streamed (id : Int) (delay now : Nat) : Streamed quotient s (s.userNetworkDelay quotient id delay now) (.networkDelay id delay now) := by
  cases found : Table.get s.users id with
  | none =>
      rw [VideoQoS.userNetworkDelay, found]
      apply streamed_answered quotient s s _ _ rfl _ (answer_reply_answered s false false now)
      apply unchanged_exact quotient s _ id rfl
      simp [VideoQoS.named, found]
  | some user =>
      have meant : s.named quotient id (.networkDelay id delay now) = (Table.get s.users id).map (fun held =>
          { held with delay := (user.delay.networkDelay quotient (bandOf s.latestQuality.ratio) s.canReduceBitrate
            user.fpsCap delay).1 }) := by
        simp [VideoQoS.named, found, UserData.after, UserData.reply]
      rw [VideoQoS.userNetworkDelay, found]
      apply streamed_answered quotient s _ _ _ _ _ (answer_reply_answered _ _ _ now)
      · rfl
      · exact modify_exact quotient s _ _ id _ rfl rfl meant

theorem timeout_streamed (id : Int) (elapsed now : Nat) :
    Streamed quotient s (s.userDelayResponseElapsed id elapsed now) (.delayResponseElapsed id elapsed now) := by
  cases found : Table.get s.users id with
  | none =>
      rw [VideoQoS.userDelayResponseElapsed, found]
      apply streamed_exact
      apply unchanged_exact quotient s _ id rfl
      simp [VideoQoS.named, found]
  | some user =>
      rw [VideoQoS.userDelayResponseElapsed, found]
      by_cases early : elapsed ≤ 2000
      · rw [if_pos early]
        apply streamed_exact
        apply unchanged_exact quotient s _ id rfl
        simp [VideoQoS.named, found, UserData.after, UserData.timeout, UserDelay.responseElapsed, early]
      · rw [if_neg early]
        apply streamed_answered quotient s _ _ _ _ _ (adjust_fps_answered _ now)
        · rfl
        · exact modify_exact quotient s _ _ id _ rfl rfl rfl

end

theorem close_streamed (linux : Bool) (s : VideoQoS) (id : Int) (now : Nat) :
    Streamed quotient s (s.onConnectionClose linux id now) (.connectionClose id now) := by
  have left : ∀ key, Table.get (Table.remove s.users id) key = s.afterCall quotient key (.connectionClose id now) := by
    intro key
    rw [Table.get_remove]
    by_cases same : key = id
    · rw [if_pos same, same, after_call_named quotient s _ id rfl]
      rfl
    · rw [if_neg same, after_call_other quotient s _ id key rfl same]
  rw [VideoQoS.onConnectionClose]
  cases empty : (Table.remove s.users id).isEmpty with
  | true =>
      apply streamed_exact
      intro key
      rw [← left key, List.isEmpty_iff.mp empty]
      rfl
  | false => exact streamed_answered quotient s { s with users := Table.remove s.users id } _ _ rfl left (adjust_fps_answered _ now)

theorem display_streamed (s : VideoQoS) (name : String) (counter now : Nat) :
    Streamed quotient s (s.updateDisplayData name counter now) (.updateDisplayData name counter now) := by
  have still : ∀ key, Table.get s.users key = s.afterCall quotient key (.updateDisplayData name counter now) :=
    fun key => (after_call_stream quotient s _ key rfl).symm
  rw [VideoQoS.updateDisplayData]
  split
  · split
    · apply streamed_answered quotient s _ _ _ _ _ (adjust_ratio_answered _ _ now)
      · rfl
      · exact still
    · exact streamed_exact quotient s _ _ still
  · exact streamed_exact quotient s _ _ still

theorem open_streamed (s : VideoQoS) (id : Int) (enableAbr : String) (now : Nat) :
    Streamed quotient s (s.onConnectionOpen id enableAbr now) (.connectionOpen id enableAbr now) := by
  apply streamed_exact
  intro key
  rw [VideoQoS.onConnectionOpen, Table.get_insert]
  by_cases same : key = id
  · rw [if_pos same, same, after_call_named quotient s _ id rfl]
    rfl
  · rw [if_neg same, after_call_other quotient s _ id key rfl same]

theorem quality_streamed (s : VideoQoS) (id quality time : Int) :
    Streamed quotient s (s.userImageQuality id quality time) (.imageQuality id quality time) := by
  apply streamed_exact
  cases found : Table.get s.users id with
  | none =>
      rw [VideoQoS.userImageQuality, found]
      apply unchanged_exact quotient s _ id rfl
      simp [VideoQoS.named, found]
  | some user =>
      rw [VideoQoS.userImageQuality, found]
      exact modify_exact quotient s _ _ id _ rfl rfl rfl

-- One lemma for every call: what it leaves of every viewer.
theorem step_streamed (linux : Bool) (s next : VideoQoS) (event : Event) (taken : s.step quotient linux event = some next) :
    Streamed quotient s next event := by
  have stream : next.users = s.users → event.viewer = none → Streamed quotient s next event := by
    intro users viewer
    apply streamed_exact
    intro key
    rw [users, after_call_stream quotient s event key viewer]
  cases event with
  | connectionOpen id enableAbr now =>
      cases taken
      exact open_streamed quotient s id enableAbr now
  | connectionClose id now =>
      cases taken
      exact close_streamed quotient linux s id now
  | customFps id fps | autoAdjustFps id fps =>
      cases taken
      exact limit_streamed quotient s _ id fps _ rfl rfl
  | imageQuality id quality time =>
      cases taken
      exact quality_streamed quotient s id quality time
  | record id v =>
      cases taken
      apply streamed_exact
      exact modify_exact quotient s _ _ id _ rfl rfl rfl
  | networkDelay id delay now =>
      cases taken
      exact reply_streamed quotient s id delay now
  | delayResponseElapsed id elapsed now =>
      cases taken
      exact timeout_streamed quotient s id elapsed now
  | updateDisplayData name counter now =>
      cases taken
      exact display_streamed quotient s name counter now
  | newDisplay | removeDisplay | setSupportChangingQuality | storeBitrate =>
      cases taken
      exact stream rfl rfl
  | ratio =>
      cases taken
      refine stream ?_ rfl
      rw [VideoQoS.takeRatio]
      split <;> rfl
  | rehash order =>
      simp only [VideoQoS.step] at taken
      split at taken
      · rename_i perm
        cases taken
        apply streamed_exact
        intro key
        rw [after_call_stream quotient s _ key rfl]
        exact Table.get_permuted s.users order perm key
      · cases taken

theorem step_seen (linux : Bool) (s next : VideoQoS) (event : Event) (taken : s.step quotient linux event = some next) :
    Seen quotient s next event := streamed_seen quotient s next event (step_streamed quotient linux s next event taken)

end

end GotechDesk.VideoQos
