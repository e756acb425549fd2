import GotechDesk.VoiceCall.Protocol

set_option autoImplicit false

namespace GotechDesk.VoiceCall

-- What has been said so far: the request the user last made and has not withdrawn, whether
-- the host accepted after it, and whether the host has closed since.
structure Story where
  user : Option Int := none
  accepted : Bool := false
  closed : Bool := false
deriving DecidableEq, Repr

def Story.tell (story : Story) (entry : System × Event) : Story :=
  match entry.2 with
  | .newVoiceCall now _ => { user := some now }
  | .closeVoiceCall _ => {}
  | .answer true => if entry.1.connection.voiceCallRequestTimestamp.isSome then { story with accepted := true, closed := false } else story
  | .hangUp _ => { story with closed := true }
  | _ => story

def storyOf (past : List (System × Event)) : Story := past.foldl Story.tell {}

theorem story_snoc (past : List (System × Event)) (entry : System × Event) : storyOf (past ++ [entry]) = (storyOf past).tell entry := by
  rw [storyOf, List.foldl_append]
  rfl

-- A close that is still on its way to the controller is not known there.
structure Consistent (story : Story) (s : System) : Prop where
  microphone : s.remote.stopVoiceCallSender = true →
    story.user.isSome = true ∧ story.accepted = true ∧ (story.closed = false ∨ ∃ now, Message.voiceCallRequest false now ∈ s.toRemote)
  wanted : ∀ timestamp, s.connection.voiceCallRequestTimestamp = some timestamp → story.user = some timestamp
  marked : ∀ event next, s.step event = some next → next.connection.voiceCalling = true →
    s.connection.voiceCalling = true ∨ (event = .answer true ∧ s.connection.voiceCallRequestTimestamp.isSome = true)
  subscribed : s.connection.viewCamera = true → s.connection.audioSubscribed = true → s.connection.voiceCalling = true
  agree : s.toConnection = [] → s.toRemote = [] → s.remote.voiceCallRequestTimestamp = none → s.connection.voiceCallRequestTimestamp = none →
    s.remote.stopVoiceCallSender = s.connection.voiceCalling

-- The user of a session that captures voice asks when nothing is pending or on, by a clock
-- that does not stand at zero, and does not take back a request that has not been answered.
def Fits (s : System) : Event → Prop
  | .newVoiceCall now _ => s.remote.capturesVoice = true ∧ s.remote.voiceCallRequestTimestamp = none ∧ s.remote.stopVoiceCallSender = false ∧ now ≠ 0
  | .closeVoiceCall _ => s.remote.voiceCallRequestTimestamp = none
  | _ => True

def Closes (messages : List Message) : Prop := ∀ message ∈ messages, ∃ now, message = .voiceCallRequest false now

theorem closes_nil : Closes [] := fun _ member => by cases member

theorem closes_snoc (messages : List Message) (now : Int) (closes : Closes messages) : Closes (messages ++ [.voiceCallRequest false now]) :=
  List.forall_mem_append.mpr ⟨closes, List.forall_mem_singleton.mpr ⟨now, rfl⟩⟩

theorem closes_cons (message : Message) (rest : List Message) (closes : Closes (message :: rest)) : (∃ now, message = .voiceCallRequest false now) ∧ Closes rest :=
  List.forall_mem_cons.mp closes

-- A call that is on: both sides know, or the host's close is on its way.
structure Calling (story : Story) (s : System) : Prop where
  asked : story.user.isSome = true
  accepted : story.accepted = true
  drained : s.toConnection = []
  shared : (story.closed = false ∧ s.connection.voiceCalling = true ∧ s.toRemote = []) ∨ (s.connection.voiceCalling = false ∧ s.toRemote ≠ [])

-- Where a request stands: none, on its way, at the host, or answered with the answer on its way.
inductive Stage (story : Story) (s : System) : Prop where
  | quiet : s.remote.voiceCallRequestTimestamp = none → s.connection.voiceCallRequestTimestamp = none → Closes s.toConnection → Closes s.toRemote →
      (s.remote.stopVoiceCallSender = true → Calling story s) →
      (s.remote.stopVoiceCallSender = false → s.connection.voiceCalling = true → s.toConnection ≠ []) → Stage story s
  | asking (now : Int) (ahead : List Message) : s.remote = ⟨true, some now, false⟩ → now ≠ 0 → s.connection.voiceCallRequestTimestamp = none →
      s.toConnection = ahead ++ [.voiceCallRequest true now] → Closes ahead → Closes s.toRemote →
      (s.connection.voiceCalling = true → ahead ≠ []) → story.user = some now → Stage story s
  | ringing (now : Int) : s.remote = ⟨true, some now, false⟩ → s.connection.voiceCallRequestTimestamp = some now → s.toConnection = [] →
      Closes s.toRemote → s.connection.voiceCalling = false → story.user = some now → Stage story s
  | answered (now : Int) (accepted : Bool) (before late : List Message) : s.remote = ⟨true, some now, false⟩ →
      s.connection.voiceCallRequestTimestamp = none → s.toConnection = [] → s.toRemote = before ++ .voiceCallResponse accepted now :: late →
      Closes before → Closes late → (s.connection.voiceCalling = true → accepted = true ∧ late = []) →
      (accepted = true → story.accepted = true ∧ (late = [] → story.closed = false ∧ s.connection.voiceCalling = true)) →
      story.user = some now → Stage story s

theorem kept_set (reqTimestamp fallback kept : Int) (set : reqTimestamp ≠ 0) (known : keptTimestamp reqTimestamp fallback = some kept) : kept = reqTimestamp := by
  unfold keptTimestamp at known
  by_cases zero : fallback = 0
  · rw [if_pos zero] at known
    cases known
  · rw [if_neg zero, if_neg set] at known
    exact (Option.some.inj known).symm

theorem start_stage (capturesVoice viewCamera audioEnabled : Bool) : Stage {} (System.start capturesVoice viewCamera audioEnabled) :=
  .quiet rfl rfl closes_nil closes_nil (fun on => by cases on) (fun _ on => by cases on)

-- With nothing pending at the controller, or its microphone on, no request is out.
theorem quiet_stage (story : Story) (s : System) (stage : Stage story s)
    (idle : s.remote.voiceCallRequestTimestamp = none ∨ s.remote.stopVoiceCallSender = true) :
    s.connection.voiceCallRequestTimestamp = none ∧ Closes s.toConnection ∧ Closes s.toRemote ∧
      (s.remote.stopVoiceCallSender = true → Calling story s) ∧
      (s.remote.stopVoiceCallSender = false → s.connection.voiceCalling = true → s.toConnection ≠ []) := by
  cases stage with
  | quiet _ none ahead late calling idle => exact ⟨none, ahead, late, calling, idle⟩
  | asking _ _ remote | ringing _ remote | answered _ _ _ _ remote =>
      rw [remote] at idle
      obtain held | held := idle <;> cases held

theorem connection_received (s next : System) (fallback : Int) (taken : s.step (.connectionReceives fallback) = some next) :
    ∃ message rest after, s.toConnection = message :: rest ∧ s.connection.onMessage fallback message = some after ∧
      next = { s with connection := after, toConnection := rest } := by
  unfold System.step at taken
  cases sent : s.toConnection with
  | nil =>
      rw [sent] at taken
      cases taken
  | cons message rest =>
      rw [sent] at taken
      obtain ⟨after, received, rfl⟩ := Option.map_eq_some_iff.mp taken
      exact ⟨message, rest, after, rfl, received, rfl⟩

theorem remote_received (s next : System) (taken : s.step .remoteReceives = some next) :
    ∃ message rest, s.toRemote = message :: rest ∧ next = { s with remote := s.remote.handleMsgFromPeer message, toRemote := rest } := by
  unfold System.step at taken
  cases sent : s.toRemote with
  | nil =>
      rw [sent] at taken
      cases taken
  | cons message rest =>
      rw [sent] at taken
      cases taken
      exact ⟨message, rest, rfl, rfl⟩

theorem new_stage (story : Story) (s next : System) (now fallback : Int) (stage : Stage story s) (fits : Fits s (.newVoiceCall now fallback))
    (taken : s.newVoiceCall now fallback = some next) : Stage { user := some now } next := by
  obtain ⟨captures, free, off, set⟩ := fits
  obtain ⟨kept, known, rfl⟩ := Option.map_eq_some_iff.mp taken
  obtain rfl := kept_set now fallback kept set known
  obtain ⟨none, ahead, late, _, idle⟩ := quiet_stage story s stage (.inl free)
  refine .asking kept s.toConnection ?_ set none rfl ahead late (idle off) rfl
  dsimp only
  rw [captures, off]

theorem close_stage (story : Story) (s : System) (now : Int) (stage : Stage story s) (fits : Fits s (.closeVoiceCall now)) :
    Stage {} (s.closeVoiceCall now) := by
  have free : s.remote.voiceCallRequestTimestamp = none := fits
  obtain ⟨none, ahead, late, _⟩ := quiet_stage story s stage (.inl free)
  refine .quiet free none (closes_snoc _ now ahead) late (fun on => by cases on) (fun _ _ => ?_)
  exact List.append_ne_nil_of_right_ne_nil _ (List.cons_ne_nil _ _)

theorem connection_receives_stage (story : Story) (s next : System) (fallback : Int) (stage : Stage story s)
    (taken : s.step (.connectionReceives fallback) = some next) : Stage story next := by
  unfold System.step at taken
  cases stage with
  | quiet free none ahead late calling idle =>
      cases sent : s.toConnection with
      | nil =>
          rw [sent] at taken
          cases taken
      | cons message rest =>
          rw [sent] at taken ahead
          obtain ⟨⟨now, rfl⟩, behind⟩ := closes_cons message rest ahead
          cases taken
          refine .quiet free none behind late (fun on => ?_) (fun _ on => by cases on)
          rw [(calling on).drained] at sent
          cases sent
  | asking now ahead remote set none sent closes late idle user =>
      rw [sent] at taken
      cases ahead with
      | nil =>
          obtain ⟨connection, received, rfl⟩ := Option.map_eq_some_iff.mp taken
          obtain ⟨kept, known, rfl⟩ := Option.map_eq_some_iff.mp received
          obtain rfl := kept_set now fallback kept set known
          exact .ringing kept remote rfl rfl late (Bool.eq_false_iff.mpr fun on => idle on rfl) user
      | cons message rest =>
          obtain ⟨⟨now, rfl⟩, behind⟩ := closes_cons message rest closes
          cases taken
          exact .asking _ rest remote set none rfl behind late (fun on => by cases on) user
  | ringing _ _ _ drained _ _ _ =>
      rw [drained] at taken
      cases taken
  | answered _ _ _ _ _ _ drained _ _ _ _ _ _ =>
      rw [drained] at taken
      cases taken

theorem answer_received (now : Int) (accepted : Bool) :
    (⟨true, some now, false⟩ : Remote).handleMsgFromPeer (.voiceCallResponse accepted now) = ⟨true, none, accepted⟩ := by
  unfold Remote.handleMsgFromPeer
  dsimp only
  rw [if_pos rfl]
  cases accepted <;> rfl

theorem remote_receives_stage (story : Story) (s next : System) (stage : Stage story s) (taken : s.step .remoteReceives = some next) : Stage story next := by
  obtain ⟨message, rest, arrived, rfl⟩ := remote_received s next taken
  cases stage with
  | quiet free none ahead late calling idle =>
      rw [arrived] at late
      obtain ⟨⟨now, rfl⟩, behind⟩ := closes_cons message rest late
      by_cases on : s.remote.stopVoiceCallSender = true
      · have shared : s.connection.voiceCalling = false := by
          obtain ⟨_, _, empty⟩ | ⟨hung, _⟩ := (calling on).shared
          · rw [arrived] at empty
            cases empty
          · exact hung
        rw [Remote.handleMsgFromPeer, if_pos on]
        refine .quiet free none ahead behind (fun on => by cases on) (fun _ marked => ?_)
        rw [shared] at marked
        cases marked
      · rw [Remote.handleMsgFromPeer, if_neg on]
        exact .quiet free none ahead behind (fun held => absurd held on) idle
  | asking now ahead remote set none sent closes late idle user =>
      rw [arrived] at late
      obtain ⟨⟨_, rfl⟩, behind⟩ := closes_cons message rest late
      rw [remote]
      exact .asking now ahead rfl set none sent closes behind idle user
  | ringing now remote held drained late off user =>
      rw [arrived] at late
      obtain ⟨⟨_, rfl⟩, behind⟩ := closes_cons message rest late
      rw [remote]
      exact .ringing now rfl held drained behind off user
  | answered now accepted before late remote none drained sent closes behind marked told user =>
      rw [arrived] at sent
      rw [remote]
      cases before with
      | nil =>
          obtain ⟨rfl, rfl⟩ := List.cons_eq_cons.mp sent
          rw [answer_received]
          cases accepted with
          | false =>
              refine .quiet rfl none (by rw [drained]; exact closes_nil) behind (fun on => by cases on) (fun _ on => ?_)
              exact absurd (marked on).1 (by decide)
          | true =>
              obtain ⟨accepted, known⟩ := told rfl
              refine .quiet rfl none (by rw [drained]; exact closes_nil) behind (fun _ => ⟨by rw [user]; rfl, accepted, drained, ?_⟩) (fun off => by cases off)
              cases rest with
              | nil => exact .inl ⟨(known rfl).1, (known rfl).2, rfl⟩
              | cons message rest =>
                  refine .inr ⟨Bool.eq_false_iff.mpr fun on => ?_, List.cons_ne_nil _ _⟩
                  cases (marked on).2
      | cons first before =>
          obtain ⟨rfl, rfl⟩ := List.cons_eq_cons.mp sent
          obtain ⟨⟨_, rfl⟩, ahead⟩ := closes_cons message before closes
          exact .answered now accepted before late rfl none drained rfl ahead behind marked told user

theorem answer_stage (story : Story) (s : System) (accepted : Bool) (stage : Stage story s) :
    Stage (story.tell (s, .answer accepted)) (s.handleVoiceCall accepted) := by
  have idle : s.connection.voiceCallRequestTimestamp = none → story.tell (s, .answer accepted) = story ∧ s.handleVoiceCall accepted = s := by
    intro none
    rw [System.handleVoiceCall, none]
    refine ⟨?_, rfl⟩
    cases accepted with
    | false => rfl
    | true =>
        unfold Story.tell
        rw [none]
        rfl
  cases stage with
  | quiet free none ahead late calling off =>
      rw [(idle none).1, (idle none).2]
      exact .quiet free none ahead late calling off
  | asking now ahead remote set none sent closes late off user =>
      rw [(idle none).1, (idle none).2]
      exact .asking now ahead remote set none sent closes late off user
  | ringing now remote held drained late off user =>
      rw [System.handleVoiceCall, held]
      cases accepted with
      | false => exact .answered now false s.toRemote [] remote rfl drained rfl late closes_nil (fun on => by cases on) (fun on => by cases on) user
      | true =>
          unfold Story.tell
          rw [held]
          exact .answered now true s.toRemote [] remote rfl drained rfl late closes_nil (fun _ => ⟨rfl, rfl⟩) (fun _ => ⟨rfl, fun _ => ⟨rfl, rfl⟩⟩) user
  | answered now answer before late remote none drained sent closes behind marked told user =>
      rw [(idle none).1, (idle none).2]
      exact .answered now answer before late remote none drained sent closes behind marked told user

theorem hang_up_stage (story : Story) (s next : System) (now : Int) (stage : Stage story s) (taken : s.step (.hangUp now) = some next) :
    Stage { story with closed := true } next := by
  cases taken
  cases stage with
  | quiet free none ahead late calling _ =>
      refine .quiet free none ahead (closes_snoc _ now late) (fun on => ?_) (fun _ on => by cases on)
      have held := calling on
      exact { held with shared := .inr ⟨rfl, List.append_ne_nil_of_right_ne_nil _ (List.cons_ne_nil _ _)⟩ }
  | asking request ahead remote set none sent closes late _ user =>
      exact .asking request ahead remote set none sent closes (closes_snoc _ now late) (fun on => by cases on) user
  | ringing request remote held drained late _ user =>
      exact .ringing request remote held drained (closes_snoc _ now late) rfl user
  | answered request accepted before late remote none drained sent closes behind _ told user =>
      refine .answered request accepted before (late ++ [.voiceCallRequest false now]) remote none drained ?_ closes (closes_snoc _ now behind)
        (fun on => by cases on) (fun yes => ⟨(told yes).1, fun empty => ?_⟩) user
      · dsimp only
        rw [sent, List.append_assoc, List.cons_append]
      · exact absurd empty (List.append_ne_nil_of_right_ne_nil _ (List.cons_ne_nil _ _))

theorem switch_audio_same (c : Connection) (enabled : Bool) :
    (c.switchAudio enabled).voiceCallRequestTimestamp = c.voiceCallRequestTimestamp ∧ (c.switchAudio enabled).voiceCalling = c.voiceCalling ∧
      (c.switchAudio enabled).viewCamera = c.viewCamera := by
  unfold Connection.switchAudio
  split
  · split <;> exact ⟨rfl, rfl, rfl⟩
  · exact ⟨rfl, rfl, rfl⟩

theorem audio_stage (story : Story) (s next : System) (enabled : Bool) (stage : Stage story s) (taken : s.step (.audio enabled) = some next) :
    Stage story next := by
  obtain ⟨request, on, _⟩ := switch_audio_same s.connection enabled
  cases taken
  cases stage with
  | quiet free none ahead late calling idle =>
      refine .quiet free (request.trans none) ahead late (fun held => ?_) (fun off marked => idle off (on.symm.trans marked))
      obtain ⟨asked, accepted, drained, shared⟩ := calling held
      exact ⟨asked, accepted, drained, by rw [on]; exact shared⟩
  | asking now ahead remote set none sent closes late idle user =>
      exact .asking now ahead remote set (request.trans none) sent closes late (fun marked => idle (on.symm.trans marked)) user
  | ringing now remote held drained late off user => exact .ringing now remote (request.trans held) drained late (on.trans off) user
  | answered now accepted before late remote none drained sent closes behind marked told user =>
      refine .answered now accepted before late remote (request.trans none) drained sent closes behind (fun held => marked (on.symm.trans held)) ?_ user
      exact fun yes => ⟨(told yes).1, fun empty => ⟨((told yes).2 empty).1, on.trans ((told yes).2 empty).2⟩⟩

theorem stage_step (story : Story) (s next : System) (event : Event) (stage : Stage story s) (fits : Fits s event) (taken : s.step event = some next) :
    Stage (story.tell (s, event)) next := by
  cases event with
  | newVoiceCall now fallback => exact new_stage story s next now fallback stage fits taken
  | closeVoiceCall now =>
      cases taken
      exact close_stage story s now stage fits
  | connectionReceives fallback => exact connection_receives_stage story s next fallback stage taken
  | remoteReceives => exact remote_receives_stage story s next stage taken
  | answer accepted =>
      cases taken
      exact answer_stage story s accepted stage
  | hangUp now => exact hang_up_stage story s next now stage taken
  | audio enabled => exact audio_stage story s next enabled stage taken

-- What a step of the system can do to the host's side.
inductive Goes (c : Connection) : Event → Connection → Prop where
  | same (event : Event) : Goes c event c
  | asked (event : Event) (timestamp : Int) : Goes c event { c with voiceCallRequestTimestamp := some timestamp }
  | closed (event : Event) : Goes c event c.closeVoiceCall
  | answered (accepted : Bool) : c.voiceCallRequestTimestamp.isSome = true →
      Goes c (.answer accepted) { c with voiceCallRequestTimestamp := none, voiceCalling := accepted,
                                         audioSubscribed := if c.viewCamera then c.audioEnabled && accepted else c.audioSubscribed }
  | switched (enabled : Bool) : Goes c (.audio enabled) (c.switchAudio enabled)

theorem step_goes (s next : System) (event : Event) (taken : s.step event = some next) : Goes s.connection event next.connection := by
  cases event with
  | newVoiceCall now fallback =>
      obtain ⟨_, _, rfl⟩ := Option.map_eq_some_iff.mp taken
      exact .same _
  | closeVoiceCall now =>
      cases taken
      exact .same _
  | connectionReceives fallback =>
      obtain ⟨message, _, after, _, received, rfl⟩ := connection_received s next fallback taken
      unfold Connection.onMessage at received
      split at received
      · obtain ⟨timestamp, _, rfl⟩ := Option.map_eq_some_iff.mp received
        exact .asked _ timestamp
      · cases received
        exact .closed _
      · cases received
        exact .same _
  | remoteReceives =>
      obtain ⟨_, _, _, rfl⟩ := remote_received s next taken
      exact .same _
  | answer accepted =>
      cases taken
      unfold System.handleVoiceCall
      cases held : s.connection.voiceCallRequestTimestamp with
      | none => exact .same _
      | some timestamp => exact .answered accepted (by rw [held]; rfl)
  | hangUp now =>
      cases taken
      exact .closed _
  | audio enabled =>
      cases taken
      exact .switched enabled

theorem step_marks (s next : System) (event : Event) (taken : s.step event = some next) (on : next.connection.voiceCalling = true) :
    s.connection.voiceCalling = true ∨ (event = .answer true ∧ s.connection.voiceCallRequestTimestamp.isSome = true) := by
  have goes := step_goes s next event taken
  generalize next.connection = after at goes on
  cases goes with
  | same | asked => exact .inl on
  | closed => cases on
  | answered accepted held =>
      obtain rfl : accepted = true := on
      exact .inr ⟨rfl, held⟩
  | switched enabled => exact .inl ((switch_audio_same s.connection enabled).2.1.symm.trans on)

-- A view-camera connection is subscribed to the audio only while its call is on.
def Subscribed (c : Connection) : Prop := c.viewCamera = true → c.audioSubscribed = true → c.voiceCalling = true

-- The audio goes out only while it is permitted.
def Permitted (c : Connection) : Prop := c.audioSubscribed = true → c.audioEnabled = true

theorem step_subscribed (s next : System) (event : Event) (held : Subscribed s.connection) (taken : s.step event = some next) :
    Subscribed next.connection := by
  have goes := step_goes s next event taken
  generalize next.connection = after at goes
  cases goes with
  | same | asked => exact held
  | closed =>
      intro camera on
      unfold Connection.closeVoiceCall at camera on
      rw [if_pos camera] at on
      cases on
  | answered accepted =>
      intro camera on
      rw [if_pos camera] at on
      exact (Bool.and_eq_true_iff.mp on).2
  | switched enabled =>
      intro camera on
      obtain ⟨_, same, kept⟩ := switch_audio_same s.connection enabled
      rw [kept] at camera
      rw [same]
      unfold Connection.switchAudio at on
      rw [if_pos camera] at on
      by_cases calling : s.connection.voiceCalling = true
      · exact calling
      · rw [Bool.eq_false_iff.mpr calling, Bool.false_or] at on
        cases enabled with
        | false => cases on
        | true => exact held camera on

theorem step_permitted (s next : System) (event : Event) (held : Permitted s.connection) (taken : s.step event = some next) :
    Permitted next.connection := by
  have goes := step_goes s next event taken
  generalize next.connection = after at goes
  cases goes with
  | same | asked => exact held
  | closed =>
      intro on
      unfold Connection.closeVoiceCall at on
      split at on
      · cases on
      · exact held on
  | answered accepted =>
      intro on
      split at on
      · exact (Bool.and_eq_true_iff.mp on).1
      · exact held on
  | switched enabled =>
      unfold Connection.switchAudio
      split
      · split
        · exact fun on => on
        · next unswitched =>
          rintro -
          cases enabled with
          | true => rfl
          | false => simp at unswitched
      · exact fun on => on

theorem stage_consistent (story : Story) (s : System) (stage : Stage story s) (subscribed : Subscribed s.connection) : Consistent story s := by
  refine ⟨fun on => ?_, fun timestamp held => ?_, fun event next => step_marks s next event, subscribed, fun drained empty free none => ?_⟩
  · obtain ⟨_, _, late, calling, _⟩ := quiet_stage story s stage (.inr on)
    obtain ⟨asked, accepted, _, shared⟩ := calling on
    refine ⟨asked, accepted, ?_⟩
    obtain ⟨closed, _, _⟩ | ⟨_, sent⟩ := shared
    · exact .inl closed
    · obtain ⟨message, rest, known⟩ := List.exists_cons_of_ne_nil sent
      obtain ⟨now, rfl⟩ := late message (by rw [known]; exact List.mem_cons_self)
      exact .inr ⟨now, by rw [known]; exact List.mem_cons_self⟩
  · cases stage with
    | ringing now _ ringing _ _ _ user => exact user.trans (ringing.symm.trans held)
    | quiet _ none | asking _ _ _ _ none | answered _ _ _ _ _ none =>
        rw [none] at held
        cases held
  · obtain ⟨_, _, _, calling, idle⟩ := quiet_stage story s stage (.inl free)
    by_cases on : s.remote.stopVoiceCallSender = true
    · obtain ⟨_, marked, _⟩ | ⟨_, sent⟩ := (calling on).shared
      · exact on.trans marked.symm
      · exact absurd empty sent
    · have off := Bool.eq_false_iff.mpr on
      rw [off, Bool.eq_false_iff.mpr fun marked => idle off marked drained]

theorem voice_call (capturesVoice viewCamera audioEnabled : Bool) (past : List (System × Event)) (s : System)
    (traced : Machine.Traced System.step (.start capturesVoice viewCamera audioEnabled) past s) (fits : ∀ entry ∈ past, Fits entry.1 entry.2) :
    Consistent (storyOf past) s := by
  have held := Machine.traced_invariant System.step
    (fun past s => Subscribed s.connection ∧ ((∀ entry ∈ past, Fits entry.1 entry.2) → Stage (storyOf past) s)) _ s past ?_ ?_ traced
  · exact stage_consistent _ s (held.2 fits) held.1
  · refine ⟨fun camera on => ?_, fun _ => start_stage capturesVoice viewCamera audioEnabled⟩
    unfold System.start at camera on
    dsimp only at camera on
    rw [camera] at on
    cases on
  · rintro earlier state event next ⟨subscribed, stage⟩ taken
    refine ⟨step_subscribed state next event subscribed taken, fun fitting => ?_⟩
    obtain ⟨before, last⟩ := List.forall_mem_append.mp fitting
    rw [story_snoc]
    exact stage_step _ state next event (stage before) (last (state, event) List.mem_cons_self) taken

-- A call that is asked for, accepted and answered.
def acceptedCall : List Event := [.newVoiceCall 1000 1000, .connectionReceives 1001, .answer true, .remoteReceives]

-- The user hangs up while the host accepts: the two messages cross.
def crossingCancel : List Event :=
  [.newVoiceCall 1000 1000, .closeVoiceCall 1005, .connectionReceives 1006, .answer true, .connectionReceives 1007, .remoteReceives]

theorem accepted_call_runs : (Machine.run System.step (.start true false true) acceptedCall).isSome = true := by decide

theorem crossing_cancel_runs : (Machine.run System.step (.start true false true) crossingCancel).isSome = true := by decide

theorem voice_call_accepted : Consistent (storyOf (Machine.trace System.step (.start true false true) acceptedCall))
    ((Machine.run System.step (.start true false true) acceptedCall).get accepted_call_runs) := by
  apply voice_call true false true _ _ (Machine.traced_run _ _ _ accepted_call_runs)
  refine List.forall_mem_cons.mpr ⟨⟨rfl, rfl, rfl, by decide⟩, ?_⟩
  exact List.forall_mem_cons.mpr ⟨trivial, List.forall_mem_cons.mpr ⟨trivial, List.forall_mem_singleton.mpr trivial⟩⟩

theorem microphone_after_hang_up : ∃ past s, Machine.Traced System.step (.start true false true) past s ∧ s.remote.stopVoiceCallSender = true ∧
    s.connection.voiceCalling = false ∧ ¬ Consistent (storyOf past) s := by
  refine ⟨_, _, Machine.traced_run System.step (.start true false true) crossingCancel crossing_cancel_runs, by decide, by decide, fun held => ?_⟩
  exact absurd (held.microphone (by decide)).1 (by decide)

-- The host's user accepted a request, and the call has been on ever since.
def AcceptedIn (past : List (System × Event)) : Prop :=
  ∃ before asked after, past = before ++ (asked, .answer true) :: after ∧ asked.connection.voiceCallRequestTimestamp.isSome = true ∧
    ∀ entry ∈ after, entry.1.connection.voiceCalling = true

-- In every run, whatever crosses.
theorem audio_permitted (capturesVoice viewCamera audioEnabled : Bool) (past : List (System × Event)) (s : System)
    (traced : Machine.Traced System.step (.start capturesVoice viewCamera audioEnabled) past s) :
    (s.connection.voiceCalling = true → AcceptedIn past) ∧ Permitted s.connection ∧ Subscribed s.connection := by
  refine Machine.traced_invariant System.step (fun past s => (s.connection.voiceCalling = true → AcceptedIn past) ∧ Permitted s.connection ∧
    Subscribed s.connection) _ s past ⟨(fun on => by cases on), (fun on => (Bool.and_eq_true_iff.mp on).2), ?_⟩ ?_ traced
  · intro camera on
    simp_all [System.start]
  · rintro earlier state event next ⟨accepted, permitted, subscribed⟩ taken
    refine ⟨fun on => ?_, step_permitted state next event permitted taken, step_subscribed state next event subscribed taken⟩
    obtain calling | ⟨rfl, asked⟩ := step_marks state next event taken on
    · obtain ⟨before, first, after, rfl, asked, stays⟩ := accepted calling
      exact ⟨before, first, after ++ [(state, event)], by simp, asked, List.forall_mem_append.mpr ⟨stays, List.forall_mem_singleton.mpr calling⟩⟩
    · exact ⟨earlier, state, [], rfl, asked, fun _ member => by cases member⟩

theorem camera_call_runs : (Machine.run System.step (.start true true true) acceptedCall).isSome = true := by decide

theorem audio_permitted_camera :
    let s := (Machine.run System.step (.start true true true) acceptedCall).get camera_call_runs
    s.connection.audioSubscribed = true ∧ (s.connection.voiceCalling = true → AcceptedIn (Machine.trace System.step (.start true true true) acceptedCall)) ∧
      Permitted s.connection ∧ Subscribed s.connection :=
  ⟨by decide, audio_permitted true true true _ _ (Machine.traced_run _ _ _ camera_call_runs)⟩

end GotechDesk.VoiceCall
