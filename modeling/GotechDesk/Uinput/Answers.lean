import GotechDesk.Uinput.Service

set_option autoImplicit false

namespace GotechDesk.Uinput

open GotechDesk.Exchange

-- A key state is what was found for that very call, or false after an error; a confirmed
-- range is in a device made since the call began.
def Right (s : System) : Outcome → Prop
  | .keyState _ none state => state = false
  | .keyState call (some request) state => request = call ∧ (call, state) ∈ s.determined
  | .resolution update began device => ∃ made, device = some made ∧ began < made.created ∧ update ≤ made.setBy

def Belongs (s : System) : Prop := ∀ outcome ∈ s.returned, Right s outcome

-- A call waits on a stream with nothing left in it, the service does not answer a key state
-- whose call gave up while another one waits, and ranges are stored in the order of their calls.
def Fits (s : System) : Label → Prop
  | .getKeyState _ => s.keyboard.answers = []
  | .handleKeyboard report => s.keyboard.late (fun request => (request.answer report).isSome) = false
  | .sendRefresh _ => s.mouse.answers = []
  | .handleControl update => s.setBy ≤ update
  | _ => True

instance (s : System) (label : Label) : Decidable (Fits s label) :=
  match label with
  | .getKeyState _ => inferInstanceAs (Decidable (s.keyboard.answers = []))
  | .handleKeyboard report => inferInstanceAs (Decidable (s.keyboard.late (fun request => (request.answer report).isSome) = false))
  | .sendRefresh _ => inferInstanceAs (Decidable (s.mouse.answers = []))
  | .handleControl update => inferInstanceAs (Decidable (s.setBy ≤ update))
  | .key _ | .keyAnswer | .keyError | .mouseEvent _ | .setResolution _ | .setAnswer _ | .leaveUpdate _ | .handleMouse _ | .refreshAnswer
  | .refreshError | .setup _ => inferInstanceAs (Decidable True)

def MadeFor (s : System) (update began : Nat) : Prop := ∃ made, s.device = some made ∧ began < made.created ∧ update ≤ made.setBy

structure Sound (s : System) : Prop where
  matched : s.keyboard.Matched
  known : ∀ entry ∈ s.keyboard.answers, entry ∈ s.determined
  busy : s.refreshing.isSome = s.mouse.waiting.isSome
  fresh : ∀ update began, s.refreshing = some (update, began) →
    update ≤ s.setBy ∧ began < s.clock ∧ (s.mouse.answers ≠ [] → MadeFor s update began)
  updates : ∀ update entry, Table.get s.updates update = some entry →
    entry.began < s.clock ∧ (entry.stage ≠ .setting → update ≤ s.setBy)
  belongs : Belongs s

section
variable (s next : System)

theorem right_mono (outcome : Outcome) (kept : ∀ entry ∈ s.determined, entry ∈ next.determined) (right : Right s outcome) : Right next outcome := by
  cases outcome with
  | resolution update began device => exact right
  | keyState call answered state =>
      cases answered with
      | none => exact right
      | some request => exact ⟨right.1, kept _ right.2⟩

theorem belongs_mono (same : next.returned = s.returned) (kept : ∀ entry ∈ s.determined, entry ∈ next.determined)
    (belongs : Belongs s) : Belongs next := by
  intro outcome member
  rw [same] at member
  exact right_mono s next outcome kept (belongs outcome member)

theorem belongs_returned (outcome : Outcome) (listed : next.returned = s.returned ++ [outcome])
    (kept : next.determined = s.determined) (belongs : Belongs s) (right : Right s outcome) : Belongs next := by
  have same : ∀ entry ∈ s.determined, entry ∈ next.determined := by
    rw [kept]
    exact fun _ member => member
  intro other member
  rw [listed] at member
  rcases List.mem_append.mp member with old | new
  · exact right_mono s next other same (belongs other old)
  · rw [List.mem_singleton.mp new]
    exact right_mono s next outcome same right

theorem advance_cases (update : Nat) (held stage : Stage) (advanced : s.advance update held stage = some next) :
    ∃ entry, Table.get s.updates update = some entry ∧ entry.stage = held ∧
      next = { s with updates := Table.insert s.updates update { entry with stage } } := by
  rw [System.advance] at advanced
  cases found : Table.get s.updates update with
  | none =>
      rw [found] at advanced
      cases advanced
  | some entry =>
      rw [found] at advanced
      dsimp only at advanced
      by_cases same : entry.stage = held
      · rw [if_pos same] at advanced
        exact ⟨entry, rfl, same, (Option.some.inj advanced).symm⟩
      · rw [if_neg same] at advanced
        cases advanced

theorem store_cases (update : Nat) (stored : s.storeResolution update = some next) :
    ∃ resolution, Table.get s.controls update = some resolution ∧
      let written := { s with resolution, setBy := update, controls := Table.remove s.controls update }
      next = written ∨ written.advance update .setting .stored = some next := by
  rw [System.storeResolution] at stored
  cases found : Table.get s.controls update with
  | none =>
      rw [found] at stored
      cases stored
  | some resolution =>
      rw [found] at stored
      dsimp only at stored
      refine ⟨resolution, rfl, ?_⟩
      dsimp only
      cases advanced : ({ s with resolution, setBy := update, controls := Table.remove s.controls update } : System).advance update
          .setting .stored with
      | none =>
          rw [advanced] at stored
          exact .inl (Option.some.inj stored).symm
      | some moved =>
          rw [advanced] at stored
          exact .inr stored

theorem refresh_cases (update : Nat) (begun : s.beginRefresh update = some next) :
    ∃ entry, Table.get s.updates update = some entry ∧ s.free = true ∧ entry.stage = .confirmed ∧
      next = { s with mouse := s.mouse.call .refresh, refreshing := some (update, entry.began), updates := Table.remove s.updates update } := by
  rw [System.beginRefresh] at begun
  cases found : Table.get s.updates update with
  | none =>
      rw [found] at begun
      cases begun
  | some entry =>
      rw [found] at begun
      dsimp only at begun
      by_cases ready : (s.free && decide (entry.stage = .confirmed)) = true
      · rw [if_pos ready] at begun
        simp only [Bool.and_eq_true, decide_eq_true_eq] at ready
        exact ⟨entry, rfl, ready.1, ready.2, (Option.some.inj begun).symm⟩
      · rw [if_neg ready] at begun
        cases begun

end

theorem free_cases (s : System) (free : s.free = true) : s.keyboard.waiting = none ∧ s.mouse.waiting = none := by
  simpa [System.free] using free

-- A device is left as it is, or made anew from the range stored by now.
theorem mouse_cases (s next : System) (created : Bool) (handled : s.handleMouse created = some next) :
    ∃ mouse device, s.mouse.serve (DataMouse.answer created) = some mouse ∧ next = { s with mouse, device } ∧
      ((device = s.device ∧ mouse.answers = s.mouse.answers) ∨ device = some s.newDevice) := by
  rw [System.handleMouse] at handled
  cases held : s.device with
  | none =>
      rw [held] at handled
      cases handled
  | some device =>
      rw [held] at handled
      obtain ⟨mouse, served, rfl⟩ := Option.map_eq_some_iff.mp handled
      obtain ⟨number, request, rest, queued, rfl⟩ := serve_cases s.mouse mouse _ served
      refine ⟨_, _, served, rfl, ?_⟩
      by_cases remade : (created && decide (s.mouse.requests.head?.map Prod.snd = some .refresh)) = true
      · exact .inr (if_pos remade)
      · refine .inl ⟨if_neg remade, ?_⟩
        have silent : request.answer created = none := by
          rw [queued] at remade
          cases request with
          | event code => rfl
          | refresh =>
              cases created with
              | false => rfl
              | true => exact absurd rfl remade
        rw [silent]
        exact List.append_nil _

def Dated (s : System) : Prop := ∀ update entry, Table.get s.updates update = some entry →
  entry.began < s.clock ∧ (entry.stage ≠ .setting → update ≤ s.setBy)

section
variable (s : System)

theorem dated_later (dated : Dated s) (update : Nat) (entry : Update) (found : Table.get s.updates update = some entry) :
    entry.began < s.clock + 1 ∧ (entry.stage ≠ .setting → update ≤ s.setBy) :=
  ⟨Nat.lt_succ_of_lt (dated update entry found).1, (dated update entry found).2⟩

-- A step on the keyboard stream.
theorem sound_keyboard (keyboard : Channel DataKeyboard Bool) (determined : List (Nat × Bool)) (returned : List Outcome)
    (sound : Sound s) (matched : keyboard.Matched) (known : ∀ entry ∈ keyboard.answers, entry ∈ determined)
    (belongs : Belongs { s with keyboard, determined, returned, clock := s.clock + 1 }) :
    Sound { s with keyboard, determined, returned, clock := s.clock + 1 } := by
  refine ⟨matched, known, sound.busy, ?_, dated_later s sound.updates, belongs⟩
  intro update began refreshing
  obtain ⟨ordered, before, made⟩ := sound.fresh update began refreshing
  exact ⟨ordered, Nat.lt_succ_of_lt before, made⟩

-- A step of the calls that set the range.
theorem sound_updates (resolution : Resolution) (setBy issued : Nat) (updates : List (Nat × Update))
    (controls : List (Nat × Resolution)) (sound : Sound s) (ordered : s.setBy ≤ setBy)
    (dated : ∀ update entry, Table.get updates update = some entry →
      entry.began < s.clock + 1 ∧ (entry.stage ≠ .setting → update ≤ setBy)) :
    Sound { s with resolution, setBy, issued, updates, controls, clock := s.clock + 1 } := by
  refine ⟨sound.matched, sound.known, sound.busy, ?_, dated, belongs_mono s _ rfl (fun _ member => member) sound.belongs⟩
  intro update began refreshing
  obtain ⟨stored, before, made⟩ := sound.fresh update began refreshing
  exact ⟨Nat.le_trans stored ordered, Nat.lt_succ_of_lt before, made⟩

-- A step on the mouse stream.
theorem sound_mouse (mouse : Channel DataMouse Unit) (device : Option Device) (refreshing : Option (Nat × Nat))
    (updates : List (Nat × Update)) (returned : List Outcome) (sound : Sound s) (busy : refreshing.isSome = mouse.waiting.isSome)
    (fresh : ∀ update began, refreshing = some (update, began) → update ≤ s.setBy ∧ began < s.clock + 1 ∧
      (mouse.answers ≠ [] → MadeFor { s with device } update began))
    (dated : ∀ update entry, Table.get updates update = some entry → entry.began < s.clock + 1 ∧ (entry.stage ≠ .setting → update ≤ s.setBy))
    (belongs : Belongs { s with mouse, device, refreshing, updates, returned, clock := s.clock + 1 }) :
    Sound { s with mouse, device, refreshing, updates, returned, clock := s.clock + 1 } :=
  ⟨sound.matched, sound.known, busy, fresh, dated, belongs⟩

theorem keyboard_handled (keyboard : Channel DataKeyboard Bool) (report : Report) (sound : Sound s)
    (served : s.keyboard.serve (DataKeyboard.answer report) = some keyboard) :
    ∀ entry ∈ keyboard.answers, entry ∈ s.determined ++ determine report s.keyboard.requests := by
  obtain ⟨number, request, rest, queued, rfl⟩ := serve_cases s.keyboard keyboard _ served
  intro entry member
  rcases List.mem_append.mp member with old | new
  · exact List.mem_append_left _ (sound.known entry old)
  · apply List.mem_append_right
    rw [queued]
    exact new

theorem sound_answer (keyboard : Channel DataKeyboard Bool) (call : Nat) (entry : Nat × Bool) (sound : Sound s)
    (received : s.keyboard.receive = some (call, entry, keyboard)) :
    Sound { s with keyboard, returned := s.returned ++ [.keyState call (some entry.1) entry.2], clock := s.clock + 1 } := by
  have own := received_own s.keyboard keyboard call entry received sound.matched
  have matched := matched_receive s.keyboard keyboard call entry received
  obtain ⟨_, rest, stream, rfl⟩ := receive_cases s.keyboard keyboard call entry received
  have known : entry ∈ s.determined := sound.known entry (by simp [stream])
  refine sound_keyboard s _ s.determined _ sound matched ?_ ?_
  · intro other member
    exact sound.known other (by simp only [stream, List.mem_cons_of_mem entry member])
  · refine belongs_returned s _ _ rfl rfl sound.belongs ⟨own, ?_⟩
    rw [← own]
    exact known

end

theorem sound_refresh (s next : System) (update : Nat) (sound : Sound s) (begun : s.beginRefresh update = some next)
    (clean : s.mouse.answers = []) : Sound { next with clock := s.clock + 1 } := by
  obtain ⟨entry, found, free, ready, rfl⟩ := refresh_cases s next update begun
  obtain ⟨before, ordered⟩ := sound.updates update entry found
  refine sound_mouse s _ s.device _ _ s.returned sound rfl ?_ ?_ (belongs_mono s _ rfl (fun _ member => member) sound.belongs)
  · intro other began refreshing
    obtain ⟨rfl, rfl⟩ := Option.some.inj refreshing
    refine ⟨ordered ?_, Nat.lt_succ_of_lt before, fun stream => absurd clean stream⟩
    rw [ready]
    exact fun same => Stage.noConfusion same
  · intro other held listed
    rw [Table.get_remove] at listed
    split at listed
    · cases listed
    · exact dated_later s sound.updates other held listed

theorem sound_handle_mouse (s next : System) (created : Bool) (sound : Sound s) (handled : s.handleMouse created = some next) :
    Sound { next with clock := s.clock + 1 } := by
  obtain ⟨mouse, device, served, rfl, moved⟩ := mouse_cases s next created handled
  obtain ⟨number, request, rest, queued, rfl⟩ := serve_cases s.mouse mouse _ served
  refine sound_mouse s _ device s.refreshing s.updates s.returned sound sound.busy ?_ (dated_later s sound.updates)
    (belongs_mono s _ rfl (fun _ member => member) sound.belongs)
  intro update began refreshing
  obtain ⟨ordered, before, made⟩ := sound.fresh update began refreshing
  refine ⟨ordered, Nat.lt_succ_of_lt before, ?_⟩
  intro stream
  rcases moved with ⟨rfl, same⟩ | rfl
  · rw [same] at stream
    exact made stream
  · exact ⟨s.newDevice, rfl, before, ordered⟩

theorem sound_refreshed (s : System) (mouse : Channel DataMouse Unit) (update began call : Nat) (entry : Nat × Unit) (sound : Sound s)
    (refreshing : s.refreshing = some (update, began)) (received : s.mouse.receive = some (call, entry, mouse)) :
    Sound { s with mouse, refreshing := none, returned := s.returned ++ [.resolution update began s.device], clock := s.clock + 1 } := by
  obtain ⟨_, rest, stream, rfl⟩ := receive_cases s.mouse mouse call entry received
  obtain ⟨_, _, made⟩ := sound.fresh update began refreshing
  refine sound_mouse s _ s.device none s.updates _ sound rfl (fun _ _ idle => by cases idle) (dated_later s sound.updates) ?_
  refine belongs_returned s _ _ rfl rfl sound.belongs (made ?_)
  rw [stream]
  exact List.cons_ne_nil _ _

theorem sound_stored (s next : System) (update : Nat) (sound : Sound s) (stored : s.storeResolution update = some next)
    (ordered : s.setBy ≤ update) : Sound { next with clock := s.clock + 1 } := by
  obtain ⟨resolution, _, moved⟩ := store_cases s next update stored
  have kept : ∀ other entry, Table.get s.updates other = some entry →
      entry.began < s.clock + 1 ∧ (entry.stage ≠ .setting → other ≤ update) := by
    intro other entry found
    obtain ⟨before, known⟩ := dated_later s sound.updates other entry found
    exact ⟨before, fun stage => Nat.le_trans (known stage) ordered⟩
  rcases moved with rfl | advanced
  · exact sound_updates s resolution update s.issued s.updates _ sound ordered kept
  · obtain ⟨entry, found, _, rfl⟩ := advance_cases _ next update .setting .stored advanced
    refine sound_updates s resolution update s.issued _ _ sound ordered ?_
    intro other held listed
    rw [Table.get_insert] at listed
    by_cases same : other = update
    · rw [if_pos same] at listed
      rw [← Option.some.inj listed, same]
      exact ⟨(kept update entry found).1, fun _ => Nat.le_refl update⟩
    · rw [if_neg same] at listed
      exact kept other held listed

theorem sound_advance (s next : System) (update : Nat) (sound : Sound s) (advanced : s.advance update .stored .confirmed = some next) :
    Sound { next with clock := s.clock + 1 } := by
  obtain ⟨entry, found, stage, rfl⟩ := advance_cases s next update .stored .confirmed advanced
  refine sound_updates s s.resolution s.setBy s.issued _ s.controls sound (Nat.le_refl _) ?_
  intro other held listed
  rw [Table.get_insert] at listed
  by_cases same : other = update
  · rw [if_pos same] at listed
    obtain ⟨before, known⟩ := dated_later s sound.updates update entry found
    rw [← Option.some.inj listed, same]
    refine ⟨before, fun _ => known ?_⟩
    rw [stage]
    exact fun same => Stage.noConfusion same
  · rw [if_neg same] at listed
    exact dated_later s sound.updates other held listed

theorem sound_began (s : System) (resolution : Resolution) (sound : Sound s) :
    Sound { s with issued := s.issued + 1, controls := Table.insert s.controls (s.issued + 1) resolution,
                   updates := Table.insert s.updates (s.issued + 1) ⟨s.clock, .setting⟩, clock := s.clock + 1 } := by
  refine sound_updates s s.resolution s.setBy _ _ _ sound (Nat.le_refl _) ?_
  intro other held listed
  rw [Table.get_insert] at listed
  by_cases same : other = s.issued + 1
  · rw [if_pos same] at listed
    rw [← Option.some.inj listed]
    exact ⟨Nat.lt_succ_self _, fun stage => absurd rfl stage⟩
  · rw [if_neg same] at listed
    exact dated_later s sound.updates other held listed

theorem sound_step (s next : System) (label : Label) (sound : Sound s) (fits : Fits s label) (taken : s.step label = some next) :
    Sound next := by
  obtain ⟨after, acted, rfl⟩ := Option.map_eq_some_iff.mp taken
  have same : ∀ entry ∈ s.determined, entry ∈ s.determined := fun _ member => member
  cases label with
  | key data =>
      obtain ⟨_, rfl⟩ := Option.ite_some_none_eq_some.mp acted
      exact sound_keyboard s _ s.determined s.returned sound (matched_send _ _ sound.matched) sound.known (belongs_mono s _ rfl same sound.belongs)
  | getKeyState key =>
      obtain ⟨_, rfl⟩ := Option.ite_some_none_eq_some.mp acted
      exact sound_keyboard s _ s.determined s.returned sound (matched_call _ _ fits) sound.known (belongs_mono s _ rfl same sound.belongs)
  | handleKeyboard report =>
      obtain ⟨keyboard, served, rfl⟩ := Option.map_eq_some_iff.mp acted
      refine sound_keyboard s keyboard _ s.returned sound (matched_serve _ _ _ served sound.matched fits)
        (keyboard_handled s keyboard report sound served) (belongs_mono s _ rfl ?_ sound.belongs)
      exact fun entry member => List.mem_append_left _ member
  | keyAnswer =>
      obtain ⟨⟨call, entry, keyboard⟩, received, rfl⟩ := Option.map_eq_some_iff.mp acted
      exact sound_answer s keyboard call entry sound received
  | keyError =>
      obtain ⟨call, _, rfl⟩ := Option.map_eq_some_iff.mp acted
      exact sound_keyboard s _ s.determined _ sound (matched_expire _) sound.known (belongs_returned s _ _ rfl rfl sound.belongs rfl)
  | mouseEvent code =>
      obtain ⟨_, rfl⟩ := Option.ite_some_none_eq_some.mp acted
      refine sound_mouse s _ s.device s.refreshing s.updates s.returned sound sound.busy ?_ (dated_later s sound.updates)
        (belongs_mono s _ rfl same sound.belongs)
      intro update began refreshing
      obtain ⟨ordered, before, made⟩ := sound.fresh update began refreshing
      exact ⟨ordered, Nat.lt_succ_of_lt before, made⟩
  | setResolution resolution =>
      obtain rfl := Option.some.inj acted
      exact sound_began s resolution sound
  | handleControl update => exact sound_stored s after update sound acted fits
  | setAnswer update => exact sound_advance s after update sound acted
  | leaveUpdate update =>
      obtain rfl := Option.some.inj acted
      refine sound_updates s s.resolution s.setBy s.issued _ s.controls sound (Nat.le_refl _) ?_
      intro other held listed
      rw [Table.get_remove] at listed
      split at listed
      · cases listed
      · exact dated_later s sound.updates other held listed
  | sendRefresh update => exact sound_refresh s after update sound acted fits
  | handleMouse created => exact sound_handle_mouse s after created sound acted
  | refreshAnswer =>
      rw [System.act] at acted
      cases refreshing : s.refreshing with
      | none =>
          rw [refreshing] at acted
          cases acted
      | some held =>
          cases received : s.mouse.receive with
          | none =>
              rw [refreshing, received] at acted
              cases acted
          | some result =>
              obtain ⟨call, entry, mouse⟩ := result
              rw [refreshing, received] at acted
              obtain rfl := Option.some.inj acted
              exact sound_refreshed s mouse held.1 held.2 call entry sound refreshing received
  | refreshError =>
      obtain ⟨call, _, rfl⟩ := Option.map_eq_some_iff.mp acted
      exact sound_mouse s _ s.device none s.updates s.returned sound rfl (fun _ _ idle => by cases idle) (dated_later s sound.updates)
        (belongs_mono s _ rfl same sound.belongs)
  | setup created =>
      obtain ⟨free, rfl⟩ := Option.ite_some_none_eq_some.mp acted
      have idle : s.refreshing = none := by
        have busy := sound.busy
        rw [(free_cases s free).2] at busy
        exact Option.isNone_iff_eq_none.mp (by simpa using busy)
      exact {
        matched := matched_idle _ rfl
        known := fun _ member => by cases member
        busy := by
          rw [idle]
          rfl
        fresh := by
          intro update began refreshing
          rw [idle] at refreshing
          cases refreshing
        updates := dated_later s sound.updates
        belongs := belongs_mono s _ rfl same sound.belongs }

theorem sound_init : Sound {} :=
  { matched := matched_idle _ rfl
    known := fun _ member => by cases member
    busy := rfl
    fresh := fun _ _ refreshing => by cases refreshing
    updates := fun _ _ found => by cases found
    belongs := fun _ member => by cases member }

-- The answer about caps lock comes after its call gave up, and the next call takes it for its own.
def lateAnswer : List Label :=
  [.setup true, .getKeyState .capsLock, .keyError, .handleKeyboard ⟨some [.capsl], some []⟩, .getKeyState .shift, .keyAnswer]

theorem late_answer_runs : (Machine.run System.step {} lateAnswer).isSome = true := by decide

-- A key state, and a range that is set and confirmed by the device.
def timelyAnswers : List Label :=
  [.setResolution ⟨(0, 1919), (0, 1079)⟩, .handleControl 1, .setup true, .getKeyState .shift, .handleKeyboard ⟨some [], some [.leftShift]⟩,
    .keyAnswer, .setAnswer 1, .sendRefresh 1, .handleMouse true, .refreshAnswer]

theorem timely_answers_run : (Machine.run System.step {} timelyAnswers).isSome = true := by decide

end GotechDesk.Uinput
