import GotechDesk.Keyboard.PressedModifiers

set_option autoImplicit false

namespace GotechDesk.Keyboard.PressedModifiers

section
variable (platform : Platform) (keymap : Keymap) (desktop : Desktop)

-- The key whose press or release an event is.
def KeyEvent.moved (me : KeyEvent) : Option Key :=
  match me.mode with
  | .map => some (rawKey platform keymap me.chr)
  | .translate =>
      match me.union with
      | .chr code =>
          if platform = .windows then some (processedKey keymap code) else some (rawKey platform keymap code)
      | .win2winHotkey code => if platform = .windows ∧ desktop.typed = false then some (hotkeyKey keymap code) else none
      | _ => none

-- No event presses a modifier and leaves it down; and off Linux, where a click is noted as if it
-- stayed, none clicks one.
def Fits (enabled : Bool) : Label → Prop
  | .keyEvent me desktop => enabled = true →
      (platform.isLinux = false → me.press = true → me.key keymap = none) ∧
        ∀ key, key.isModifier = true → me.moved platform keymap desktop = some key → me.down = true → me.clicks platform keymap = true
  | .drop => True

structure Empty (state : State) : Prop where
  pressed : state.pressedModifiers = []
  free : ∀ key, key.isModifier = true → held state.simulated key = false

theorem empty_accurate (state : State) (empty : Empty state) : Accurate state := by
  intro key
  rw [empty.pressed]
  constructor
  · exact fun member => absurd member List.not_mem_nil
  · rintro ⟨modifier, down⟩
    rw [empty.free key modifier] at down
    cases down

theorem held_append (newer older : List (Key × Bool)) (key : Key) :
    held (newer ++ older) key = if key ∈ newer.map Prod.fst then held newer key else held older key := by
  induction newer with
  | nil => simp
  | cons event rest ih =>
      by_cases same : event.1 = key
      · simp [held, same]
      · have apart : ¬ key = event.1 := fun equal => same equal.symm
        simp [held, same, apart, ih]

theorem held_absent (events : List (Key × Bool)) (key : Key) (absent : key ∉ events.map Prod.fst) : held events key = false := by
  induction events with
  | nil => rfl
  | cons event rest ih =>
      obtain ⟨apart, later⟩ := not_or.mp (List.mem_cons.not.mp absent)
      rw [held, if_neg (fun same => apart same.symm)]
      exact ih later

-- Releases at the end of a text leave no Shift down.
theorem releases_free (events : List (Key × Bool)) (released : ∀ event ∈ events, event.2 = false) (key : Key) : held events key = false := by
  induction events with
  | nil => rfl
  | cons event rest ih =>
      obtain ⟨first, later⟩ := List.forall_mem_cons.mp released
      rw [held]
      split
      · exact first
      · exact ih later

theorem shift_released : ∀ event ∈ releaseShiftForCharInput desktop, event.2 = false := by
  intro event member
  unfold releaseShiftForCharInput at member
  split at member
  · cases member
  · rcases List.mem_append.mp member with left | right
    · split at left
      · rw [List.mem_singleton.mp left]
      · cases left
    · split at right
      · rw [List.mem_singleton.mp right]
      · cases right

theorem shift_reversed : ∀ event ∈ (releaseShiftForCharInput desktop).reverse, event.2 = false :=
  fun event member => shift_released desktop event (List.mem_reverse.mp member)

theorem seq_free (text : List Char) (key : Key) : held (translateSeq platform desktop text).reverse key = false := by
  have shift := releases_free _ (shift_reversed desktop) key
  cases platform with
  | macos => rfl
  | x11 => exact shift
  | waylandRdpInput => exact shift
  | windows => exact shift
  | waylandUinput =>
      rw [translateSeq]
      by_cases hotkey : desktop.hotkey = true
      · rw [if_pos hotkey]
        rfl
      · rw [if_neg hotkey, List.reverse_append, held_append, shift]
        by_cases ascii : text.all isAsciiPrintable = true
        · simp [ascii]
        · rw [if_neg ascii]
          simp only [inputTextViaClipboard, List.reverse_cons, List.reverse_nil, List.nil_append, List.singleton_append, held]
          by_cases same : Key.shiftLeft = key <;> simp [same]

section
variable (me : KeyEvent)

-- Every event but a text comes down to this: nothing, or the key it is of.
theorem handleKey_moved (down : Bool) (other : ∀ text, me.union = .seq text → me.mode = .map) : handleKey platform keymap desktop me down =
    (me.moved platform keymap desktop).elim [] (fun key => [(key, down)]) ∨
      (handleKey platform keymap desktop me down = [] ∨ down = false) ∧ me.moved platform keymap desktop = none := by
  cases mode : me.mode with
  | map =>
      left
      simp only [handleKey, KeyEvent.moved, mode, Option.elim_some]
  | translate =>
      cases union : me.union with
      | chr code =>
          left
          simp only [handleKey, KeyEvent.moved, mode, union]
          by_cases windows : platform = .windows
          · rw [if_pos windows, if_pos windows]
            rfl
          · rw [if_neg windows, if_neg windows]
            rfl
      | controlKey ck | unicode code =>
          left
          simp only [handleKey, KeyEvent.moved, mode, union, Option.elim_none]
      | seq text =>
          rw [other text union] at mode
          cases mode
      | win2winHotkey code =>
          simp only [handleKey, KeyEvent.moved, mode, union]
          by_cases windows : platform = .windows
          · cases typed : desktop.typed with
            | false =>
                left
                rw [if_pos windows, if_pos ⟨windows, rfl⟩, simulateWin2winHotkey, typed, Bool.and_false, if_neg Bool.false_ne_true]
                rfl
            | true =>
                right
                refine ⟨?_, if_neg (fun both => Bool.noConfusion both.2)⟩
                cases down with
                | false => exact .inr rfl
                | true =>
                    left
                    rw [if_pos windows, simulateWin2winHotkey, typed]
                    rfl
          · left
            rw [if_neg windows, if_neg (fun both => windows both.1)]
            rfl

theorem seq_moved (text : List Char) (union : me.union = .seq text) (mode : me.mode = .translate) : me.moved platform keymap desktop = none := by
  simp only [KeyEvent.moved, mode, union]

-- What is simulated for a release only releases, a text apart.
theorem handleKey_released (other : ∀ text, me.union = .seq text → me.mode = .map) :
    ∀ event ∈ handleKey platform keymap desktop me false, event.2 = false := by
  intro event member
  cases mode : me.mode with
  | map =>
      rw [handleKey, mode] at member
      rw [List.mem_singleton.mp member]
  | translate =>
      cases union : me.union with
      | seq text =>
          rw [other text union] at mode
          cases mode
      | chr code =>
          simp only [handleKey, mode, union, translateProcessCode] at member
          split at member <;> rw [List.mem_singleton.mp member]
      | win2winHotkey code =>
          simp only [handleKey, mode, union, simulateWin2winHotkey, Bool.false_and, Bool.false_eq_true, if_false] at member
          split at member
          · rw [List.mem_singleton.mp member]
          · cases member
      | controlKey ck | unicode code =>
          simp only [handleKey, mode, union] at member
          cases member

theorem handleKey_held (down : Bool) (key : Key) :
    held (handleKey platform keymap desktop me down).reverse key = true ↔ me.moved platform keymap desktop = some key ∧ down = true := by
  by_cases other : ∀ text, me.union = .seq text → me.mode = .map
  · rcases handleKey_moved platform keymap desktop me down other with events | ⟨nothing, none⟩
    · rw [events]
      cases me.moved platform keymap desktop with
      | none => simp [held]
      | some moved => by_cases same : moved = key <;> simp [held, same]
    · rw [none]
      rcases nothing with nothing | rfl
      · simp [nothing, held]
      · have released := handleKey_released platform keymap desktop me other
        rw [releases_free _ (fun event member => released event (List.mem_reverse.mp member))]
        simp
  · push Not at other
    obtain ⟨text, union, apart⟩ := other
    have mode : me.mode = .translate := by
      cases mode : me.mode with
      | map => exact absurd mode apart
      | translate => rfl
    rw [seq_moved platform keymap desktop me text union mode]
    simp only [handleKey, mode, union, seq_free]
    simp

-- A click of a key ends with its release.
theorem click_free (key : Key) (other : ∀ text, me.union = .seq text → me.mode = .map) :
    held (handleKey platform keymap desktop me true ++ handleKey platform keymap desktop me false).reverse key = false := by
  have up : held (handleKey platform keymap desktop me false).reverse key = false := by
    by_contra down
    have moved := (handleKey_held platform keymap desktop me false key).mp (Bool.eq_true_of_not_eq_false down)
    cases moved.2
  rw [List.reverse_append, held_append, up]
  split
  next => rfl
  next absent =>
    by_contra down
    have moved := (handleKey_held platform keymap desktop me true key).mp (Bool.eq_true_of_not_eq_false down)
    obtain events | ⟨-, none⟩ := handleKey_moved platform keymap desktop me false other
    · rw [moved.1] at events
      simp [events] at absent
    · rw [none] at moved
      cases moved.1

theorem clicks_plain (clicks : me.clicks platform keymap = true) (text : List Char) : me.union ≠ .seq text := by
  intro union
  simp [KeyEvent.clicks, union] at clicks

-- What an event leaves down.
theorem handleInput_held (key : Key) : held (handleInput platform keymap desktop me (me.clicks platform keymap)).reverse key = true ↔
      me.moved platform keymap desktop = some key ∧ me.down = true ∧ me.clicks platform keymap = false := by
  cases clicks : me.clicks platform keymap with
  | true =>
      have plain : ∀ text, me.union = .seq text → me.mode = .map := fun text union => absurd union (clicks_plain platform keymap me clicks text)
      rw [handleInput, if_pos rfl, click_free platform keymap desktop me key plain]
      simp
  | false =>
      rw [handleInput, if_neg Bool.false_ne_true, handleKey_held]
      simp

-- Only a raw code is taken for a modifier.
theorem key_code (key : Key) (found : me.key keymap = some key) : ∃ code, me.union = .chr code := by
  cases union : me.union with
  | chr code => exact ⟨code, rfl⟩
  | controlKey _ | unicode _ | seq _ | win2winHotkey _ =>
      cases mode : me.mode <;> simp [KeyEvent.key, KeyEvent.chr, mode, union, Option.filter, keymap.zero] at found

-- A modifier is inserted off Linux only, by a click that leaves it up.
theorem inserted_click (key : Key) (found : me.key keymap = some key) (press : me.isPress platform keymap = true) :
    platform.isLinux = false ∧ me.press = true ∧ me.clicks platform keymap = true := by
  obtain ⟨code, union⟩ := key_code keymap me key found
  have clicks : me.clicks platform keymap = true := by simp [KeyEvent.clicks, press, union]
  rw [KeyEvent.isPress] at press
  split at press
  next => simp [found] at press
  next other => exact ⟨by simpa using other, press, clicks⟩

end

section
variable (state : State) (me : KeyEvent)

theorem onMessage_held (empty : Empty state) (key : Key) (modifier : key.isModifier = true) :
    held (onMessage platform keymap desktop state me).simulated key = true ↔
      me.moved platform keymap desktop = some key ∧ me.down = true ∧ me.clicks platform keymap = false := by
  rw [← handleInput_held, onMessage, held_append, empty.free key modifier]
  split
  next => rfl
  next absent => rw [held_absent _ key absent]

theorem onMessage_pressed (empty : Empty state) : (onMessage platform keymap desktop state me).pressedModifiers = [] ∨
      ∃ key, me.key keymap = some key ∧ me.isPress platform keymap = true ∧
        (onMessage platform keymap desktop state me).pressedModifiers = [key] := by
  cases found : me.key keymap with
  | none => exact .inl (by simp [onMessage, found, empty.pressed])
  | some key =>
      cases press : me.isPress platform keymap with
      | false => exact .inl (by simp [onMessage, found, press, empty.pressed])
      | true => exact .inr ⟨key, rfl, rfl, by simp [onMessage, found, press, empty.pressed]⟩

-- One event keeps the set right exactly when it fits, and then nothing is held.
theorem onMessage_fits (empty : Empty state) (fits : (platform.isLinux = false → me.press = true → me.key keymap = none) ∧
      ∀ key, key.isModifier = true → me.moved platform keymap desktop = some key → me.down = true → me.clicks platform keymap = true) :
    Empty (onMessage platform keymap desktop state me) := by
  constructor
  · obtain none | ⟨key, found, press, -⟩ := onMessage_pressed platform keymap desktop state me empty
    · exact none
    · obtain ⟨desk, pressed, -⟩ := inserted_click platform keymap me key found press
      rw [fits.1 desk pressed] at found
      cases found
  · intro key modifier
    by_contra down
    obtain ⟨moved, pressed, still⟩ := (onMessage_held platform keymap desktop state me empty key modifier).mp (Bool.eq_true_of_not_eq_false down)
    rw [fits.2 key modifier moved pressed] at still
    cases still

theorem onMessage_accurate (empty : Empty state) (accurate : Accurate (onMessage platform keymap desktop state me)) :
    (platform.isLinux = false → me.press = true → me.key keymap = none) ∧
      ∀ key, key.isModifier = true → me.moved platform keymap desktop = some key → me.down = true → me.clicks platform keymap = true := by
  obtain none | ⟨key, found, press, inserted⟩ := onMessage_pressed platform keymap desktop state me empty
  · constructor
    · intro desk press
      by_contra found
      obtain ⟨key, found⟩ := Option.ne_none_iff_exists'.mp found
      have isPress : me.isPress platform keymap = true := by rw [KeyEvent.isPress, desk, if_neg Bool.false_ne_true, press]
      simp [onMessage, found, isPress, empty.pressed] at none
    · intro key modifier moved down
      by_contra still
      have holds := (onMessage_held platform keymap desktop state me empty key modifier).mpr ⟨moved, down, Bool.eq_false_of_not_eq_true still⟩
      have member := (accurate key).mpr ⟨modifier, holds⟩
      rw [none] at member
      cases member
  · obtain ⟨modifier, holds⟩ := (accurate key).mp (by rw [inserted]; exact List.mem_singleton_self key)
    have clicked := (inserted_click platform keymap me key found press).2.2
    rw [((onMessage_held platform keymap desktop state me empty key modifier).mp holds).2.2] at clicked
    cases clicked

end

theorem empty_drop (state : State) (empty : Empty state) : Empty (releasePressedModifiers state) := by
  refine ⟨rfl, ?_⟩
  intro key modifier
  simp only [releasePressedModifiers, empty.pressed, List.map_nil, List.reverse_nil, List.nil_append]
  exact empty.free key modifier

section
variable (enabled : Bool) (state next : State) (label : Label)

theorem step_fits (empty : Empty state) (fits : Fits platform keymap enabled label)
    (taken : step platform keymap enabled state label = some next) : Empty next := by
  cases label with
  | keyEvent me desktop =>
      obtain rfl := Option.some.inj taken
      cases enabled with
      | true => exact onMessage_fits platform keymap desktop state me empty (fits rfl)
      | false => exact empty
  | drop =>
      obtain rfl := Option.some.inj taken
      exact empty_drop state empty

theorem step_accurate (empty : Empty state) (accurate : Accurate next)
    (taken : step platform keymap enabled state label = some next) : Fits platform keymap enabled label := by
  cases label with
  | keyEvent me desktop =>
      obtain rfl := Option.some.inj taken
      rintro rfl
      exact onMessage_accurate platform keymap desktop state me empty accurate
  | drop => trivial

end

-- A run whose states are all right has never held a modifier.
theorem run_fits_iff (enabled : Bool) (past : List (State × Label)) (state : State)
    (traced : Machine.Traced (step platform keymap enabled) start past state) :
    ((∀ entry ∈ past, Accurate entry.1) ∧ Accurate state ↔ ∀ entry ∈ past, Fits platform keymap enabled entry.2) ∧
      ((∀ entry ∈ past, Fits platform keymap enabled entry.2) → Empty state) := by
  induction traced with
  | start =>
      have empty : Empty start := ⟨rfl, fun _ _ => rfl⟩
      refine ⟨?_, fun _ => empty⟩
      simp [empty_accurate start empty]
  | next past state after label _ taken ih =>
      obtain ⟨same, empty⟩ := ih
      have kept (fits : ∀ entry ∈ past ++ [(state, label)], Fits platform keymap enabled entry.2) : Empty after := by
        obtain ⟨earlier, last⟩ := List.forall_mem_append.mp fits
        exact step_fits platform keymap enabled state after label (empty earlier) (last _ List.mem_cons_self) taken
      refine ⟨⟨?_, ?_⟩, kept⟩
      · rintro ⟨accurate, final⟩
        obtain ⟨earlier, here⟩ := List.forall_mem_append.mp accurate
        have fits := same.mp ⟨earlier, here (state, label) List.mem_cons_self⟩
        have last := step_accurate platform keymap enabled state after label (empty fits) final taken
        exact List.forall_mem_append.mpr ⟨fits, List.forall_mem_singleton.mpr last⟩
      · intro fits
        obtain ⟨earlier, last⟩ := List.forall_mem_append.mp fits
        obtain ⟨before, here⟩ := same.mpr earlier
        exact ⟨List.forall_mem_append.mpr ⟨before, List.forall_mem_singleton.mpr here⟩, empty_accurate after (kept fits)⟩

-- A drop releases what is held and nothing else, where the set is right.
theorem drop_releases (state : State) (accurate : Accurate state) (key : Key) (modifier : key.isModifier = true) :
    ((key, false) ∈ state.pressedModifiers.map (fun key => (key, false)) ↔ held state.simulated key = true) ∧
      held (releasePressedModifiers state).simulated key = false := by
  have released : ∀ event ∈ (state.pressedModifiers.map (fun key => (key, false))).reverse, event.2 = false := by
    intro event member
    obtain ⟨_, -, rfl⟩ := List.mem_map.mp (List.mem_reverse.mp member)
    rfl
  have listed : (key, false) ∈ state.pressedModifiers.map (fun key => (key, false)) ↔ key ∈ state.pressedModifiers := by simp
  constructor
  · rw [listed, accurate key]
    exact and_iff_right modifier
  · rw [releasePressedModifiers, held_append, releases_free _ released]
    split
    next => rfl
    next absent =>
      by_contra down
      have member := (accurate key).mpr ⟨modifier, Bool.eq_true_of_not_eq_false down⟩
      exact absent (List.mem_map.mpr ⟨(key, false), List.mem_reverse.mpr (listed.mpr member), rfl⟩)

-- In every run the set is that of the modifiers this connection holds exactly when no event
-- leaves a modifier down and, off Linux, none clicks one; where it is, a drop releases them.
theorem modifiers_accurate (enabled : Bool) (past : List (State × Label)) (state : State)
    (traced : Machine.Traced (step platform keymap enabled) start past state) :
    ((∀ entry ∈ past, Accurate entry.1) ∧ Accurate state ↔ ∀ entry ∈ past, Fits platform keymap enabled entry.2) ∧
      (Accurate state → ∀ key, key.isModifier = true →
        ((key, false) ∈ state.pressedModifiers.map (fun key => (key, false)) ↔ held state.simulated key = true) ∧
          held (releasePressedModifiers state).simulated key = false) :=
  ⟨(run_fits_iff platform keymap enabled past state traced).1, drop_releases state⟩

end

def shiftMap : Keymap where
  keycodeToRdevKey code := if code = 50 then .shiftLeft else .other code
  virtualKey code := .other code
  zero := rfl

def idle : Desktop := { shift := false, rightShift := false, hotkey := false, typed := false }

def letter : List Label := [.keyEvent { mode := .map, union := .chr 38, down := true, press := true } idle, .drop]

theorem modifiers_accurate_letter :
    ((∀ entry ∈ Machine.trace (step .x11 shiftMap true) start letter, Accurate entry.1) ∧
        Accurate ((Machine.run (step .x11 shiftMap true) start letter).get rfl) ↔
      ∀ entry ∈ Machine.trace (step .x11 shiftMap true) start letter, Fits .x11 shiftMap true entry.2) ∧
    (Accurate ((Machine.run (step .x11 shiftMap true) start letter).get rfl) → ∀ key, key.isModifier = true →
      ((key, false) ∈ ((Machine.run (step .x11 shiftMap true) start letter).get rfl).pressedModifiers.map (fun key => (key, false)) ↔
          held ((Machine.run (step .x11 shiftMap true) start letter).get rfl).simulated key = true) ∧
        held (releasePressedModifiers ((Machine.run (step .x11 shiftMap true) start letter).get rfl)).simulated key = false) :=
  modifiers_accurate .x11 shiftMap true _ _ (Machine.traced_run (step .x11 shiftMap true) start letter rfl)

-- Shift is pressed and stays down: the set is empty, and the drop releases nothing.
theorem shift_stays_down :
    ∃ state, step .x11 shiftMap true start (.keyEvent { mode := .map, union := .chr 50, down := true, press := false } idle) = some state ∧
      state.pressedModifiers = [] ∧ held state.simulated .shiftLeft = true ∧ ¬ Accurate state ∧
      held (releasePressedModifiers state).simulated .shiftLeft = true := by
  refine ⟨_, rfl, rfl, rfl, ?_, rfl⟩
  intro accurate
  exact List.not_mem_nil ((accurate .shiftLeft).mpr ⟨rfl, rfl⟩)

end GotechDesk.Keyboard.PressedModifiers
