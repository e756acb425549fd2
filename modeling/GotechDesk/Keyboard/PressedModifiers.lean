import GotechDesk.Keyboard.RemoteKeys

set_option autoImplicit false

namespace GotechDesk.Keyboard.PressedModifiers

-- The desktops a connection is served on; under Wayland keys go through uinput or the portal.
inductive Platform where
  | x11
  | waylandUinput
  | waylandRdpInput
  | windows
  | macos
deriving DecidableEq

def Platform.isLinux : Platform → Bool
  | .windows | .macos => false
  | _ => true

inductive KeyboardMode where
  | map
  | translate
deriving DecidableEq

inductive ControlKey where
  | modifier
  | other
deriving DecidableEq

inductive Union where
  | chr (code : Nat)
  | controlKey (ck : ControlKey)
  | unicode (code : Nat)
  | seq (text : List Char)
  | win2winHotkey (code : Nat)
deriving DecidableEq

structure KeyEvent where
  mode : KeyboardMode
  union : Union
  down : Bool
  press : Bool
deriving DecidableEq

-- The keys of the platform's key codes, where code 0 is no modifier, and of the virtual ones of
-- Windows.
structure Keymap where
  keycodeToRdevKey : Nat → Key
  virtualKey : Nat → Key
  zero : (keycodeToRdevKey 0).isModifier = false

-- What the desktop says while an event is simulated: which Shift keys are down, whether Ctrl,
-- Alt or Meta is, and whether a hotkey could be typed as a character.
structure Desktop where
  shift : Bool
  rightShift : Bool
  hotkey : Bool
  typed : Bool

-- `simulated` is the history: the modifier and other key events this connection had
-- simulated, newest first.
structure State where
  pressedModifiers : List Key
  simulated : List (Key × Bool)

section
variable (platform : Platform) (keymap : Keymap) (desktop : Desktop)

def KeyEvent.chr (me : KeyEvent) : Nat :=
  match me.union with
  | .chr code => code
  | _ => 0

-- The modifier an event is of, as `on_message` takes it.
def KeyEvent.key (me : KeyEvent) : Option Key :=
  (match me.mode with
  | .map => some (keymap.keycodeToRdevKey me.chr)
  | .translate =>
      match me.union with
      | .chr code => some (keymap.keycodeToRdevKey (code % 2 ^ 16))
      | _ => none).filter Key.isModifier

def isModifier (me : KeyEvent) : Bool :=
  match me.union with
  | .controlKey .modifier => true
  | _ => false

def KeyEvent.isPress (me : KeyEvent) : Bool :=
  if platform.isLinux then (me.press || me.down) && !(isModifier me || (me.key keymap).isSome) else me.press

-- Whether `input_key` is told to press.
def KeyEvent.clicks (me : KeyEvent) : Bool :=
  me.isPress platform keymap &&
    (match me.union with
    | .unicode _ | .seq _ => false
    | _ => true)

-- The key a raw code moves: Wayland and macOS take sixteen bits of it.
def rawKey (code : Nat) : Key :=
  match platform with
  | .waylandUinput | .waylandRdpInput | .macos => keymap.keycodeToRdevKey (code % 2 ^ 16)
  | _ => keymap.keycodeToRdevKey code

-- Windows tells a position from a virtual key by the upper half of the code.
def processedKey (code : Nat) : Key :=
  match code / 2 ^ 16 with
  | 0 => keymap.keycodeToRdevKey code
  | vkCode => keymap.virtualKey vkCode

def translateProcessCode (code : Nat) (down : Bool) : List (Key × Bool) := [(processedKey keymap code, down)]

def hotkeyKey (code : Nat) : Key := keymap.virtualKey (code / 2 ^ 16 % 2 ^ 16)

def simulateWin2winHotkey (code : Nat) (down : Bool) : List (Key × Bool) :=
  if down && desktop.typed then [] else [(hotkeyKey keymap code, down)]

def releaseShiftForCharInput : List (Key × Bool) :=
  if desktop.hotkey then []
  else (if desktop.shift then [(.shiftLeft, false)] else []) ++ (if desktop.rightShift then [(.shiftRight, false)] else [])

def isAsciiPrintable (c : Char) : Bool := 0x20 ≤ c.toNat && c.toNat ≤ 0x7E

-- Shift+Insert; what types a character leaves the modifiers alone.
def inputTextViaClipboard : List (Key × Bool) := [(.shiftLeft, true), (.shiftLeft, false)]

def translateSeq (text : List Char) : List (Key × Bool) :=
  match platform with
  | .macos => []
  | .waylandUinput =>
      if desktop.hotkey then []
      else releaseShiftForCharInput desktop ++ (if text.all isAsciiPrintable then [] else inputTextViaClipboard)
  | _ => releaseShiftForCharInput desktop

-- The key events `handle_key` simulates, oldest first.
def handleKey (me : KeyEvent) (down : Bool) : List (Key × Bool) :=
  match me.mode with
  | .map => [(rawKey platform keymap me.chr, down)]
  | .translate =>
      match me.union with
      | .seq text => translateSeq platform desktop text
      | .chr code => if platform = .windows then translateProcessCode keymap code down else [(rawKey platform keymap code, down)]
      | .win2winHotkey code => if platform = .windows then simulateWin2winHotkey keymap desktop code down else []
      | _ => []

def handleInput (me : KeyEvent) (press : Bool) : List (Key × Bool) :=
  if press then handleKey platform keymap desktop me true ++ handleKey platform keymap desktop me false
  else handleKey platform keymap desktop me me.down

def onMessage (state : State) (me : KeyEvent) : State :=
  let isPress := me.isPress platform keymap
  let pressedModifiers :=
    match me.key keymap with
    | some key => if isPress then state.pressedModifiers.insert key else state.pressedModifiers.filter (fun held => held ≠ key)
    | none => state.pressedModifiers
  { pressedModifiers := pressedModifiers, simulated := (handleInput platform keymap desktop me (me.clicks platform keymap)).reverse ++ state.simulated }

def releasePressedModifiers (state : State) : State :=
  { pressedModifiers := [], simulated := (state.pressedModifiers.map (fun key => (key, false))).reverse ++ state.simulated }

inductive Label where
  | keyEvent (me : KeyEvent) (desktop : Desktop)
  | drop

-- `enabled` is the permission to the keyboard, which does not change.
def step (enabled : Bool) (state : State) : Label → Option State
  | .keyEvent me desktop => some (if enabled then onMessage platform keymap desktop state me else state)
  | .drop => some (releasePressedModifiers state)

def start : State := { pressedModifiers := [], simulated := [] }

-- The last event of the key was a press.
def held : List (Key × Bool) → Key → Bool
  | [], _ => false
  | event :: rest, key => if event.1 = key then event.2 else held rest key

-- The set is that of the modifiers this connection holds.
def Accurate (state : State) : Prop := ∀ key, key ∈ state.pressedModifiers ↔ key.isModifier = true ∧ held state.simulated key = true

end

end GotechDesk.Keyboard.PressedModifiers
