import GotechDesk.Exchange
import GotechDesk.Machine
import GotechDesk.Table

set_option autoImplicit false

namespace GotechDesk.Uinput

open GotechDesk.Exchange

-- The keys a state can be asked of; of every other key the service says it is up.
inductive Key where
  | capsLock
  | numLock
  | shift
  | control
  | alt
  | metaKey
  | other (code : Nat)
deriving DecidableEq, Repr

inductive Led where
  | capsl
  | numl
  | other (code : Nat)
deriving DecidableEq, Repr

inductive EvKey where
  | leftShift
  | rightShift
  | leftCtrl
  | rightCtrl
  | leftAlt
  | rightAlt
  | leftMeta
  | rightMeta
  | other (code : Nat)
deriving DecidableEq, Repr

-- What the kernel says of the virtual keyboard when it is asked; `none` is a failed ioctl.
structure Report where
  leds : Option (List Led)
  keys : Option (List EvKey)
deriving DecidableEq, Repr

def Report.lit (report : Report) (led : Led) : Bool := report.leds.any (fun leds => decide (led ∈ leds))

def Report.held (report : Report) (left right : EvKey) : Bool :=
  report.keys.any (fun keys => decide (left ∈ keys) || decide (right ∈ keys))

def Report.keyState (report : Report) : Key → Bool
  | .capsLock => report.lit .capsl
  | .numLock => report.lit .numl
  | .shift => report.held .leftShift .rightShift
  | .control => report.held .leftCtrl .rightCtrl
  | .alt => report.held .leftAlt .rightAlt
  | .metaKey => report.held .leftMeta .rightMeta
  | .other _ => false

inductive DataKeyboard where
  | sequence (text : String)
  | keyDown (key : Key)
  | keyUp (key : Key)
  | keyClick (key : Key)
  | getKeyState (key : Key)
deriving DecidableEq, Repr

inductive DataMouse where
  | event (code : Nat)
  | refresh
deriving DecidableEq, Repr

def DataKeyboard.answer (report : Report) : DataKeyboard → Option Bool
  | .getKeyState key => some (report.keyState key)
  | _ => none

-- A failed recreation withholds the answer.
def DataMouse.answer (created : Bool) : DataMouse → Option Unit
  | .refresh => if created then some () else none
  | .event _ => none

structure Resolution where
  x : Int × Int := (0, 0)
  y : Int × Int := (0, 0)
deriving DecidableEq, Repr

def Resolution.empty (r : Resolution) : Bool := r.x.1 == r.x.2 || r.y.1 == r.y.2

-- `setBy` is the call the range comes from, `created` the step the device was made in.
structure Device where
  range : Resolution
  setBy : Nat
  created : Nat
deriving DecidableEq, Repr

inductive Stage where
  | setting
  | stored
  | confirmed
deriving DecidableEq, Repr

-- A call of `update_mouse_resolution` on its way to the refresh. `setup_uinput` and whoever
-- loses patience leave it before that.
structure Update where
  began : Nat
  stage : Stage
deriving DecidableEq, Repr

inductive Outcome where
  | keyState (call : Nat) (answered : Option Nat) (state : Bool)
  | resolution (update began : Nat) (device : Option Device)
deriving DecidableEq, Repr

structure System where
  clock : Nat := 0
  keyboard : Channel DataKeyboard Bool := {}
  mouse : Channel DataMouse Unit := {}
  resolution : Resolution := {}
  setBy : Nat := 0
  device : Option Device := none
  issued : Nat := 0
  updates : List (Nat × Update) := []
  controls : List (Nat × Resolution) := []
  refreshing : Option (Nat × Nat) := none
  determined : List (Nat × Bool) := []
  returned : List Outcome := []
deriving DecidableEq, Repr

-- Keyboard and mouse calls are made under one lock, which a waiting call holds.
def System.free (s : System) : Bool := s.keyboard.waiting.isNone && s.mouse.waiting.isNone

def System.newDevice (s : System) : Device := { range := s.resolution, setBy := s.setBy, created := s.clock }

inductive Label where
  | key (data : DataKeyboard)
  | getKeyState (key : Key)
  | handleKeyboard (report : Report)
  | keyAnswer
  | keyError
  | mouseEvent (code : Nat)
  | setResolution (resolution : Resolution)
  | handleControl (update : Nat)
  | setAnswer (update : Nat)
  | leaveUpdate (update : Nat)
  | sendRefresh (update : Nat)
  | handleMouse (created : Bool)
  | refreshAnswer
  | refreshError
  | setup (created : Bool)
deriving DecidableEq, Repr

-- What a key state asked by the service leaves behind besides the answer.
def determine (report : Report) (requests : List (Nat × DataKeyboard)) : List (Nat × Bool) :=
  match requests with
  | (number, request) :: _ => (request.answer report).toList.map (fun state => (number, state))
  | [] => []

def System.advance (s : System) (update : Nat) (held next : Stage) : Option System :=
  match Table.get s.updates update with
  | some entry =>
      if entry.stage = held then some { s with updates := Table.insert s.updates update { entry with stage := next } } else none
  | none => none

-- `spawn_controller_handler`: the range is stored before the answer goes out. Each call has a
-- connection of its own, so the frames of different calls are handled in any order.
def System.storeResolution (s : System) (update : Nat) : Option System :=
  match Table.get s.controls update with
  | some resolution =>
      let stored := { s with resolution, setBy := update, controls := Table.remove s.controls update }
      some ((stored.advance update .setting .stored).getD stored)
  | none => none

def System.beginRefresh (s : System) (update : Nat) : Option System :=
  match Table.get s.updates update with
  | some entry =>
      if s.free && decide (entry.stage = .confirmed) then
        some { s with mouse := s.mouse.call .refresh, refreshing := some (update, entry.began), updates := Table.remove s.updates update }
      else none
  | none => none

-- `spawn_mouse_handler`: the device is made anew only for a refresh.
def System.handleMouse (s : System) (created : Bool) : Option System :=
  match s.device with
  | none => none
  | some _ =>
      (s.mouse.serve (DataMouse.answer created)).map (fun mouse =>
        { s with mouse, device := if created && decide (s.mouse.requests.head?.map Prod.snd = some .refresh) then some s.newDevice else s.device })

def System.act (s : System) : Label → Option System
  | .key data => if s.free && (data.answer ⟨none, none⟩).isNone then some { s with keyboard := s.keyboard.send data } else none
  | .getKeyState key => if s.free then some { s with keyboard := s.keyboard.call (.getKeyState key) } else none
  | .handleKeyboard report =>
      (s.keyboard.serve (DataKeyboard.answer report)).map (fun keyboard =>
        { s with keyboard, determined := s.determined ++ determine report s.keyboard.requests })
  | .keyAnswer =>
      s.keyboard.receive.map (fun (call, entry, keyboard) =>
        { s with keyboard, returned := s.returned ++ [.keyState call (some entry.1) entry.2] })
  | .keyError =>
      s.keyboard.waiting.map (fun call =>
        { s with keyboard := s.keyboard.expire, returned := s.returned ++ [.keyState call none false] })
  | .mouseEvent code => if s.free then some { s with mouse := s.mouse.send (.event code) } else none
  | .setResolution resolution =>
      some { s with issued := s.issued + 1, controls := Table.insert s.controls (s.issued + 1) resolution,
                    updates := Table.insert s.updates (s.issued + 1) ⟨s.clock, .setting⟩ }
  | .handleControl update => s.storeResolution update
  | .setAnswer update => s.advance update .stored .confirmed
  | .leaveUpdate update => some { s with updates := Table.remove s.updates update }
  | .sendRefresh update => s.beginRefresh update
  | .handleMouse created => s.handleMouse created
  | .refreshAnswer =>
      match s.refreshing, s.mouse.receive with
      | some (update, began), some (_, _, mouse) =>
          some { s with mouse, refreshing := none, returned := s.returned ++ [.resolution update began s.device] }
      | _, _ => none
  | .refreshError => s.mouse.waiting.map (fun _ => { s with mouse := s.mouse.expire, refreshing := none })
  | .setup created =>
      if s.free then
        some { s with keyboard := s.keyboard.reconnect, mouse := s.mouse.reconnect,
                      device := if created && !s.resolution.empty then some s.newDevice else none }
      else none

def System.step (s : System) (label : Label) : Option System := (s.act label).map (fun next => { next with clock := s.clock + 1 })

end GotechDesk.Uinput
