import GotechDesk.Machine

set_option autoImplicit false

namespace GotechDesk.Drm.DisplayCache

-- One call of `schedule_drm_cache_refresh` and the worker it may spawn, from the moment
-- PENDING is set.
inductive Refresh (δ : Type) where
  | announced
  | spawning
  | clearing
  | enumerating
  | writing (fresh : List δ)
  | bumping
  | checking
  | releasing
  | rechecking
  | retaking
  | done
deriving DecidableEq

-- Where the frame loop is: before the generation is loaded, between that and the copy of
-- the cache, sending the copy, or past the check.
inductive Check (δ : Type) where
  | before
  | moved
  | sending (list : List δ) (written : Nat)
  | passed
deriving DecidableEq

-- `last` is the newest list sent. `firstGeneration`, `firstCache` and the two counts of
-- cache writes are what the state was when the generation was first sampled and when the
-- last list was read; the code keeps none of them.
structure Loop (δ : Type) where
  handshake : List δ
  seenGen : Nat
  last : List δ
  lastWritten : Nat
  check : Check δ
  firstGeneration : Nat
  firstWritten : Nat
  firstCache : List δ
deriving DecidableEq

inductive Conn (δ : Type) where
  | enumerating
  | listing (displays : List δ)
  | waiting (displays : List δ)
  | selected (displays : List δ)
  | looping (loop : Loop δ)
  | closed
deriving DecidableEq

structure State (δ : Type) where
  topology : List δ
  cache : List δ
  generation : Nat
  written : Nat
  pending : Bool
  running : Bool
  refreshes : List (Refresh δ)
  conn : Conn δ
deriving DecidableEq

inductive Answer (δ : Type) where
  | proceed
  | fail
  | enumerated (list : List δ)

-- What `recv_msg_timeout2` brings while DrmStart is awaited.
inductive Reply where
  | drmStart (display : Int)
  | other
  | error
  | timeout

-- Any thread may schedule a refresh: the uevent listener, the pre-warm, another
-- connection or this one's capture worker. An enumeration reads the devices one by one,
-- so its list is the label's; one that panics counts as no displays.
inductive Label (δ : Type) where
  | hotplug (topology : List δ)
  | schedule
  | refresh (index : Nat) (answer : Answer δ)
  | worker (displays : Option (List δ))
  | send (delivered : Bool)
  | reply (reply : Reply)
  | sample (workerAlive : Bool)
  | load (authorized : Bool)
  | copy
  | rest
  | close

section
variable {δ : Type}

def start (topology : List δ) : State δ :=
  { topology := topology
    cache := []
    generation := 0
    written := 0
    pending := false
    running := false
    refreshes := []
    conn := .enumerating }

def setRefresh (state : State δ) (index : Nat) (refresh : Refresh δ) : State δ :=
  { state with refreshes := state.refreshes.set index refresh }

def scheduleDrmCacheRefresh (state : State δ) : State δ :=
  { state with pending := true, refreshes := state.refreshes ++ [.announced] }

def refreshStep [DecidableEq δ] (state : State δ) (index : Nat) (refresh : Refresh δ) (answer : Answer δ) : Option (State δ) :=
  match refresh, answer with
  | .announced, .proceed =>
      some (if state.running then setRefresh state index .done else setRefresh { state with running := true } index .spawning)
  | .spawning, .proceed => some (setRefresh state index .clearing)
  | .spawning, .fail => some (setRefresh { state with running := false } index .done)
  | .clearing, .proceed => some (setRefresh { state with pending := false } index .enumerating)
  | .enumerating, .enumerated list => some (setRefresh state index (.writing list))
  | .enumerating, .fail => some (setRefresh state index (.writing []))
  | .writing fresh, .proceed =>
      some (if state.cache = fresh then setRefresh state index .checking
        else setRefresh { state with cache := fresh, written := state.written + 1 } index .bumping)
  | .bumping, .proceed => some (setRefresh { state with generation := state.generation + 1 } index .checking)
  | .checking, .proceed => some (setRefresh state index (if state.pending then .clearing else .releasing))
  | .releasing, .proceed => some (setRefresh { state with running := false } index .rechecking)
  | .rechecking, .proceed => some (setRefresh state index (if state.pending then .retaking else .done))
  | .retaking, .proceed =>
      some (if state.running then setRefresh state index .done else setRefresh { state with running := true } index .clearing)
  | _, _ => none

-- Display 0's CRTC would make the reader pick one by itself, so it is refused like an
-- index outside the list.
def selectable (crtcId : δ → Nat) (displays : List δ) (display : Int) : Bool :=
  if display < 0 then false
  else match displays[display.toNat]? with
    | some chosen => crtcId chosen != 0
    | none => false

def handshake (crtcId : δ → Nat) (displays : List δ) : Reply → Conn δ
  | .drmStart display => if selectable crtcId displays display then .selected displays else .closed
  | .other | .error | .timeout => .closed

def sampled (state : State δ) (displays : List δ) : Loop δ :=
  { handshake := displays
    seenGen := state.generation
    last := displays
    lastWritten := 0
    check := .before
    firstGeneration := state.generation
    firstWritten := state.written
    firstCache := state.cache }

def loadGeneration (state : State δ) (loop : Loop δ) : Loop δ :=
  if state.generation ≠ loop.seenGen then { loop with seenGen := state.generation, check := .moved }
  else { loop with check := .passed }

-- Frames, cursors and their credits are left out: between two checks they send no list.
def step [DecidableEq δ] (crtcId : δ → Nat) (state : State δ) (label : Label δ) : Option (State δ) :=
  match label, state.conn with
  | .hotplug topology, _ => some { state with topology := topology }
  | .schedule, _ => some (scheduleDrmCacheRefresh state)
  | .refresh index answer, _ =>
      (state.refreshes[index]?).bind (fun refresh => refreshStep state index refresh answer)
  | .worker (some displays), .enumerating => some { state with conn := .listing displays }
  | .worker none, .enumerating => some { state with conn := .closed }
  | .send delivered, .listing displays => some { state with conn := if delivered then .waiting displays else .closed }
  | .reply reply, .waiting displays => some { state with conn := handshake crtcId displays reply }
  | .sample workerAlive, .selected displays =>
      some { state with conn := if workerAlive then .looping (sampled state displays) else .closed }
  | .load authorized, .looping loop =>
      match loop.check with
      | .before => some { state with conn := if authorized then .looping (loadGeneration state loop) else .closed }
      | _ => none
  | .copy, .looping loop =>
      match loop.check with
      | .moved => some { state with conn := .looping { loop with check := .sending state.cache state.written } }
      | _ => none
  | .send delivered, .looping loop =>
      match loop.check with
      | .sending list written =>
          some { state with
            conn := if delivered then .looping { loop with last := list, lastWritten := written, check := .passed } else .closed }
      | _ => none
  | .rest, .looping loop =>
      match loop.check with
      | .passed => some { state with conn := .looping { loop with check := .before } }
      | _ => none
  | .close, .looping _ => some { state with conn := .closed }
  | _, _ => none

end

end GotechDesk.Drm.DisplayCache
