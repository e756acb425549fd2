import GotechDesk.Machine

set_option autoImplicit false

namespace GotechDesk.Drm

-- An `Instant` is a number of milliseconds.
inductive ProbeState (δ : Type) where
  | unknown
  | unavailable (since : Nat)
  | available (since : Nat) (displays : List δ)
deriving DecidableEq

def ProbeState.isAvailable {δ : Type} : ProbeState δ → Bool
  | .available _ _ => true
  | _ => false

def negativeTtl : Nat := 30 * 1000

def positiveTtl : Nat := 15 * 1000

def drmProbeMaxFailures : Nat := 5

def drmRefreshMaxFailures : Nat := 3

def warmAttempts : Nat := 10

inductive RefreshOutcome where
  | publish
  | unavailable
  | restamp
  | giveUp
deriving DecidableEq

def refreshOutcome (probe : Option Nat) (failures : Nat) : RefreshOutcome :=
  match probe with
  | some 0 => .unavailable
  | some _ => .publish
  | none => if failures ≥ drmRefreshMaxFailures then .giveUp else .restamp

-- The passes that take DRM_PROBE_IN_FLIGHT.
inductive Path where
  | availability
  | availabilityCached
  | refreshUnavailable
  | refreshAvailable
deriving DecidableEq

-- Where one call is. `sampled` is the generation the call read for itself, `begun`
-- counts the verdicts published before its query; the code keeps no such count.
inductive Pass where
  | asking (path : Path)
  | taken (path : Path)
  | spawning (path : Path) (sampled : Nat)
  | ready (path : Path) (sampled : Nat)
  | querying (path : Path) (sampled begun : Nat)
  | releasing
  | warmChecking (left : Nat)
  | warmReady (left : Nat)
  | warmQuerying (left begun : Nat)
  | loginReady (sampled : Nat)
  | loginQuerying (sampled begun : Nat)
  | done
deriving DecidableEq

structure Verdict (δ : Type) where
  published : ProbeState δ
  begun : Nat
deriving DecidableEq

structure State (δ : Type) where
  drmState : ProbeState δ
  generation : Nat
  probeFailures : Nat
  refreshFailures : Nat
  inFlight : Bool
  passes : List Pass
  verdicts : List (Verdict δ)
deriving DecidableEq

-- What a pass meets at its turn: it goes on, it cannot (the thread does not spawn, the
-- seat looks like X11, the login is gone), or its query comes back.
inductive Choice (δ : Type) where
  | proceed
  | fail
  | answer (result : Option (List δ))

inductive Label (δ : Type) where
  | availability (now : Nat)
  | availabilityCached (now : Nat)
  | warmAvailability
  | refreshDisplaysForLogin
  | hotplug (list : List δ) (now : Nat)
  | turn (index now : Nat) (choice : Choice δ)

section
variable {δ : Type}

def start : State δ :=
  { drmState := .unknown
    generation := 0
    probeFailures := 0
    refreshFailures := 0
    inFlight := false
    passes := []
    verdicts := [] }

def publishProbeState (state : State δ) (next : ProbeState δ) (begun : Nat) : State δ :=
  { state with
    drmState := next
    generation := state.generation + 1
    verdicts := state.verdicts ++ [{ published := next, begun := begun }] }

-- `availability` and `availability_cached` differ only in who probes an unknown state.
def assess (drmState : ProbeState δ) (now : Nat) (probing : Path) : Pass :=
  match drmState with
  | .available since _ => if now - since ≥ positiveTtl then .asking .refreshAvailable else .done
  | .unavailable since => if now - since ≥ negativeTtl then .asking .refreshUnavailable else .done
  | .unknown => .asking probing

def probeAndPublish (state : State δ) (result : Option (List δ)) (now begun : Nat) : State δ :=
  match result with
  | some (display :: rest) => publishProbeState { state with probeFailures := 0 } (.available now (display :: rest)) begun
  | some [] => publishProbeState state (.unavailable now) begun
  | none =>
      let failed := { state with probeFailures := state.probeFailures + 1 }
      if state.probeFailures + 1 ≥ drmProbeMaxFailures then publishProbeState failed (.unavailable now) begun else failed

def refreshUnavailable (state : State δ) (result : Option (List δ)) (now sampled begun : Nat) : State δ :=
  if state.generation ≠ sampled then state
  else match result with
    | some (display :: rest) => publishProbeState { state with probeFailures := 0 } (.available now (display :: rest)) begun
    | _ => publishProbeState state (.unavailable now) begun

def restamp (drmState : ProbeState δ) (now : Nat) : ProbeState δ :=
  match drmState with
  | .available _ displays => .available now displays
  | other => other

def refreshAvailable (state : State δ) (result : Option (List δ)) (now sampled begun : Nat) : State δ :=
  if state.generation ≠ sampled then state
  else
    let failures := if result.isSome then 0 else state.refreshFailures + 1
    let counted := { state with refreshFailures := failures }
    match refreshOutcome (result.map List.length) failures with
    | .publish => publishProbeState counted (.available now (result.getD [])) begun
    | .unavailable => publishProbeState counted (.unavailable now) begun
    | .restamp => { counted with drmState := restamp state.drmState now }
    | .giveUp => publishProbeState { counted with refreshFailures := 0 } .unknown begun

def refreshForLogin (state : State δ) (result : Option (List δ)) (now sampled begun : Nat) : State δ :=
  match result with
  | some (display :: rest) =>
      if state.generation ≠ sampled then state
      else if state.drmState.isAvailable then publishProbeState state (.available now (display :: rest)) begun
      else state
  | _ => state

-- A hotplug brings its own list: there is no query that could be overtaken.
def swapAvailableDisplays (state : State δ) (list : List δ) (now : Nat) : State δ :=
  if state.drmState.isAvailable then
    publishProbeState state (if list.isEmpty then .unavailable now else .available now list) state.verdicts.length
  else state

def answered (state : State δ) (path : Path) (result : Option (List δ)) (now sampled begun : Nat) : State δ :=
  match path with
  | .availability | .availabilityCached => probeAndPublish state result now begun
  | .refreshUnavailable => refreshUnavailable state result now sampled begun
  | .refreshAvailable => refreshAvailable state result now sampled begun

-- What the holder of the flag does next: the refreshes look at the verdict again and
-- sample the generation, all but the blocking probe spawn a thread.
def takenNext (state : State δ) (path : Path) (now : Nat) : Pass :=
  match path, state.drmState with
  | .availability, _ => .ready .availability 0
  | .availabilityCached, _ => .spawning .availabilityCached 0
  | .refreshUnavailable, .unavailable since =>
      if now - since ≥ negativeTtl then .spawning .refreshUnavailable state.generation else .releasing
  | .refreshUnavailable, _ => .releasing
  | .refreshAvailable, .available _ _ => .spawning .refreshAvailable state.generation
  | .refreshAvailable, _ => .releasing

def warmNext (state : State δ) (left : Nat) (x11 : Bool) : Pass :=
  match left with
  | 0 => .done
  | left + 1 => if x11 then .warmChecking left else if state.drmState.isAvailable then .done else .warmReady left

def setPass (state : State δ) (index : Nat) (pass : Pass) : State δ := { state with passes := state.passes.set index pass }

def turn (state : State δ) (index now : Nat) (pass : Pass) (choice : Choice δ) : Option (State δ) :=
  match pass, choice with
  | .asking path, .proceed =>
      some (if state.inFlight then setPass state index .done else setPass { state with inFlight := true } index (.taken path))
  | .taken path, .proceed => some (setPass state index (takenNext state path now))
  | .spawning path sampled, .proceed => some (setPass state index (.ready path sampled))
  | .spawning _ _, .fail => some (setPass state index .releasing)
  | .ready path sampled, .proceed => some (setPass state index (.querying path sampled state.verdicts.length))
  | .querying path sampled begun, .answer result =>
      some (setPass (answered state path result now sampled begun) index .releasing)
  | .releasing, .proceed => some (setPass { state with inFlight := false } index .done)
  | .warmChecking left, .proceed => some (setPass state index (warmNext state left false))
  | .warmChecking left, .fail => some (setPass state index (warmNext state left true))
  | .warmReady left, .proceed => some (setPass state index (.warmQuerying left state.verdicts.length))
  | .warmQuerying _ begun, .answer (some (display :: rest)) =>
      some (setPass (publishProbeState state (.available now (display :: rest)) begun) index .done)
  | .warmQuerying left _, .answer _ => some (setPass state index (.warmChecking left))
  | .loginReady sampled, .proceed => some (setPass state index (.loginQuerying sampled state.verdicts.length))
  | .loginReady _, .fail => some (setPass state index .done)
  | .loginQuerying sampled begun, .answer result =>
      some (setPass (refreshForLogin state result now sampled begun) index .done)
  | .loginQuerying _ _, .fail => some (setPass state index .done)
  | _, _ => none

def call (state : State δ) (pass : Pass) : State δ := { state with passes := state.passes ++ [pass] }

def step (state : State δ) : Label δ → Option (State δ)
  | .availability now => some (call state (assess state.drmState now .availability))
  | .availabilityCached now => some (call state (assess state.drmState now .availabilityCached))
  | .warmAvailability => some (call state (.warmChecking warmAttempts))
  | .refreshDisplaysForLogin =>
      some (call state (if state.drmState.isAvailable then .loginReady state.generation else .done))
  | .hotplug list now => some (swapAvailableDisplays state list now)
  | .turn index now choice => (state.passes[index]?).bind (fun pass => turn state index now pass choice)

end

end GotechDesk.Drm
