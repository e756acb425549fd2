import Mathlib

set_option autoImplicit false

namespace GotechDesk.Keyboard

abbrev SessionId := Nat

def grabDebounceMs : Nat := 300

-- Instants are nanoseconds of the monotonic clock.
def elapsedMs (now since : Nat) : Nat := (now - since) / 1000000

structure GrabOwnerState where
  owner : Option SessionId
  lastGrab : Option Nat
  deferredPending : Bool
deriving DecidableEq

def GrabOwnerState.default : GrabOwnerState := { owner := none, lastGrab := none, deferredPending := false }

-- Run under GRAB_STATE: an owner only refreshes its debounce timer. Another session takes the
-- grab over, and whether there was an owner before is left for apply_run_grab_if_owner.
def GrabOwnerState.run (gs : GrabOwnerState) (session : SessionId) (now : Nat) : GrabOwnerState × Option Bool :=
  if gs.owner = some session then ({ gs with lastGrab := some now, deferredPending := false }, none)
  else ({ owner := some session, lastGrab := some now, deferredPending := false }, some gs.owner.isSome)

inductive WaitOutcome where
  | ignored
  | debounced
  | scheduled (snapshot : Option Nat)
  | released
deriving DecidableEq

def GrabOwnerState.debounces (gs : GrabOwnerState) (now : Nat) : Bool :=
  gs.lastGrab.any (fun since => elapsedMs now since < grabDebounceMs)

def GrabOwnerState.wait (gs : GrabOwnerState) (session : SessionId) (now : Nat) : GrabOwnerState × WaitOutcome :=
  if gs.owner ≠ some session then (gs, .ignored)
  else if gs.debounces now = true then
    if gs.deferredPending = true then (gs, .debounced)
    else ({ gs with deferredPending := true }, .scheduled gs.lastGrab)
  else (GrabOwnerState.default, .released)

-- The locked part of a deferred release, and whether it released. A cancelled one leaves
-- deferred_pending alone.
def GrabOwnerState.deferredRelease (gs : GrabOwnerState) (session : SessionId) (snapshot : Option Nat) : GrabOwnerState × Bool :=
  if gs.owner = some session ∧ gs.lastGrab = snapshot then (GrabOwnerState.default, true) else (gs, false)

theorem mem_erased {α : Type} (items : List α) (index : Nat) (gone kept : α) (found : items[index]? = some gone) (listed : kept ∈ items)
    (other : kept ≠ gone) : kept ∈ items.eraseIdx index := by
  obtain ⟨place, there⟩ := List.getElem?_of_mem listed
  apply List.mem_eraseIdx_iff_getElem?.mpr
  refine ⟨place, ?_, there⟩
  rintro rfl
  exact other (Option.some.inj (there.symm.trans found))

section
variable (gs : GrabOwnerState) (session : SessionId)

theorem run_owner (now : Nat) : (gs.run session now).1.owner = some session := by
  unfold GrabOwnerState.run
  split
  · rename_i own
    exact own
  · rfl

-- Every way a Wait can end, with what it leaves of the state.
theorem wait_cases (now : Nat) : (gs.owner ≠ some session ∧ gs.wait session now = (gs, .ignored)) ∨
      (gs.owner = some session ∧ gs.debounces now = true ∧ gs.deferredPending = true ∧ gs.wait session now = (gs, .debounced)) ∨
      (gs.owner = some session ∧ gs.debounces now = true ∧ gs.deferredPending = false ∧
        gs.wait session now = ({ gs with deferredPending := true }, .scheduled gs.lastGrab)) ∨
      (gs.owner = some session ∧ gs.debounces now = false ∧ gs.wait session now = (GrabOwnerState.default, .released)) := by
  unfold GrabOwnerState.wait
  by_cases own : gs.owner = some session
  · rw [if_neg (not_not.mpr own)]
    cases recent : gs.debounces now with
    | false => exact Or.inr (Or.inr (Or.inr ⟨own, rfl, if_neg Bool.false_ne_true⟩))
    | true =>
        rw [if_pos rfl]
        cases pending : gs.deferredPending with
        | false => exact Or.inr (Or.inr (Or.inl ⟨own, rfl, rfl, if_neg Bool.false_ne_true⟩))
        | true => exact Or.inr (Or.inl ⟨own, rfl, rfl, if_pos rfl⟩)
  · exact Or.inl ⟨own, if_pos own⟩

theorem wait_stale (now : Nat) (other : gs.owner ≠ some session) : gs.wait session now = (gs, .ignored) := if_pos other

theorem deferred_released (snapshot : Option Nat) (current : gs.owner = some session ∧ gs.lastGrab = snapshot) :
    gs.deferredRelease session snapshot = (GrabOwnerState.default, true) := if_pos current

theorem deferred_cancelled (snapshot : Option Nat)
    (stale : ¬ (gs.owner = some session ∧ gs.lastGrab = snapshot)) : gs.deferredRelease session snapshot = (gs, false) := if_neg stale

end

end GotechDesk.Keyboard
