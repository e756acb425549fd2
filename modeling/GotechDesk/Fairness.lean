import Mathlib

set_option autoImplicit false

namespace GotechDesk.Fairness

-- An endless run of a system of parties. `moves party time` says that it is `party` that
-- steps from `time` to the next; a step of none of them is the environment's, or idle.
section
variable {S P : Type} (states : Nat → S) (ready : P → S → Prop) (moves : P → Nat → Prop)

-- A party that stays ready for ever is not passed over for ever.
def Fair : Prop :=
  ∀ party time, (∀ later, time ≤ later → ready party (states later)) → ∃ later, time ≤ later ∧ moves party later

variable (duty : Nat → P → S → Prop) (goal : Nat → Prop)

-- The step at `time` reaches the goal or leaves a duty of a lower rank.
def Ends (rank time : Nat) : Prop :=
  goal time ∨ ∃ lower other, lower < rank ∧ duty lower other (states (time + 1))

-- `duty rank party state` names the one party whose step is waited for, and ranks how far
-- the goal is; whatever the others do, the duty stays as it is or ends.
structure Progress : Prop where
  ready : ∀ rank party state, duty rank party state → ready party state
  moved : ∀ rank party time, duty rank party (states time) → moves party time → Ends states duty goal rank time
  kept : ∀ rank party time, duty rank party (states time) → ¬ moves party time →
    duty rank party (states (time + 1)) ∨ Ends states duty goal rank time

variable {states ready moves duty goal}

theorem duty_lasts (progress : Progress states ready moves duty goal) (rank : Nat) (party : P) (time later : Nat) (after : time ≤ later)
    (here : duty rank party (states time))
    (going : ∀ between, time ≤ between → between < later → ¬ Ends states duty goal rank between) : duty rank party (states later) := by
  induction later, after using Nat.le_induction with
  | base => exact here
  | succ later after ih =>
      have so := ih (fun between since before => going between since (Nat.lt_succ_of_lt before))
      have on := going later after (Nat.lt_succ_self later)
      by_cases moved : moves party later
      · exact (on (progress.moved rank party later so moved)).elim
      · exact (progress.kept rank party later so moved).resolve_right on

theorem duty_ends (fair : Fair states ready moves) (progress : Progress states ready moves duty goal) (rank : Nat) (party : P) (time : Nat)
    (here : duty rank party (states time)) : ∃ later, time ≤ later ∧ Ends states duty goal rank later := by
  by_contra endless
  have going : ∀ later, time ≤ later → ¬ Ends states duty goal rank later := fun later after ends => endless ⟨later, after, ends⟩
  have lasts : ∀ later, time ≤ later → duty rank party (states later) :=
    fun later after => duty_lasts progress rank party time later after here (fun between since _ => going between since)
  obtain ⟨later, after, moved⟩ := fair party time (fun later after => progress.ready rank party _ (lasts later after))
  exact going later after (progress.moved rank party later (lasts later after) moved)

-- A duty leads to the goal, and up to then there always is one.
theorem leads_to (fair : Fair states ready moves) (progress : Progress states ready moves duty goal) (rank : Nat) (party : P) (time : Nat)
    (here : duty rank party (states time)) :
    ∃ later, time ≤ later ∧ goal later ∧ ∀ between, time ≤ between → between ≤ later → ∃ lower other, duty lower other (states between) := by
  classical
  induction rank using Nat.strong_induction_on generalizing party time with
  | _ rank ih =>
      have found := duty_ends fair progress rank party time here
      -- The first end: before it the duty has lasted.
      obtain ⟨after, ends⟩ := Nat.find_spec found
      have lasts : ∀ between, time ≤ between → between ≤ Nat.find found → duty rank party (states between) := by
        intro between since upTo
        refine duty_lasts progress rank party time between since here (fun early since before ended => ?_)
        exact Nat.find_min found (Nat.lt_of_lt_of_le before upTo) ⟨since, ended⟩
      rcases ends with reached | ⟨lower, other, less, there⟩
      · exact ⟨Nat.find found, after, reached, fun between since upTo => ⟨rank, party, lasts between since upTo⟩⟩
      · obtain ⟨later, further, reached, meanwhile⟩ := ih lower less other (Nat.find found + 1) there
        refine ⟨later, by omega, reached, fun between since upTo => ?_⟩
        by_cases first : between ≤ Nat.find found
        · exact ⟨rank, party, lasts between since first⟩
        · exact meanwhile between (by omega) upTo

end

end GotechDesk.Fairness
