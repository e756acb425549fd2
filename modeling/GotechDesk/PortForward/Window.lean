import Mathlib

set_option autoImplicit false

namespace GotechDesk.PortForward

def u32Max : Nat := 4294967295
def initialWindow : Nat := 64 * 1024
def minFrameCharge : Nat := 64
def channelWindow : Nat := 256 * 1024
def maxFrame : Nat := 64 * 1024
def updateThreshold : Nat := channelWindow / 2
def maxChannels : Nat := 256
def dataQueueFrames : Nat := 128
def maxSendCredit : Nat := channelWindow

def effectiveWindow (advertised : Nat) : Nat := max advertised initialWindow

-- The window counters are u32: `saturatingAdd` stops at the top of the word,
-- and a length that does not fit the word is charged as the whole word.
def saturatingAdd (a b : Nat) : Nat := min (a + b) u32Max

def charge (len : Nat) : Nat := max (min len u32Max) minFrameCharge

structure RecvWindow where
  remaining : Nat
  drainedSinceUpdate : Nat
deriving DecidableEq, Repr

def RecvWindow.new (granted : Nat) : RecvWindow := ⟨effectiveWindow granted, 0⟩

def RecvWindow.accept (window : RecvWindow) (len : Nat) : RecvWindow × Bool :=
  if charge len ≤ window.remaining then ({ window with remaining := window.remaining - charge len }, true)
  else (window, false)

def RecvWindow.grant (window : RecvWindow) (n : Nat) : RecvWindow :=
  { window with remaining := saturatingAdd window.remaining n }

def RecvWindow.drained (window : RecvWindow) (n : Nat) : RecvWindow × Option Nat :=
  let drainedSinceUpdate := saturatingAdd window.drainedSinceUpdate (charge n)
  if drainedSinceUpdate < updateThreshold then ({ window with drainedSinceUpdate }, none)
  else (⟨saturatingAdd window.remaining drainedSinceUpdate, 0⟩, some drainedSinceUpdate)

-- `permit` is the one notification a `Notify` stores: `notify_one` leaves it
-- when nobody waits, and a waiter that finds it goes on at once.
structure SendCredit where
  credit : Nat
  permit : Bool
deriving DecidableEq, Repr

def SendCredit.new (initial : Nat) : SendCredit := ⟨min initial maxSendCredit, false⟩

-- One pass of the loop in `take`: the allowance, or none when it parks.
def SendCredit.take (credit : SendCredit) (max : Nat) : Option (SendCredit × Nat) :=
  if minFrameCharge ≤ credit.credit then
    some ({ credit with credit := credit.credit - min credit.credit max }, min credit.credit max)
  else none

def SendCredit.add (credit : SendCredit) (n : Nat) : SendCredit :=
  ⟨min (saturatingAdd credit.credit n) maxSendCredit, true⟩

def SendCredit.raiseInitial (credit : SendCredit) (total : Nat) : SendCredit :=
  let extra := effectiveWindow total - initialWindow
  if 0 < extra then credit.add extra else credit

theorem charge_min (len : Nat) : minFrameCharge ≤ charge len := Nat.le_max_right _ _

theorem charge_le_allowance (len allow : Nat) (fits : len ≤ allow) (least : minFrameCharge ≤ allow) :
    charge len ≤ allow :=
  Nat.max_le.mpr ⟨Nat.le_trans (Nat.min_le_left _ _) fits, least⟩

theorem charge_covers (len : Nat) (small : charge len ≤ channelWindow) : len ≤ charge len := by
  simp only [charge, channelWindow, u32Max, minFrameCharge] at small ⊢
  omega

theorem saturating_add_exact (a b : Nat) (fits : a + b ≤ u32Max) : saturatingAdd a b = a + b :=
  Nat.min_eq_left fits

theorem accept_spec (window : RecvWindow) (len : Nat) (fits : charge len ≤ window.remaining) :
    window.accept len = ({ window with remaining := window.remaining - charge len }, true) := if_pos fits

theorem accept_iff (window : RecvWindow) (len : Nat) :
    (window.accept len).2 = true ↔ charge len ≤ window.remaining := by
  by_cases fits : charge len ≤ window.remaining <;> simp [RecvWindow.accept, fits]

theorem grant_drained (window : RecvWindow) (n : Nat) : (window.grant n).drainedSinceUpdate = window.drainedSinceUpdate := rfl

theorem add_exact (credit : SendCredit) (n : Nat) (room : credit.credit + n ≤ maxSendCredit) :
    credit.add n = ⟨credit.credit + n, true⟩ := by
  have word : maxSendCredit ≤ u32Max := by decide
  rw [SendCredit.add, saturating_add_exact _ _ (Nat.le_trans room word), Nat.min_eq_left room]

theorem raise_initial_channel (credit : SendCredit) (extra : Nat) (wider : initialWindow + extra = channelWindow)
    (room : credit.credit + extra ≤ maxSendCredit) :
    credit.raiseInitial channelWindow = ⟨credit.credit + extra, true⟩ := by
  have less : initialWindow < channelWindow := by decide
  have window : effectiveWindow channelWindow = channelWindow := Nat.max_eq_left (Nat.le_of_lt less)
  have rest : channelWindow - initialWindow = extra := by omega
  have positive : 0 < extra := by omega
  simp only [SendCredit.raiseInitial, window, rest, if_pos positive]
  exact add_exact credit _ room

theorem take_spec (credit next : SendCredit) (max allow : Nat) (least : minFrameCharge ≤ max)
    (taken : credit.take max = some (next, allow)) :
    next.credit + allow = credit.credit ∧ next.permit = credit.permit ∧
      minFrameCharge ≤ allow ∧ allow ≤ max := by
  by_cases enough : minFrameCharge ≤ credit.credit
  · have same : (⟨credit.credit - min credit.credit max, credit.permit⟩, min credit.credit max) = (next, allow) := by
      simpa [SendCredit.take, enough] using taken
    cases same
    refine ⟨?_, rfl, Nat.le_min.mpr ⟨enough, least⟩, Nat.min_le_right _ _⟩
    exact Nat.sub_add_cancel (Nat.min_le_left _ _)
  · simp [SendCredit.take, enough] at taken

end GotechDesk.PortForward
