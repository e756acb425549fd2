import GotechDesk.Machine
import GotechDesk.Checked

set_option autoImplicit false

namespace GotechDesk.Connection

open GotechDesk.Checked

def osCredentialLoginTotalIdleResetMs : Int := 120 * 60 * 1000
def osCredentialLoginBackoffBaseSeconds : Int := 15
def osCredentialLoginBackoffMaxSeconds : Int := 30 * 60

inductive FailureScope where
  | default
  | terminalOsLogin
deriving DecidableEq

-- The one alarm this policy raises.
inductive AlarmAuditType where
  | terminalOsLoginBackoff
deriving DecidableEq

structure OsCredentialPolicyDecision where
  allowed : Bool
  loginError : Option String
  audit : Option AlarmAuditType
deriving DecidableEq

-- An i32 and two instants in i64 milliseconds.
structure OsCredentialFailureState where
  totalFailures : Int
  backoffUntilMs : Option Int
  lastFailureMs : Option Int
deriving DecidableEq

def noOsCredentialFailure : OsCredentialFailureState := ⟨0, none, none⟩

def backoffAuditTypeForScope : FailureScope → Option AlarmAuditType
  | .terminalOsLogin => some .terminalOsLoginBackoff
  | .default => none

-- `none` here and below is an arithmetic panic.
def osCredentialLoginBackoffSeconds (totalFailures : Int) : Option Int :=
  if totalFailures ≤ 2 then some 0
  else do
    let above ← i32.check (totalFailures - 3)
    let power ← Width.shiftOne 64 (min above 7)
    let seconds ← i64.check (osCredentialLoginBackoffBaseSeconds * power)
    return min seconds osCredentialLoginBackoffMaxSeconds

def normalizeBackoff (state : OsCredentialFailureState) (nowMs : Int) : OsCredentialFailureState :=
  match state.backoffUntilMs with
  | some untilMs => if untilMs ≤ nowMs then { state with backoffUntilMs := none } else state
  | none => state

def resetTotalsOnIdle (state : OsCredentialFailureState) (nowMs : Int) : OsCredentialFailureState :=
  match state.lastFailureMs with
  | some lastMs => if osCredentialLoginTotalIdleResetMs ≤ i64.saturate (nowMs - lastMs) then ⟨0, none, none⟩ else state
  | none => state

-- Both calls start with these two.
def settle (state : OsCredentialFailureState) (nowMs : Int) : OsCredentialFailureState :=
  normalizeBackoff (resetTotalsOnIdle state nowMs) nowMs

def allowDecision : OsCredentialPolicyDecision := ⟨true, none, none⟩

def blockDecision (loginError : String) (alarmType : Option AlarmAuditType) : OsCredentialPolicyDecision := ⟨false, some loginError, alarmType⟩

def tryAgain (scope : FailureScope) (untilMs nowMs : Int) : Option OsCredentialPolicyDecision := do
  let left ← i64.check (untilMs - nowMs)
  let raised ← i64.check (max left 0 + 999)
  let remainingSeconds := max (raised.tdiv 1000) 1
  let secondsLabel := if remainingSeconds = 1 then "second" else "seconds"
  return blockDecision ("Please try again in " ++ toString remainingSeconds ++ " " ++ secondsLabel ++ ".") (backoffAuditTypeForScope scope)

def evaluateOsCredentialPolicy (state : OsCredentialFailureState) (scope : FailureScope) (nowMs : Int) :
    Option (OsCredentialFailureState × OsCredentialPolicyDecision) :=
  match scope with
  | .default => some (state, allowDecision)
  | .terminalOsLogin =>
      let settled := settle state nowMs
      match settled.backoffUntilMs with
      | some untilMs => (tryAgain scope untilMs nowMs).map (fun decision => (settled, decision))
      | none => some (settled, allowDecision)

-- `nowMs` is what get_time gives once the state is locked.
def recordOsCredentialFailure (state : OsCredentialFailureState) (scope : FailureScope) (nowMs : Int) : Option OsCredentialFailureState :=
  match scope with
  | .default => some state
  | .terminalOsLogin => do
      let settled := settle state nowMs
      let totalFailures := i32.saturate (settled.totalFailures + 1)
      let backoffSeconds ← osCredentialLoginBackoffSeconds totalFailures
      if 0 < backoffSeconds then
        let backoffMs ← i64.check (backoffSeconds * 1000)
        let untilMs ← i64.check (nowMs + backoffMs)
        return ⟨totalFailures, some untilMs, some nowMs⟩
      else return ⟨totalFailures, settled.backoffUntilMs, some nowMs⟩

-- The calls for the OS credential, with the clock each is made at.
inductive OsCredentialCall where
  | recorded (nowMs : Int)
  | evaluated (nowMs : Int)
deriving DecidableEq

def OsCredentialCall.nowMs : OsCredentialCall → Int
  | .recorded nowMs => nowMs
  | .evaluated nowMs => nowMs

def OsCredentialCall.failure : OsCredentialCall → Option Int
  | .recorded nowMs => some nowMs
  | .evaluated _ => none

def osCredentialStep (state : OsCredentialFailureState) : OsCredentialCall → Option OsCredentialFailureState
  | .recorded nowMs => recordOsCredentialFailure state .terminalOsLogin nowMs
  | .evaluated nowMs => (evaluateOsCredentialPolicy state .terminalOsLogin nowMs).map Prod.fst

-- What the policy is meant to depend on: the times of the failures, latest first.
def failureTimes (history : List OsCredentialCall) : List Int := (history.filterMap OsCredentialCall.failure).reverse

-- The failures since the last gap between two of them that reached the idle reset.
def failuresSinceGap : List Int → Nat
  | [] => 0
  | [_] => 1
  | time :: earlier :: rest => if osCredentialLoginTotalIdleResetMs ≤ time - earlier then 1 else failuresSinceGap (earlier :: rest) + 1

def backoff (failures : Nat) : Nat := if failures ≤ 2 then 0 else min (15 * 2 ^ (failures - 3)) 1800

def Refused (times : List Int) (nowMs : Int) : Prop :=
  ∃ last, times.head? = some last ∧ nowMs - last < osCredentialLoginTotalIdleResetMs ∧ nowMs < last + 1000 * backoff (failuresSinceGap times)

-- A clock far enough from i64's ends for half an hour to be added to it.
def ClockRange (nowMs : Int) : Prop := i64.low ≤ nowMs ∧ nowMs + 1800000 ≤ i64.high

instance (nowMs : Int) : Decidable (ClockRange nowMs) := inferInstanceAs (Decidable (i64.low ≤ nowMs ∧ nowMs + 1800000 ≤ i64.high))

-- The state both calls work on, from the failure times alone.
def settledBy (times : List Int) (nowMs : Int) : OsCredentialFailureState :=
  match times with
  | [] => noOsCredentialFailure
  | last :: _ =>
      if osCredentialLoginTotalIdleResetMs ≤ nowMs - last then noOsCredentialFailure
      else
        let untilMs := last + 1000 * backoff (failuresSinceGap times)
        ⟨min (failuresSinceGap times) i32.high, if untilMs ≤ nowMs then none else some untilMs, some last⟩

theorem backoff_cap (failures : Nat) : backoff failures ≤ 1800 := by
  unfold backoff
  split
  · omega
  · exact min_le_right _ _

-- 15 * 2^7 is past the cap, so cutting the exponent at 7 loses nothing.
theorem backoff_long (failures : Nat) (long : 10 ≤ failures) : backoff failures = 1800 := by
  have power : 2 ^ 7 ≤ 2 ^ (failures - 3) := Nat.pow_le_pow_right (by omega) (by omega)
  unfold backoff
  rw [if_neg (by omega)]
  omega

theorem backoff_seconds (failures : Nat) : osCredentialLoginBackoffSeconds (min failures i32.high) = some (backoff failures : Int) := by
  by_cases long : 10 ≤ failures
  · rw [backoff_long failures long]
    have count : i32.Holds (min (failures : Int) i32.high - 3) := by
      unfold Width.Holds i32
      dsimp only
      omega
    have cut : min (min (failures : Int) i32.high - 3) 7 = 7 := by
      unfold i32
      dsimp only
      omega
    unfold osCredentialLoginBackoffSeconds
    rw [if_neg (by unfold i32; dsimp only; omega), check_holds i32 _ count]
    simp only [Option.bind_eq_bind, Option.bind_some, cut]
    decide
  · have few : failures < 10 := by omega
    interval_cases failures <;> decide

theorem idle_saturated (nowMs last : Int) : osCredentialLoginTotalIdleResetMs ≤ i64.saturate (nowMs - last) ↔ osCredentialLoginTotalIdleResetMs ≤ nowMs - last := by
  unfold osCredentialLoginTotalIdleResetMs Width.saturate i64
  dsimp only
  omega

-- Settling once more at a later time is settling at that time: an evaluation leaves no trace.
theorem settle_later (state : OsCredentialFailureState) (nowMs later : Int) (ordered : nowMs ≤ later) :
    settle (settle state nowMs) later = settle state later := by
  obtain ⟨total, untilMs, lastMs⟩ := state
  unfold settle
  cases lastMs with
  | none =>
      cases untilMs with
      | none => rfl
      | some untilMs =>
          simp only [resetTotalsOnIdle, normalizeBackoff]
          by_cases stale : untilMs ≤ nowMs
          · simp [stale, le_trans stale ordered]
          · simp [stale]
  | some last =>
      simp only [resetTotalsOnIdle, idle_saturated]
      by_cases idle : osCredentialLoginTotalIdleResetMs ≤ nowMs - last
      · have idleLater : osCredentialLoginTotalIdleResetMs ≤ later - last := by omega
        simp [idle, idleLater, normalizeBackoff]
      · rw [if_neg idle]
        cases untilMs with
        | none => simp [normalizeBackoff]
        | some untilMs =>
            by_cases stale : untilMs ≤ nowMs
            · have staleLater : untilMs ≤ later := le_trans stale ordered
              by_cases idleLater : osCredentialLoginTotalIdleResetMs ≤ later - last
              · simp [normalizeBackoff, stale, idleLater]
              · simp [normalizeBackoff, stale, staleLater, idleLater]
            · simp [normalizeBackoff, stale]

-- The state, seen through the settling every later call starts with.
def Follows (times : List Int) (nowMs : Int) (state : OsCredentialFailureState) : Prop :=
  (∀ last, times.head? = some last → last ≤ nowMs) ∧ ∀ later, nowMs ≤ later → settle state later = settledBy times later

theorem follows_start (nowMs : Int) : Follows [] nowMs noOsCredentialFailure := by
  constructor
  · intro last head
    cases head
  · intro later _
    rfl

theorem follows_evaluated (times : List Int) (nowMs later : Int) (state : OsCredentialFailureState) (follows : Follows times nowMs state)
    (ordered : nowMs ≤ later) : Follows times later (settle state later) := by
  constructor
  · intro last head
    exact le_trans (follows.1 last head) ordered
  · intro latest after
    rw [settle_later state later latest after]
    exact follows.2 latest (le_trans ordered after)

section
variable (times : List Int) (nowMs : Int)

-- The count stands still at i32's bound, where the back-off has long reached its cap.
theorem settled_count : i32.saturate ((settledBy times nowMs).totalFailures + 1) = min (failuresSinceGap (nowMs :: times) : Int) i32.high := by
  cases times with
  | nil => rfl
  | cons last rest =>
      rw [failuresSinceGap]
      simp only [settledBy]
      by_cases idle : osCredentialLoginTotalIdleResetMs ≤ nowMs - last
      · simp only [if_pos idle]
        rfl
      · simp only [if_neg idle]
        unfold Width.saturate i32
        push_cast
        omega

-- Below three failures there is no back-off to keep, and none was pending before the call.
theorem settled_free (past : ∀ last, times.head? = some last → last ≤ nowMs)
    (free : backoff (failuresSinceGap (nowMs :: times)) = 0) : (settledBy times nowMs).backoffUntilMs = none := by
  cases times with
  | nil => rfl
  | cons last rest =>
      have passed : last ≤ nowMs := past last rfl
      simp only [settledBy]
      by_cases idle : osCredentialLoginTotalIdleResetMs ≤ nowMs - last
      · rw [if_pos idle]
        rfl
      · rw [if_neg idle]
        rw [failuresSinceGap, if_neg idle] at free
        have few : failuresSinceGap (last :: rest) + 1 ≤ 2 := by
          by_contra many
          rw [backoff, if_neg many] at free
          have grown : 0 < 2 ^ (failuresSinceGap (last :: rest) + 1 - 3) := Nat.two_pow_pos _
          omega
        have earlier : backoff (failuresSinceGap (last :: rest)) = 0 := if_pos (by omega)
        simp [earlier, passed]

theorem record_settled (state : OsCredentialFailureState) (follows : Follows times nowMs state)
    (clock : ClockRange nowMs) : recordOsCredentialFailure state .terminalOsLogin nowMs = some
      ⟨min (failuresSinceGap (nowMs :: times)) i32.high,
        if backoff (failuresSinceGap (nowMs :: times)) = 0 then none else some (nowMs + 1000 * backoff (failuresSinceGap (nowMs :: times))), some nowMs⟩ := by
  have cap := backoff_cap (failuresSinceGap (nowMs :: times))
  simp only [recordOsCredentialFailure, follows.2 nowMs le_rfl, settled_count, backoff_seconds, Option.bind_eq_bind, Option.bind_some]
  by_cases free : backoff (failuresSinceGap (nowMs :: times)) = 0
  · rw [if_pos free, if_neg (by omega), settled_free times nowMs follows.1 free]
    rfl
  · obtain ⟨low, high⟩ := clock
    have product : i64.Holds (backoff (failuresSinceGap (nowMs :: times)) * 1000) := by
      unfold Width.Holds i64
      dsimp only
      omega
    have sum : i64.Holds (nowMs + backoff (failuresSinceGap (nowMs :: times)) * 1000) := by
      unfold Width.Holds
      omega
    rw [if_neg free, if_pos (by omega), check_holds i64 _ product, Option.bind_some, check_holds i64 _ sum, mul_comm]
    rfl

theorem follows_recorded (state : OsCredentialFailureState) (follows : Follows times nowMs state)
    (clock : ClockRange nowMs) : ∃ next, recordOsCredentialFailure state .terminalOsLogin nowMs = some next ∧ Follows (nowMs :: times) nowMs next := by
  refine ⟨_, record_settled times nowMs state follows clock, ?_, ?_⟩
  · intro last head
    exact (Option.some.inj head).ge
  · intro later ordered
    simp only [settle, resetTotalsOnIdle, idle_saturated, settledBy]
    by_cases idle : osCredentialLoginTotalIdleResetMs ≤ later - nowMs
    · simp only [if_pos idle]
      rfl
    · simp only [if_neg idle]
      by_cases free : backoff (failuresSinceGap (nowMs :: times)) = 0
      · simp [normalizeBackoff, free, ordered]
      · simp only [if_neg free, normalizeBackoff]
        split <;> rfl

end

theorem settled_until (times : List Int) (nowMs untilMs : Int) : (settledBy times nowMs).backoffUntilMs = some untilMs ↔
    ∃ last, times.head? = some last ∧ nowMs - last < osCredentialLoginTotalIdleResetMs ∧ nowMs < untilMs ∧
      untilMs = last + 1000 * backoff (failuresSinceGap times) := by
  cases times with
  | nil => simp [settledBy, noOsCredentialFailure]
  | cons last rest =>
      simp only [settledBy, List.head?_cons, Option.some.injEq, exists_eq_left']
      by_cases idle : osCredentialLoginTotalIdleResetMs ≤ nowMs - last
      · simp [noOsCredentialFailure, idle, not_lt.mpr idle]
      · rw [if_neg idle]
        simp only [not_le.mp idle, true_and, Option.ite_none_left_eq_some, Option.some.injEq, not_le]
        constructor
        · rintro ⟨pending, rfl⟩
          exact ⟨pending, rfl⟩
        · rintro ⟨pending, rfl⟩
          exact ⟨pending, rfl⟩

theorem try_again_blocks (scope : FailureScope) (untilMs nowMs : Int) (pending : nowMs < untilMs) (soon : untilMs ≤ nowMs + 1800000) :
    ∃ decision, tryAgain scope untilMs nowMs = some decision ∧ decision.allowed = false := by
  have left : i64.Holds (untilMs - nowMs) := by
    unfold Width.Holds i64
    dsimp only
    omega
  have raised : i64.Holds (max (untilMs - nowMs) 0 + 999) := by
    unfold Width.Holds i64
    dsimp only
    omega
  simp only [tryAgain, check_holds i64 _ left, check_holds i64 _ raised, Option.bind_eq_bind, Option.bind_some, Option.pure_def]
  exact ⟨_, rfl, rfl⟩

-- The answer, from the failure times alone.
def answerBy (times : List Int) (nowMs : Int) : Option OsCredentialPolicyDecision :=
  match (settledBy times nowMs).backoffUntilMs with
  | some untilMs => tryAgain .terminalOsLogin untilMs nowMs
  | none => some allowDecision

theorem evaluate_settled (times : List Int) (before nowMs : Int) (state : OsCredentialFailureState) (follows : Follows times before state)
    (ordered : before ≤ nowMs) : ∃ decision, evaluateOsCredentialPolicy state .terminalOsLogin nowMs = some (settle state nowMs, decision) ∧
      answerBy times nowMs = some decision ∧ (decision.allowed = false ↔ Refused times nowMs) := by
  have settled := follows.2 nowMs ordered
  simp only [evaluateOsCredentialPolicy, answerBy, settled]
  cases pending : (settledBy times nowMs).backoffUntilMs with
  | none =>
      refine ⟨allowDecision, rfl, rfl, ?_⟩
      constructor
      · intro refused
        cases refused
      · rintro ⟨last, head, recent, soon⟩
        rw [(settled_until times nowMs _).mpr ⟨last, head, recent, soon, rfl⟩] at pending
        cases pending
  | some untilMs =>
      obtain ⟨last, head, recent, later, rfl⟩ := (settled_until times nowMs untilMs).mp pending
      have past := follows.1 last head
      have cap := backoff_cap (failuresSinceGap times)
      obtain ⟨decision, blocks, refused⟩ := try_again_blocks .terminalOsLogin _ nowMs later (by omega)
      refine ⟨decision, by simp only [blocks, Option.map_some], blocks, ?_⟩
      simp only [refused, true_iff]
      exact ⟨last, head, recent, later⟩

theorem follows_step (times : List Int) (before : Int) (state : OsCredentialFailureState) (call : OsCredentialCall) (follows : Follows times before state)
    (ordered : before ≤ call.nowMs) (clock : ∀ failed, call.failure = some failed → ClockRange failed) :
    ∃ next, osCredentialStep state call = some next ∧ Follows (call.failure.toList ++ times) call.nowMs next := by
  cases call with
  | recorded nowMs =>
      have moved : Follows times nowMs state := ⟨fun last head => le_trans (follows.1 last head) ordered, fun later after => follows.2 later (le_trans ordered after)⟩
      exact follows_recorded times nowMs state moved (clock nowMs rfl)
  | evaluated nowMs =>
      obtain ⟨decision, evaluated, _⟩ := evaluate_settled times before nowMs state follows ordered
      exact ⟨settle state nowMs, by simp only [osCredentialStep, evaluated, Option.map_some], follows_evaluated times before nowMs state follows ordered⟩

theorem failure_times_cons (call : OsCredentialCall) (history : List OsCredentialCall) :
    failureTimes (call :: history) = failureTimes history ++ call.failure.toList := by
  cases call with
  | recorded nowMs => simp [failureTimes, OsCredentialCall.failure]
  | evaluated nowMs => simp [failureTimes, OsCredentialCall.failure, List.filterMap_cons]

theorem follows_run (history : List OsCredentialCall) (times : List Int) (before nowMs : Int) (state : OsCredentialFailureState)
    (follows : Follows times before state) (ordered : (before :: history.map OsCredentialCall.nowMs ++ [nowMs]).Pairwise (· ≤ ·))
    (clock : ∀ failed ∈ failureTimes history, ClockRange failed) :
    ∃ final, Machine.run osCredentialStep state history = some final ∧ Follows (failureTimes history ++ times) nowMs final := by
  induction history generalizing times before state with
  | nil =>
      have passed : before ≤ nowMs := by simpa using ordered
      refine ⟨state, rfl, fun last head => le_trans (follows.1 last head) passed, fun later after => follows.2 later (le_trans passed after)⟩
  | cons call rest ih =>
      obtain ⟨first, remaining⟩ := List.pairwise_cons.mp ordered
      rw [failure_times_cons] at clock
      obtain ⟨next, taken, kept⟩ := follows_step times before state call follows (first call.nowMs (by simp))
        (fun failed recorded => clock failed (by simp [recorded]))
      obtain ⟨final, ran, still⟩ := ih _ call.nowMs next kept remaining (fun failed member => clock failed (List.mem_append_left _ member))
      refine ⟨final, by simp only [Machine.run, taken, Option.bind_some, ran], ?_⟩
      rw [failure_times_cons, List.append_assoc]
      exact still

-- The answer after a history, or `none` where a call of it panicked.
def answerAfter (history : List OsCredentialCall) (nowMs : Int) : Option OsCredentialPolicyDecision :=
  (Machine.run osCredentialStep noOsCredentialFailure history).bind (fun state =>
    (evaluateOsCredentialPolicy state .terminalOsLogin nowMs).map Prod.snd)

def Ordered (history : List OsCredentialCall) (nowMs : Int) : Prop := (history.map OsCredentialCall.nowMs ++ [nowMs]).Pairwise (· ≤ ·)

instance (history : List OsCredentialCall) (nowMs : Int) : Decidable (Ordered history nowMs) :=
  inferInstanceAs (Decidable ((history.map OsCredentialCall.nowMs ++ [nowMs]).Pairwise (· ≤ ·)))

theorem answer_settled (history : List OsCredentialCall) (nowMs : Int) (ordered : Ordered history nowMs)
    (clock : ∀ failed ∈ failureTimes history, ClockRange failed) : ∃ decision, answerAfter history nowMs = some decision ∧
      answerBy (failureTimes history) nowMs = some decision ∧ (decision.allowed = false ↔ Refused (failureTimes history) nowMs) := by
  -- A clock reading no call comes before.
  obtain ⟨before, first⟩ : ∃ before, ∀ time ∈ history.map OsCredentialCall.nowMs ++ [nowMs], before ≤ time := by
    obtain ⟨before, least⟩ := (history.map OsCredentialCall.nowMs ++ [nowMs]).toFinset.bddBelow
    exact ⟨before, fun time member => least (List.mem_toFinset.mpr member)⟩
  obtain ⟨final, ran, follows⟩ := follows_run history [] before nowMs noOsCredentialFailure (follows_start before) (List.pairwise_cons.mpr ⟨first, ordered⟩) clock
  rw [List.append_nil] at follows
  obtain ⟨decision, evaluated, answered, refused⟩ := evaluate_settled (failureTimes history) nowMs nowMs final follows le_rfl
  exact ⟨decision, by simp only [answerAfter, ran, Option.bind_some, evaluated, Option.map_some], answered, refused⟩

theorem back_off_by_failure_times (history : List OsCredentialCall) (nowMs : Int) (ordered : Ordered history nowMs)
    (clock : ∀ failed ∈ failureTimes history, ClockRange failed) :
    (∃ decision, answerAfter history nowMs = some decision ∧ (decision.allowed = false ↔ Refused (failureTimes history) nowMs)) ∧
      ∀ other, Ordered other nowMs → failureTimes other = failureTimes history → answerAfter other nowMs = answerAfter history nowMs := by
  obtain ⟨decision, answered, byTimes, refused⟩ := answer_settled history nowMs ordered clock
  refine ⟨⟨decision, answered, refused⟩, ?_⟩
  intro other otherOrdered same
  obtain ⟨otherDecision, otherAnswered, otherByTimes, _⟩ := answer_settled other nowMs otherOrdered (fun failed member => clock failed (same ▸ member))
  rw [same, byTimes] at otherByTimes
  rw [answered, otherAnswered, otherByTimes]

def thirdFailure : List OsCredentialCall := [.recorded 0, .evaluated 10, .recorded 500, .recorded 1000, .evaluated 1500]

theorem back_off_third_failure :
    (∃ decision, answerAfter thirdFailure 2000 = some decision ∧ (decision.allowed = false ↔ Refused (failureTimes thirdFailure) 2000)) ∧
      ∀ other, Ordered other 2000 → failureTimes other = failureTimes thirdFailure → answerAfter other 2000 = answerAfter thirdFailure 2000 :=
  back_off_by_failure_times thirdFailure 2000 (by decide) (by decide)

example : (answerAfter thirdFailure 2000).map OsCredentialPolicyDecision.loginError = some (some "Please try again in 14 seconds.") := by decide

end GotechDesk.Connection
