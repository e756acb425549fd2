import Mathlib

set_option autoImplicit false

namespace GotechDesk.RendezvousMediator.PunchUntil

-- Instants and spans in milliseconds.
def punchInterval : ℚ := 150
def punchBackoff : ℚ := 3 / 2
def punchMaxInterval : ℚ := 2000
def punchGrace : Nat := 3000

section
variable (T : Type)

-- What one punch comes to: how long it took, and the stream unless it failed.
structure Attempt where
  duration : ℚ
  nonneg : 0 ≤ duration
  stream : Option T

structure Punch where
  start : ℚ
  ms : Nat
  finish : ℚ
  stream : Option T

structure Ended where
  stream : Option T
  returned : ℚ
  punches : List (Punch T)

end

structure Loop where
  now : ℚ
  interval : ℚ
  round : Nat

section
variable {T : Type} (deadline : ℚ) (punch : Nat → Nat → Attempt T)

def saturatingDurationSince (later earlier : ℚ) : ℚ := max 0 (later - earlier)

def start (now : ℚ) : Loop := { now := now, interval := punchInterval, round := 0 }

-- One turn of the loop, up to the end of its punch: none where no time is left.
def turn (loop : Loop) : Option (Punch T × Loop) :=
  let left := saturatingDurationSince deadline loop.now
  if left = 0 then none
  else
    let now := loop.now + min loop.interval left
    let interval := min (loop.interval * punchBackoff) punchMaxInterval
    let ms := ⌊saturatingDurationSince deadline now⌋₊ + punchGrace
    let attempt := punch loop.round ms
    some ({ start := now, ms := ms, finish := now + attempt.duration, stream := attempt.stream },
      { now := now + attempt.duration, interval := interval, round := loop.round + 1 })

-- The loop itself, for as many turns as the fuel lets it.
def punchUntil : Nat → Loop → Option (Ended T)
  | 0, _ => none
  | fuel + 1, loop =>
      match turn deadline punch loop with
      | none => some { stream := none, returned := loop.now, punches := [] }
      | some (made, next) =>
          match made.stream with
          | some stream => some { stream := some stream, returned := made.finish, punches := [made] }
          | none => (punchUntil fuel next).map (fun rest => { rest with punches := made :: rest.punches })

def Within : Prop := ∀ round ms, (punch round ms).duration ≤ ms

def Follows (earlier later : Punch T) : Prop := earlier.finish ≤ later.start ∧ later.start - earlier.finish ≤ punchMaxInterval

structure Schedule (now : ℚ) (ended : Ended T) : Prop where
  inside : ∀ made ∈ ended.punches, now ≤ made.start ∧ made.start ≤ deadline ∧ made.finish ≤ made.start + made.ms
  opening : ∀ made ∈ ended.punches.head?, made.start - now ≤ punchMaxInterval
  gaps : ended.punches.IsChain Follows
  last : now < deadline → (∀ made ∈ ended.punches, made.start < deadline → made.stream = none ∧ made.finish < deadline) →
    ∃ made, ended.punches.getLast? = some made ∧ made.start = deadline
  met : ended.punches.filterMap Punch.stream = ended.stream.toList
  bounded : now ≤ deadline + punchGrace → ended.returned ≤ deadline + punchGrace
  late : deadline ≤ now → ended = { stream := none, returned := now, punches := [] }

def Paced (loop : Loop) : Prop := punchInterval ≤ loop.interval ∧ loop.interval ≤ punchMaxInterval

theorem start_paced (now : ℚ) : Paced (start now) := by
  constructor <;> norm_num [start, punchInterval, punchMaxInterval]

theorem turn_late (loop : Loop) (late : deadline ≤ loop.now) : turn deadline punch loop = none := by
  have none : saturatingDurationSince deadline loop.now = 0 := max_eq_left (by linarith)
  rw [turn]
  simp [none]

-- What a turn does while there is time left.
structure Turn (loop : Loop) (made : Punch T) (next : Loop) : Prop where
  later : loop.now ≤ made.start
  inside : made.start ≤ deadline
  gap : made.start - loop.now ≤ punchMaxInterval
  slept : loop.now + punchInterval ≤ made.start ∨ made.start = deadline
  limit : (made.ms : ℚ) ≤ deadline - made.start + punchGrace
  took : made.start ≤ made.finish ∧ made.finish ≤ made.start + made.ms
  resumed : next.now = made.finish
  paced : Paced next

theorem turn_early (within : Within punch) (loop : Loop) (paced : Paced loop) (early : loop.now < deadline) :
    ∃ made next, turn deadline punch loop = some (made, next) ∧ Turn deadline loop made next := by
  obtain ⟨low, high⟩ := paced
  have left : saturatingDurationSince deadline loop.now = deadline - loop.now := max_eq_right (by linarith)
  have time : ¬ saturatingDurationSince deadline loop.now = 0 := by
    rw [left]
    linarith
  rw [turn]
  rw [if_neg time, left]
  refine ⟨_, _, rfl, ?_⟩
  have slept : min loop.interval (deadline - loop.now) ≤ deadline - loop.now := min_le_right _ _
  have short : min loop.interval (deadline - loop.now) ≤ loop.interval := min_le_left _ _
  have positive : 0 ≤ min loop.interval (deadline - loop.now) := le_min (by unfold punchInterval at low; linarith) (by linarith)
  constructor
  · linarith
  · linarith
  · dsimp only
    linarith
  · rcases le_total loop.interval (deadline - loop.now) with less | more
    · left
      rw [min_eq_left less]
      linarith
    · right
      rw [min_eq_right more]
      linarith
  · dsimp only
    have same : saturatingDurationSince deadline (loop.now + min loop.interval (deadline - loop.now)) =
        deadline - (loop.now + min loop.interval (deadline - loop.now)) := max_eq_right (by linarith)
    have floor : (⌊saturatingDurationSince deadline (loop.now + min loop.interval (deadline - loop.now))⌋₊ : ℚ) ≤
        saturatingDurationSince deadline (loop.now + min loop.interval (deadline - loop.now)) := Nat.floor_le (le_max_left 0 _)
    push_cast
    linarith
  · refine ⟨le_add_of_nonneg_right (Attempt.nonneg _), ?_⟩
    exact add_le_add (le_refl _) (within _ _)
  · rfl
  · constructor
    · apply le_min
      · unfold punchInterval punchBackoff at *
        linarith
      · norm_num [punchInterval, punchMaxInterval]
    · exact min_le_right _ _

theorem met_schedule (loop : Loop) (made : Punch T) (next : Loop) (stream : T) (spec : Turn deadline loop made next) (early : loop.now < deadline)
    (met : made.stream = some stream) : Schedule deadline loop.now { stream := some stream, returned := made.finish, punches := [made] } := by
  refine ⟨?_, ?_, List.isChain_singleton made, ?_, by simp [met], ?_, fun late => absurd early (not_lt.mpr late)⟩
  · intro one member
    obtain rfl := List.mem_singleton.mp member
    exact ⟨spec.later, spec.inside, spec.took.2⟩
  · intro one first
    cases first
    exact spec.gap
  · intro _ failed
    refine ⟨made, rfl, le_antisymm spec.inside (not_lt.mp fun before => ?_)⟩
    have none := (failed made List.mem_cons_self before).1
    rw [met] at none
    cases none
  · intro _
    have took := spec.took.2
    have limit := spec.limit
    linarith

-- A punch that failed, and what the loop did from its end on.
theorem failed_schedule (loop : Loop) (made : Punch T) (next : Loop) (rest : Ended T) (spec : Turn deadline loop made next) (early : loop.now < deadline)
    (failed : made.stream = none) (after : Schedule deadline next.now rest) : Schedule deadline loop.now { rest with punches := made :: rest.punches } := by
  have later := spec.later
  have took := spec.took
  have limit := spec.limit
  have resumed := spec.resumed
  refine ⟨?_, ?_, ?_, ?_, by simp [failed, after.met], ?_, fun late => absurd early (not_lt.mpr late)⟩
  · rintro one (_ | ⟨_, member⟩)
    · exact ⟨spec.later, spec.inside, spec.took.2⟩
    · obtain ⟨low, high, finish⟩ := after.inside one member
      exact ⟨by linarith, high, finish⟩
  · intro one first
    cases first
    exact spec.gap
  · rw [List.isChain_cons]
    refine ⟨?_, after.gaps⟩
    intro one first
    have opening := after.opening one first
    have low := (after.inside one (List.mem_of_mem_head? first)).1
    rw [resumed] at opening low
    exact ⟨low, opening⟩
  · intro _ before
    obtain ⟨earlier, others⟩ := List.forall_mem_cons.mp before
    rcases lt_or_eq_of_le spec.inside with sooner | last
    · -- The loop goes on, and ends on a punch at the deadline by the same argument.
      have left : next.now < deadline := by
        rw [resumed]
        exact (earlier sooner).2
      obtain ⟨one, final, place⟩ := after.last left others
      refine ⟨one, ?_, place⟩
      rw [List.getLast?_cons, final]
      rfl
    · -- This one was at the deadline, and after it the loop finds no time left.
      have nothing := after.late (by rw [resumed]; linarith)
      refine ⟨made, ?_, last⟩
      rw [nothing]
      rfl
  · intro _
    exact after.bounded (by rw [resumed]; linarith)

theorem ended_schedule (within : Within punch) (fuel : Nat) (loop : Loop) (ended : Ended T) (paced : Paced loop)
    (ran : punchUntil deadline punch fuel loop = some ended) : Schedule deadline loop.now ended := by
  induction fuel generalizing loop ended with
  | zero => cases ran
  | succ fuel ih =>
      rcases le_or_gt deadline loop.now with late | early
      · rw [punchUntil, turn_late deadline punch loop late] at ran
        cases ran
        exact ⟨nofun, nofun, List.IsChain.nil, fun early => absurd late (not_le.mpr early), rfl, id, fun _ => rfl⟩
      · obtain ⟨made, next, taken, spec⟩ := turn_early deadline punch within loop paced early
        rw [punchUntil, taken] at ran
        dsimp only at ran
        cases met : made.stream with
        | some stream =>
            rw [met] at ran
            cases ran
            exact met_schedule deadline loop made next stream spec early met
        | none =>
            rw [met] at ran
            obtain ⟨rest, continued, rfl⟩ := Option.map_eq_some_iff.mp ran
            exact failed_schedule deadline loop made next rest spec early met (ih next rest spec.paced continued)

-- More fuel than it takes changes nothing.
theorem ran_more (fuel : Nat) (loop : Loop) (ended : Ended T) (ran : punchUntil deadline punch fuel loop = some ended) :
    punchUntil deadline punch (fuel + 1) loop = some ended := by
  induction fuel generalizing loop ended with
  | zero => cases ran
  | succ fuel ih =>
      rw [punchUntil] at ran ⊢
      cases taken : turn deadline punch loop with
      | none =>
          rw [taken] at ran
          exact ran
      | some both =>
          obtain ⟨made, next⟩ := both
          rw [taken] at ran
          dsimp only at ran ⊢
          cases met : made.stream with
          | some stream =>
              rw [met] at ran
              exact ran
          | none =>
              rw [met] at ran
              obtain ⟨rest, continued, rfl⟩ := Option.map_eq_some_iff.mp ran
              exact Option.map_eq_some_iff.mpr ⟨rest, ih next rest continued, rfl⟩

-- Each turn sleeps at least the first interval or reaches the deadline.
theorem returns (within : Within punch) (turns : Nat) (loop : Loop) (paced : Paced loop) (short : deadline - loop.now ≤ punchInterval * turns) :
    ∃ ended, punchUntil deadline punch (turns + 1) loop = some ended := by
  induction turns generalizing loop with
  | zero =>
      have late : deadline ≤ loop.now := by
        rw [Nat.cast_zero, mul_zero] at short
        linarith
      exact ⟨_, by rw [punchUntil, turn_late deadline punch loop late]⟩
  | succ turns ih =>
      rcases le_or_gt deadline loop.now with late | early
      · exact ⟨_, by rw [punchUntil, turn_late deadline punch loop late]⟩
      · obtain ⟨made, next, taken, spec⟩ := turn_early deadline punch within loop paced early
        rw [punchUntil, taken]
        dsimp only
        cases met : made.stream with
        | some stream => exact ⟨_, rfl⟩
        | none =>
            have fewer : deadline - next.now ≤ punchInterval * turns := by
              rw [spec.resumed]
              have took := spec.took.1
              have positive : 0 ≤ punchInterval * (turns : ℚ) := mul_nonneg (by norm_num [punchInterval]) (Nat.cast_nonneg turns)
              rcases spec.slept with slept | there
              · push_cast at short
                linarith
              · linarith
            obtain ⟨rest, continued⟩ := ih next spec.paced fewer
            exact ⟨_, by rw [continued]; rfl⟩

theorem punch_schedule (now : ℚ) (within : Within punch) :
    ∃ enough ended, (∀ fuel, enough ≤ fuel → punchUntil deadline punch fuel (start now) = some ended) ∧ Schedule deadline now ended := by
  have interval : (0 : ℚ) < punchInterval := by norm_num [punchInterval]
  obtain ⟨ended, ran⟩ := returns deadline punch within ⌈(deadline - now) / punchInterval⌉₊ (start now) (start_paced now) (by
    have ceiling := Nat.le_ceil ((deadline - now) / punchInterval)
    rw [div_le_iff₀ interval] at ceiling
    rw [mul_comm]
    exact ceiling)
  refine ⟨⌈(deadline - now) / punchInterval⌉₊ + 1, ended, ?_, ended_schedule deadline punch within _ (start now) ended (start_paced now) ran⟩
  intro fuel enough
  induction fuel, enough using Nat.le_induction with
  | base => exact ran
  | succ fuel _ ih => exact ran_more deadline punch fuel (start now) ended ih

def refused : Nat → Nat → Attempt Unit := fun _ _ => { duration := 0, nonneg := le_refl 0, stream := none }

theorem punch_schedule_all_refused : Within refused ∧
    ∃ enough ended, (∀ fuel, enough ≤ fuel → punchUntil 18000 refused fuel (start 0) = some ended) ∧ Schedule 18000 0 ended := by
  have within : Within refused := fun _ ms => Nat.cast_nonneg ms
  exact ⟨within, punch_schedule 18000 refused 0 within⟩

end

end GotechDesk.RendezvousMediator.PunchUntil
