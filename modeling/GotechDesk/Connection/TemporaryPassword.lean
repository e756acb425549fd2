import GotechDesk.Machine

set_option autoImplicit false

namespace GotechDesk.Connection.TemporaryPassword

open GotechDesk.Machine

def maxConsecutiveFailures : Nat := 10

structure State where
  password : String
  failures : Nat
deriving DecidableEq, Repr

-- Where a login attempt stands. `begun` has found temporary passwords enabled; `compared` and `entered`,
-- past that test of check_update_temporary_password, carry the value compared with, if any, and
-- the result of the login; the next three hold the lock of the counter.
inductive Attempt where
  | begun
  | compared (value : Option String) (success : Bool)
  | entered (value : Option String) (success : Bool)
  | rotating
  | rereading
  | storing (new : String)
  | done
deriving DecidableEq, Repr

def Attempt.locks : Attempt → Bool
  | .rotating | .rereading | .storing _ => true
  | _ => false

-- From the comparison to the end of the call.
def Attempt.inProgress : Attempt → Bool
  | .begun | .done => false
  | _ => true

-- A wrong guess at a value that is not counted yet.
def Attempt.owes (value : String) (attempt : Attempt) : Bool :=
  decide (attempt = .compared (some value) false ∨ attempt = .entered (some value) false)

-- The password module with every value it has had, the counter, and all attempts, oldest first.
structure Host where
  enabled : Bool
  password : String
  used : List String
  state : State
  attempts : List Attempt
deriving DecidableEq, Repr

def Host.start (enabled : Bool) (password : String) : Host :=
  { enabled := enabled, password := password, used := [password], state := { password := "", failures := 0 }, attempts := [] }

-- A guess is the digest of the login, which one password gives. `permanent` says whether the permanent
-- password accepts it.
inductive Label where
  | begin (permanent : Bool)
  | compare (k : Nat) (guess : String → Bool) (permanent : Bool)
  | enter (k : Nat)
  | count (k : Nat)
  | rotate (k : Nat) (new : String)
  | reread (k : Nat)
  | store (k : Nat)
  | change (new : String)
  | enable (on : Bool)

def validatePasswordPlain (guess : String → Bool) (password : String) : Bool := if password = "" then false else guess password

def Host.at (s : Host) (k : Nat) (attempt : Attempt) : Host := { s with attempts := s.attempts.set k attempt }

-- The password module sets a value it never had.
def Host.updateTemporaryPassword (s : Host) (new : String) : Option Host :=
  if new ∈ s.used then none else some { s with password := new, used := s.used ++ [new] }

def Host.begin (s : Host) (permanent : Bool) : Host :=
  { s with attempts := s.attempts ++ [if s.enabled then .begun else if permanent then .done else .compared none false] }

def Host.compared (s : Host) (guess : String → Bool) (permanent : Bool) : Attempt :=
  if validatePasswordPlain guess s.password then .compared (some s.password) true
  else if permanent then .done
  else .compared (if s.password = "" then none else some s.password) false

-- The state for the current password: an older value's failures are dropped.
def State.of (state : State) (current : String) : State := if state.password ≠ current then { password := current, failures := 0 } else state

-- The part under the lock, up to the rotation.
def Host.count (s : Host) (k : Nat) (success : Bool) : Host :=
  if s.password = "" then s.at k .done
  else
    let state := s.state.of s.password
    if success then { s.at k .done with state := { state with failures := 0 } }
    else if state.failures + 1 < maxConsecutiveFailures then { s.at k .done with state := { state with failures := state.failures + 1 } }
    else { s.at k .rotating with state := { state with failures := state.failures + 1 } }

def Host.locked (s : Host) : Bool := s.attempts.any Attempt.locks

def Host.step (s : Host) : Label → Option Host
  | .begin permanent => some (s.begin permanent)
  | .compare k guess permanent => if s.attempts[k]? = some .begun then some (s.at k (s.compared guess permanent)) else none
  | .enter k =>
      match s.attempts[k]? with
      | some (.compared value success) => some (s.at k (if s.enabled then .entered value success else .done))
      | _ => none
  | .count k =>
      match s.attempts[k]? with
      | some (.entered _ success) => if s.locked then none else some (s.count k success)
      | _ => none
  | .rotate k new => if s.attempts[k]? = some .rotating then (s.updateTemporaryPassword new).map (fun next => next.at k .rereading) else none
  | .reread k => if s.attempts[k]? = some .rereading then some (s.at k (.storing s.password)) else none
  | .store k =>
      match s.attempts[k]? with
      | some (.storing new) => some { s.at k .done with state := { password := new, failures := 0 } }
      | _ => none
  | .change new => s.updateTemporaryPassword new
  | .enable on => some { s with enabled := on }

example (s : Host) (on : Bool) : s.step (.enable on) = some { s with enabled := on } := by simp [Host.step]

def Attempt.rotated : Attempt → Bool
  | .rereading | .storing _ => true
  | _ => false

def Host.lockers (s : Host) : Nat := s.attempts.countP Attempt.locks

def Host.inProgress (s : Host) : Nat := s.attempts.countP Attempt.inProgress

-- The wrong guesses at a value that are not counted yet.
def Host.owed (s : Host) (value : String) : Nat := s.attempts.countP (Attempt.owes value)

-- The failures counted for the current password.
def Host.effective (s : Host) : Nat := if s.state.password = s.password then s.state.failures else 0

-- A wrong guess at the value is compared in this step.
def wrongAt (value : String) (entry : Host × Label) : Bool :=
  match entry.2 with
  | .compare _ guess permanent => decide (entry.1.compared guess permanent = .compared (some value) false)
  | _ => false

-- Its call finds temporary passwords disabled and returns.
def skippedAt (value : String) (entry : Host × Label) : Bool :=
  match entry.2 with
  | .enter k => !entry.1.enabled && decide (entry.1.attempts[k]? = some (.compared (some value) false))
  | _ => false

-- The call of a success reaches the counter.
def succeededAt (entry : Host × Label) : Bool :=
  match entry.2 with
  | .count k => (match entry.1.attempts[k]? with
    | some (.entered _ true) => true
    | _ => false)
  | _ => false

-- A failure is recorded for the current password.
def failedAt (entry : Host × Label) : Bool :=
  match entry.2 with
  | .count k => (match entry.1.attempts[k]? with
    | some (.entered _ false) => decide (entry.1.password ≠ "")
    | _ => false)
  | _ => false

def wrongGuesses (past : List (Host × Label)) (value : String) : Nat := past.countP (wrongAt value)

def skippedCalls (past : List (Host × Label)) (value : String) : Nat := past.countP (skippedAt value)

def failuresRecorded (past : List (Host × Label)) : Nat := past.countP failedAt

structure Sound (s : Host) : Prop where
  current : s.password ∈ s.used
  known : s.state.failures = 0 ∨ s.state.password ≠ "" ∧ s.state.password ∈ s.used
  alone : s.lockers ≤ 1
  held : 0 < s.lockers → s.state.failures = maxConsecutiveFailures
  free : s.lockers = 0 → s.state.failures < maxConsecutiveFailures
  moved : ∀ attempt ∈ s.attempts, attempt.rotated = true → s.state.password ≠ s.password
  stored : ∀ new, .storing new ∈ s.attempts → new ∈ s.used

theorem count_set (attempts : List Attempt) (k : Nat) (old new : Attempt) (p : Attempt → Bool) (there : attempts[k]? = some old) :
    (attempts.set k new).countP p + (if p old then 1 else 0) = attempts.countP p + (if p new then 1 else 0) := by
  obtain ⟨inside, found⟩ := List.getElem?_eq_some_iff.mp there
  have positive : p old = true → 0 < attempts.countP p := fun holds => List.countP_pos_iff.mpr ⟨old, List.mem_of_getElem? there, holds⟩
  rw [List.countP_set inside, found]
  by_cases holds : p old = true
  · have := positive holds
    rw [if_pos holds]
    omega
  · rw [if_neg holds]
    omega

-- The holder of the lock and the guesses that wait for it are different attempts.
theorem owed_lockers (s : Host) (value : String) : s.owed value + s.lockers ≤ s.inProgress := by
  rw [Host.owed, Host.lockers, Host.inProgress]
  induction s.attempts with
  | nil => simp
  | cons attempt rest ih =>
      simp only [List.countP_cons]
      have one : (if attempt.owes value = true then 1 else 0) + (if attempt.locks = true then 1 else 0) ≤
          if attempt.inProgress = true then 1 else 0 := by
        cases attempt <;> simp [Attempt.owes, Attempt.locks, Attempt.inProgress]
        all_goals split <;> simp
      omega

theorem effective_rotated (s : Host) (sound : Sound s) (attempt : Attempt) (member : attempt ∈ s.attempts) (rotated : attempt.rotated = true) :
    s.effective = 0 := if_neg (sound.moved attempt member rotated)

-- What the counter and the guesses that wait for it can come to.
theorem owed_bound (s : Host) (value : String) (sound : Sound s) :
    s.effective + s.owed value ≤ maxConsecutiveFailures - 1 + s.inProgress := by
  have waiting := owed_lockers s value
  have most : s.effective ≤ s.state.failures := by
    rw [Host.effective]
    split
    · exact Nat.le_refl _
    · exact Nat.zero_le _
  obtain unlocked | locked := Nat.eq_zero_or_pos s.lockers
  · have := sound.free unlocked
    omega
  · have := sound.held locked
    have : maxConsecutiveFailures = 10 := rfl
    omega

theorem lockers_member (s : Host) (attempt : Attempt) (member : attempt ∈ s.attempts) (locks : attempt.locks = true) : 0 < s.lockers :=
  List.countP_pos_iff.mpr ⟨attempt, member, locks⟩

theorem rotated_locks (attempt : Attempt) (rotated : attempt.rotated = true) : attempt.locks = true := by
  cases attempt with
  | rereading => rfl
  | storing new => rfl
  | begun => cases rotated
  | compared value success => cases rotated
  | entered value success => cases rotated
  | rotating => cases rotated
  | done => cases rotated

theorem lockers_at (s : Host) (k : Nat) (old new : Attempt) (there : s.attempts[k]? = some old) (same : new.locks = old.locks) :
    (s.at k new).lockers = s.lockers := by
  have counted := count_set s.attempts k old new Attempt.locks there
  rw [same] at counted
  exact Nat.add_right_cancel counted

theorem failures_positive : 0 < maxConsecutiveFailures := by decide

theorem unlocked_iff (s : Host) : s.locked = false ↔ s.lockers = 0 := by
  rw [Host.locked, Host.lockers, List.any_eq_false, List.countP_eq_zero]

theorem sound_start (enabled : Bool) (password : String) : Sound (.start enabled password) := by
  constructor
  all_goals simp [Host.start, Host.lockers, maxConsecutiveFailures]

theorem sound_unlocked (s : Host) (current : s.password ∈ s.used) (known : s.state.failures = 0 ∨ s.state.password ≠ "" ∧ s.state.password ∈ s.used)
    (unlocked : s.lockers = 0) (few : s.state.failures < maxConsecutiveFailures) : Sound s := by
  have locks_free : ∀ attempt ∈ s.attempts, attempt.locks ≠ true := fun attempt member locks =>
    absurd (lockers_member s attempt member locks) (by omega)
  refine ⟨current, known, by omega, fun held => by omega, fun _ => few, ?_, ?_⟩
  · intro attempt member rotated
    exact absurd (rotated_locks attempt rotated) (locks_free attempt member)
  · intro new member
    exact absurd rfl (locks_free (.storing new) member)

-- An attempt that takes no part in the lock, or stays its holder, moves on.
theorem sound_at (s : Host) (k : Nat) (old new : Attempt) (sound : Sound s) (there : s.attempts[k]? = some old)
    (same : new.locks = old.locks) (rotated : new.rotated = true → s.state.password ≠ s.password)
    (stored : ∀ value, new = .storing value → value ∈ s.used) : Sound (s.at k new) := by
  have lockers := lockers_at s k old new there same
  refine ⟨sound.current, sound.known, by rw [lockers]; exact sound.alone, fun held => sound.held (by omega),
    fun free => sound.free (by omega), ?_, ?_⟩
  · intro attempt member moved
    obtain before | rfl := List.mem_or_eq_of_mem_set member
    · exact sound.moved attempt before moved
    · exact rotated moved
  · intro value member
    obtain before | now := List.mem_or_eq_of_mem_set member
    · exact sound.stored value before
    · exact stored value now.symm

theorem sound_plain_at (s : Host) (k : Nat) (old new : Attempt) (sound : Sound s) (there : s.attempts[k]? = some old)
    (before : old.locks = false) (after : new.locks = false) : Sound (s.at k new) := by
  apply sound_at s k old new sound there (after.trans before.symm)
  · intro rotated
    rw [rotated_locks new rotated] at after
    cases after
  · intro value storing
    rw [storing] at after
    cases after

-- While the lock is held the counter is not about a value the password module never had.
theorem held_value (s : Host) (new : String) (sound : Sound s) (held : 0 < s.lockers) (unused : new ∉ s.used) : s.state.password ≠ new := by
  intro same
  have failures := sound.held held
  obtain none | seen := sound.known
  · rw [failures] at none
    cases none
  · exact unused (same ▸ seen.2)

theorem sound_change (s next : Host) (new : String) (sound : Sound s) (updated : s.updateTemporaryPassword new = some next) :
    Sound next ∧ new ∉ s.used ∧ next = { s with password := new, used := s.used ++ [new] } := by
  rw [Host.updateTemporaryPassword] at updated
  split at updated
  next => cases updated
  next unused =>
    obtain rfl := Option.some.inj updated
    refine ⟨⟨by simp, ?_, sound.alone, sound.held, sound.free, ?_, ?_⟩, unused, rfl⟩
    · exact sound.known.imp_right (And.imp_right (List.mem_append_left [new]))
    · intro attempt member rotated
      exact held_value s new sound (lockers_member s attempt member (rotated_locks attempt rotated)) unused
    · intro value member
      exact List.mem_append_left [new] (sound.stored value member)

theorem sound_rotate (s mid : Host) (k : Nat) (new : String) (sound : Sound s) (there : s.attempts[k]? = some .rotating)
    (updated : s.updateTemporaryPassword new = some mid) : Sound (mid.at k .rereading) := by
  obtain ⟨sound', unused, rfl⟩ := sound_change s mid new sound updated
  refine sound_at _ k .rotating .rereading sound' there rfl ?_ (fun value storing => by cases storing)
  intro _
  exact held_value s new sound (lockers_member s .rotating (List.mem_of_getElem? there) rfl) unused

theorem state_of_password (state : State) (current : String) : (state.of current).password = current := by
  rw [State.of]
  split
  next => rfl
  next same => exact Decidable.not_not.mp same

theorem state_of_failures (s : Host) : (s.state.of s.password).failures = s.effective := by
  rw [State.of, Host.effective]
  by_cases same : s.state.password = s.password
  · simp [same]
  · simp [same]

-- The attempt moves on with the counter set for the current password.
def Host.record (s : Host) (k : Nat) (attempt : Attempt) (failures : Nat) : Host :=
  { s.at k attempt with state := { password := s.password, failures := failures } }

theorem effective_record (s : Host) (k : Nat) (attempt : Attempt) (failures : Nat) : (s.record k attempt failures).effective = failures :=
  if_pos rfl

-- What the part under the lock does, by the result of the login.
inductive Counted (s : Host) (k : Nat) : Bool → Host → Prop where
  | empty (success : Bool) (nothing : s.password = "") : Counted s k success (s.at k .done)
  | cleared (something : s.password ≠ "") : Counted s k true (s.record k .done 0)
  | failed (something : s.password ≠ "") (attempt : Attempt)
      (result : attempt = .done ∧ s.effective + 1 < maxConsecutiveFailures ∨ attempt = .rotating ∧ maxConsecutiveFailures ≤ s.effective + 1) :
      Counted s k false (s.record k attempt (s.effective + 1))

theorem counted (s : Host) (k : Nat) (success : Bool) : Counted s k success (s.count k success) := by
  rw [Host.count]
  by_cases nothing : s.password = ""
  · rw [if_pos nothing]
    exact .empty success nothing
  · rw [if_neg nothing]
    simp only [state_of_password, state_of_failures]
    cases success with
    | true => exact .cleared nothing
    | false =>
        by_cases few : s.effective + 1 < maxConsecutiveFailures
        · simpa [few, Host.record] using Counted.failed nothing .done (.inl ⟨rfl, few⟩)
        · simpa [few, Host.record] using Counted.failed nothing .rotating (.inr ⟨rfl, Nat.le_of_not_lt few⟩)

theorem lockers_count (s : Host) (k : Nat) (value : Option String) (success : Bool) (new : Attempt)
    (there : s.attempts[k]? = some (.entered value success)) (unlocked : s.lockers = 0) :
    (s.at k new).lockers = if new.locks = true then 1 else 0 := by
  have counted := count_set s.attempts k (.entered value success) new Attempt.locks there
  have none : s.attempts.countP Attempt.locks = 0 := unlocked
  rw [none, Nat.zero_add] at counted
  exact counted

theorem effective_few (s : Host) (sound : Sound s) (unlocked : s.lockers = 0) : s.effective < maxConsecutiveFailures := by
  rw [Host.effective]
  split
  · exact sound.free unlocked
  · exact failures_positive

theorem sound_count (s next : Host) (k : Nat) (value : Option String) (success : Bool) (sound : Sound s)
    (there : s.attempts[k]? = some (.entered value success)) (unlocked : s.lockers = 0) (counted : Counted s k success next) : Sound next := by
  have locks (new : Attempt) : (s.at k new).lockers = if new.locks = true then 1 else 0 := lockers_count s k value success new there unlocked
  cases counted with
  | empty nothing => exact sound_plain_at s k _ .done sound there rfl rfl
  | cleared something => exact sound_unlocked (s.record k .done 0) sound.current (.inl rfl) (locks .done) failures_positive
  | failed something attempt result =>
      have known := (.inr ⟨something, sound.current⟩ : s.effective + 1 = 0 ∨ s.password ≠ "" ∧ s.password ∈ s.used)
      obtain ⟨rfl, few⟩ | ⟨rfl, many⟩ := result
      · exact sound_unlocked (s.record k .done (s.effective + 1)) sound.current known (locks .done) few
      · have others : ∀ attempt ∈ s.attempts.set k .rotating, attempt.rotated = false := by
          intro attempt member
          obtain before | rfl := List.mem_or_eq_of_mem_set member
          · by_contra rotated
            have := lockers_member s attempt before (rotated_locks attempt (by simpa using rotated))
            omega
          · rfl
        refine ⟨sound.current, known, Nat.le_of_eq (locks .rotating), fun _ => ?_, fun free => ?_, ?_, ?_⟩
        · exact Nat.le_antisymm (effective_few s sound unlocked) many
        · exact absurd ((locks .rotating).symm.trans free) Nat.one_ne_zero
        · intro attempt member rotated
          rw [others attempt member] at rotated
          cases rotated
        · intro new member
          exact absurd (others (.storing new) member) (by simp [Attempt.rotated])

theorem sound_store (s : Host) (k : Nat) (new : String) (sound : Sound s) (there : s.attempts[k]? = some (.storing new)) :
    Sound { s.at k .done with state := { password := new, failures := 0 } } := by
  have counted : (s.attempts.set k .done).countP Attempt.locks + 1 = s.attempts.countP Attempt.locks :=
    count_set s.attempts k (.storing new) .done Attempt.locks there
  have alone : s.attempts.countP Attempt.locks ≤ 1 := sound.alone
  have unlocked : (s.attempts.set k .done).countP Attempt.locks = 0 := by omega
  exact sound_unlocked { s.at k .done with state := { password := new, failures := 0 } } sound.current (.inl rfl) unlocked failures_positive

theorem compared_locks (s : Host) (guess : String → Bool) (permanent : Bool) : (s.compared guess permanent).locks = false := by
  rw [Host.compared]
  split
  · rfl
  · split <;> rfl

theorem begin_taken (s : Host) (permanent : Bool) : ∃ attempt, s.begin permanent = { s with attempts := s.attempts ++ [attempt] } ∧
    attempt.locks = false ∧ ∀ value, attempt.owes value = false := by
  refine ⟨_, rfl, ?_, fun value => ?_⟩
  · split
    · rfl
    · split <;> rfl
  · split
    · rfl
    · split
      · rfl
      · simp [Attempt.owes]

theorem sound_begin (s : Host) (permanent : Bool) (sound : Sound s) : Sound (s.begin permanent) := by
  obtain ⟨attempt, same, plain, -⟩ := begin_taken s permanent
  rw [same]
  have lockers : Host.lockers { s with attempts := s.attempts ++ [attempt] } = s.lockers := by
    simp [Host.lockers, plain]
  have member : ∀ other ∈ s.attempts ++ [attempt], other.locks = true → other ∈ s.attempts := by
    intro other found locks
    obtain old | new := List.mem_append.mp found
    · exact old
    · rw [List.mem_singleton.mp new, plain] at locks
      cases locks
  refine ⟨sound.current, sound.known, by rw [lockers]; exact sound.alone, fun held => sound.held (by omega),
    fun free => sound.free (by omega), ?_, ?_⟩
  · intro other found rotated
    exact sound.moved other (member other found (rotated_locks other rotated)) rotated
  · intro new found
    exact sound.stored new (member (.storing new) found rfl)

section
variable (s next : Host) (k : Nat)

-- The attempt each action is about, and what becomes of the host.
theorem compare_taken (guess : String → Bool) (permanent : Bool)
    (taken : s.step (.compare k guess permanent) = some next) : s.attempts[k]? = some .begun ∧ next = s.at k (s.compared guess permanent) := by
  rw [Host.step] at taken
  split at taken
  next there => exact ⟨there, (Option.some.inj taken).symm⟩
  next => cases taken

theorem enter_taken (taken : s.step (.enter k) = some next) :
    ∃ value success, s.attempts[k]? = some (.compared value success) ∧ next = s.at k (if s.enabled then .entered value success else .done) := by
  rw [Host.step] at taken
  split at taken
  next value success there => exact ⟨value, success, there, (Option.some.inj taken).symm⟩
  next => cases taken

theorem count_taken (taken : s.step (.count k) = some next) :
    ∃ value success, s.attempts[k]? = some (.entered value success) ∧ s.lockers = 0 ∧ Counted s k success next := by
  rw [Host.step] at taken
  split at taken
  next value success there =>
    split at taken
    next => cases taken
    next unlocked =>
      obtain rfl := Option.some.inj taken
      exact ⟨value, success, there, (unlocked_iff s).mp (by simpa using unlocked), counted s k success⟩
  next => cases taken

theorem rotate_taken (new : String) (taken : s.step (.rotate k new) = some next) :
    ∃ mid, s.attempts[k]? = some .rotating ∧ s.updateTemporaryPassword new = some mid ∧ next = mid.at k .rereading := by
  rw [Host.step] at taken
  split at taken
  next there =>
    obtain ⟨mid, updated, rfl⟩ := Option.map_eq_some_iff.mp taken
    exact ⟨mid, there, updated, rfl⟩
  next => cases taken

theorem reread_taken (taken : s.step (.reread k) = some next) : s.attempts[k]? = some .rereading ∧ next = s.at k (.storing s.password) := by
  rw [Host.step] at taken
  split at taken
  next there => exact ⟨there, (Option.some.inj taken).symm⟩
  next => cases taken

theorem store_taken (taken : s.step (.store k) = some next) :
    ∃ new, s.attempts[k]? = some (.storing new) ∧ next = { s.at k .done with state := { password := new, failures := 0 } } := by
  rw [Host.step] at taken
  split at taken
  next new there => exact ⟨new, there, (Option.some.inj taken).symm⟩
  next => cases taken

end

theorem sound_step (s next : Host) (label : Label) (sound : Sound s) (taken : s.step label = some next) : Sound next := by
  cases label with
  | begin permanent =>
      obtain rfl := Option.some.inj taken
      exact sound_begin s permanent sound
  | compare k guess permanent =>
      obtain ⟨there, rfl⟩ := compare_taken s next k guess permanent taken
      exact sound_plain_at s k .begun _ sound there rfl (compared_locks s guess permanent)
  | enter k =>
      obtain ⟨value, success, there, rfl⟩ := enter_taken s next k taken
      apply sound_plain_at s k (.compared value success) _ sound there rfl
      split <;> rfl
  | count k =>
      obtain ⟨value, success, there, unlocked, counted⟩ := count_taken s next k taken
      exact sound_count s next k value success sound there unlocked counted
  | rotate k new =>
      obtain ⟨mid, there, updated, rfl⟩ := rotate_taken s next k new taken
      exact sound_rotate s mid k new sound there updated
  | reread k =>
      obtain ⟨there, rfl⟩ := reread_taken s next k taken
      refine sound_at s k .rereading _ sound there rfl (fun _ => ?_) (fun value storing => ?_)
      · exact sound.moved .rereading (List.mem_of_getElem? there) rfl
      · rw [← Attempt.storing.inj storing]
        exact sound.current
  | store k =>
      obtain ⟨new, there, rfl⟩ := store_taken s next k taken
      exact sound_store s k new sound there
  | change new => exact (sound_change s next new sound taken).1
  | enable on =>
      obtain rfl := Option.some.inj taken
      exact { sound with }

-- Every wrong guess at the current value is in the counter, waits for it or was skipped; the
-- guesses at a value that is gone stay within the limit.
structure Charged (concurrent : Nat) (past : List (Host × Label)) (s : Host) : Prop where
  fresh : ∀ value, value = "" ∨ value ∉ s.used → wrongGuesses past value = 0
  charged : wrongGuesses past s.password ≤ s.effective + s.owed s.password + skippedCalls past s.password
  bounded : ∀ value, value ≠ s.password → wrongGuesses past value ≤ maxConsecutiveFailures - 1 + concurrent + skippedCalls past value

section
variable (past : List (Host × Label)) (entry : Host × Label) (value : String)

theorem wrong_guesses_append : wrongGuesses (past ++ [entry]) value = wrongGuesses past value + if wrongAt value entry = true then 1 else 0 := by
  rw [wrongGuesses, List.countP_append, List.countP_singleton, ← wrongGuesses]

theorem skipped_calls_append : skippedCalls (past ++ [entry]) value = skippedCalls past value + if skippedAt value entry = true then 1 else 0 := by
  rw [skippedCalls, List.countP_append, List.countP_singleton, ← skippedCalls]

end

theorem charged_limit (concurrent : Nat) (past : List (Host × Label)) (s : Host) (value : String) (sound : Sound s)
    (charged : Charged concurrent past s) (few : s.inProgress ≤ concurrent) :
    wrongGuesses past value ≤ maxConsecutiveFailures - 1 + concurrent + skippedCalls past value := by
  by_cases same : value = s.password
  · have counted := charged.charged
    have most := owed_bound s s.password sound
    rw [same]
    omega
  · exact charged.bounded value same

theorem compared_wrong (s : Host) (guess : String → Bool) (permanent : Bool) (value : String)
    (wrong : s.compared guess permanent = .compared (some value) false) : value = s.password ∧ value ≠ "" := by
  rw [Host.compared] at wrong
  split at wrong
  next => cases wrong
  next =>
    split at wrong
    next => cases wrong
    next =>
      split at wrong
      next => cases wrong
      next something =>
        cases wrong
        exact ⟨rfl, something⟩

-- The value of a wrong guess is the one the password module holds.
theorem wrong_at_value (entry : Host × Label) (value : String) (wrong : wrongAt value entry = true) :
    value = entry.1.password ∧ value ≠ "" := by
  obtain ⟨s, label⟩ := entry
  cases label with
  | compare k guess permanent => exact compared_wrong s guess permanent value (of_decide_eq_true wrong)
  | begin _ | enter _ | count _ | rotate _ _ | reread _ | store _ | change _ | enable _ => cases wrong

section
variable (concurrent : Nat) (past : List (Host × Label)) (s next : Host) (label : Label)

-- A step that keeps the value and charges what it compares.
theorem charged_kept (charged : Charged concurrent past s)
    (password : next.password = s.password) (used : next.used = s.used) (current : s.password ∈ s.used)
    (step : s.password ≠ "" → (if wrongAt s.password (s, label) = true then 1 else 0) + s.effective + s.owed s.password ≤
      next.effective + next.owed s.password + if skippedAt s.password (s, label) = true then 1 else 0) :
    Charged concurrent (past ++ [(s, label)]) next := by
  constructor
  · intro value new
    rw [used] at new
    rw [wrong_guesses_append, charged.fresh value new, Nat.zero_add, if_neg]
    intro wrong
    obtain ⟨same, something⟩ := wrong_at_value (s, label) value wrong
    obtain nothing | unused := new
    · exact something nothing
    · exact unused (same ▸ current)
  · rw [password, wrong_guesses_append, skipped_calls_append]
    by_cases nothing : s.password = ""
    · have none := charged.fresh s.password (.inl nothing)
      have still : wrongAt s.password (s, label) ≠ true := fun wrong => (wrong_at_value (s, label) s.password wrong).2 nothing
      rw [none, if_neg still]
      exact Nat.zero_le _
    · have before := charged.charged
      have here := step nothing
      omega
  · intro value other
    rw [password] at other
    rw [wrong_guesses_append, skipped_calls_append, if_neg]
    · have := charged.bounded value other
      omega
    · intro wrong
      exact other (wrong_at_value (s, label) value wrong).1

-- The password module gets a new value.
theorem charged_changed (new : String) (sound : Sound s)
    (charged : Charged concurrent past s) (few : s.inProgress ≤ concurrent) (unused : new ∉ s.used) (password : next.password = new)
    (used : next.used = s.used ++ [new]) (still : ∀ value, wrongAt value (s, label) = false) :
    Charged concurrent (past ++ [(s, label)]) next := by
  have same : ∀ value, wrongGuesses (past ++ [(s, label)]) value = wrongGuesses past value := by
    intro value
    simp [wrong_guesses_append, still value]
  constructor
  · intro value fresh
    rw [used] at fresh
    rw [same]
    exact charged.fresh value (fresh.imp_right (fun absent member => absent (List.mem_append_left [new] member)))
  · rw [password, same, charged.fresh new (.inr unused)]
    exact Nat.zero_le _
  · intro value _
    rw [same, skipped_calls_append]
    have := charged_limit concurrent past s value sound charged few
    omega

end

theorem owed_at (s : Host) (k : Nat) (old new : Attempt) (value : String) (there : s.attempts[k]? = some old) :
    (s.at k new).owed value + (if old.owes value = true then 1 else 0) = s.owed value + if new.owes value = true then 1 else 0 :=
  count_set s.attempts k old new (Attempt.owes value) there

theorem compare_charges (s : Host) (k : Nat) (guess : String → Bool) (permanent : Bool) (value : String)
    (there : s.attempts[k]? = some .begun) :
    (if wrongAt value (s, .compare k guess permanent) = true then 1 else 0) + s.owed value = (s.at k (s.compared guess permanent)).owed value := by
  have moved := owed_at s k .begun (s.compared guess permanent) value there
  have begun : Attempt.begun.owes value = false := by simp [Attempt.owes]
  have same : (s.compared guess permanent).owes value = wrongAt value (s, .compare k guess permanent) := by
    have plain : s.compared guess permanent ≠ .entered (some value) false := by
      rw [Host.compared]
      split
      · simp
      · split <;> simp
    simp [Attempt.owes, wrongAt, plain]
  rw [begun, same] at moved
  simp only [Bool.false_eq_true, if_false] at moved
  omega

theorem enter_charges (s : Host) (k : Nat) (compared : Option String) (success : Bool) (value : String)
    (there : s.attempts[k]? = some (.compared compared success)) :
    s.owed value = (s.at k (if s.enabled then .entered compared success else .done)).owed value +
      if skippedAt value (s, .enter k) = true then 1 else 0 := by
  have moved := owed_at s k _ (if s.enabled then .entered compared success else .done) value there
  cases enabled : s.enabled with
  | true =>
      rw [enabled] at moved
      have skipped : skippedAt value (s, .enter k) = false := by simp [skippedAt, enabled]
      have same : (Attempt.entered compared success).owes value = (Attempt.compared compared success).owes value := by simp [Attempt.owes]
      simp only [if_true, same] at moved ⊢
      rw [skipped]
      exact (Nat.add_right_cancel moved).symm
  | false =>
      rw [enabled] at moved
      have skipped : skippedAt value (s, .enter k) = (Attempt.compared compared success).owes value := by
        simp [skippedAt, enabled, there, Attempt.owes]
      have done : Attempt.done.owes value = false := by simp [Attempt.owes]
      rw [skipped]
      exact moved.symm

theorem count_charges (s next : Host) (k : Nat) (compared : Option String) (value : String)
    (there : s.attempts[k]? = some (.entered compared false)) (something : s.password ≠ "") (counted : Counted s k false next) :
    s.effective + s.owed value ≤ next.effective + next.owed value := by
  have one : (if (Attempt.entered compared false).owes value = true then 1 else 0) ≤ 1 := by split <;> simp
  cases counted with
  | empty _ nothing => exact absurd nothing something
  | failed _ attempt result =>
      have moved := owed_at s k _ attempt value there
      have owed : (s.record k attempt (s.effective + 1)).owed value = (s.at k attempt).owed value := rfl
      rw [effective_record, owed]
      omega

-- A step that compares nothing: what it takes from the guesses that wait is counted or skipped.
theorem charged_still (concurrent : Nat) (past : List (Host × Label)) (s next : Host) (label : Label) (charged : Charged concurrent past s)
    (password : next.password = s.password) (used : next.used = s.used) (current : s.password ∈ s.used)
    (still : wrongAt s.password (s, label) = false)
    (step : s.password ≠ "" → s.effective + s.owed s.password ≤
      next.effective + next.owed s.password + if skippedAt s.password (s, label) = true then 1 else 0) :
    Charged concurrent (past ++ [(s, label)]) next := by
  apply charged_kept concurrent past s next label charged password used current
  intro something
  rw [still, if_neg Bool.false_ne_true, Nat.zero_add]
  exact step something

-- An attempt that no guess waits with before and after.
theorem owed_plain (s : Host) (k : Nat) (old new : Attempt) (value : String) (there : s.attempts[k]? = some old)
    (before : old.locks = true) (after : new.owes value = false) : (s.at k new).owed value = s.owed value := by
  have moved := owed_at s k old new value there
  have plain : ¬ old.owes value = true := by
    intro owes
    obtain rfl | rfl := of_decide_eq_true owes
    · cases before
    · cases before
  simpa [plain, after] using moved

theorem charged_step (concurrent : Nat) (past : List (Host × Label)) (s next : Host) (label : Label) (sound : Sound s)
    (charged : Charged concurrent past s) (few : s.inProgress ≤ concurrent) (quiet : succeededAt (s, label) = false)
    (taken : s.step label = some next) : Charged concurrent (past ++ [(s, label)]) next := by
  cases label with
  | begin permanent =>
      obtain rfl := Option.some.inj taken
      obtain ⟨attempt, same, -, owes⟩ := begin_taken s permanent
      rw [same]
      refine charged_still concurrent past s _ _ charged rfl rfl sound.current rfl (fun _ => ?_)
      have owed : Host.owed { s with attempts := s.attempts ++ [attempt] } s.password = s.owed s.password := by simp [Host.owed, owes]
      rw [owed]
      exact Nat.le_add_right _ _
  | compare k guess permanent =>
      obtain ⟨there, rfl⟩ := compare_taken s next k guess permanent taken
      refine charged_kept concurrent past s _ _ charged rfl rfl sound.current (fun _ => ?_)
      have moved := compare_charges s k guess permanent s.password there
      have effective : (s.at k (s.compared guess permanent)).effective = s.effective := rfl
      omega
  | enter k =>
      obtain ⟨value, success, there, rfl⟩ := enter_taken s next k taken
      refine charged_still concurrent past s _ _ charged rfl rfl sound.current rfl (fun _ => ?_)
      have moved := enter_charges s k value success s.password there
      have effective : (s.at k (if s.enabled then .entered value success else .done)).effective = s.effective := rfl
      omega
  | count k =>
      obtain ⟨value, success, there, unlocked, counted⟩ := count_taken s next k taken
      have failed : success = false := by
        cases success with
        | false => rfl
        | true => simp [succeededAt, there] at quiet
      subst failed
      have kept : next.password = s.password ∧ next.used = s.used := by cases counted <;> exact ⟨rfl, rfl⟩
      refine charged_still concurrent past s next _ charged kept.1 kept.2 sound.current rfl (fun something => ?_)
      exact Nat.le_add_right_of_le (count_charges s next k value s.password there something counted)
  | rotate k new =>
      obtain ⟨mid, there, updated, rfl⟩ := rotate_taken s next k new taken
      obtain ⟨-, unused, rfl⟩ := sound_change s mid new sound updated
      exact charged_changed concurrent past s _ _ new sound charged few unused rfl rfl (fun _ => rfl)
  | reread k =>
      obtain ⟨there, rfl⟩ := reread_taken s next k taken
      refine charged_still concurrent past s _ _ charged rfl rfl sound.current rfl (fun _ => ?_)
      rw [owed_plain s k .rereading (.storing s.password) s.password there rfl (by simp [Attempt.owes])]
      exact Nat.le_add_right _ _
  | store k =>
      obtain ⟨new, there, rfl⟩ := store_taken s next k taken
      refine charged_still concurrent past s _ _ charged rfl rfl sound.current rfl (fun _ => ?_)
      have owed := owed_plain s k (.storing new) .done s.password there rfl (by simp [Attempt.owes])
      have stored : Host.owed { s.at k .done with state := { password := new, failures := 0 } } s.password = (s.at k .done).owed s.password := rfl
      rw [effective_rotated s sound (.storing new) (List.mem_of_getElem? there) rfl, stored, owed]
      omega
  | change new =>
      obtain ⟨-, unused, rfl⟩ := sound_change s next new sound taken
      exact charged_changed concurrent past s _ _ new sound charged few unused rfl rfl (fun _ => rfl)
  | enable on =>
      obtain rfl := Option.some.inj taken
      exact charged_still concurrent past s _ _ charged rfl rfl sound.current rfl (fun _ => Nat.le_add_right _ _)

theorem charged_start (concurrent : Nat) (s : Host) : Charged concurrent [] s := by
  refine ⟨fun _ _ => rfl, ?_, fun _ _ => ?_⟩
  · exact Nat.zero_le _
  · exact Nat.zero_le _

theorem charged_run (concurrent : Nat) (start s : Host) (past : List (Host × Label)) (sound : Sound start)
    (traced : Traced Host.step start past s) (quiet : ∀ entry ∈ past, succeededAt entry = false)
    (few : ∀ entry ∈ past, entry.1.inProgress ≤ concurrent) : Sound s ∧ Charged concurrent past s := by
  induction traced with
  | start => exact ⟨sound, charged_start concurrent start⟩
  | next past state after label _ taken ih =>
      obtain ⟨quiet_before, quiet_here⟩ := List.forall_mem_append.mp quiet
      obtain ⟨few_before, few_here⟩ := List.forall_mem_append.mp few
      obtain ⟨sound, charged⟩ := ih quiet_before few_before
      have here : (state, label) ∈ [(state, label)] := List.mem_cons_self
      exact ⟨sound_step state after label sound taken,
        charged_step concurrent past state after label sound charged (few_here _ here) (quiet_here _ here) taken⟩

-- What was recorded since a moment at which the counter stood at nothing.
structure Since (past : List (Host × Label)) (s : Host) : Prop where
  sound : Sound s
  effective : s.effective ≤ failuresRecorded past
  rotating : .rotating ∈ s.attempts → maxConsecutiveFailures ≤ failuresRecorded past

theorem failures_recorded_append (past : List (Host × Label)) (entry : Host × Label) :
    failuresRecorded (past ++ [entry]) = failuresRecorded past + if failedAt entry = true then 1 else 0 := by
  rw [failuresRecorded, List.countP_append, List.countP_singleton, ← failuresRecorded]

-- A step that brings up no rotation and does not raise the counter.
theorem since_kept (past : List (Host × Label)) (s next : Host) (label : Label) (since : Since past s) (sound : Sound next)
    (effective : next.effective ≤ s.effective) (attempts : .rotating ∈ next.attempts → .rotating ∈ s.attempts) :
    Since (past ++ [(s, label)]) next := by
  have more : failuresRecorded past ≤ failuresRecorded (past ++ [(s, label)]) := by
    rw [failures_recorded_append]
    exact Nat.le_add_right _ _
  exact ⟨sound, Nat.le_trans effective (Nat.le_trans since.effective more), fun member => Nat.le_trans (since.rotating (attempts member)) more⟩

theorem not_rotating_set (attempts : List Attempt) (k : Nat) (new : Attempt) (other : new ≠ .rotating)
    (member : .rotating ∈ attempts.set k new) : .rotating ∈ attempts := by
  obtain old | same := List.mem_or_eq_of_mem_set member
  · exact old
  · exact absurd same.symm other

theorem effective_changed (s next : Host) (new : String) (sound : Sound s) (updated : s.updateTemporaryPassword new = some next) :
    next.effective = 0 := by
  obtain ⟨-, unused, rfl⟩ := sound_change s next new sound updated
  rw [Host.effective]
  split
  next same =>
    have same : s.state.password = new := same
    obtain none | seen := sound.known
    · exact none
    · exact absurd (same ▸ seen.2) unused
  next => rfl

theorem since_count (past : List (Host × Label)) (s next : Host) (k : Nat) (value : Option String) (success : Bool) (since : Since past s)
    (sound : Sound next) (there : s.attempts[k]? = some (.entered value success)) (counted : Counted s k success next) :
    Since (past ++ [(s, .count k)]) next := by
  cases counted with
  | empty nothing =>
      exact since_kept past s _ _ since sound (Nat.le_refl _) (not_rotating_set s.attempts k .done (by simp))
  | cleared something =>
      apply since_kept past s _ _ since sound
      · rw [effective_record]
        exact Nat.zero_le _
      · exact not_rotating_set s.attempts k .done (by simp)
  | failed something attempt result =>
      have recorded : failedAt (s, .count k) = true := by simp [failedAt, there, something]
      have before := since.effective
      refine ⟨sound, ?_, fun member => ?_⟩
      · rw [failures_recorded_append, if_pos recorded, effective_record]
        omega
      · rw [failures_recorded_append, if_pos recorded]
        obtain ⟨rfl, few⟩ | ⟨rfl, many⟩ := result
        · exact Nat.le_add_right_of_le (since.rotating (not_rotating_set s.attempts k .done (by simp) member))
        · omega

theorem since_step (past : List (Host × Label)) (s next : Host) (label : Label) (since : Since past s) (taken : s.step label = some next) :
    Since (past ++ [(s, label)]) next := by
  have sound := sound_step s next label since.sound taken
  cases label with
  | begin permanent =>
      obtain rfl := Option.some.inj taken
      obtain ⟨attempt, same, plain, -⟩ := begin_taken s permanent
      rw [same] at sound ⊢
      apply since_kept past s _ _ since sound (Nat.le_refl _)
      intro member
      obtain old | new := List.mem_append.mp member
      · exact old
      · rw [← List.mem_singleton.mp new] at plain
        cases plain
  | compare k guess permanent =>
      obtain ⟨there, rfl⟩ := compare_taken s next k guess permanent taken
      apply since_kept past s _ _ since sound (Nat.le_refl _)
      apply not_rotating_set
      intro same
      have plain := compared_locks s guess permanent
      rw [same] at plain
      cases plain
  | enter k =>
      obtain ⟨value, success, there, rfl⟩ := enter_taken s next k taken
      apply since_kept past s _ _ since sound (Nat.le_refl _)
      apply not_rotating_set
      split <;> simp
  | count k =>
      obtain ⟨value, success, there, -, counted⟩ := count_taken s next k taken
      exact since_count past s next k value success since sound there counted
  | rotate k new =>
      obtain ⟨mid, there, updated, rfl⟩ := rotate_taken s next k new taken
      have changed := effective_changed s mid new since.sound updated
      obtain ⟨-, -, rfl⟩ := sound_change s mid new since.sound updated
      apply since_kept past s _ _ since sound
      · exact Nat.le_trans (Nat.le_of_eq changed) (Nat.zero_le _)
      · exact not_rotating_set s.attempts k .rereading (by simp)
  | reread k =>
      obtain ⟨there, rfl⟩ := reread_taken s next k taken
      exact since_kept past s _ _ since sound (Nat.le_refl _) (not_rotating_set s.attempts k _ (by simp))
  | store k =>
      obtain ⟨new, there, rfl⟩ := store_taken s next k taken
      apply since_kept past s _ _ since sound
      · rw [Host.effective]
        split <;> exact Nat.zero_le _
      · exact not_rotating_set s.attempts k .done (by simp)
  | change new =>
      have changed := effective_changed s next new since.sound taken
      obtain ⟨-, -, rfl⟩ := sound_change s next new since.sound taken
      apply since_kept past s _ _ since sound
      · exact Nat.le_trans (Nat.le_of_eq changed) (Nat.zero_le _)
      · exact id
  | enable on =>
      obtain rfl := Option.some.inj taken
      exact since_kept past s _ _ since sound (Nat.le_refl _) id

-- A success that reaches the counter leaves nothing in it.
theorem since_success (s next : Host) (k : Nat) (sound : Sound s) (succeeded : succeededAt (s, .count k) = true)
    (taken : s.step (.count k) = some next) : Since [] next := by
  obtain ⟨value, success, there, unlocked, counted⟩ := count_taken s next k taken
  obtain rfl : success = true := by
    cases success with
    | true => rfl
    | false => simp [succeededAt, there] at succeeded
  have none : .rotating ∉ s.attempts := fun member => absurd (lockers_member s .rotating member rfl) (by omega)
  have after := sound_step s next (.count k) sound taken
  cases counted with
  | empty _ nothing =>
      refine ⟨after, ?_, fun member => absurd (not_rotating_set s.attempts k .done (by simp) member) none⟩
      have unnamed : s.effective = 0 := by
        rw [Host.effective, nothing]
        split
        next same =>
          obtain none | seen := sound.known
          · exact none
          · exact absurd same seen.1
        next => rfl
      exact Nat.le_of_eq unnamed
  | cleared something =>
      refine ⟨after, Nat.le_of_eq (if_pos rfl), fun member => absurd (not_rotating_set s.attempts k .done (by simp) member) none⟩

theorem sound_reachable (enabled : Bool) (password : String) (s : Host) (reached : Reachable Host.step (.start enabled password) s) : Sound s :=
  reachable_invariant Host.step Sound _ s (sound_start enabled password) (fun state label next sound taken => sound_step state next label sound taken)
    reached

-- From every reachable state: while no success reaches the counter, the wrong guesses at a value
-- whose call was not skipped stay below the limit and the attempts in progress; and what is
-- rotated after a success has the whole number of failures recorded since.
theorem wrong_guesses_limited (enabled : Bool) (password : String) (start : Host)
    (reached : Reachable Host.step (.start enabled password) start) :
    (∀ (concurrent : Nat) (past : List (Host × Label)) (s : Host) (value : String), Traced Host.step start past s →
        (∀ entry ∈ past, succeededAt entry = false) → (∀ entry ∈ past, entry.1.inProgress ≤ concurrent) → s.inProgress ≤ concurrent →
        wrongGuesses past value ≤ maxConsecutiveFailures - 1 + concurrent + skippedCalls past value) ∧
      ∀ (k : Nat) (next : Host) (past : List (Host × Label)) (s : Host), succeededAt (start, .count k) = true →
        start.step (.count k) = some next → Traced Host.step next past s → .rotating ∈ s.attempts →
        maxConsecutiveFailures ≤ failuresRecorded past := by
  have sound := sound_reachable enabled password start reached
  constructor
  · intro concurrent past s value traced quiet few fewNow
    obtain ⟨after, charged⟩ := charged_run concurrent start s past sound traced quiet few
    exact charged_limit concurrent past s value after charged fewNow
  · intro k next past s succeeded taken traced rotating
    have since := traced_invariant Host.step Since next s past (since_success start next k sound succeeded taken)
      (fun past state label after inv taken => since_step past state after label inv taken) traced
    exact since.rotating rotating

-- A login with a wrong password, whose call comes at once or while temporary passwords are
-- disabled, and one with the right password up to its call.
def wrongLogin (k : Nat) : List Label := [.begin false, .compare k (fun _ => false) false, .enter k, .count k]

def skippedLogin (k : Nat) : List Label := [.begin false, .compare k (fun _ => false) false, .enable false, .enter k, .enable true]

def rightLogin (k : Nat) : List Label := [.begin false, .compare k (fun _ => true) false, .enter k]

def wrongLogins (first number : Nat) : List Label := (List.range' first number).flatMap wrongLogin

def entered : Host := (run Host.step (.start true "secret") (rightLogin 0)).get rfl

def cleared : Host := (entered.step (.count 0)).get rfl

theorem wrong_guesses_limited_logins :
    wrongGuesses (trace Host.step (.start true "secret") (wrongLogins 0 2)) "secret" ≤
        maxConsecutiveFailures - 1 + 1 + skippedCalls (trace Host.step (.start true "secret") (wrongLogins 0 2)) "secret" ∧
      maxConsecutiveFailures ≤ failuresRecorded (trace Host.step cleared (wrongLogins 1 10)) :=
  ⟨(wrong_guesses_limited true "secret" (.start true "secret") (reachable_refl Host.step _)).1 1 _ _ "secret"
      (traced_run Host.step (.start true "secret") (wrongLogins 0 2) rfl) (by decide) (by decide) (by decide),
    (wrong_guesses_limited true "secret" entered (reachable_run Host.step _ (rightLogin 0) rfl)).2 0 cleared _ _ rfl rfl
      (traced_run Host.step cleared (wrongLogins 1 10) rfl) (by decide)⟩

-- Eleven guesses at one value, one after the other, whose calls are skipped; and a success whose call
-- is skipped, followed by a rotation for nine failures before it and one after it.
theorem calls_skipped :
    (let past := trace Host.step (.start true "secret") ((List.range 11).flatMap skippedLogin)
     (run Host.step (.start true "secret") ((List.range 11).flatMap skippedLogin)).isSome = true ∧
       (∀ entry ∈ past, entry.1.inProgress ≤ 1) ∧ (∀ entry ∈ past, succeededAt entry = false) ∧ wrongGuesses past "secret" = 11) ∧
    ∃ s, run Host.step (.start true "secret") (wrongLogins 0 9 ++ [.begin false, .compare 9 (fun _ => true) false, .enable false,
      .enter 9, .enable true] ++ wrongLogin 10) = some s ∧ .rotating ∈ s.attempts := by
  refine ⟨⟨rfl, ?_, ?_, ?_⟩, _, rfl, ?_⟩
  · decide
  · decide
  · decide
  · decide

end GotechDesk.Connection.TemporaryPassword
