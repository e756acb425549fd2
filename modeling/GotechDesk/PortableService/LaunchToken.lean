import GotechDesk.Machine

set_option autoImplicit false

namespace GotechDesk.PortableService.LaunchToken

abbrev Token := List UInt8

def ipcTokenLen : Nat := 64

-- `{:02x}` of a byte.
def hexDigit (value : UInt8) : UInt8 := if value < 10 then 48 + value else 87 + value

-- What `generate_one_time_ipc_token` makes of its random bytes.
def generateOneTimeIpcToken (randomBytes : List UInt8) : Token := randomBytes.flatMap (fun byte => [hexDigit (byte / 16), hexDigit (byte % 16)])

def isValidPortableServiceIpcToken (token : Token) : Bool :=
  token.length = ipcTokenLen && token.all (fun byte => (48 ≤ byte && byte ≤ 57) || (97 ≤ byte && byte ≤ 102))

def constantTimeIpcTokenEq (expected candidate : Token) : Bool :=
  if expected.length ≠ ipcTokenLen ∨ candidate.length ≠ ipcTokenLen then false
  else (expected.zip candidate).foldl (fun diff (left, right) => diff ||| (left ^^^ right)) 0 = (0 : UInt8)

-- The shared memory with what its token bytes hold; none is zeros.
structure SharedMemory where
  name : String
  token : Option Token
deriving DecidableEq

inductive Launch where
  | absent
  | clearing
  | preparing
  | prepared (token : Token) (name : String)
  | running
  | undoing
  | ending
  | returned
deriving DecidableEq

-- The start-up watchdog reads three variables one after the other.
inductive Watchdog where
  | off
  | sleeping
  | sawToken (same : Bool)
  | sawStarting (same starting : Bool)
  | resetting
deriving DecidableEq

inductive Handshake where
  | absent
  | consumed (token : Token) (name : Option String)
  | restoring (token : Token) (name : Option String)
  | failed
  | established
  | ponged
  | closing
  | closed
deriving DecidableEq

structure Generation where
  launch : Nat
  token : Token
  name : String
deriving DecidableEq

-- `dead` holds the tokens that a later launch has cleared away, `revived` those of them that were
-- accepted or put in place after that, and `completed` the token of each completed handshake.
structure Host where
  runtimeToken : Option Token
  shmem : Option SharedMemory
  runtimeName : Option String
  starting : Bool
  running : Bool
  startingToken : Nat
  calls : Nat → Option Bool
  launches : Nat → Launch
  watchdogs : Nat → Watchdog
  handshakes : Nat → Handshake
  generated : List Generation
  dead : List Token
  revived : List Token
  completed : List Token

inductive Outcome where
  | ok
  | failed
  | failedClean

inductive Label where
  | enter (call : Nat)
  | decide (call : Nat) (hasProcess : Bool)
  | launchClear (launch : Nat)
  | prepare (launch : Nat) (randomBytes : List UInt8) (name : String)
  | prepareFails (launch : Nat)
  | setToken (launch : Nat)
  | runProcess (launch : Nat) (outcome : Outcome)
  | undo (launch : Nat)
  | giveUp (launch : Nat)
  | watch (launch : Nat)
  | clear
  | present (handshake : Nat) (candidate : Token)
  | finish (handshake : Nat) (ok : Bool)
  | restore (handshake : Nat)
  | pong (handshake : Nat)
  | close (handshake : Nat)
  | unstart (handshake : Nat)

def Host.clearRuntimeShmemState (host : Host) : Host := { host with shmem := none, runtimeName := none, runtimeToken := none }

def Host.setLaunch (host : Host) (launch : Nat) (phase : Launch) : Host := { host with launches := Function.update host.launches launch phase }

def Host.setWatchdog (host : Host) (launch : Nat) (phase : Watchdog) : Host := { host with watchdogs := Function.update host.watchdogs launch phase }

def Host.setHandshake (host : Host) (handshake : Nat) (phase : Handshake) : Host :=
  { host with handshakes := Function.update host.handshakes handshake phase }

-- What a token adds to `revived` when it is accepted or put in place.
def Host.reviving (host : Host) (token : Token) : List Token := if token ∈ host.dead then host.revived ++ [token] else host.revived

-- The token of a match is gone from both places.
def Host.consumed (host : Host) (candidate : Token) : Host :=
  { host with runtimeToken := none, shmem := host.shmem.map (fun shmem => { shmem with token := none }), revived := host.reviving candidate }

def Host.consumeRuntimeIpcTokenIfMatch (host : Host) (candidate : Token) : Host × Bool × Option String :=
  match host.runtimeToken with
  | some expected => if constantTimeIpcTokenEq expected candidate then (host.consumed candidate, true, host.runtimeName) else (host, false, none)
  | none => (host, false, none)

-- The check of `restore` that gives the token up where it is still the current one.
def Host.forget (host : Host) (token : Token) : Host :=
  if host.runtimeToken = some token then { host with runtimeToken := none } else host

def Host.restoreRuntimeIpcToken (host : Host) (token : Token) (expectedShmemName : Option String) : Host :=
  if host.runtimeToken.any (fun current => current ≠ token) then host
  else if host.runtimeName ≠ expectedShmemName then host.forget token
  else match host.shmem with
    | none => host.forget token
    | some shmem =>
        if isValidPortableServiceIpcToken token then
          { host with shmem := some { shmem with token := some token }, runtimeToken := some token, revived := host.reviving token }
        else host.forget token

-- The launch holds the lock of the shared memory for all of this.
def Host.prepared (host : Host) (launch : Nat) (token : Token) (name : String) : Host :=
  { host.setLaunch launch (.prepared token name) with
    shmem := some { name := name, token := some token },
    runtimeName := some name,
    generated := host.generated ++ [{ launch := launch, token := token, name := name }] }

def Host.decide (host : Host) (call : Nat) (hasProcess sawRunning : Bool) : Host :=
  let starting := host.starting && !(!sawRunning && !hasProcess)
  if starting || sawRunning then { host with starting := starting, calls := Function.update host.calls call none }
  else
    { host.setLaunch (host.startingToken + 1) .clearing with
      starting := true, startingToken := host.startingToken + 1, calls := Function.update host.calls call none }

def Host.watch (host : Host) (launch : Nat) : Option Host :=
  match host.watchdogs launch with
  | .off => none
  | .sleeping => some (host.setWatchdog launch (.sawToken (host.startingToken = launch)))
  | .sawToken same => some (host.setWatchdog launch (.sawStarting same host.starting))
  | .sawStarting same starting => some (host.setWatchdog launch (if same && starting && !host.running then .resetting else .off))
  | .resetting => some { host.setWatchdog launch .off with starting := false }

def Host.unstart (host : Host) (handshake : Nat) : Option Host :=
  match host.handshakes handshake with
  | .failed | .closing => some { host.setHandshake handshake .closed with starting := false }
  | .ponged => some { host.setHandshake handshake .established with starting := false }
  | _ => none

def step (host : Host) : Label → Option Host
  | .enter call => some { host with calls := Function.update host.calls call (some host.running) }
  | .decide call hasProcess => (host.calls call).map (host.decide call hasProcess)
  | .launchClear launch =>
      if host.launches launch = .clearing then
        some { (host.clearRuntimeShmemState).setLaunch launch .preparing with
          dead := host.dead ++ (host.generated.filter (fun generation => generation.launch < launch)).map Generation.token }
      else none
  -- The generators do not repeat themselves.
  | .prepare launch randomBytes name =>
      if host.launches launch = .preparing ∧ randomBytes.length = 32 ∧ (∀ generation ∈ host.generated,
          generation.token ≠ generateOneTimeIpcToken randomBytes ∧ generation.name ≠ name) then
        some (host.prepared launch (generateOneTimeIpcToken randomBytes) name)
      else none
  | .prepareFails launch => if host.launches launch = .preparing then some (host.setLaunch launch .ending) else none
  | .setToken launch =>
      match host.launches launch with
      | .prepared token _ => some { host.setLaunch launch .running with runtimeToken := some token, revived := host.reviving token }
      | _ => none
  | .runProcess launch outcome =>
      if host.launches launch = .running then
        some (match outcome with
          | .ok => (host.setLaunch launch .returned).setWatchdog launch .sleeping
          | .failed => host.setLaunch launch .undoing
          | .failedClean => host.setLaunch launch .ending)
      else none
  | .undo launch => if host.launches launch = .undoing then some ((host.clearRuntimeShmemState).setLaunch launch .ending) else none
  | .giveUp launch => if host.launches launch = .ending then some { host.setLaunch launch .returned with starting := false } else none
  | .watch launch => host.watch launch
  | .clear => some host.clearRuntimeShmemState
  | .present handshake candidate =>
      if host.handshakes handshake = .absent then
        let consumed := host.consumeRuntimeIpcTokenIfMatch candidate
        some (consumed.1.setHandshake handshake (if consumed.2.1 then .consumed candidate consumed.2.2 else .closed))
      else none
  | .finish handshake ok =>
      match host.handshakes handshake with
      | .consumed token name =>
          some (if ok then { host.setHandshake handshake .established with completed := host.completed ++ [token] }
            else host.setHandshake handshake (.restoring token name))
      | _ => none
  | .restore handshake =>
      match host.handshakes handshake with
      | .restoring token name => some ((host.restoreRuntimeIpcToken token name).setHandshake handshake .failed)
      | _ => none
  | .pong handshake => if host.handshakes handshake = .established then some { host.setHandshake handshake .ponged with running := true } else none
  | .close handshake => if host.handshakes handshake = .established then some { host.setHandshake handshake .closing with running := false } else none
  | .unstart handshake => host.unstart handshake

def start : Host :=
  { runtimeToken := none, shmem := none, runtimeName := none, starting := false, running := false, startingToken := 0, calls := fun _ => none,
    launches := fun _ => .absent, watchdogs := fun _ => .off, handshakes := fun _ => .absent, generated := [], dead := [], revived := [], completed := [] }

structure OneTime (host : Host) : Prop where
  once : host.completed.Nodup
  buried : host.revived = []
  current : (∀ launch, host.launches launch = .absent ∨ host.launches launch = .returned) →
    ∀ token, host.runtimeToken = some token → ∃ shmem, host.shmem = some shmem ∧ shmem.token = some token

-- A launch prepares its memory where none is, and sets its token while that memory is in place.
def Alone (host : Host) : Label → Prop
  | .prepare _ _ _ => host.shmem = none
  | .setToken launch => ∀ token name, host.launches launch = .prepared token name → host.shmem.map SharedMemory.name = some name
  | _ => True

theorem hex_digit_valid (value : UInt8) (small : value < 16) :
    ((48 ≤ hexDigit value && hexDigit value ≤ 57) || (97 ≤ hexDigit value && hexDigit value ≤ 102)) = true := by
  have bound : value.toNat < 16 := small
  unfold hexDigit
  by_cases decimal : value < 10
  · have low : value.toNat < 10 := decimal
    rw [if_pos decimal]
    simp only [Bool.or_eq_true, Bool.and_eq_true, decide_eq_true_eq, UInt8.le_iff_toNat_le, UInt8.toNat_add]
    left
    simp
    omega
  · have high : ¬ value.toNat < 10 := decimal
    rw [if_neg decimal]
    simp only [Bool.or_eq_true, Bool.and_eq_true, decide_eq_true_eq, UInt8.le_iff_toNat_le, UInt8.toNat_add]
    right
    simp
    omega

theorem generated_length (randomBytes : List UInt8) : (generateOneTimeIpcToken randomBytes).length = 2 * randomBytes.length := by
  induction randomBytes with
  | nil => rfl
  | cons byte rest ih =>
      unfold generateOneTimeIpcToken at *
      rw [List.flatMap_cons, List.length_append, ih, List.length_cons]
      simp
      omega

theorem generated_valid (randomBytes : List UInt8) (length : randomBytes.length = 32) :
    isValidPortableServiceIpcToken (generateOneTimeIpcToken randomBytes) = true := by
  unfold isValidPortableServiceIpcToken
  rw [generated_length, length, Bool.and_eq_true]
  refine ⟨by decide, ?_⟩
  rw [List.all_eq_true]
  intro digit listed
  obtain ⟨byte, _, here⟩ := List.mem_flatMap.mp listed
  obtain rfl | rest := List.mem_cons.mp here
  · apply hex_digit_valid
    rw [UInt8.lt_iff_toNat_lt, UInt8.toNat_div]
    have bound := byte.toNat_lt
    simp
    omega
  · rw [List.mem_singleton.mp rest]
    apply hex_digit_valid
    rw [UInt8.lt_iff_toNat_lt, UInt8.toNat_mod]
    simp
    omega

theorem differences (pairs : List (UInt8 × UInt8)) (diff : UInt8)
    (none_ : pairs.foldl (fun diff (left, right) => diff ||| (left ^^^ right)) diff = 0) : diff = 0 ∧ ∀ pair ∈ pairs, pair.1 = pair.2 := by
  induction pairs generalizing diff with
  | nil => exact ⟨none_, nofun⟩
  | cons pair rest ih =>
      obtain ⟨first, others⟩ := ih _ none_
      obtain ⟨before, same⟩ := UInt8.or_eq_zero_iff.mp first
      exact ⟨before, List.forall_mem_cons.mpr ⟨UInt8.xor_eq_zero_iff.mp same, others⟩⟩

theorem token_eq (expected candidate : Token) (equal : constantTimeIpcTokenEq expected candidate = true) : candidate = expected := by
  unfold constantTimeIpcTokenEq at equal
  split at equal
  · cases equal
  · rename_i lengths
    obtain ⟨first, second⟩ := not_or.mp lengths
    have same : expected.length = candidate.length := (not_not.mp first).trans (not_not.mp second).symm
    have pairs := (differences (expected.zip candidate) 0 (of_decide_eq_true equal)).2
    apply List.ext_getElem same.symm
    intro index left right
    have listed : (expected[index], candidate[index]) ∈ expected.zip candidate := by
      rw [← List.getElem_zip (h := by simp [same, left])]
      exact List.getElem_mem _
    exact (pairs _ listed).symm

def Launch.pair : Launch → Option (Token × String)
  | .prepared token name => some (token, name)
  | _ => none

-- What a handshake that consumed a token goes on with.
def Handshake.pair : Handshake → Option (Token × Option String)
  | .consumed token name | .restoring token name => some (token, name)
  | _ => none

def Known (generated : List Generation) (token : Token) (name : String) : Prop :=
  ∃ generation ∈ generated, generation.token = token ∧ generation.name = name

-- A token is in one place at a time: with the launch that made it, current, with one handshake, or used up.
structure Placed (host : Host) : Prop where
  named : host.runtimeName = host.shmem.map SharedMemory.name
  held : ∀ token, host.runtimeToken = some token →
    ∃ shmem, host.shmem = some shmem ∧ shmem.token = some token ∧ Known host.generated token shmem.name
  live : ∀ shmem, host.shmem = some shmem → ∃ generation ∈ host.generated, generation.name = shmem.name ∧ generation.token ∉ host.dead
  valid : ∀ generation ∈ host.generated, isValidPortableServiceIpcToken generation.token = true
  unique : ∀ one ∈ host.generated, ∀ other ∈ host.generated, one.token = other.token ∨ one.name = other.name → one = other
  fresh : ∀ launch token name, (host.launches launch).pair = some (token, name) →
    { launch := launch, token := token, name := name } ∈ host.generated ∧ host.runtimeToken ≠ some token ∧ token ∉ host.completed ∧
      (∀ handshake shmemName, (host.handshakes handshake).pair ≠ some (token, shmemName)) ∧
        ∀ shmem, host.shmem = some shmem → shmem.name = name → shmem.token = some token
  taken : ∀ handshake token name, (host.handshakes handshake).pair = some (token, name) →
    (∃ known, name = some known ∧ Known host.generated token known) ∧ host.runtimeToken ≠ some token ∧ token ∉ host.completed ∧
      ∀ other shmemName, other ≠ handshake → (host.handshakes other).pair ≠ some (token, shmemName)
  used : ∀ token ∈ host.completed, host.runtimeToken ≠ some token ∧ ∃ name, Known host.generated token name
  once : host.completed.Nodup
  buried : host.revived = []
  deadKnown : ∀ token ∈ host.dead, ∃ name, Known host.generated token name

theorem placed_one_time (host : Host) (placed : Placed host) : OneTime host := by
  refine ⟨placed.once, placed.buried, ?_⟩
  intro _ token current
  obtain ⟨shmem, there, holds, _⟩ := placed.held token current
  exact ⟨shmem, there, holds⟩

-- A step that leaves the tokens where they are, or loses one.
theorem placed_frame (host next : Host) (placed : Placed host) (token : next.runtimeToken = host.runtimeToken) (shmem : next.shmem = host.shmem)
    (name : next.runtimeName = host.runtimeName) (generated : next.generated = host.generated) (dead : next.dead = host.dead)
    (revived : next.revived = host.revived) (completed : next.completed = host.completed)
    (launches : ∀ launch pair, (next.launches launch).pair = some pair → (host.launches launch).pair = some pair)
    (handshakes : ∀ handshake pair, (next.handshakes handshake).pair = some pair → (host.handshakes handshake).pair = some pair) : Placed next := by
  constructor
  · rw [name, shmem]
    exact placed.named
  · rw [token, shmem, generated]
    exact placed.held
  · rw [shmem, generated, dead]
    exact placed.live
  · rw [generated]
    exact placed.valid
  · rw [generated]
    exact placed.unique
  · rw [generated, token, completed, shmem]
    intro launch text label is
    obtain ⟨known, current, done, others, same⟩ := placed.fresh launch text label (launches launch _ is)
    exact ⟨known, current, done, fun handshake shmemName holds => others handshake shmemName (handshakes handshake _ holds), same⟩
  · rw [generated, token, completed]
    intro handshake text label is
    obtain ⟨known, current, done, others⟩ := placed.taken handshake text label (handshakes handshake _ is)
    exact ⟨known, current, done, fun other shmemName differs holds => others other shmemName differs (handshakes other _ holds)⟩
  · rw [token, completed, generated]
    exact placed.used
  · rw [completed]
    exact placed.once
  · rw [revived]
    exact placed.buried
  · rw [dead, generated]
    exact placed.deadKnown

theorem launch_pair_update (launches : Nat → Launch) (launch other : Nat) (phase : Launch) (pair : Token × String) (bare : phase.pair = none)
    (is : (Function.update launches launch phase other).pair = some pair) : (launches other).pair = some pair := by
  rw [Function.update_apply] at is
  split at is
  · rw [bare] at is
    cases is
  · exact is

theorem handshake_pair_update (handshakes : Nat → Handshake) (handshake other : Nat) (phase : Handshake) (pair : Token × Option String)
    (bare : phase.pair = none) (is : (Function.update handshakes handshake phase other).pair = some pair) :
    (handshakes other).pair = some pair := by
  rw [Function.update_apply] at is
  split at is
  · rw [bare] at is
    cases is
  · exact is

theorem known_dead (host : Host) (placed : Placed host) (token : Token) (shmem : SharedMemory) (there : host.shmem = some shmem)
    (known : Known host.generated token shmem.name) : token ∉ host.dead := by
  obtain ⟨generation, listed, name, alive⟩ := placed.live shmem there
  obtain ⟨own, ownListed, rfl, ownName⟩ := known
  rw [placed.unique own ownListed generation listed (Or.inr (ownName.trans name.symm))]
  exact alive

theorem reviving_alive (host : Host) (token : Token) (buried : host.revived = []) (alive : token ∉ host.dead) : host.reviving token = [] := by
  unfold Host.reviving
  rw [if_neg alive]
  exact buried

theorem placed_cleared (host : Host) (placed : Placed host) : Placed host.clearRuntimeShmemState := by
  refine { placed with named := rfl, held := nofun, live := nofun, fresh := ?_, taken := ?_, used := ?_ }
  · intro launch token name is
    obtain ⟨known, _, done, others, _⟩ := placed.fresh launch token name is
    exact ⟨known, nofun, done, others, nofun⟩
  · intro handshake token name is
    obtain ⟨known, _, done, others⟩ := placed.taken handshake token name is
    exact ⟨known, nofun, done, others⟩
  · intro token listed
    exact ⟨nofun, (placed.used token listed).2⟩

-- The tokens of earlier launches are dead now, and none of them is anywhere.
theorem placed_buried (host : Host) (launch : Nat) (placed : Placed host) (gone : host.shmem = none) :
    Placed { host with dead := host.dead ++ (host.generated.filter (fun generation => generation.launch < launch)).map Generation.token } := by
  refine { placed with live := ?_, deadKnown := ?_ }
  · intro shmem there
    rw [show host.shmem = some shmem from there] at gone
    cases gone
  · intro token listed
    obtain old | new := List.mem_append.mp listed
    · exact placed.deadKnown token old
    · obtain ⟨generation, there, rfl⟩ := List.mem_map.mp new
      exact ⟨generation.name, generation, (List.mem_filter.mp there).1, rfl, rfl⟩

theorem known_more (generated : List Generation) (generation : Generation) (token : Token) (name : String) (known : Known generated token name) :
    Known (generated ++ [generation]) token name := by
  obtain ⟨one, listed, here⟩ := known
  exact ⟨one, List.mem_append_left _ listed, here⟩

theorem known_fresh (generated : List Generation) (token fresh : Token) (name : String) (known : Known generated token name)
    (unlike : ∀ generation ∈ generated, generation.token ≠ fresh) : token ≠ fresh := by
  obtain ⟨generation, listed, rfl, _⟩ := known
  exact unlike generation listed

section
variable (host : Host)

theorem placed_prepared (launch : Nat) (token : Token) (name : String) (placed : Placed host) (alone : host.shmem = none)
    (valid : isValidPortableServiceIpcToken token = true)
    (unlike : ∀ generation ∈ host.generated, generation.token ≠ token ∧ generation.name ≠ name) : Placed (host.prepared launch token name) := by
  have tokens : ∀ generation ∈ host.generated, generation.token ≠ token := fun generation listed => (unlike generation listed).1
  have idle : host.runtimeToken = none := by
    obtain free | ⟨current, is⟩ := Option.eq_none_or_eq_some host.runtimeToken
    · exact free
    · obtain ⟨shmem, there, _⟩ := placed.held current is
      rw [there] at alone
      cases alone
  have unknown : ∀ other label, Known host.generated other label → other ≠ token :=
    fun other label known => known_fresh host.generated other token label known tokens
  refine ⟨rfl, ?_, ?_, ?_, ?_, ?_, ?_, ?_, placed.once, placed.buried, ?_⟩
  · intro current is
    rw [show host.runtimeToken = some current from is] at idle
    cases idle
  · intro shmem there
    obtain rfl := Option.some.inj there
    refine ⟨{ launch := launch, token := token, name := name }, List.mem_append_right _ (List.mem_singleton_self _), rfl, ?_⟩
    intro dead
    obtain ⟨label, known⟩ := placed.deadKnown token dead
    exact unknown token label known rfl
  · exact List.forall_mem_append.mpr ⟨placed.valid, List.forall_mem_singleton.mpr valid⟩
  · intro one oneListed other otherListed same
    obtain oneOld | oneNew := List.mem_append.mp oneListed
    · obtain otherOld | otherNew := List.mem_append.mp otherListed
      · exact placed.unique one oneOld other otherOld same
      · rw [List.mem_singleton.mp otherNew] at same
        exact absurd same (not_or.mpr (unlike one oneOld))
    · rw [List.mem_singleton.mp oneNew] at same ⊢
      obtain otherOld | otherNew := List.mem_append.mp otherListed
      · exact absurd same (not_or.mpr ⟨(unlike other otherOld).1.symm, (unlike other otherOld).2.symm⟩)
      · exact (List.mem_singleton.mp otherNew).symm
  · intro other text label is
    change (Function.update host.launches launch (.prepared token name) other).pair = _ at is
    rw [Function.update_apply] at is
    split at is
    · rename_i same
      obtain ⟨rfl, rfl⟩ := Prod.mk.inj (Option.some.inj is)
      refine ⟨by rw [same]; exact List.mem_append_right _ (List.mem_singleton_self _), ?_, ?_, ?_, ?_⟩
      · rw [show (host.prepared launch token name).runtimeToken = none from idle]
        exact nofun
      · intro done
        obtain ⟨_, label, known⟩ := placed.used token done
        exact unknown token label known rfl
      · intro handshake shmemName holds
        obtain ⟨⟨label, _, known⟩, _⟩ := placed.taken handshake token shmemName holds
        exact unknown token label known rfl
      · intro shmem there _
        obtain rfl := Option.some.inj there
        rfl
    · obtain ⟨known, current, done, others, _⟩ := placed.fresh other text label is
      refine ⟨List.mem_append_left _ known, current, done, others, ?_⟩
      intro shmem there same
      obtain rfl := Option.some.inj there
      exact absurd same.symm (unlike _ known).2
  · intro handshake text label is
    obtain ⟨⟨shmemName, rfl, known⟩, current, done, others⟩ := placed.taken handshake text label is
    exact ⟨⟨shmemName, rfl, known_more _ _ _ _ known⟩, current, done, others⟩
  · intro text done
    obtain ⟨current, label, known⟩ := placed.used text done
    exact ⟨current, label, known_more _ _ _ _ known⟩
  · intro text dead
    obtain ⟨label, known⟩ := placed.deadKnown text dead
    exact ⟨label, known_more _ _ _ _ known⟩

theorem placed_set (launch : Nat) (token : Token) (name : String) (placed : Placed host)
    (here : host.launches launch = .prepared token name) (own : host.shmem.map SharedMemory.name = some name) :
    Placed { host.setLaunch launch .running with runtimeToken := some token, revived := host.reviving token } := by
  obtain ⟨known, _, undone, others, same⟩ := placed.fresh launch token name (by rw [here]; rfl)
  obtain ⟨shmem, there, named⟩ := Option.map_eq_some_iff.mp own
  have holds := same shmem there named
  have alive := known_dead host placed token shmem there ⟨_, known, rfl, named.symm⟩
  refine { placed with held := ?_, fresh := ?_, taken := ?_, used := ?_, buried := reviving_alive host token placed.buried alive }
  · intro current is
    obtain rfl := Option.some.inj is
    exact ⟨shmem, there, holds, _, known, rfl, named.symm⟩
  · intro other text label is
    change (Function.update host.launches launch .running other).pair = _ at is
    rw [Function.update_apply] at is
    split at is
    · cases is
    · rename_i differs
      obtain ⟨otherKnown, _, done, holders, rest⟩ := placed.fresh other text label is
      refine ⟨otherKnown, ?_, done, holders, rest⟩
      intro equal
      have one := placed.unique _ otherKnown _ known (Or.inl (Option.some.inj equal).symm)
      exact differs (congrArg Generation.launch one)
  · intro handshake text label is
    obtain ⟨otherKnown, _, done, holders⟩ := placed.taken handshake text label is
    refine ⟨otherKnown, ?_, done, holders⟩
    intro equal
    obtain rfl := Option.some.inj equal
    exact others handshake label is
  · intro text done
    refine ⟨?_, (placed.used text done).2⟩
    intro equal
    obtain rfl := Option.some.inj equal
    exact undone done

theorem placed_consumed (handshake : Nat) (token : Token) (placed : Placed host) (current : host.runtimeToken = some token) :
    Placed ((host.consumed token).setHandshake handshake (.consumed token host.runtimeName)) := by
  obtain ⟨shmem, there, holds, known⟩ := placed.held token current
  have alive := known_dead host placed token shmem there known
  have name : host.runtimeName = some shmem.name := by
    rw [placed.named, there]
    rfl
  refine ⟨?_, nofun, ?_, placed.valid, placed.unique, ?_, ?_, fun text done => ⟨nofun, (placed.used text done).2⟩, placed.once,
    reviving_alive host token placed.buried alive, placed.deadKnown⟩
  · change host.runtimeName = (host.shmem.map (fun shmem => { shmem with token := none })).map SharedMemory.name
    rw [there]
    exact name
  · intro left is
    obtain ⟨whole, was, rfl⟩ := Option.map_eq_some_iff.mp is
    exact placed.live whole was
  · intro launch text label is
    obtain ⟨own, unset, done, others, _⟩ := placed.fresh launch text label is
    refine ⟨own, nofun, done, ?_, ?_⟩
    · intro other shmemName pair
      change (Function.update host.handshakes handshake _ other).pair = _ at pair
      rw [Function.update_apply] at pair
      split at pair
      · obtain ⟨rfl, _⟩ := Prod.mk.inj (Option.some.inj pair)
        exact unset current
      · exact others other shmemName pair
    · intro left is same
      -- The memory of a launch that has not set its token is not the one a current token is for.
      obtain ⟨whole, was, rfl⟩ := Option.map_eq_some_iff.mp is
      rw [there] at was
      obtain rfl := Option.some.inj was
      obtain ⟨generation, listed, rfl, named⟩ := known
      have one := placed.unique _ listed _ own (Or.inr (named.trans same))
      exact absurd (current.trans (congrArg (fun generation => some generation.token) one)) unset
  · intro other text label pair
    change (Function.update host.handshakes handshake _ other).pair = _ at pair
    rw [Function.update_apply] at pair
    have nobody : ∀ one shmemName, (host.handshakes one).pair ≠ some (token, shmemName) := by
      intro one shmemName holder
      exact (placed.taken one token shmemName holder).2.1 current
    split at pair
    · rename_i same
      obtain ⟨rfl, rfl⟩ := Prod.mk.inj (Option.some.inj pair)
      refine ⟨⟨shmem.name, name, known⟩, nofun, fun done => (placed.used token done).1 current, ?_⟩
      intro one shmemName differs holder
      change (Function.update host.handshakes handshake _ one).pair = _ at holder
      rw [Function.update_of_ne (same ▸ differs)] at holder
      exact nobody one shmemName holder
    · obtain ⟨own, _, done, others⟩ := placed.taken other text label pair
      refine ⟨own, nofun, done, ?_⟩
      intro one shmemName differs holder
      change (Function.update host.handshakes handshake _ one).pair = _ at holder
      rw [Function.update_apply] at holder
      split at holder
      · obtain ⟨rfl, _⟩ := Prod.mk.inj (Option.some.inj holder)
        exact nobody other label pair
      · exact others one shmemName differs holder

theorem placed_completed (handshake : Nat) (token : Token) (name : Option String) (placed : Placed host)
    (holds : (host.handshakes handshake).pair = some (token, name)) :
    Placed { host.setHandshake handshake .established with completed := host.completed ++ [token] } := by
  obtain ⟨⟨label, _, known⟩, current, undone, others⟩ := placed.taken handshake token name holds
  refine { placed with fresh := ?_, taken := ?_, used := ?_, once := ?_ }
  · intro launch text label is
    obtain ⟨own, unset, done, holders, rest⟩ := placed.fresh launch text label is
    refine ⟨own, unset, ?_, fun other shmemName pair => holders other shmemName (handshake_pair_update _ _ _ _ _ rfl pair), rest⟩
    intro listed
    obtain old | new := List.mem_append.mp listed
    · exact done old
    · rw [List.mem_singleton.mp new] at holders
      exact holders handshake name holds
  · intro other text label pair
    change (Function.update host.handshakes handshake .established other).pair = _ at pair
    rw [Function.update_apply] at pair
    split at pair
    · cases pair
    · rename_i differs
      obtain ⟨own, unset, done, holders⟩ := placed.taken other text label pair
      refine ⟨own, unset, ?_, fun one shmemName unlike holder => holders one shmemName unlike (handshake_pair_update _ _ _ _ _ rfl holder)⟩
      intro listed
      obtain old | new := List.mem_append.mp listed
      · exact done old
      · rw [List.mem_singleton.mp new] at pair
        exact others other label differs pair
  · exact List.forall_mem_append.mpr ⟨placed.used, List.forall_mem_singleton.mpr ⟨current, label, known⟩⟩
  · rw [List.nodup_append]
    refine ⟨placed.once, List.pairwise_singleton _ _, ?_⟩
    intro one listed other last same
    rw [List.mem_singleton.mp last] at same
    exact undone (same ▸ listed)

theorem forget_other (token : Token) (other : host.runtimeToken ≠ some token) : host.forget token = host := if_neg other

theorem placed_restored (handshake : Nat) (token : Token) (name : Option String) (placed : Placed host)
    (holds : (host.handshakes handshake).pair = some (token, name)) :
    Placed ((host.restoreRuntimeIpcToken token name).setHandshake handshake .failed) := by
  obtain ⟨⟨label, rfl, known⟩, current, undone, others⟩ := placed.taken handshake token name holds
  have same : Placed (host.setHandshake handshake .failed) :=
    placed_frame host _ placed rfl rfl rfl rfl rfl rfl rfl (fun _ _ is => is) (fun other pair is => handshake_pair_update _ _ _ _ pair rfl is)
  unfold Host.restoreRuntimeIpcToken
  rw [forget_other host token current]
  split
  · exact same
  split
  · exact same
  rename_i unnamed
  have named : host.runtimeName = some label := not_not.mp unnamed
  obtain gone | ⟨shmem, there⟩ := Option.eq_none_or_eq_some host.shmem
  · rw [gone]
    exact same
  rw [there]
  dsimp only
  split
  swap
  · exact same
  have own : shmem.name = label := by
    rw [placed.named, there] at named
    exact Option.some.inj named
  have alive := known_dead host placed token shmem there (own ▸ known)
  refine ⟨?_, ?_, ?_, placed.valid, placed.unique, ?_, ?_, ?_, placed.once, reviving_alive host token placed.buried alive, placed.deadKnown⟩
  · rw [show host.runtimeName = some label from named, ← own]
    rfl
  · intro text is
    obtain rfl := Option.some.inj is
    exact ⟨_, rfl, rfl, own ▸ known⟩
  · intro moved is
    obtain rfl := Option.some.inj is
    exact placed.live shmem there
  · intro launch text other is
    obtain ⟨prepared, _, done, holders, _⟩ := placed.fresh launch text other is
    refine ⟨prepared, ?_, done, fun one shmemName pair => holders one shmemName (handshake_pair_update _ _ _ _ _ rfl pair), ?_⟩
    · intro equal
      obtain rfl := Option.some.inj equal
      exact holders handshake (some label) holds
    · intro moved is equal
      obtain rfl := Option.some.inj is
      obtain ⟨generation, listed, rfl, generationName⟩ := known
      have one := placed.unique _ listed _ prepared (Or.inr (generationName.trans (own.symm.trans equal)))
      exact congrArg (fun generation => some generation.token) one
  · intro other text shmemName pair
    change (Function.update host.handshakes handshake .failed other).pair = _ at pair
    rw [Function.update_apply] at pair
    split at pair
    · cases pair
    · rename_i differs
      obtain ⟨otherKnown, _, done, holders⟩ := placed.taken other text shmemName pair
      refine ⟨otherKnown, ?_, done, fun one shmemName unlike holder => holders one shmemName unlike (handshake_pair_update _ _ _ _ _ rfl holder)⟩
      intro equal
      obtain rfl := Option.some.inj equal
      exact others other shmemName differs pair
  · intro text done
    refine ⟨?_, (placed.used text done).2⟩
    intro equal
    obtain rfl := Option.some.inj equal
    exact undone done

theorem placed_launch (launch : Nat) (phase : Launch) (placed : Placed host) (bare : phase.pair = none) : Placed (host.setLaunch launch phase) :=
  placed_frame host _ placed rfl rfl rfl rfl rfl rfl rfl (fun _ pair is => launch_pair_update _ _ _ _ pair bare is) (fun _ _ is => is)

theorem placed_handshake (handshake : Nat) (phase : Handshake) (placed : Placed host) (bare : phase.pair = none) :
    Placed (host.setHandshake handshake phase) :=
  placed_frame host _ placed rfl rfl rfl rfl rfl rfl rfl (fun _ _ is => is) (fun _ pair is => handshake_pair_update _ _ _ _ pair bare is)

end

-- Only the flags and the watchdogs change.
theorem placed_flags (host next : Host) (placed : Placed host) (token : next.runtimeToken = host.runtimeToken) (shmem : next.shmem = host.shmem)
    (name : next.runtimeName = host.runtimeName) (generated : next.generated = host.generated) (dead : next.dead = host.dead)
    (revived : next.revived = host.revived) (completed : next.completed = host.completed) (launches : next.launches = host.launches)
    (handshakes : next.handshakes = host.handshakes) : Placed next :=
  placed_frame host next placed token shmem name generated dead revived completed (fun _ _ is => launches ▸ is) (fun _ _ is => handshakes ▸ is)

theorem placed_decide (host : Host) (call : Nat) (hasProcess sawRunning : Bool) (placed : Placed host) :
    Placed (host.decide call hasProcess sawRunning) := by
  unfold Host.decide
  extract_lets starting
  split
  · exact placed_flags host _ placed rfl rfl rfl rfl rfl rfl rfl rfl rfl
  · exact placed_flags (host.setLaunch (host.startingToken + 1) .clearing) _ (placed_launch host _ _ placed rfl) rfl rfl rfl rfl rfl rfl rfl rfl rfl

theorem placed_watch (host next : Host) (launch : Nat) (placed : Placed host) (taken : host.watch launch = some next) : Placed next := by
  unfold Host.watch at taken
  split at taken
  · cases taken
  all_goals
    obtain rfl := Option.some.inj taken
    exact placed_flags host _ placed rfl rfl rfl rfl rfl rfl rfl rfl rfl

theorem placed_unstart (host next : Host) (handshake : Nat) (placed : Placed host) (taken : host.unstart handshake = some next) : Placed next := by
  unfold Host.unstart at taken
  split at taken
  · obtain rfl := Option.some.inj taken
    exact placed_flags (host.setHandshake handshake .closed) _ (placed_handshake host handshake _ placed rfl) rfl rfl rfl rfl rfl rfl rfl rfl rfl
  · obtain rfl := Option.some.inj taken
    exact placed_flags (host.setHandshake handshake .closed) _ (placed_handshake host handshake _ placed rfl) rfl rfl rfl rfl rfl rfl rfl rfl rfl
  · obtain rfl := Option.some.inj taken
    exact placed_flags (host.setHandshake handshake .established) _ (placed_handshake host handshake _ placed rfl) rfl rfl rfl rfl rfl rfl rfl rfl rfl
  · cases taken

theorem consume_cases (host : Host) (candidate : Token) :
    host.consumeRuntimeIpcTokenIfMatch candidate = (host, false, none) ∨
      host.runtimeToken = some candidate ∧ host.consumeRuntimeIpcTokenIfMatch candidate = (host.consumed candidate, true, host.runtimeName) := by
  unfold Host.consumeRuntimeIpcTokenIfMatch
  obtain idle | ⟨expected, current⟩ := Option.eq_none_or_eq_some host.runtimeToken
  · rw [idle]
    exact Or.inl rfl
  · rw [current]
    dsimp only
    by_cases equal : constantTimeIpcTokenEq expected candidate = true
    · rw [if_pos equal, token_eq expected candidate equal]
      exact Or.inr ⟨rfl, rfl⟩
    · rw [if_neg equal]
      exact Or.inl rfl

theorem placed_present (host : Host) (handshake : Nat) (candidate : Token) (placed : Placed host) :
    Placed ((host.consumeRuntimeIpcTokenIfMatch candidate).1.setHandshake handshake
      (if (host.consumeRuntimeIpcTokenIfMatch candidate).2.1 then .consumed candidate (host.consumeRuntimeIpcTokenIfMatch candidate).2.2 else .closed)) := by
  obtain refused | ⟨current, matched⟩ := consume_cases host candidate
  · simp only [refused]
    exact placed_handshake host handshake .closed placed rfl
  · simp only [matched]
    exact placed_consumed host handshake candidate placed current

theorem placed_step (host : Host) (label : Label) (next : Host) (placed : Placed host) (alone : Alone host label)
    (taken : step host label = some next) : Placed next := by
  cases label with
  | enter call =>
      obtain rfl := Option.some.inj taken
      exact placed_flags host _ placed rfl rfl rfl rfl rfl rfl rfl rfl rfl
  | decide call hasProcess =>
      obtain ⟨sawRunning, _, rfl⟩ := Option.map_eq_some_iff.mp taken
      exact placed_decide host call hasProcess sawRunning placed
  | launchClear launch =>
      obtain ⟨_, rfl⟩ := Option.ite_some_none_eq_some.mp taken
      exact placed_buried (host.clearRuntimeShmemState.setLaunch launch .preparing) launch
        (placed_launch host.clearRuntimeShmemState launch .preparing (placed_cleared host placed) rfl) rfl
  | prepare launch randomBytes name =>
      obtain ⟨⟨_, length, unlike⟩, rfl⟩ := Option.ite_some_none_eq_some.mp taken
      exact placed_prepared host launch _ name placed alone (generated_valid randomBytes length) unlike
  | prepareFails launch =>
      obtain ⟨_, rfl⟩ := Option.ite_some_none_eq_some.mp taken
      exact placed_launch host launch .ending placed rfl
  | setToken launch =>
      dsimp only [step] at taken
      split at taken
      · rename_i token name here
        obtain rfl := Option.some.inj taken
        exact placed_set host launch token name placed here (alone token name here)
      · cases taken
  | runProcess launch outcome =>
      obtain ⟨_, rfl⟩ := Option.ite_some_none_eq_some.mp taken
      cases outcome with
      | ok => exact placed_flags (host.setLaunch launch .returned) _ (placed_launch host launch .returned placed rfl) rfl rfl rfl rfl rfl rfl rfl rfl rfl
      | failed => exact placed_launch host launch .undoing placed rfl
      | failedClean => exact placed_launch host launch .ending placed rfl
  | undo launch =>
      obtain ⟨_, rfl⟩ := Option.ite_some_none_eq_some.mp taken
      exact placed_launch host.clearRuntimeShmemState launch .ending (placed_cleared host placed) rfl
  | giveUp launch =>
      obtain ⟨_, rfl⟩ := Option.ite_some_none_eq_some.mp taken
      exact placed_flags (host.setLaunch launch .returned) _ (placed_launch host launch .returned placed rfl) rfl rfl rfl rfl rfl rfl rfl rfl rfl
  | watch launch => exact placed_watch host next launch placed taken
  | clear =>
      obtain rfl := Option.some.inj taken
      exact placed_cleared host placed
  | present handshake candidate =>
      obtain ⟨_, rfl⟩ := Option.ite_some_none_eq_some.mp taken
      exact placed_present host handshake candidate placed
  | finish handshake ok =>
      dsimp only [step] at taken
      split at taken
      · rename_i token name here
        have holds : (host.handshakes handshake).pair = some (token, name) := by
          rw [here]
          rfl
        obtain rfl := Option.some.inj taken
        cases ok with
        | true => exact placed_completed host handshake token name placed holds
        | false =>
            refine placed_frame host _ placed rfl rfl rfl rfl rfl rfl rfl (fun _ _ is => is) ?_
            intro other pair is
            change (Function.update host.handshakes handshake _ other).pair = _ at is
            rw [Function.update_apply] at is
            split at is
            · rename_i same
              rw [same, holds]
              exact is
            · exact is
      · cases taken
  | restore handshake =>
      dsimp only [step] at taken
      split at taken
      · rename_i token name here
        obtain rfl := Option.some.inj taken
        exact placed_restored host handshake token name placed (by rw [here]; rfl)
      · cases taken
  | pong handshake =>
      obtain ⟨_, rfl⟩ := Option.ite_some_none_eq_some.mp taken
      exact placed_flags (host.setHandshake handshake .ponged) _ (placed_handshake host handshake _ placed rfl) rfl rfl rfl rfl rfl rfl rfl rfl rfl
  | close handshake =>
      obtain ⟨_, rfl⟩ := Option.ite_some_none_eq_some.mp taken
      exact placed_flags (host.setHandshake handshake .closing) _ (placed_handshake host handshake _ placed rfl) rfl rfl rfl rfl rfl rfl rfl rfl rfl
  | unstart handshake => exact placed_unstart host next handshake placed taken

theorem placed_start : Placed start :=
  ⟨rfl, nofun, nofun, nofun, nofun, nofun, nofun, nofun, List.Pairwise.nil, rfl, nofun⟩

theorem tokens_one_time (past : List (Host × Label)) (host : Host) (traced : Machine.Traced step start past host)
    (alone : ∀ entry ∈ past, Alone entry.1 entry.2) : (∀ entry ∈ past, OneTime entry.1) ∧ OneTime host := by
  obtain ⟨before, here⟩ := Machine.traced_kept step Placed Alone start host past placed_start placed_step traced alone
  exact ⟨fun entry listed => placed_one_time entry.1 (before entry listed), placed_one_time host here⟩

instance (host : Host) (label : Label) : Decidable (Alone host label) := by
  cases label with
  | setToken launch =>
      unfold Alone
      dsimp only
      cases here : host.launches launch with
      | prepared token name =>
          apply decidable_of_iff (host.shmem.map SharedMemory.name = some name)
          constructor
          · rintro own _ _ same
            obtain ⟨rfl, rfl⟩ := Launch.prepared.inj same
            exact own
          · intro own
            exact own token name rfl
      | _ => exact isTrue nofun
  | _ => unfold Alone; infer_instance

def randomOf (byte : UInt8) : List UInt8 := List.replicate 32 byte

-- A launch whose first handshake fails after its token is consumed and whose second one completes.
def relaunch : List Label :=
  [.enter 0, .decide 0 false, .launchClear 1, .prepare 1 (randomOf 1) "a", .setToken 1, .runProcess 1 .ok,
   .present 0 (generateOneTimeIpcToken (randomOf 1)), .finish 0 false, .restore 0, .unstart 0,
   .present 1 (generateOneTimeIpcToken (randomOf 1)), .finish 1 true]

theorem relaunch_run : (Machine.run step start relaunch).isSome = true := by decide

theorem tokens_one_time_relaunch :
    ((Machine.run step start relaunch).get relaunch_run).completed.length = 1 ∧
      (∀ entry ∈ Machine.trace step start relaunch, OneTime entry.1) ∧ OneTime ((Machine.run step start relaunch).get relaunch_run) := by
  refine ⟨by decide, ?_⟩
  apply tokens_one_time _ _ (Machine.traced_run step start relaunch relaunch_run)
  decide

-- The second launch finds no running process and clears before the first one sets its token; then
-- it fails, and a handshake presents the token of the first one.
def overtaken : List Label :=
  [.enter 0, .decide 0 false, .launchClear 1, .prepare 1 (randomOf 1) "a", .enter 1, .decide 1 false, .launchClear 2, .setToken 1, .runProcess 1 .ok,
   .prepareFails 2, .giveUp 2, .present 0 (generateOneTimeIpcToken (randomOf 1)), .finish 0 true]

theorem overtaken_revives :
    (Machine.run step start overtaken).map (fun host => (host.revived, host.completed)) =
      some ([generateOneTimeIpcToken (randomOf 1), generateOneTimeIpcToken (randomOf 1)], [generateOneTimeIpcToken (randomOf 1)]) := by
  decide

theorem token_accepted_after_clear : ∃ host, Machine.Reachable step start host ∧ ¬ OneTime host := by
  obtain ⟨host, ran, state⟩ := Option.map_eq_some_iff.mp overtaken_revives
  refine ⟨host, ⟨overtaken, ran⟩, fun oneTime => ?_⟩
  have buried := oneTime.buried
  rw [(Prod.mk.inj state).1] at buried
  cases buried

end GotechDesk.PortableService.LaunchToken
