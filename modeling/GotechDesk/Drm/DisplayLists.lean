import GotechDesk.Drm.DisplayCache

set_option autoImplicit false

namespace GotechDesk.Drm.DisplayCache

variable {δ : Type}

def Refresh.holds : Refresh δ → Bool
  | .spawning | .clearing | .enumerating | .writing _ | .bumping | .checking | .releasing => true
  | .announced | .rechecking | .retaking | .done => false

def Refresh.isBumping : Refresh δ → Bool
  | .bumping => true
  | _ => false

-- RUNNING is set exactly while one refresh holds it, and the generation is behind the
-- cache only between that refresh's write and its bump.
structure Flow (state : State δ) : Prop where
  flag : state.refreshes.countP Refresh.holds = state.running.toNat
  counted : state.generation + state.refreshes.countP Refresh.isBumping = state.written

structure Advances (state next : State δ) : Prop where
  generation : state.generation ≤ next.generation
  cache : (next.written = state.written ∧ next.cache = state.cache) ∨ state.written < next.written

section
variable (state : State δ)

theorem one_counted (test : Refresh δ → Bool) (index : Nat) (old : Refresh δ) (found : state.refreshes[index]? = some old) :
    (if test old then 1 else 0) ≤ state.refreshes.countP test := by
  by_cases holds : test old = true
  · rw [if_pos holds]
    exact List.countP_pos_iff.mpr ⟨old, List.mem_of_getElem? found, holds⟩
  · rw [if_neg holds]
    exact Nat.zero_le _

theorem set_counted (test : Refresh δ → Bool) (index : Nat) (old new : Refresh δ) (found : state.refreshes[index]? = some old) :
    (state.refreshes.set index new).countP test + (if test old then 1 else 0) =
      state.refreshes.countP test + (if test new then 1 else 0) := by
  obtain ⟨inside, isOld⟩ := List.getElem?_eq_some_iff.mp found
  have one := one_counted state test index old found
  rw [List.countP_set inside, isOld]
  omega

-- One turn of a refresh changes its own place, and the flag and the counts along with it.
theorem set_flow (next : State δ) (index : Nat) (old new : Refresh δ) (flow : Flow state) (found : state.refreshes[index]? = some old)
    (refreshes : next.refreshes = state.refreshes.set index new)
    (flag : next.running.toNat + (if old.holds then 1 else 0) = state.running.toNat + (if new.holds then 1 else 0))
    (counted : next.generation + (if new.isBumping then 1 else 0) + state.written =
      state.generation + (if old.isBumping then 1 else 0) + next.written) : Flow next := by
  have holding := set_counted state Refresh.holds index old new found
  have bumping := set_counted state Refresh.isBumping index old new found
  have oldFlag := flow.flag
  have oldCounted := flow.counted
  refine ⟨?_, ?_⟩
  · rw [refreshes]
    omega
  · rw [refreshes]
    omega

theorem refresh_step_flow [DecidableEq δ] (next : State δ) (index : Nat) (refresh : Refresh δ) (answer : Answer δ) (flow : Flow state)
    (found : state.refreshes[index]? = some refresh) (stepped : refreshStep state index refresh answer = some next) :
    Flow next ∧ Advances state next ∧ next.conn = state.conn := by
  have one := one_counted state Refresh.holds index refresh found
  rw [flow.flag] at one
  have still : ∀ new : Refresh δ, new.holds = refresh.holds → new.isBumping = refresh.isBumping →
      Flow (setRefresh state index new) ∧ Advances state (setRefresh state index new) ∧ state.conn = state.conn := by
    intro new holds bumps
    refine ⟨set_flow state _ index refresh new flow found rfl ?_ ?_, ⟨Nat.le_refl _, .inl ⟨rfl, rfl⟩⟩, rfl⟩
    · rw [holds]
      rfl
    · rw [bumps]
      rfl
  unfold refreshStep at stepped
  split at stepped
  case h_1 =>
    split at stepped
    · exact Option.some.inj stepped ▸ still .done rfl rfl
    · rename_i free
      obtain rfl := Option.some.inj stepped
      rw [Bool.not_eq_true] at free
      refine ⟨set_flow state _ index _ .spawning flow found rfl ?_ rfl, ⟨Nat.le_refl _, .inl ⟨rfl, rfl⟩⟩, rfl⟩
      rw [free]
      rfl
  case h_2 => exact Option.some.inj stepped ▸ still .clearing rfl rfl
  case h_3 =>
    obtain rfl := Option.some.inj stepped
    refine ⟨set_flow state _ index _ .done flow found rfl ?_ rfl, ⟨Nat.le_refl _, .inl ⟨rfl, rfl⟩⟩, rfl⟩
    have few := Bool.toNat_le state.running
    simp only [Refresh.holds, if_true, setRefresh, Bool.toNat_false, Bool.false_eq_true, if_false] at one ⊢
    omega
  case h_4 =>
    obtain rfl := Option.some.inj stepped
    exact ⟨set_flow state _ index _ .enumerating flow found rfl rfl rfl, ⟨Nat.le_refl _, .inl ⟨rfl, rfl⟩⟩, rfl⟩
  case h_5 list => exact Option.some.inj stepped ▸ still (.writing list) rfl rfl
  case h_6 => exact Option.some.inj stepped ▸ still (.writing []) rfl rfl
  case h_7 fresh =>
    split at stepped
    · exact Option.some.inj stepped ▸ still .checking rfl rfl
    · obtain rfl := Option.some.inj stepped
      refine ⟨set_flow state _ index _ .bumping flow found rfl rfl ?_, ⟨Nat.le_refl _, .inr (Nat.lt_succ_self _)⟩, rfl⟩
      simp only [setRefresh, Refresh.isBumping, if_true, Bool.false_eq_true, if_false]
      omega
  case h_8 =>
    obtain rfl := Option.some.inj stepped
    refine ⟨set_flow state _ index _ .checking flow found rfl rfl ?_, ⟨Nat.le_succ _, .inl ⟨rfl, rfl⟩⟩, rfl⟩
    simp only [setRefresh, Refresh.isBumping, if_true, Bool.false_eq_true, if_false]
  case h_9 =>
    obtain rfl := Option.some.inj stepped
    refine still _ ?_ ?_
    · cases state.pending <;> rfl
    · cases state.pending <;> rfl
  case h_10 =>
    obtain rfl := Option.some.inj stepped
    refine ⟨set_flow state _ index _ .rechecking flow found rfl ?_ rfl, ⟨Nat.le_refl _, .inl ⟨rfl, rfl⟩⟩, rfl⟩
    have few := Bool.toNat_le state.running
    simp only [Refresh.holds, if_true, setRefresh, Bool.toNat_false, Bool.false_eq_true, if_false] at one ⊢
    omega
  case h_11 =>
    obtain rfl := Option.some.inj stepped
    refine still _ ?_ ?_
    · cases state.pending <;> rfl
    · cases state.pending <;> rfl
  case h_12 =>
    split at stepped
    · exact Option.some.inj stepped ▸ still .done rfl rfl
    · rename_i free
      obtain rfl := Option.some.inj stepped
      rw [Bool.not_eq_true] at free
      refine ⟨set_flow state _ index _ .clearing flow found rfl ?_ rfl, ⟨Nat.le_refl _, .inl ⟨rfl, rfl⟩⟩, rfl⟩
      rw [free]
      rfl
  case h_13 => cases stepped

end

-- A list copied after `written` cache writes, for a loop that had seen `seenGen`.
structure Copied (state : State δ) (seenGen written : Nat) (list : List δ) : Prop where
  recent : seenGen ≤ written ∧ written ≤ state.written
  current : written = state.written → list = state.cache

def Loop.Listed (state : State δ) (loop : Loop δ) : Prop :=
  (loop.seenGen = loop.firstGeneration ∧ loop.last = loop.handshake) ∨
    (loop.firstGeneration < loop.seenGen ∧ Copied state loop.seenGen loop.lastWritten loop.last)

def Loop.Checked (state : State δ) (loop : Loop δ) : Check δ → Prop
  | .before | .passed => loop.Listed state
  | .moved => loop.firstGeneration < loop.seenGen
  | .sending list written => loop.firstGeneration < loop.seenGen ∧ Copied state loop.seenGen written list

structure Follows (state : State δ) (loop : Loop δ) : Prop where
  first : Copied state loop.firstGeneration loop.firstWritten loop.firstCache
  seen : loop.firstGeneration ≤ loop.seenGen ∧ loop.seenGen ≤ state.generation
  checked : loop.Checked state loop.check

structure Kept (state : State δ) : Prop where
  flow : Flow state
  follows : ∀ loop, state.conn = .looping loop → Follows state loop

section
variable (state next : State δ)

theorem copied_advances (seenGen written : Nat) (list : List δ) (advances : Advances state next)
    (copied : Copied state seenGen written list) : Copied next seenGen written list := by
  obtain ⟨⟨recent, before⟩, current⟩ := copied
  rcases advances.cache with ⟨sameCount, sameCache⟩ | more
  · refine ⟨⟨recent, by omega⟩, ?_⟩
    intro latest
    rw [sameCache]
    exact current (by omega)
  · exact ⟨⟨recent, by omega⟩, fun latest => by omega⟩

theorem listed_advances (loop : Loop δ) (advances : Advances state next) (listed : loop.Listed state) : loop.Listed next := by
  rcases listed with unsent | ⟨moved, copied⟩
  · exact .inl unsent
  · exact .inr ⟨moved, copied_advances state next _ _ _ advances copied⟩

theorem follows_advances (loop : Loop δ) (advances : Advances state next) (follows : Follows state loop) : Follows next loop := by
  obtain ⟨first, seen, checked⟩ := follows
  have later := advances.generation
  refine ⟨copied_advances state next _ _ _ advances first, ⟨seen.1, by omega⟩, ?_⟩
  cases place : loop.check with
  | before | passed =>
      rw [place] at checked
      exact listed_advances state next loop advances checked
  | moved =>
      rw [place] at checked
      exact checked
  | sending list written =>
      rw [place] at checked
      exact ⟨checked.1, copied_advances state next _ _ _ advances checked.2⟩

theorem kept_advances (flow : Flow next) (advances : Advances state next) (conn : next.conn = state.conn) (kept : Kept state) :
    Kept next := by
  refine ⟨flow, ?_⟩
  intro loop looping
  rw [conn] at looping
  exact follows_advances state next loop advances (kept.follows loop looping)

-- The connection moves and everything else stands still.
theorem conn_kept (conn : Conn δ) (kept : Kept state) (follows : ∀ loop, conn = .looping loop → Follows state loop) :
    Kept { state with conn := conn } := by
  have still : Advances state { state with conn := conn } := ⟨Nat.le_refl _, .inl ⟨rfl, rfl⟩⟩
  refine ⟨⟨kept.flow.flag, kept.flow.counted⟩, ?_⟩
  intro loop looping
  exact follows_advances state _ loop still (follows loop looping)

theorem generation_behind (flow : Flow state) : state.generation ≤ state.written := by
  have counted := flow.counted
  omega

theorem sampled_follows (displays : List δ) (flow : Flow state) : Follows state (sampled state displays) :=
  ⟨⟨⟨generation_behind state flow, Nat.le_refl _⟩, fun _ => rfl⟩, ⟨Nat.le_refl _, Nat.le_refl _⟩, .inl ⟨rfl, rfl⟩⟩

theorem load_follows (loop : Loop δ) (before : loop.check = .before) (follows : Follows state loop) :
    Follows state (loadGeneration state loop) := by
  obtain ⟨first, seen, checked⟩ := follows
  rw [before] at checked
  unfold loadGeneration
  split
  · rename_i moved
    exact ⟨first, ⟨Nat.le_trans seen.1 seen.2, Nat.le_refl _⟩, by
      change loop.firstGeneration < state.generation
      omega⟩
  · exact ⟨first, seen, checked⟩

theorem loop_kept (loop : Loop δ) (kept : Kept state) (follows : Follows state loop) :
    Kept { state with conn := .looping loop } := by
  apply conn_kept state _ kept
  intro other same
  cases same
  exact follows

theorem away_kept (conn : Conn δ) (kept : Kept state) (away : ∀ loop, conn ≠ .looping loop) : Kept { state with conn := conn } :=
  conn_kept state conn kept (fun loop looping => (away loop looping).elim)

theorem step_kept [DecidableEq δ] (crtcId : δ → Nat) (label : Label δ) (kept : Kept state)
    (stepped : step crtcId state label = some next) : Kept next := by
  unfold step at stepped
  split at stepped
  case h_1 topology _ =>
    obtain rfl := Option.some.inj stepped
    exact kept_advances state _ ⟨kept.flow.flag, kept.flow.counted⟩ ⟨Nat.le_refl _, .inl ⟨rfl, rfl⟩⟩ rfl kept
  case h_2 =>
    obtain rfl := Option.some.inj stepped
    refine kept_advances state _ ⟨?_, ?_⟩ ⟨Nat.le_refl _, .inl ⟨rfl, rfl⟩⟩ rfl kept
    · simp only [scheduleDrmCacheRefresh, List.countP_append]
      exact kept.flow.flag
    · simp only [scheduleDrmCacheRefresh, List.countP_append]
      exact kept.flow.counted
  case h_3 index answer =>
    obtain ⟨refresh, found, taken⟩ := Option.bind_eq_some_iff.mp stepped
    obtain ⟨flow, advances, conn⟩ := refresh_step_flow state next index refresh answer kept.flow found taken
    exact kept_advances state next flow advances conn kept
  case h_4 =>
    obtain rfl := Option.some.inj stepped
    exact away_kept state _ kept nofun
  case h_5 =>
    obtain rfl := Option.some.inj stepped
    exact away_kept state _ kept nofun
  case h_6 delivered displays _ =>
    obtain rfl := Option.some.inj stepped
    apply away_kept state _ kept
    cases delivered <;> nofun
  case h_7 reply displays _ =>
    obtain rfl := Option.some.inj stepped
    apply away_kept state _ kept
    intro loop
    unfold handshake
    split
    · split <;> nofun
    all_goals nofun
  case h_8 workerAlive displays _ =>
    obtain rfl := Option.some.inj stepped
    cases workerAlive with
    | true => exact loop_kept state _ kept (sampled_follows state displays kept.flow)
    | false => exact away_kept state _ kept nofun
  case h_9 authorized loop looping =>
    split at stepped
    · rename_i before
      obtain rfl := Option.some.inj stepped
      cases authorized with
      | true => exact loop_kept state _ kept (load_follows state loop before (kept.follows loop looping))
      | false => exact away_kept state _ kept nofun
    · cases stepped
  case h_10 loop looping =>
    split at stepped
    · rename_i moved
      obtain rfl := Option.some.inj stepped
      obtain ⟨first, seen, checked⟩ := kept.follows loop looping
      rw [moved] at checked
      have behind := generation_behind state kept.flow
      exact loop_kept state _ kept ⟨first, seen, checked, ⟨Nat.le_trans seen.2 behind, Nat.le_refl _⟩, fun _ => rfl⟩
    · cases stepped
  case h_11 delivered loop looping =>
    split at stepped
    · rename_i list written sending
      obtain rfl := Option.some.inj stepped
      obtain ⟨first, seen, checked⟩ := kept.follows loop looping
      rw [sending] at checked
      cases delivered with
      | true => exact loop_kept state _ kept ⟨first, seen, .inr checked⟩
      | false => exact away_kept state _ kept nofun
    · cases stepped
  case h_12 loop looping =>
    split at stepped
    · rename_i passed
      obtain rfl := Option.some.inj stepped
      obtain ⟨first, seen, checked⟩ := kept.follows loop looping
      rw [passed] at checked
      exact loop_kept state _ kept ⟨first, seen, checked⟩
    · cases stepped
  case h_13 =>
    obtain rfl := Option.some.inj stepped
    exact away_kept state _ kept nofun
  case h_14 => cases stepped

end

theorem start_kept (topology : List δ) : Kept (start topology) := ⟨⟨rfl, rfl⟩, nofun⟩

-- Nothing refreshes, the cache is the topology, and the loop's check found, and would
-- find again, the generation it had seen.
structure Settled (state : State δ) (loop : Loop δ) : Prop where
  looping : state.conn = .looping loop
  pending : state.pending = false
  running : state.running = false
  topology : state.cache = state.topology
  passed : loop.check = .passed
  seen : state.generation = loop.seenGen

theorem settled_list (state : State δ) (loop : Loop δ) (kept : Kept state) (settled : Settled state loop) :
    loop.last = state.cache ↔ state.generation ≠ loop.firstGeneration ∨ loop.handshake = loop.firstCache := by
  have idle : state.refreshes.countP Refresh.isBumping = 0 := by
    have flag := kept.flow.flag
    have fewer : state.refreshes.countP Refresh.isBumping ≤ state.refreshes.countP Refresh.holds := by
      apply List.countP_mono_left
      intro refresh _ bumping
      cases refresh with
      | bumping => rfl
      | _ => cases bumping
    rw [settled.running, Bool.toNat_false] at flag
    omega
  have counted := kept.flow.counted
  obtain ⟨first, seen, checked⟩ := kept.follows loop settled.looping
  have generation := settled.seen
  rw [settled.passed] at checked
  rcases checked with ⟨unmoved, unsent⟩ | ⟨moved, copied⟩
  · have current := first.current (by have recent := first.recent; omega)
    rw [unsent, ← current]
    exact ⟨.inr, fun either => either.resolve_left (by omega)⟩
  · have current := copied.current (by have recent := copied.recent; omega)
    exact ⟨fun _ => .inl (by omega), fun _ => current⟩

theorem display_lists_agree [DecidableEq δ] (crtcId : δ → Nat) (topology : List δ) (state : State δ) (loop : Loop δ)
    (reach : Machine.Reachable (step crtcId) (start topology) state) (settled : Settled state loop) :
    loop.last = state.cache ↔ state.generation ≠ loop.firstGeneration ∨ loop.handshake = loop.firstCache := by
  apply settled_list state loop _ settled
  apply Machine.reachable_invariant (step crtcId) Kept (start topology) state (start_kept topology)
  · exact fun state label next kept stepped => step_kept state next crtcId label kept stepped
  · exact reach

def refreshed (index : Nat) (list : List Nat) (changed : Bool) : List (Label Nat) :=
  [Label.schedule, .refresh index .proceed, .refresh index .proceed, .refresh index .proceed, .refresh index (.enumerated list),
    .refresh index .proceed] ++ (if changed then [Label.refresh index .proceed] else []) ++
    [Label.refresh index .proceed, .refresh index .proceed, .refresh index .proceed]

-- Display 2 is plugged in while the client is still choosing, and the cache is refreshed
-- before its DrmStart arrives; the refresh the capture worker asks for finds no change.
def pluggedWhileChoosing : List (Label Nat) :=
  refreshed 0 [1] true ++ [Label.worker (some [1]), .send true, .hotplug [1, 2]] ++ refreshed 1 [1, 2] true ++
    [Label.reply (.drmStart 0), .sample true] ++ refreshed 2 [1, 2] false ++ [Label.load true]

theorem plugged_runs : (Machine.run (step id) (start [1]) pluggedWhileChoosing).isSome = true := by decide

def pluggedLoop : Loop Nat :=
  { handshake := [1], seenGen := 2, last := [1], lastWritten := 0, check := .passed, firstGeneration := 2, firstWritten := 2,
    firstCache := [1, 2] }

theorem plugged_display_unseen : ∃ state loop, Machine.Reachable (step id) (start [1]) state ∧ Settled state loop ∧
    loop.last = [1] ∧ state.cache = [1, 2] := by
  refine ⟨_, pluggedLoop, Machine.reachable_run (step id) (start [1]) pluggedWhileChoosing plugged_runs, ?_, rfl, by decide⟩
  exact ⟨by decide, by decide, by decide, by decide, rfl, by decide⟩

-- Here the display is plugged in after DrmStart.
def pluggedLater : List (Label Nat) :=
  refreshed 0 [1] true ++ [Label.worker (some [1]), .send true, .reply (.drmStart 0), .sample true, .load true, .rest, .hotplug [1, 2]] ++
    refreshed 1 [1, 2] true ++ [Label.load true, .copy, .send true]

theorem later_runs : (Machine.run (step id) (start [1]) pluggedLater).isSome = true := by decide

def laterLoop : Loop Nat :=
  { handshake := [1], seenGen := 2, last := [1, 2], lastWritten := 2, check := .passed, firstGeneration := 1, firstWritten := 1,
    firstCache := [1] }

theorem display_lists_agree_later :
    let state := (Machine.run (step id) (start [1]) pluggedLater).get later_runs
    state.generation = 2 ∧
      (laterLoop.last = state.cache ↔ state.generation ≠ laterLoop.firstGeneration ∨ laterLoop.handshake = laterLoop.firstCache) := by
  refine ⟨by decide, ?_⟩
  apply display_lists_agree id [1] _ laterLoop (Machine.reachable_run (step id) (start [1]) pluggedLater later_runs)
  exact ⟨by decide, by decide, by decide, by decide, rfl, by decide⟩

end GotechDesk.Drm.DisplayCache
