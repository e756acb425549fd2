import GotechDesk.Machine

set_option autoImplicit false

namespace GotechDesk.Connection

def maxUnauthorizedConns : Nat := 64
def maxUnauthorizedConnsPerAddr : Nat := 16

-- `shared` names the UnauthorizedShared a guard and its place in the registry both
-- point to; the registry below holds the flags themselves.
structure UnauthorizedID where
  id : Int
  shared : Nat
deriving DecidableEq, Repr

structure Place (Addr : Type) where
  id : Int
  ip : Addr
  shared : Nat
deriving DecidableEq, Repr

def Place.guard {Addr : Type} (place : Place Addr) : UnauthorizedID := ⟨place.id, place.shared⟩

inductive Event where
  | evicted (id : Int)
  | dropped (id : Int)
deriving DecidableEq, Repr

-- `conns` is UNAUTHORIZED_CONNS and `flags` the `evicted` flag of each allocation.
-- `guards` are the guards alive, in admission order, and `log` is the history of
-- notifications and drops.
structure Registry (Addr : Type) where
  conns : List (Place Addr)
  flags : List Bool
  guards : List UnauthorizedID
  log : List Event
deriving DecidableEq, Repr

section
variable {Addr : Type} [DecidableEq Addr]

def Registry.empty : Registry Addr := ⟨[], [], [], []⟩

def Registry.isEvicted (r : Registry Addr) (guard : UnauthorizedID) : Bool := r.flags.getD guard.shared false

def Registry.share (r : Registry Addr) (ip : Addr) : Nat := (r.conns.filter (fun place => decide (place.ip = ip))).length

def Registry.evictOldest (r : Registry Addr) : Registry Addr :=
  match r.conns with
  | [] => r
  | oldest :: _ =>
      if r.isEvicted oldest.guard then r
      else { r with flags := r.flags.set oldest.shared true, log := r.log ++ [.evicted oldest.id] }

def Registry.admitUnauthorized (r : Registry Addr) (id : Int) (ip : Addr) : Registry Addr × Option UnauthorizedID :=
  if maxUnauthorizedConnsPerAddr ≤ r.share ip then (r, none)
  else if maxUnauthorizedConns ≤ r.conns.length then (r.evictOldest, none)
  else
    ({ r with conns := r.conns ++ [⟨id, ip, r.flags.length⟩], flags := r.flags ++ [false],
              guards := r.guards ++ [⟨id, r.flags.length⟩] }, some ⟨id, r.flags.length⟩)

def Registry.drop (r : Registry Addr) (k : Nat) : Option (Registry Addr) :=
  match r.guards[k]? with
  | none => none
  | some guard =>
      some { r with conns := r.conns.filter (fun place => decide (place.id ≠ guard.id)), guards := r.guards.eraseIdx k,
                    log := r.log ++ [.dropped guard.id] }

inductive RegistryAct (Addr : Type) where
  | arrive (id : Int) (ip : Addr)
  | drop (k : Nat)
deriving DecidableEq, Repr

-- The server hands every connection an id of its own, so an arrival never carries
-- that of a guard still alive.
def Registry.step (r : Registry Addr) : RegistryAct Addr → Option (Registry Addr)
  | .arrive id ip => if id ∈ r.guards.map UnauthorizedID.id then none else some (r.admitUnauthorized id ip).1
  | .drop k => r.drop k

def Event.evicts : Event → Bool
  | .evicted _ => true
  | .dropped _ => false

structure Sound (r : Registry Addr) : Prop where
  registry : r.conns.map Place.guard = r.guards
  distinct : (r.guards.map UnauthorizedID.id).Nodup
  apart : (r.guards.map UnauthorizedID.shared).Nodup
  allocated : ∀ guard ∈ r.guards, guard.shared < r.flags.length
  bounded : r.conns.length ≤ maxUnauthorizedConns
  shares : ∀ ip, r.share ip ≤ maxUnauthorizedConnsPerAddr
  oldest : ∀ k guard, r.guards[k]? = some guard → r.isEvicted guard = true → k = 0
  spaced : r.log.IsChain (fun a b => ¬ (a.evicts = true ∧ b.evicts = true))
  leaving : ∀ event, r.log.getLast? = some event → event.evicts = true →
    ∃ guard rest, r.guards = guard :: rest ∧ r.isEvicted guard = true

theorem sound_empty : Sound (Registry.empty : Registry Addr) := by
  refine ⟨rfl, List.nodup_nil, List.nodup_nil, ?_, Nat.zero_le _, fun _ => Nat.zero_le _, ?_, List.IsChain.nil, ?_⟩ <;>
    simp [Registry.empty]

theorem index_zero (guards : List UnauthorizedID) (apart : (guards.map UnauthorizedID.shared).Nodup) (k : Nat)
    (oldest guard : UnauthorizedID) (rest : List UnauthorizedID) (front : guards = oldest :: rest)
    (here : guards[k]? = some guard) (same : guard.shared = oldest.shared) : k = 0 := by
  have bound : k < (guards.map UnauthorizedID.shared).length := by
    simpa using (List.getElem?_eq_some_iff.mp here).1
  refine (List.getElem?_inj bound apart).mp ?_
  have first : guards[0]? = some oldest := by simp [front]
  rw [List.getElem?_map, List.getElem?_map, here, first, Option.map_some, Option.map_some, same]

theorem evict_flag (flags : List Bool) (n shared : Nat) (bound : n < flags.length) :
    (flags.set n true).getD shared false = (decide (shared = n) || flags.getD shared false) := by
  by_cases same : shared = n
  · subst same
    simp [List.getD_eq_getElem?_getD, List.getElem?_set_self bound]
  · simp [List.getD_eq_getElem?_getD, List.getElem?_set_ne (Ne.symm same), same]

theorem chain_evict (log : List Event) (event : Event) (chain : log.IsChain (fun a b => ¬ (a.evicts = true ∧ b.evicts = true)))
    (settled : event.evicts = true → ∀ last, log.getLast? = some last → last.evicts = false) :
    (log ++ [event]).IsChain (fun a b => ¬ (a.evicts = true ∧ b.evicts = true)) := by
  refine List.isChain_append.mpr ⟨chain, List.IsChain.singleton event, ?_⟩
  intro last known first head both
  have same : event = first := by simpa using head
  subst same
  rw [settled both.2 last known] at both
  cases both.1

theorem sound_evict (r : Registry Addr) (sound : Sound r) : Sound r.evictOldest := by
  cases front : r.conns with
  | nil => simpa only [Registry.evictOldest, front] using sound
  | cons oldest rest =>
      by_cases going : r.isEvicted oldest.guard = true
      · simpa only [Registry.evictOldest, front, going, if_true] using sound
      · have guards : r.guards = oldest.guard :: rest.map Place.guard := by rw [← sound.registry, front, List.map_cons]
        have bound : oldest.shared < r.flags.length := sound.allocated oldest.guard (by simp [guards])
        have flag : ∀ guard : UnauthorizedID, (r.flags.set oldest.shared true).getD guard.shared false =
            (decide (guard.shared = oldest.shared) || r.flags.getD guard.shared false) :=
          fun guard => evict_flag r.flags oldest.shared guard.shared bound
        simp only [Registry.evictOldest, front, going, Bool.false_eq_true, if_false]
        refine ⟨front ▸ sound.registry, sound.distinct, sound.apart, ?_, front ▸ sound.bounded, ?_, ?_, ?_, ?_⟩
        · simpa only [List.length_set] using sound.allocated
        · simpa only [Registry.share, front] using sound.shares
        · intro k guard here evicted
          simp only [Registry.isEvicted, flag, Bool.or_eq_true, decide_eq_true_eq] at evicted
          rcases evicted with same | before
          · exact index_zero r.guards sound.apart k oldest.guard guard _ guards here same
          · exact sound.oldest k guard here before
        · refine chain_evict r.log _ sound.spaced fun _ last known => ?_
          by_contra evicts
          obtain ⟨guard, others, head, evicted⟩ := sound.leaving last known (by simpa using evicts)
          rw [guards, List.cons.injEq] at head
          exact going (head.1 ▸ evicted)
        · intro _ _ _
          refine ⟨oldest.guard, rest.map Place.guard, guards, ?_⟩
          rw [Registry.isEvicted, flag]
          simp [Place.guard]

theorem sound_admit (r : Registry Addr) (id : Int) (ip : Addr) (sound : Sound r)
    (fresh : id ∉ r.guards.map UnauthorizedID.id) : Sound (r.admitUnauthorized id ip).1 := by
  by_cases share : maxUnauthorizedConnsPerAddr ≤ r.share ip
  · simpa only [Registry.admitUnauthorized, if_pos share] using sound
  · by_cases full : maxUnauthorizedConns ≤ r.conns.length
    · simpa only [Registry.admitUnauthorized, if_neg share, if_pos full] using sound_evict r sound
    · simp only [Registry.admitUnauthorized, if_neg share, if_neg full]
      have before : ∀ guard ∈ r.guards, (r.flags ++ [false]).getD guard.shared false = r.flags.getD guard.shared false := by
        intro guard member
        rw [List.getD_eq_getElem?_getD, List.getElem?_append_left (sound.allocated guard member), List.getD_eq_getElem?_getD]
      have last : (r.flags ++ [false]).getD r.flags.length false = false := by simp [List.getD_eq_getElem?_getD]
      refine ⟨?_, ?_, ?_, ?_, ?_, ?_, ?_, sound.spaced, ?_⟩
      · simp [sound.registry, Place.guard]
      · rw [List.map_append]
        exact List.nodup_append.mpr ⟨sound.distinct, by simp, by simpa using fresh⟩
      · rw [List.map_append]
        refine List.nodup_append.mpr ⟨sound.apart, by simp, ?_⟩
        intro shared member other new same
        obtain ⟨guard, alive, rfl⟩ := List.mem_map.mp member
        have bound := sound.allocated guard alive
        simp only [List.map_cons, List.map_nil, List.mem_singleton] at new
        omega
      · intro guard member
        rw [List.length_append, List.length_singleton]
        rcases List.mem_append.mp member with old | new
        · have bound := sound.allocated guard old
          omega
        · rw [List.mem_singleton.mp new]
          exact Nat.lt_succ_self _
      · rw [List.length_append, List.length_singleton]
        omega
      · intro other
        have within := sound.shares other
        by_cases same : ip = other
        · subst same
          simp only [Registry.share] at share ⊢
          simp only [List.filter_append, List.length_append, List.filter_cons, decide_true, if_true, List.filter_nil,
            List.length_singleton]
          omega
        · simpa [Registry.share, same] using within
      · intro k guard here evicted
        by_cases old : k < r.guards.length
        · rw [List.getElem?_append_left old] at here
          rw [Registry.isEvicted, before guard (List.mem_of_getElem? here)] at evicted
          exact sound.oldest k guard here evicted
        · rw [List.getElem?_append_right (Nat.le_of_not_lt old)] at here
          have new : guard = ⟨id, r.flags.length⟩ := List.mem_singleton.mp (List.mem_of_getElem? here)
          rw [Registry.isEvicted, new, last] at evicted
          cases evicted
      · intro event known evicts
        obtain ⟨guard, rest, guards, evicted⟩ := sound.leaving event known evicts
        refine ⟨guard, rest ++ [⟨id, r.flags.length⟩], by simp [guards], ?_⟩
        rw [Registry.isEvicted, before guard (by simp [guards])]
        exact evicted

theorem erase_by_id (guards : List UnauthorizedID) (distinct : (guards.map UnauthorizedID.id).Nodup) (k : Nat)
    (gone : UnauthorizedID) (here : guards[k]? = some gone) :
    guards.filter (fun guard => decide (guard.id ≠ gone.id)) = guards.eraseIdx k := by
  induction guards generalizing k with
  | nil => simp at here
  | cons guard rest ih =>
      obtain ⟨absent, others⟩ := List.nodup_cons.mp distinct
      cases k with
      | zero =>
          obtain rfl : guard = gone := by simpa using here
          have all : ∀ other ∈ rest, decide (other.id ≠ guard.id) = true := by
            intro other member
            exact decide_eq_true (fun same => absent (same ▸ List.mem_map_of_mem member))
          simpa using List.filter_eq_self.mpr all
      | succ k =>
          have later : rest[k]? = some gone := by simpa using here
          have other : guard.id ≠ gone.id := fun same =>
            absent (same ▸ List.mem_map_of_mem (List.mem_of_getElem? later))
          rw [List.filter_cons, if_pos (decide_eq_true other), List.eraseIdx_cons_succ, ih others k later]

theorem sound_drop (r next : Registry Addr) (k : Nat) (sound : Sound r) (taken : r.drop k = some next) : Sound next := by
  cases here : r.guards[k]? with
  | none => simp [Registry.drop, here] at taken
  | some gone =>
      simp only [Registry.drop, here, Option.some.injEq] at taken
      subst taken
      have kept : (r.guards.eraseIdx k).Sublist r.guards := List.eraseIdx_sublist ..
      refine ⟨?_, ?_, ?_, ?_, ?_, ?_, ?_, ?_, ?_⟩
      · simp only []
        rw [← erase_by_id r.guards sound.distinct k gone here, ← sound.registry, List.filter_map]
        rfl
      · exact (kept.map _).nodup sound.distinct
      · exact (kept.map _).nodup sound.apart
      · exact fun guard member => sound.allocated guard (kept.subset member)
      · exact Nat.le_trans (List.length_filter_le ..) sound.bounded
      · intro ip
        exact Nat.le_trans ((List.filter_sublist.filter _).length_le) (sound.shares ip)
      · intro j guard at_j evicted
        simp only [] at at_j
        by_cases earlier : j < k
        · rw [List.getElem?_eraseIdx_of_lt earlier] at at_j
          exact sound.oldest j guard at_j evicted
        · rw [List.getElem?_eraseIdx_of_ge (Nat.le_of_not_lt earlier)] at at_j
          cases sound.oldest (j + 1) guard at_j evicted
      · exact chain_evict r.log _ sound.spaced (fun evicts => nomatch evicts)
      · intro event known evicts
        have last : event = .dropped gone.id := by simpa using known.symm
        rw [last] at evicts
        cases evicts

theorem sound_step (r next : Registry Addr) (act : RegistryAct Addr) (sound : Sound r) (taken : r.step act = some next) :
    Sound next := by
  cases act with
  | arrive id ip =>
      by_cases held : id ∈ r.guards.map UnauthorizedID.id
      · rw [Registry.step, if_pos held] at taken
        cases taken
      · simp only [Registry.step, if_neg held, Option.some.injEq] at taken
        exact taken ▸ sound_admit r id ip sound held
  | drop k => exact sound_drop r next k sound taken

-- Nothing but evictions between two of them would put two side by side.
theorem spaced_drop (first middle last : List Event) (a b : Int)
    (chain : (first ++ Event.evicted a :: middle ++ Event.evicted b :: last).IsChain
      (fun x y => ¬ (x.evicts = true ∧ y.evicts = true))) : ∃ id, Event.dropped id ∈ middle := by
  have inner := (List.isChain_append.mp (List.append_assoc first _ _ ▸ chain)).2.1
  cases middle with
  | nil =>
      have adjacent := inner.rel_head? (y := .evicted b) (by simp)
      exact absurd ⟨rfl, rfl⟩ adjacent
  | cons event rest =>
      cases event with
      | dropped id => exact ⟨id, List.mem_cons_self ..⟩
      | evicted c =>
          have adjacent := inner.rel_head? (y := .evicted c) (by simp)
          exact absurd ⟨rfl, rfl⟩ adjacent

-- Arrivals and drops in any order: the registry is the guards alive, both caps hold,
-- only the oldest is ever on its way out, an address over its share changes nothing,
-- and two evictions have a drop between them.
theorem admission_bounded (r : Registry Addr) (reach : Machine.Reachable Registry.step .empty r) :
    r.conns.map Place.guard = r.guards ∧ r.conns.length ≤ maxUnauthorizedConns ∧
      (∀ ip, r.share ip ≤ maxUnauthorizedConnsPerAddr) ∧
      (∀ k guard, r.guards[k]? = some guard → r.isEvicted guard = true → k = 0) ∧
      (∀ id ip, maxUnauthorizedConnsPerAddr ≤ r.share ip → r.admitUnauthorized id ip = (r, none)) ∧
      (∀ first middle last a b, r.log = first ++ Event.evicted a :: middle ++ Event.evicted b :: last →
        ∃ id, Event.dropped id ∈ middle) := by
  have sound : Sound r := Machine.reachable_invariant Registry.step Sound .empty r sound_empty
    (fun state act next sound taken => sound_step state next act sound taken) reach
  refine ⟨sound.registry, sound.bounded, sound.shares, sound.oldest, ?_, ?_⟩
  · intro id ip share
    exact if_pos share
  · intro first middle last a b same
    exact spaced_drop first middle last a b (same ▸ sound.spaced)

end

-- A full registry, two arrivals refused, the oldest gone, one let in and one refused.
def fullRegistry : List (RegistryAct Nat) :=
  ((List.range 64).map (fun n : Nat => .arrive n n) : List (RegistryAct Nat)) ++
    ([.arrive 64 64, .arrive 65 65, .drop 0, .arrive 66 66, .arrive 67 67] : List (RegistryAct Nat))

theorem full_registry_runs : (Machine.run Registry.step Registry.empty fullRegistry).isSome = true := by decide

theorem admission_bounded_full :
    let r := (Machine.run Registry.step Registry.empty fullRegistry).get full_registry_runs
    r.log = [.evicted 0, .dropped 0, .evicted 1] ∧ r.conns.map Place.guard = r.guards ∧
      r.conns.length ≤ maxUnauthorizedConns ∧ (∀ ip, r.share ip ≤ maxUnauthorizedConnsPerAddr) ∧
      (∀ k guard, r.guards[k]? = some guard → r.isEvicted guard = true → k = 0) ∧
      (∀ id ip, maxUnauthorizedConnsPerAddr ≤ r.share ip → r.admitUnauthorized id ip = (r, none)) ∧
      (∀ first middle last a b, r.log = first ++ Event.evicted a :: middle ++ Event.evicted b :: last →
        ∃ id, Event.dropped id ∈ middle) :=
  ⟨by decide +kernel, admission_bounded _ (Machine.reachable_run _ _ _ full_registry_runs)⟩

end GotechDesk.Connection
