import GotechDesk.Table
import GotechDesk.PortForward.Tunnel

set_option autoImplicit false

namespace GotechDesk.PortForward.OpenIds

open Machine

-- Where a call of `open` stands: at the lock of the map, in the search with the id it drew
-- last, or past it.
inductive Point where
  | waiting
  | searching (id : ChannelId)
  | obtained (id : ChannelId)
  | refused
deriving DecidableEq, Repr

inductive Event where
  | drew
  | obtained (call : Nat) (id : ChannelId)
  | removed (id : ChannelId)
deriving DecidableEq, Repr

inductive Label (E : Type) where
  | call (entry : E)
  | lock (k : Nat)
  | look (k : Nat)
  | remove (id : ChannelId)
  | clear
deriving DecidableEq, Repr

section
variable {E : Type}

-- The map and the counter of a TunnelHandle, every call of `open` with the entry it brings, oldest
-- first, and the call that holds the lock. `log` is the history of the counter and the map.
structure Handle (E : Type) where
  channels : List (ChannelId × E)
  nextId : ChannelId
  calls : List (Point × E)
  holder : Option Nat
  log : List Event
deriving DecidableEq, Repr

def Handle.start (channels : List (ChannelId × E)) (nextId : ChannelId) : Handle E :=
  { channels := channels, nextId := nextId, calls := [], holder := none, log := [] }

def Handle.ids (h : Handle E) : List ChannelId := h.channels.map Prod.fst

-- next_id.fetch_add
def Handle.fetchAdd (h : Handle E) (k : Nat) (entry : E) : Handle E :=
  { h with nextId := h.nextId + 1, calls := h.calls.set k (.searching h.nextId, entry), log := h.log ++ [.drew] }

def Handle.lock (h : Handle E) (k : Nat) : Option (Handle E) :=
  match h.holder, h.calls[k]? with
  | none, some (.waiting, entry) =>
      if maxChannels ≤ h.channels.length then some { h with calls := h.calls.set k (.refused, entry) }
      else some { h.fetchAdd k entry with holder := some k }
  | _, _ => none

-- One test of `while channels.contains_key(&id)`.
def Handle.look (h : Handle E) (k : Nat) : Option (Handle E) :=
  match h.calls[k]? with
  | some (.searching id, entry) =>
      if h.holder = some k then
        if h.ids.contains id then some (h.fetchAdd k entry)
        else some { h with channels := Table.insert h.channels id entry, calls := h.calls.set k (.obtained id, entry),
                           holder := none, log := h.log ++ [.obtained k id] }
      else none
  | _ => none

-- An entry leaves the map: by a frame of the peer, at the end of its task, or with all others.
def Handle.step (h : Handle E) : Label E → Option (Handle E)
  | .call entry => some { h with calls := h.calls ++ [(.waiting, entry)] }
  | .lock k => h.lock k
  | .look k => h.look k
  | .remove id => if h.holder = none then some { h with channels := Table.remove h.channels id, log := h.log ++ [.removed id] } else none
  | .clear => if h.holder = none then some { h with channels := [], log := h.log ++ h.ids.map .removed } else none

-- Everything that can happen to the map, the counter and the lock.
inductive Turn (h : Handle E) : Label E → Handle E → Prop where
  | call (entry : E) : Turn h (.call entry) { h with calls := h.calls ++ [(.waiting, entry)] }
  | refuse (k : Nat) (entry : E) (free : h.holder = none) (here : h.calls[k]? = some (.waiting, entry))
      (full : maxChannels ≤ h.channels.length) : Turn h (.lock k) { h with calls := h.calls.set k (.refused, entry) }
  | first (k : Nat) (entry : E) (free : h.holder = none) (here : h.calls[k]? = some (.waiting, entry))
      (room : h.channels.length < maxChannels) : Turn h (.lock k) { h.fetchAdd k entry with holder := some k }
  | again (k : Nat) (id : ChannelId) (entry : E) (held : h.holder = some k) (here : h.calls[k]? = some (.searching id, entry))
      (live : id ∈ h.ids) : Turn h (.look k) (h.fetchAdd k entry)
  | insert (k : Nat) (id : ChannelId) (entry : E) (held : h.holder = some k) (here : h.calls[k]? = some (.searching id, entry))
      (free : id ∉ h.ids) :
      Turn h (.look k) { h with channels := Table.insert h.channels id entry, calls := h.calls.set k (.obtained id, entry),
                                holder := none, log := h.log ++ [.obtained k id] }
  | remove (id : ChannelId) (free : h.holder = none) :
      Turn h (.remove id) { h with channels := Table.remove h.channels id, log := h.log ++ [.removed id] }
  | clear (free : h.holder = none) : Turn h .clear { h with channels := [], log := h.log ++ h.ids.map .removed }

theorem lock_turn (h next : Handle E) (k : Nat) (taken : h.lock k = some next) : Turn h (.lock k) next := by
  unfold Handle.lock at taken
  split at taken
  · rename_i entry free here
    by_cases full : maxChannels ≤ h.channels.length
    · rw [if_pos full] at taken
      exact Option.some.inj taken ▸ .refuse k entry free here full
    · rw [if_neg full] at taken
      exact Option.some.inj taken ▸ .first k entry free here (Nat.lt_of_not_le full)
  · cases taken

theorem look_turn (h next : Handle E) (k : Nat) (taken : h.look k = some next) : Turn h (.look k) next := by
  unfold Handle.look at taken
  split at taken
  · rename_i id entry here
    by_cases held : h.holder = some k
    · rw [if_pos held] at taken
      by_cases live : h.ids.contains id = true
      · rw [if_pos live] at taken
        exact Option.some.inj taken ▸ .again k id entry held here (List.contains_iff_mem.mp live)
      · rw [if_neg live] at taken
        exact Option.some.inj taken ▸ .insert k id entry held here (mt List.contains_iff_mem.mpr live)
    · rw [if_neg held] at taken
      cases taken
  · cases taken

theorem step_turn (h next : Handle E) (label : Label E) (taken : h.step label = some next) : Turn h label next := by
  cases label with
  | call entry => exact Option.some.inj taken ▸ .call entry
  | lock k => exact lock_turn h next k taken
  | look k => exact look_turn h next k taken
  | remove id =>
      obtain ⟨free, moved⟩ := guarded_step _ _ _ taken
      exact moved ▸ .remove id free
  | clear =>
      obtain ⟨free, moved⟩ := guarded_step _ _ _ taken
      exact moved ▸ .clear free

theorem offset_succ (id : ChannelId) (n : Nat) : id + BitVec.ofNat 32 (n + 1) = id + 1 + BitVec.ofNat 32 n := by
  rw [BitVec.ofNat_add, BitVec.add_comm (BitVec.ofNat 32 n), ← BitVec.add_assoc]
  rfl

theorem offset_inj (id : ChannelId) (m n : Nat) (below : m < 2 ^ 32) (under : n < 2 ^ 32)
    (same : id + BitVec.ofNat 32 m = id + BitVec.ofNat 32 n) : m = n := by
  have words := congrArg BitVec.toNat (add_left_cancel same)
  rwa [BitVec.toNat_ofNat, BitVec.toNat_ofNat, Nat.mod_eq_of_lt below, Nat.mod_eq_of_lt under] at words

-- Among one more consecutive ids than there are live ones, however the counter wraps, one is free.
theorem free_within (live : List ChannelId) (id : ChannelId) (few : live.length + 1 ≤ 2 ^ 32) :
    ∃ n, n ≤ live.length ∧ id + BitVec.ofNat 32 n ∉ live ∧ ∀ j, j < n → id + BitVec.ofNat 32 j ∈ live := by
  have found : ∃ n, n ≤ live.length ∧ id + BitVec.ofNat 32 n ∉ live := by
    by_contra none
    have tried : (List.range (live.length + 1)).map (fun j => id + BitVec.ofNat 32 j) ⊆ live := by
      intro other member
      obtain ⟨j, inside, rfl⟩ := List.mem_map.mp member
      by_contra free
      exact none ⟨j, Nat.le_of_lt_succ (List.mem_range.mp inside), free⟩
    have distinct : ((List.range (live.length + 1)).map (fun j => id + BitVec.ofNat 32 j)).Nodup := by
      refine List.Nodup.map_on ?_ List.nodup_range
      intro m below n under same
      have first := List.mem_range.mp below
      have second := List.mem_range.mp under
      exact offset_inj id m n (by omega) (by omega) same
    have count := (List.subperm_of_subset distinct tried).length_le
    rw [List.length_map, List.length_range] at count
    omega
  refine ⟨Nat.find found, (Nat.find_spec found).1, (Nat.find_spec found).2, ?_⟩
  intro j earlier
  by_contra free
  have within := (Nat.find_spec found).1
  exact Nat.find_min found earlier ⟨by omega, free⟩

-- The loop as `openInsert` of the whole handle has it ends at the same id.
theorem free_id_found (live : List ChannelId) (n fuel : Nat) (id : ChannelId) (enough : n ≤ fuel)
    (free : id + BitVec.ofNat 32 n ∉ live) (tried : ∀ j, j < n → id + BitVec.ofNat 32 j ∈ live) :
    freeId live fuel id = id + BitVec.ofNat 32 n := by
  induction n generalizing id fuel with
  | zero =>
      have same : id + BitVec.ofNat 32 0 = id := BitVec.add_zero id
      rw [same] at free ⊢
      exact free_id_next live fuel id free
  | succ n ih =>
      obtain ⟨fuel, rfl⟩ : ∃ more, fuel = more + 1 := ⟨fuel - 1, by omega⟩
      have first := tried 0 (Nat.succ_pos n)
      rw [show id + BitVec.ofNat 32 0 = id from BitVec.add_zero id] at first
      rw [offset_succ] at free ⊢
      rw [freeId, if_pos first]
      apply ih fuel (id + 1) (Nat.le_of_succ_le_succ enough) free
      intro j earlier
      rw [← offset_succ]
      exact tried (j + 1) (Nat.succ_lt_succ earlier)

-- The search of the call that holds the lock, turn by turn.
theorem search_runs (n : Nat) (h : Handle E) (k : Nat) (id : ChannelId) (entry : E) (held : h.holder = some k)
    (here : h.calls[k]? = some (.searching id, entry)) (next : h.nextId = id + 1)
    (free : id + BitVec.ofNat 32 n ∉ h.ids) (tried : ∀ j, j < n → id + BitVec.ofNat 32 j ∈ h.ids) :
    run Handle.step h (List.replicate (n + 1) (.look k)) =
      some { channels := Table.insert h.channels (id + BitVec.ofNat 32 n) entry, nextId := id + BitVec.ofNat 32 n + 1,
             calls := h.calls.set k (.obtained (id + BitVec.ofNat 32 n), entry), holder := none,
             log := h.log ++ List.replicate n .drew ++ [.obtained k (id + BitVec.ofNat 32 n)] } := by
  induction n generalizing h id with
  | zero =>
      have same : id + BitVec.ofNat 32 0 = id := BitVec.add_zero id
      rw [same] at free ⊢
      have looked : h.step (.look k) =
          some { h with channels := Table.insert h.channels id entry, calls := h.calls.set k (.obtained id, entry), holder := none,
                        log := h.log ++ [.obtained k id] } := by
        simp only [Handle.step, Handle.look, here, if_pos held, if_neg (mt List.contains_iff_mem.mp free)]
      simp only [List.replicate, run, looked, Option.bind_some, next, List.append_nil]
  | succ n ih =>
      have first := tried 0 (Nat.succ_pos n)
      rw [show id + BitVec.ofNat 32 0 = id from BitVec.add_zero id] at first
      have looked : h.step (.look k) = some (h.fetchAdd k entry) := by
        simp only [Handle.step, Handle.look, here, if_pos held, if_pos (List.contains_iff_mem.mpr first)]
      have inside : k < h.calls.length := (List.getElem?_eq_some_iff.mp here).1
      have drawn : (h.fetchAdd k entry).calls[k]? = some (.searching (id + 1), entry) := by
        simp only [Handle.fetchAdd, List.getElem?_set_self inside, next]
      rw [offset_succ] at free ⊢
      have rest := ih (h.fetchAdd k entry) (id + 1) held drawn (by simp only [Handle.fetchAdd, next]) free (by
        intro j earlier
        rw [← offset_succ]
        exact tried (j + 1) (Nat.succ_lt_succ earlier))
      rw [List.replicate_succ, run, looked, Option.bind_some, rest]
      simp only [Handle.fetchAdd, List.set_set, List.append_assoc, List.cons_append, List.nil_append, List.replicate_succ]

theorem log_split (log suffix before after : List Event) (event : Event) (quiet : event ∉ suffix)
    (same : log ++ suffix = before ++ event :: after) : ∃ rest, log = before ++ event :: rest ∧ after = rest ++ suffix := by
  rcases List.append_eq_append_iff.mp same with ⟨more, _, inside⟩ | ⟨more, front, inside⟩
  · exact absurd (inside ▸ List.mem_append_right more List.mem_cons_self) quiet
  · cases more with
    | nil =>
        rw [List.nil_append] at inside
        exact absurd (inside ▸ List.mem_cons_self) quiet
    | cons first rest =>
        obtain ⟨rfl, rfl⟩ := List.cons.inj inside
        exact ⟨rest, front, rfl⟩

theorem log_last (log before after : List Event) (last event : Event) (same : log ++ [last] = before ++ event :: after) :
    (after = [] ∧ event = last ∧ log = before) ∨ ∃ rest, log = before ++ event :: rest ∧ after = rest ++ [last] := by
  rcases List.eq_nil_or_concat after with rfl | ⟨rest, final, rfl⟩
  · obtain ⟨front, end_⟩ := List.append_inj' same rfl
    exact .inl ⟨rfl, (List.cons.inj end_).1.symm, front⟩
  · rw [List.concat_eq_append] at same ⊢
    rw [← List.cons_append, ← List.append_assoc] at same
    obtain ⟨front, end_⟩ := List.append_inj' same rfl
    exact .inr ⟨rest, front, by rw [(List.cons.inj end_).1]⟩

-- The history behind the counter and the map: where every id came from, that it stays until it is
-- removed, and what lies between two openings that got the same one.
structure Sound (first : ChannelId) (h : Handle E) : Prop where
  counter : h.nextId = first + BitVec.ofNat 32 (h.log.count .drew)
  search : ∀ k, h.holder = some k → ∃ id entry, h.calls[k]? = some (.searching id, entry) ∧ h.nextId = id + 1
  drawn : ∀ k before j id after, h.holder = some k → h.log = before ++ .obtained j id :: after → .drew ∈ after
  numbered : ∀ before j id after, h.log = before ++ .obtained j id :: after → id + 1 = first + BitVec.ofNat 32 (before.count .drew)
  live : ∀ before j id after, h.log = before ++ .obtained j id :: after → .removed id ∉ after → id ∈ h.ids
  apart : ∀ before j id middle k after, h.log = before ++ .obtained j id :: (middle ++ .obtained k id :: after) →
    .removed id ∈ middle ∧ 2 ^ 32 ≤ middle.count .drew

theorem sound_start (channels : List (ChannelId × E)) (nextId : ChannelId) : Sound nextId (.start channels nextId) := by
  have nothing : ∀ before (event : Event) after, ([] : List Event) ≠ before ++ event :: after := by simp
  refine ⟨(BitVec.add_zero nextId).symm, nofun, nofun, ?_, ?_, ?_⟩
  · exact fun before j id after same => absurd same (nothing _ _ _)
  · exact fun before j id after same => absurd same (nothing _ _ _)
  · exact fun before j id middle k after same => absurd same (nothing _ _ _)

-- What follows the last opening says nothing about the ones before it.
theorem apart_quiet (log suffix : List Event) (quiet : ∀ k id, Event.obtained k id ∉ suffix)
    (apart : ∀ before j id middle k after, log = before ++ .obtained j id :: (middle ++ .obtained k id :: after) →
      .removed id ∈ middle ∧ 2 ^ 32 ≤ middle.count .drew)
    (before : List Event) (j : Nat) (id : ChannelId) (middle : List Event) (k : Nat) (after : List Event)
    (same : log ++ suffix = before ++ .obtained j id :: (middle ++ .obtained k id :: after)) :
    Event.removed id ∈ middle ∧ 2 ^ 32 ≤ middle.count Event.drew := by
  rw [← List.cons_append, ← List.append_assoc] at same
  obtain ⟨rest, front, _⟩ := log_split log suffix _ after _ (quiet k id) same
  rw [List.append_assoc, List.cons_append] at front
  exact apart before j id middle k rest front

theorem sound_removal (first : ChannelId) (h : Handle E) (suffix : List Event) (channels : List (ChannelId × E)) (sound : Sound first h)
    (free : h.holder = none) (quiet : ∀ event ∈ suffix, ∃ id, event = .removed id)
    (kept : ∀ id ∈ h.ids, .removed id ∉ suffix → id ∈ channels.map Prod.fst) :
    Sound first { h with channels := channels, log := h.log ++ suffix } := by
  have settled : ∀ k id, Event.obtained k id ∉ suffix := by
    intro k id member
    obtain ⟨_, removed⟩ := quiet _ member
    cases removed
  have counted : suffix.count Event.drew = 0 := by
    refine List.count_eq_zero.mpr (fun member => ?_)
    obtain ⟨_, removed⟩ := quiet _ member
    cases removed
  refine ⟨?_, ?_, ?_, ?_, ?_, apart_quiet h.log suffix settled sound.apart⟩
  · simp only [List.count_append, counted, Nat.add_zero]
    exact sound.counter
  · exact fun k held => absurd (free.symm.trans held) nofun
  · exact fun k before j id after held => absurd (free.symm.trans held) nofun
  · intro before j id after same
    obtain ⟨rest, front, _⟩ := log_split h.log suffix before after _ (settled j id) same
    exact sound.numbered before j id rest front
  · intro before j id after same still
    obtain ⟨rest, front, rfl⟩ := log_split h.log suffix before after _ (settled j id) same
    obtain ⟨here, beyond⟩ := not_or.mp (List.mem_append.not.mp still)
    exact kept id (sound.live before j id rest front here) beyond

theorem sound_draw (first : ChannelId) (h next : Handle E) (k : Nat) (entry : E) (sound : Sound first h) (inside : k < h.calls.length)
    (drew : next = { h.fetchAdd k entry with holder := some k }) : Sound first next := by
  subst drew
  have settled : ∀ k id, Event.obtained k id ∉ [Event.drew] := by
    intro k id member
    cases List.mem_singleton.mp member
  refine ⟨?_, ?_, ?_, ?_, ?_, apart_quiet h.log [.drew] settled sound.apart⟩
  · simp only [Handle.fetchAdd, List.count_append, List.count_singleton_self, BitVec.ofNat_add, ← BitVec.add_assoc, sound.counter]
    rfl
  · intro holder held
    obtain rfl : k = holder := Option.some.inj held
    exact ⟨h.nextId, entry, List.getElem?_set_self inside, rfl⟩
  · intro _ before j id after _ same
    obtain ⟨rest, _, rfl⟩ := log_split h.log [.drew] before after _ (settled j id) same
    exact List.mem_append_right _ (List.mem_singleton_self _)
  · intro before j id after same
    obtain ⟨rest, front, _⟩ := log_split h.log [.drew] before after _ (settled j id) same
    exact sound.numbered before j id rest front
  · intro before j id after same still
    obtain ⟨rest, front, rfl⟩ := log_split h.log [.drew] before after _ (settled j id) same
    exact sound.live before j id rest front (fun removed => still (List.mem_append_left _ removed))

section
variable (table : List (ChannelId × E)) (key other : ChannelId)

theorem mem_insert (value : E) : other ∈ (Table.insert table key value).map Prod.fst ↔ other = key ∨ other ∈ table.map Prod.fst := by
  rw [← not_iff_not, ← Table.get_none, Table.get_insert, not_or, ← Table.get_none]
  by_cases same : other = key
  · simp [same]
  · simp [same]

theorem mem_remove : other ∈ (Table.remove table key).map Prod.fst ↔ other ≠ key ∧ other ∈ table.map Prod.fst := by
  rw [← not_iff_not, ← Table.get_none, Table.get_remove, not_and, ← Table.get_none]
  by_cases same : other = key
  · simp [same]
  · simp [same]

end

-- Two draws of the same id are a whole turn of the counter apart.
theorem whole_turn (first id : ChannelId) (start count : Nat) (drawn : 0 < count) (before : id + 1 = first + BitVec.ofNat 32 start)
    (after : id + 1 = first + BitVec.ofNat 32 (start + count)) : 2 ^ 32 ≤ count := by
  have same := congrArg BitVec.toNat (add_left_cancel (before.symm.trans after))
  rw [BitVec.toNat_ofNat, BitVec.toNat_ofNat] at same
  omega

theorem sound_insert (first : ChannelId) (h : Handle E) (k : Nat) (id : ChannelId) (entry : E) (sound : Sound first h)
    (held : h.holder = some k) (here : h.calls[k]? = some (.searching id, entry)) (free : id ∉ h.ids) :
    Sound first { h with channels := Table.insert h.channels id entry, calls := h.calls.set k (.obtained id, entry), holder := none,
                         log := h.log ++ [.obtained k id] } := by
  have next : h.nextId = id + 1 := by
    obtain ⟨other, brought, there, next⟩ := sound.search k held
    rw [here] at there
    cases there
    exact next
  have number : id + 1 = first + BitVec.ofNat 32 (h.log.count .drew) := next.symm.trans sound.counter
  refine ⟨?_, nofun, nofun, ?_, ?_, ?_⟩
  · simpa [List.count_append] using sound.counter
  · intro before j other after same
    rcases log_last h.log before after _ _ same with ⟨_, last, rfl⟩ | ⟨rest, front, _⟩
    · cases last
      exact number
    · exact sound.numbered before j other rest front
  · intro before j other after same still
    rw [Handle.ids, mem_insert]
    rcases log_last h.log before after _ _ same with ⟨_, last, _⟩ | ⟨rest, front, rfl⟩
    · cases last
      exact .inl rfl
    · exact .inr (sound.live before j other rest front (fun removed => still (List.mem_append_left _ removed)))
  · intro before j other middle k' after same
    rw [← List.cons_append, ← List.append_assoc] at same
    rcases log_last h.log _ after _ _ same with ⟨_, last, front⟩ | ⟨rest, front, _⟩
    · cases last
      refine ⟨?_, ?_⟩
      · by_contra still
        exact free (sound.live before j id middle front still)
      · have drew := sound.drawn k before j id middle held front
        have earlier := sound.numbered before j id middle front
        rw [front] at number
        exact whole_turn first id _ _ (List.count_pos_iff.mpr drew) earlier (by simpa using number)
    · rw [List.append_assoc, List.cons_append] at front
      exact sound.apart before j other middle k' rest front

theorem sound_step (first : ChannelId) (h next : Handle E) (label : Label E) (sound : Sound first h) (taken : h.step label = some next) :
    Sound first next := by
  cases step_turn h next label taken with
  | call entry =>
      refine { sound with search := ?_ }
      intro k held
      obtain ⟨id, brought, there, number⟩ := sound.search k held
      refine ⟨id, brought, ?_, number⟩
      rw [List.getElem?_append_left (List.getElem?_eq_some_iff.mp there).1, there]
  | refuse k entry free here full =>
      refine { sound with search := ?_ }
      exact fun other held => absurd (free.symm.trans held) nofun
  | first k entry free here room => exact sound_draw first h _ k entry sound (List.getElem?_eq_some_iff.mp here).1 rfl
  | again k id entry held here live =>
      refine sound_draw first h _ k entry sound (List.getElem?_eq_some_iff.mp here).1 ?_
      rw [← held]
      rfl
  | insert k id entry held here free => exact sound_insert first h k id entry sound held here free
  | remove id free =>
      refine sound_removal first h [.removed id] _ sound free (fun event member => ⟨id, List.mem_singleton.mp member⟩) ?_
      intro other listed still
      rw [mem_remove]
      refine ⟨?_, listed⟩
      rintro rfl
      exact still (List.mem_singleton_self _)
  | clear free =>
      refine sound_removal first h (h.ids.map .removed) [] sound free ?_ ?_
      · intro event member
        obtain ⟨id, _, rfl⟩ := List.mem_map.mp member
        exact ⟨id, rfl⟩
      · exact fun id listed still => absurd (List.mem_map_of_mem listed) still

-- With the lock free and fewer than MAX_CHANNELS entries, whatever the counter and the ids: a search
-- ends within as many further draws as there are entries, with an id that none of them has, and leaves the
-- others as they are. In any run, two openings get the same id only when the first one's entry
-- was removed and the counter came all the way round in between.
theorem open_ids_free :
    (∀ (h : Handle E) (k : Nat) (entry : E), h.holder = none → h.calls[k]? = some (.waiting, entry) → h.channels.length < maxChannels →
      ∃ n id final, n ≤ h.channels.length ∧ run Handle.step h (.lock k :: List.replicate (n + 1) (.look k)) = some final ∧
        id ∉ h.ids ∧ id = freeId h.ids h.ids.length h.nextId ∧ final.calls = h.calls.set k (.obtained id, entry) ∧ final.holder = none ∧
        final.nextId = h.nextId + BitVec.ofNat 32 (n + 1) ∧
        ∀ other, Table.get final.channels other = if other = id then some entry else Table.get h.channels other) ∧
    ∀ (channels : List (ChannelId × E)) (nextId : ChannelId) (labels : List (Label E)) (final : Handle E),
      run Handle.step (.start channels nextId) labels = some final →
      ∀ before j id middle k id' after, final.log = before ++ .obtained j id :: (middle ++ .obtained k id' :: after) →
        .removed id ∉ middle ∨ middle.count .drew < 2 ^ 32 → id ≠ id' := by
  refine ⟨?_, ?_⟩
  · intro h k entry free here room
    have short : h.ids.length = h.channels.length := List.length_map _
    have few : maxChannels < 2 ^ 32 := by decide
    obtain ⟨n, within, unused, tried⟩ := free_within h.ids h.nextId (by omega)
    have inside : k < h.calls.length := (List.getElem?_eq_some_iff.mp here).1
    have locked : h.step (.lock k) = some { h.fetchAdd k entry with holder := some k } := by
      simp only [Handle.step, Handle.lock, free, here, if_neg (Nat.not_le_of_lt room)]
    have found := search_runs n { h.fetchAdd k entry with holder := some k } k h.nextId entry rfl
      (List.getElem?_set_self inside) rfl unused tried
    have began : run Handle.step h (.lock k :: List.replicate (n + 1) (.look k)) =
        run Handle.step { h.fetchAdd k entry with holder := some k } (List.replicate (n + 1) (.look k)) := by
      rw [run, locked, Option.bind_some]
    refine ⟨n, h.nextId + BitVec.ofNat 32 n, _, short ▸ within, began.trans found, unused, ?_, ?_, rfl, ?_, ?_⟩
    · exact (free_id_found h.ids n h.ids.length h.nextId within unused tried).symm
    · exact List.set_set (Point.searching h.nextId, entry)
    · rw [offset_succ, BitVec.add_assoc, BitVec.add_assoc, BitVec.add_comm 1]
    · exact fun other => Table.get_insert h.channels _ other entry
  · rintro channels nextId labels final ran before j id middle k id' after same unbroken rfl
    have sound := run_invariant Handle.step (Sound nextId) (fun h label next => sound_step nextId h next label) labels _ final
      (sound_start channels nextId) ran
    obtain ⟨removed, round⟩ := sound.apart before j id middle k after same
    rcases unbroken with still | less
    · exact still removed
    · omega

end

-- The counter stands at its largest value, which a channel still has, and so has the smallest: the
-- third draw is free.
def roundAbout : Handle Unit :=
  { channels := [(0x7FFFFFFF, ()), (0x80000000, ())], nextId := 0x7FFFFFFF, calls := [(.waiting, ())], holder := none, log := [] }

theorem open_ids_free_round :
    roundAbout.channels.length < maxChannels ∧ ∃ n id final, n ≤ roundAbout.channels.length ∧
      run Handle.step roundAbout (.lock 0 :: List.replicate (n + 1) (.look 0)) = some final ∧ id ∉ roundAbout.ids ∧
      id = 0x80000001 ∧ final.nextId = roundAbout.nextId + BitVec.ofNat 32 (n + 1) := by
  obtain ⟨n, id, final, within, ran, unused, found, _, _, next, _⟩ := open_ids_free.1 roundAbout 0 () rfl rfl (by decide)
  exact ⟨by decide, n, id, final, within, ran, unused, found.trans (by decide), next⟩

end GotechDesk.PortForward.OpenIds
