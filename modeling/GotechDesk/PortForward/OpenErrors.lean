import GotechDesk.PortForward.TunnelHandle

set_option autoImplicit false

namespace GotechDesk.PortForward.OpenErrors

-- A call of first_report_at.
structure Call where
  message : String
  now : Nat
deriving DecidableEq, Repr

-- The table with the history of the calls: all of them, those whose message the table holds
-- with their time, and those that were reported.
structure Tally where
  table : List (String × Nat)
  seen : List Call
  recorded : List Call
  shown : List Call
deriving DecidableEq, Repr

def Tally.new : Tally := { table := [], seen := [], recorded := [], shown := [] }

def Tally.take (t : Tally) (call : Call) : List (String × Nat) × Option String := firstReportAt t.table call.message call.now

def Tally.call (t : Tally) (call : Call) : Tally :=
  let result := t.take call
  { table := result.1, seen := t.seen ++ [call],
    recorded := if (call.message, call.now) ∈ result.1 then t.recorded ++ [call] else t.recorded,
    shown := if result.2.isSome then t.shown ++ [call] else t.shown }

def after (calls : List Call) : Tally := calls.foldl Tally.call .new

def Ordered (calls : List Call) : Prop := calls.Pairwise (fun earlier later => earlier.now ≤ later.now)

-- What is reported in the half-open window that begins at a time.
def window (start : Nat) (calls : List Call) : List Call :=
  calls.filter (fun call => decide (start ≤ call.now ∧ call.now < start + reportAgainAfter))

def live (table : List (String × Nat)) (now : Nat) : List (String × Nat) :=
  table.filter (fun entry => decide (now - entry.2 < reportAgainAfter))

-- Everything a call can do with the table.
inductive Reported (table : List (String × Nat)) (message : String) (now : Nat) : List (String × Nat) × Option String → Prop where
  | empty (nothing : message = "") : Reported table message now (table, none)
  | again (something : message ≠ "") (known : message ∈ (live table now).map Prod.fst) :
      Reported table message now
        ((live table now).map (fun entry => if entry.1 = message then (entry.1, now) else entry), none)
  | full (something : message ≠ "") (unknown : message ∉ (live table now).map Prod.fst)
      (full : maxReportedOpenErrors ≤ (live table now).length) : Reported table message now (live table now, none)
  | first (something : message ≠ "") (unknown : message ∉ (live table now).map Prod.fst)
      (room : (live table now).length < maxReportedOpenErrors) :
      Reported table message now (live table now ++ [(message, now)], some message)

theorem again_positive : 0 < reportAgainAfter := by decide

theorem known_iff (table : List (String × Nat)) (message : String) :
    table.any (fun entry => entry.1 == message) = true ↔ message ∈ table.map Prod.fst := by
  simp only [List.any_eq_true, beq_iff_eq, List.mem_map]

theorem first_report_cases (table : List (String × Nat)) (message : String) (now : Nat) :
    Reported table message now (firstReportAt table message now) := by
  by_cases nothing : message = ""
  · rw [firstReportAt, if_pos nothing]
    exact .empty nothing
  · rw [firstReportAt, if_neg nothing]
    change Reported table message now
      (if (live table now).any (fun entry => entry.1 == message) = true then _
        else if maxReportedOpenErrors ≤ (live table now).length then (live table now, none) else _)
    by_cases known : message ∈ (live table now).map Prod.fst
    · rw [if_pos ((known_iff _ _).mpr known)]
      exact .again nothing known
    · rw [if_neg (fun found => known ((known_iff _ _).mp found))]
      by_cases full : maxReportedOpenErrors ≤ (live table now).length
      · rw [if_pos full]
        exact .full nothing known full
      · rw [if_neg full]
        exact .first nothing known (Nat.lt_of_not_le full)

theorem after_snoc (past : List Call) (call : Call) : after (past ++ [call]) = (after past).call call := by
  simp [after, List.foldl_append]

-- What the histories say about the table at a time that is not before any call.
structure Sound (t : Tally) (now : Nat) : Prop where
  keys : (t.table.map Prod.fst).Nodup
  bounded : t.table.length ≤ maxReportedOpenErrors
  past : ∀ call ∈ t.seen, call.now ≤ now
  entries : ∀ entry ∈ t.table, ⟨entry.1, entry.2⟩ ∈ t.recorded
  seen : ∀ call ∈ t.recorded, call ∈ t.seen
  recorded : ∀ call ∈ t.shown, call ∈ t.recorded
  latest : ∀ call ∈ t.recorded, (∃ last, (call.message, last) ∈ t.table ∧ call.now ≤ last) ∨ call.now + reportAgainAfter ≤ now
  apart : t.shown.Pairwise (fun earlier later => earlier.message = later.message → earlier.now + reportAgainAfter ≤ later.now)
  windows : ∀ start, (window start t.shown).length ≤ maxReportedOpenErrors

theorem sound_new (now : Nat) : Sound .new now :=
  { keys := List.nodup_nil, bounded := Nat.zero_le _, past := nofun, entries := nofun, seen := nofun, recorded := nofun, latest := nofun,
    apart := .nil, windows := fun _ => Nat.zero_le _ }

-- Time passes.
theorem sound_later (t : Tally) (now later : Nat) (sound : Sound t now) (passed : now ≤ later) : Sound t later :=
  { sound with
    past := fun call member => Nat.le_trans (sound.past call member) passed
    latest := fun call member => (sound.latest call member).imp_right (fun old => Nat.le_trans old passed) }

theorem live_keys (table : List (String × Nat)) (now : Nat) (keys : (table.map Prod.fst).Nodup) : ((live table now).map Prod.fst).Nodup :=
  keys.sublist (List.filter_sublist.map Prod.fst)

theorem live_length (table : List (String × Nat)) (now : Nat) : (live table now).length ≤ table.length := List.length_filter_le _ _

-- What was recorded within the time is among the live entries.
theorem recorded_live (t : Tally) (now : Nat) (sound : Sound t now) (call : Call) (member : call ∈ t.recorded)
    (recent : now < call.now + reportAgainAfter) : ∃ last, (call.message, last) ∈ live t.table now ∧ call.now ≤ last := by
  rcases sound.latest call member with ⟨last, held, newer⟩ | old
  · refine ⟨last, List.mem_filter.mpr ⟨held, decide_eq_true ?_⟩, newer⟩
    change now - last < reportAgainAfter
    have positive := again_positive
    omega
  · omega

theorem unknown_old (t : Tally) (now : Nat) (sound : Sound t now) (call : Call) (member : call ∈ t.recorded)
    (unknown : call.message ∉ (live t.table now).map Prod.fst) : call.now + reportAgainAfter ≤ now := by
  by_contra recent
  obtain ⟨last, held, _⟩ := recorded_live t now sound call member (by omega)
  exact unknown (List.mem_map_of_mem held)

-- The messages reported in a window are different and all still live, so a report that
-- finds room is within the bound.
theorem window_live (t : Tally) (now start : Nat) (sound : Sound t now) (inside : start ≤ now ∧ now < start + reportAgainAfter) :
    (window start t.shown).length ≤ (live t.table now).length := by
  have distinct : ((window start t.shown).map Call.message).Nodup := by
    rw [List.Nodup, List.pairwise_map]
    refine (sound.apart.sublist List.filter_sublist).imp_of_mem ?_
    intro earlier later first second far same
    have early := of_decide_eq_true (List.mem_filter.mp first).2
    have late := of_decide_eq_true (List.mem_filter.mp second).2
    have gap := far same
    omega
  have held : (window start t.shown).map Call.message ⊆ (live t.table now).map Prod.fst := by
    intro message member
    obtain ⟨call, listed, rfl⟩ := List.mem_map.mp member
    obtain ⟨shown, within⟩ := List.mem_filter.mp listed
    have recent := of_decide_eq_true within
    obtain ⟨last, there, _⟩ := recorded_live t now sound call (sound.recorded call shown) (by omega)
    exact List.mem_map_of_mem there
  have count := (List.subperm_of_subset distinct held).length_le
  rwa [List.length_map, List.length_map] at count

theorem window_snoc (start : Nat) (calls : List Call) (call : Call) :
    window start (calls ++ [call]) = window start calls ++ window start [call] := List.filter_append calls [call]

theorem live_sound (t : Tally) (now : Nat) (sound : Sound t now) (call : Call) (member : call ∈ t.recorded) :
    (∃ last, (call.message, last) ∈ live t.table now ∧ call.now ≤ last) ∨ call.now + reportAgainAfter ≤ now := by
  by_cases recent : now < call.now + reportAgainAfter
  · exact .inl (recorded_live t now sound call member recent)
  · exact .inr (Nat.le_of_not_lt recent)

-- What a call makes of the table, whichever way it goes.
structure Follows (t : Tally) (call : Call) (next : List (String × Nat)) : Prop where
  keys : (next.map Prod.fst).Nodup
  bounded : next.length ≤ maxReportedOpenErrors
  old : ∀ entry ∈ next, entry ∈ t.table ∨ entry = (call.message, call.now)
  kept : ∀ entry ∈ live t.table call.now, entry ∈ next ∨ entry.1 = call.message ∧ (call.message, call.now) ∈ next

def refresh (message : String) (now : Nat) (entry : String × Nat) : String × Nat := if entry.1 = message then (entry.1, now) else entry

theorem refresh_key (message : String) (now : Nat) (entry : String × Nat) : (refresh message now entry).1 = entry.1 := by
  unfold refresh
  split <;> rfl

theorem refreshed_keys (table : List (String × Nat)) (message : String) (now : Nat) :
    (table.map (refresh message now)).map Prod.fst = table.map Prod.fst := by
  rw [List.map_map]
  exact List.map_congr_left (fun entry _ => refresh_key message now entry)

section
variable (t : Tally)

theorem follows_again (call : Call) (sound : Sound t call.now) : Follows t call ((live t.table call.now).map (refresh call.message call.now)) := by
  refine ⟨?_, ?_, ?_, ?_⟩
  · rw [refreshed_keys]
    exact live_keys t.table call.now sound.keys
  · rw [List.length_map]
    exact Nat.le_trans (live_length t.table call.now) sound.bounded
  · intro entry member
    obtain ⟨before, held, rfl⟩ := List.mem_map.mp member
    by_cases same : before.1 = call.message
    · exact .inr (by rw [refresh, if_pos same, same])
    · exact .inl (by rw [refresh, if_neg same]; exact List.mem_of_mem_filter held)
  · intro entry held
    have listed := List.mem_map_of_mem (f := refresh call.message call.now) held
    by_cases same : entry.1 = call.message
    · rw [refresh, if_pos same, same] at listed
      exact .inr ⟨same, listed⟩
    · rw [refresh, if_neg same] at listed
      exact .inl listed

theorem follows_first (call : Call) (sound : Sound t call.now) (unknown : call.message ∉ (live t.table call.now).map Prod.fst)
    (room : (live t.table call.now).length < maxReportedOpenErrors) :
    Follows t call (live t.table call.now ++ [(call.message, call.now)]) := by
  refine ⟨?_, ?_, ?_, fun entry held => .inl (List.mem_append_left _ held)⟩
  · rw [List.map_append]
    refine List.nodup_append.mpr ⟨live_keys t.table call.now sound.keys, List.nodup_singleton _, ?_⟩
    intro key known other new same
    rw [List.map_singleton, List.mem_singleton] at new
    rw [same, new] at known
    exact unknown known
  · rw [List.length_append]
    exact room
  · intro entry member
    rcases List.mem_append.mp member with held | new
    · exact .inl (List.mem_of_mem_filter held)
    · exact .inr (List.mem_singleton.mp new)

theorem follows_call (call : Call) (sound : Sound t call.now) : Follows t call (t.take call).1 := by
  have cases := first_report_cases t.table call.message call.now
  change Reported t.table call.message call.now (t.take call) at cases
  generalize t.take call = result at cases
  cases cases with
  | empty nothing => exact ⟨sound.keys, sound.bounded, fun entry held => .inl held, fun entry held => .inl (List.mem_of_mem_filter held)⟩
  | again something known => exact follows_again t call sound
  | full something unknown full =>
      exact ⟨live_keys t.table call.now sound.keys, Nat.le_trans (live_length t.table call.now) sound.bounded,
        fun entry held => .inl (List.mem_of_mem_filter held), fun entry held => .inl held⟩
  | first something unknown room => exact follows_first t call sound unknown room

theorem recorded_grows (call earlier : Call) (member : earlier ∈ t.recorded) : earlier ∈ (t.call call).recorded := by
  change earlier ∈ if (call.message, call.now) ∈ (t.take call).1 then t.recorded ++ [call] else t.recorded
  split
  · exact List.mem_append_left _ member
  · exact member

theorem recorded_here (call : Call) (held : (call.message, call.now) ∈ (t.take call).1) : call ∈ (t.call call).recorded := by
  change call ∈ if (call.message, call.now) ∈ (t.take call).1 then t.recorded ++ [call] else t.recorded
  rw [if_pos held]
  exact List.mem_append_right _ (List.mem_singleton_self call)

theorem recorded_cases (call earlier : Call) (member : earlier ∈ (t.call call).recorded) :
    earlier ∈ t.recorded ∨ earlier = call ∧ (call.message, call.now) ∈ (t.take call).1 := by
  change earlier ∈ if (call.message, call.now) ∈ (t.take call).1 then t.recorded ++ [call] else t.recorded at member
  split at member
  · rename_i held
    exact (List.mem_append.mp member).imp_right (fun last => ⟨List.mem_singleton.mp last, held⟩)
  · exact .inl member

-- The reports after a call: the same, or one more that found its message unknown and room.
theorem shown_cases (call : Call) : (t.call call).shown = t.shown ∨
      (t.call call).shown = t.shown ++ [call] ∧ (call.message, call.now) ∈ (t.take call).1 ∧
        call.message ∉ (live t.table call.now).map Prod.fst ∧ (live t.table call.now).length < maxReportedOpenErrors := by
  have cases := first_report_cases t.table call.message call.now
  change Reported t.table call.message call.now (t.take call) at cases
  change (if (t.take call).2.isSome then t.shown ++ [call] else t.shown) = t.shown ∨
    (if (t.take call).2.isSome then t.shown ++ [call] else t.shown) = t.shown ++ [call] ∧ _
  generalize t.take call = result at cases
  cases cases with
  | first something unknown room => exact .inr ⟨rfl, List.mem_append_right _ (List.mem_singleton_self _), unknown, room⟩
  | _ => exact .inl rfl

theorem sound_call (call : Call) (sound : Sound t call.now) : Sound (t.call call) call.now := by
  have follows := follows_call t call sound
  have histories : (t.call call).shown.Pairwise (fun earlier later => earlier.message = later.message → earlier.now + reportAgainAfter ≤ later.now) ∧
      (∀ start, (window start (t.call call).shown).length ≤ maxReportedOpenErrors) ∧ ∀ earlier ∈ (t.call call).shown, earlier ∈ (t.call call).recorded := by
    rcases shown_cases t call with same | ⟨more, held, unknown, room⟩
    · rw [same]
      exact ⟨sound.apart, sound.windows, fun earlier member => recorded_grows t call earlier (sound.recorded earlier member)⟩
    · rw [more]
      refine ⟨?_, ?_, ?_⟩
      · refine List.pairwise_append.mpr ⟨sound.apart, List.pairwise_singleton _ _, ?_⟩
        intro earlier member later last same
        rw [List.mem_singleton.mp last] at same ⊢
        exact unknown_old t call.now sound earlier (sound.recorded earlier member) (same ▸ unknown)
      · intro start
        rw [window_snoc, List.length_append]
        by_cases inside : start ≤ call.now ∧ call.now < start + reportAgainAfter
        · have before := window_live t call.now start sound inside
          have one : (window start [call]).length ≤ 1 := List.length_filter_le _ _
          omega
        · have none : window start [call] = [] := by simp [window, inside]
          rw [none]
          exact sound.windows start
      · intro earlier member
        rcases List.mem_append.mp member with old | new
        · exact recorded_grows t call earlier (sound.recorded earlier old)
        · rw [List.mem_singleton.mp new]
          exact recorded_here t call held
  obtain ⟨apart, windows, recorded⟩ := histories
  refine ⟨follows.keys, follows.bounded, ?_, ?_, ?_, recorded, ?_, apart, windows⟩
  · intro earlier member
    rcases List.mem_append.mp member with old | new
    · exact sound.past earlier old
    · rw [List.mem_singleton.mp new]
  · intro entry member
    rcases follows.old entry member with old | rfl
    · exact recorded_grows t call _ (sound.entries entry old)
    · exact recorded_here t call member
  · intro earlier member
    rcases recorded_cases t call earlier member with old | ⟨rfl, _⟩
    · exact List.mem_append_left _ (sound.seen earlier old)
    · exact List.mem_append_right _ (List.mem_singleton_self _)
  · intro earlier member
    rcases recorded_cases t call earlier member with old | ⟨rfl, held⟩
    · rcases live_sound t call.now sound earlier old with ⟨last, listed, newer⟩ | expired
      · rcases follows.kept _ listed with still | ⟨same, refreshed⟩
        · exact .inl ⟨last, still, newer⟩
        · exact .inl ⟨call.now, (show earlier.message = call.message from same) ▸ refreshed, sound.past earlier (sound.seen earlier old)⟩
      · exact .inr expired
    · exact .inl ⟨earlier.now, held, Nat.le_refl _⟩

end

theorem sound_after (calls : List Call) (now : Nat) (ordered : Ordered calls) (past : ∀ call ∈ calls, call.now ≤ now) :
    Sound (after calls) now := by
  induction calls using List.reverseRecOn generalizing now with
  | nil => exact sound_new now
  | append_singleton past call ih =>
      obtain ⟨before, _, between⟩ := List.pairwise_append.mp ordered
      rw [after_snoc]
      have here := ih call.now before (fun earlier member => between earlier member call (List.mem_singleton_self call))
      exact sound_later _ call.now now (sound_call _ call here) (past call (by simp))

theorem seen_after (calls : List Call) : (after calls).seen = calls := by
  induction calls using List.reverseRecOn with
  | nil => rfl
  | append_singleton past call ih =>
      rw [after_snoc]
      change (after past).seen ++ [call] = past ++ [call]
      rw [ih]

-- A message that is not among the live entries is reported while there is room.
theorem reported_with_room (t : Tally) (call : Call) (something : call.message ≠ "") (unknown : call.message ∉ (live t.table call.now).map Prod.fst)
    (room : (live t.table call.now).length < maxReportedOpenErrors) : (t.take call).2 = some call.message := by
  have cases := first_report_cases t.table call.message call.now
  change Reported t.table call.message call.now (t.take call) at cases
  generalize t.take call = result at cases
  cases cases with
  | empty nothing => exact absurd nothing something
  | again _ known => exact absurd known unknown
  | full _ _ full => omega
  | first _ _ _ => rfl

theorem reported_unknown (t : Tally) (call : Call) (shown : (t.take call).2.isSome = true) :
    call.message ∉ (live t.table call.now).map Prod.fst := by
  have cases := first_report_cases t.table call.message call.now
  change Reported t.table call.message call.now (t.take call) at cases
  generalize t.take call = result at cases shown
  cases cases with
  | first _ unknown _ => exact unknown
  | _ => cases shown

-- For every sequence of calls at non-decreasing times: the reports of any window are bounded, and so
-- is the table; a message is reported again only after the time; and it is reported when it was not
-- seen within the time and the table has room.
theorem open_errors_limited (calls : List Call) (ordered : Ordered calls) :
    (∀ start, (window start (after calls).shown).length ≤ maxReportedOpenErrors) ∧
      ∀ past, past <+: calls → (after past).table.length ≤ maxReportedOpenErrors ∧
        ∀ call, past ++ [call] <+: calls →
          (((after past).take call).2.isSome = true → ∀ earlier ∈ (after past).recorded, earlier.message = call.message →
            earlier.now + reportAgainAfter ≤ call.now) ∧
          (call.message ≠ "" → (live (after past).table call.now).length < maxReportedOpenErrors →
            (∀ earlier ∈ past, earlier.message = call.message → earlier.now + reportAgainAfter ≤ call.now) →
            ((after past).take call).2 = some call.message) := by
  have latest : ∃ now, ∀ call ∈ calls, call.now ≤ now := ⟨(calls.map Call.now).sum, fun call member => List.le_sum_of_mem (List.mem_map_of_mem member)⟩
  obtain ⟨now, past⟩ := latest
  refine ⟨(sound_after calls now ordered past).windows, ?_⟩
  intro before front
  have early := ordered.sublist front.sublist
  refine ⟨(sound_after before now early (fun call member => past call (front.subset member))).bounded, ?_⟩
  intro call further
  obtain ⟨_, _, between⟩ := List.pairwise_append.mp (ordered.sublist further.sublist)
  have sound := sound_after before call.now early (fun earlier member => between earlier member call (List.mem_singleton_self call))
  refine ⟨?_, ?_⟩
  · intro shown earlier member same
    exact unknown_old _ call.now sound earlier member (same ▸ reported_unknown _ call shown)
  · intro something room quiet
    refine reported_with_room _ call something ?_ room
    intro known
    obtain ⟨entry, held, same⟩ := List.mem_map.mp known
    obtain ⟨listed, recent⟩ := List.mem_filter.mp held
    have earlier := sound.seen _ (sound.entries entry listed)
    rw [seen_after] at earlier
    have far := quiet _ earlier same
    have near : call.now - entry.2 < reportAgainAfter := of_decide_eq_true recent
    have positive := again_positive
    change entry.2 + reportAgainAfter ≤ call.now at far
    omega

-- A page's dozen refusals in eight seconds make one report, and the reason is reported afresh at 27.
theorem open_errors_limited_burst :
    (∀ start, (window start (after [⟨"down", 0⟩, ⟨"down", 8000000000⟩, ⟨"down", 27000000000⟩]).shown).length ≤ maxReportedOpenErrors) ∧
      (after [⟨"down", 0⟩, ⟨"down", 8000000000⟩, ⟨"down", 27000000000⟩]).shown = [⟨"down", 0⟩, ⟨"down", 27000000000⟩] :=
  ⟨(open_errors_limited [⟨"down", 0⟩, ⟨"down", 8000000000⟩, ⟨"down", 27000000000⟩] (by unfold Ordered; decide)).1, by decide⟩

-- A refusal without a reason is not reported, though it is the first one and the table is empty.
theorem empty_reason_unreported :
    Ordered [⟨"", 0⟩] ∧ (live (after []).table 0).length < maxReportedOpenErrors ∧
      (∀ earlier ∈ ([] : List Call), earlier.message = "" → earlier.now + reportAgainAfter ≤ 0) ∧ ((after []).take ⟨"", 0⟩).2 = none := by
  refine ⟨List.pairwise_singleton _ _, by decide, nofun, by decide⟩

end GotechDesk.PortForward.OpenErrors
