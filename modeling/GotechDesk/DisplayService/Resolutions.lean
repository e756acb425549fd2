import GotechDesk.Machine
import GotechDesk.Table

set_option autoImplicit false

namespace GotechDesk.DisplayService.Resolutions

open GotechDesk GotechDesk.Machine

structure Size where
  width : Int
  height : Int
deriving DecidableEq, Repr

structure ChangedResolution where
  original : Size
  changed : Size
deriving DecidableEq, Repr

def setLastChangedResolution (table : List (String × ChangedResolution)) (displayName : String) (original changed : Size) :
    List (String × ChangedResolution) :=
  match Table.get table displayName with
  | some _ => Table.modify table displayName (fun res => { res with changed := changed })
  | none => Table.insert table displayName { original := original, changed := changed }

-- The platform's change_resolution, which may fail.
def platformChange (displays : List (String × Size)) (name : String) (size : Size) (ok : Bool) : List (String × Size) :=
  if ok then Table.modify displays name (fun _ => size) else displays

inductive Asking where
  | asked
  | recorded
  | done
deriving DecidableEq, Repr

-- A call of Connection::change_resolution that found its display.
structure Request where
  name : String
  original : Size
  changed : Size
  recordChanged : Bool
  phase : Asking
deriving DecidableEq, Repr

inductive Restoring where
  | walking
  | walked
  | cleared
deriving DecidableEq, Repr

-- A call of restore_resolutions: what it took on under the read lock and what of it is left.
structure Restore where
  taken : List (String × Size)
  rest : List (String × ChangedResolution)
  phase : Restoring
deriving DecidableEq, Repr

-- A platform call of a restore.
structure Call where
  restore : Nat
  name : String
  size : Size
  ok : Bool
deriving DecidableEq, Repr

-- A call of set_last_changed_resolution: the original the table holds after it, the one its
-- request read, whether it added the display, whether a restore had walked the table and not
-- cleared it yet, and how many clears and platform calls of restores there had been.
structure Record where
  name : String
  original : Size
  read : Size
  first : Bool
  late : Bool
  epoch : Nat
  stamp : Nat
deriving DecidableEq, Repr

structure State where
  displays : List (String × Size)
  table : List (String × ChangedResolution)
  requests : List Request
  restores : List Restore
  records : List Record
  calls : List Call
  clears : Nat
deriving DecidableEq, Repr

def State.new (displays : List (String × Size)) : State :=
  { displays := displays, table := [], requests := [], restores := [], records := [], calls := [], clears := 0 }

def State.holds (s : State) (phase : Restoring) : Bool := s.restores.any (fun restore => restore.phase = phase)

def recordOf (s : State) (request : Request) : Record :=
  { name := request.name
    original := ((Table.get s.table request.name).map ChangedResolution.original).getD request.original
    read := request.original
    first := (Table.get s.table request.name).isNone
    late := s.holds .walked
    epoch := s.clears
    stamp := s.calls.length }

def pairs (table : List (String × ChangedResolution)) : List (String × Size) := table.map (fun entry => (entry.1, entry.2.original))

inductive Label where
  | hotplug (displays : List (String × Size))
  | request (keyboard : Bool) (display : Option Nat) (displayIdx : Nat) (resolution : Size) (recordChanged : Bool)
  | record (index : Nat)
  | apply (index : Nat) (ok : Bool)
  | restore
  | attempt (index entry : Nat) (ok : Bool)
  | release (index : Nat)
  | clear (index : Nat)
deriving DecidableEq, Repr

def request (s : State) (keyboard : Bool) (display : Option Nat) (displayIdx : Nat) (resolution : Size) (recordChanged : Bool) : State :=
  if keyboard then
    match s.displays[display.getD displayIdx]? with
    | some (name, original) =>
        { s with requests := s.requests ++ [{ name := name, original := original, changed := resolution, recordChanged := recordChanged,
                                              phase := if recordChanged then .asked else .recorded }] }
    | none => s
  else s

-- The write lock waits for the restores that read the table.
def record (s : State) (index : Nat) (asking : Request) : State :=
  { s with
    table := setLastChangedResolution s.table asking.name asking.original asking.changed
    requests := s.requests.set index { asking with phase := .recorded }
    records := s.records ++ [recordOf s asking] }

def apply (s : State) (index : Nat) (asking : Request) (ok : Bool) : State :=
  { s with
    displays := platformChange s.displays asking.name asking.changed ok
    requests := s.requests.set index { asking with phase := .done } }

def attempt (s : State) (index : Nat) (restore : Restore) (entry : Nat) (name : String) (res : ChangedResolution) (ok : Bool) : State :=
  { s with
    displays := platformChange s.displays name res.original ok
    restores := s.restores.set index { restore with rest := restore.rest.eraseIdx entry }
    calls := s.calls ++ [{ restore := index, name := name, size := res.original, ok := ok }] }

def step (s : State) : Label → Option State
  | .hotplug displays => some { s with displays := displays }
  | .request keyboard display displayIdx resolution recordChanged => some (request s keyboard display displayIdx resolution recordChanged)
  | .record index =>
      s.requests[index]?.bind (fun asking =>
        if asking.phase = .asked ∧ s.holds .walking = false then some (record s index asking) else none)
  | .apply index ok =>
      s.requests[index]?.bind (fun asking => if asking.phase = .recorded then some (apply s index asking ok) else none)
  | .restore => some { s with restores := s.restores ++ [{ taken := pairs s.table, rest := s.table, phase := .walking }] }
  | .attempt index entry ok =>
      s.restores[index]?.bind (fun restore =>
        if restore.phase = .walking then restore.rest[entry]?.map (fun found => attempt s index restore entry found.1 found.2 ok) else none)
  | .release index =>
      s.restores[index]?.bind (fun restore =>
        if restore.phase = .walking ∧ restore.rest = [] then
          some { s with restores := s.restores.set index { restore with phase := .walked } }
        else none)
  | .clear index =>
      s.restores[index]?.bind (fun restore =>
        if restore.phase = .walked ∧ s.holds .walking = false then
          some { s with table := [], restores := s.restores.set index { restore with phase := .cleared }, clears := s.clears + 1 }
        else none)

-- A platform call of a restore, made after the record, with the original.
def Used (calls : List Call) (r : Record) : Prop :=
  ∃ place call, r.stamp ≤ place ∧ calls[place]? = some call ∧ call.name = r.name ∧ call.size = r.original

-- The record has not been cleared.
def Listed (s : State) (r : Record) : Prop :=
  r.epoch = s.clears ∧ ∃ entry, Table.get s.table r.name = some entry ∧ entry.original = r.original

-- What brought the display into the table the record was made in.
def FirstOf (s : State) (name : String) (epoch : Nat) (original : Size) : Prop :=
  ∃ f ∈ s.records, f.first = true ∧ f.name = name ∧ f.epoch = epoch ∧ f.read = original

def callsOf (calls : List Call) (index : Nat) : List (String × Size) :=
  (calls.filter (fun call => call.restore = index)).map (fun call => (call.name, call.size))

structure Sound (s : State) : Prop where
  stamped : ∀ r ∈ s.records, r.epoch ≤ s.clears ∧ r.stamp ≤ s.calls.length
  listed : ∀ r ∈ s.records, r.epoch = s.clears → Listed s r
  walking : ∀ restore ∈ s.restores, restore.phase = .walking → ∀ r ∈ s.records, r.epoch = s.clears →
    Used s.calls r ∨ (r.name, r.original) ∈ pairs restore.rest
  walked : ∀ restore ∈ s.restores, restore.phase = .walked → ∀ r ∈ s.records, r.epoch = s.clears → r.late = false → Used s.calls r
  kept : ∀ r ∈ s.records, r.late = false → r.epoch = s.clears ∨ Used s.calls r
  origin : ∀ r ∈ s.records, FirstOf s r.name r.epoch r.original
  entries : ∀ name entry, Table.get s.table name = some entry → FirstOf s name s.clears entry.original
  called : ∀ index restore, s.restores[index]? = some restore → (callsOf s.calls index ++ pairs restore.rest).Perm restore.taken
  finished : ∀ restore ∈ s.restores, restore.phase ≠ .walking → restore.rest = []
  started : ∀ call ∈ s.calls, call.restore < s.restores.length

theorem used_append (calls : List Call) (r : Record) (call : Call) (used : Used calls r) : Used (calls ++ [call]) r := by
  obtain ⟨place, found, after, there, same⟩ := used
  exact ⟨place, found, after, by rw [List.getElem?_append_left (List.getElem?_eq_some_iff.mp there).1, there], same⟩

theorem used_new (calls : List Call) (r : Record) (call : Call) (stamped : r.stamp ≤ calls.length) (name : call.name = r.name)
    (size : call.size = r.original) : Used (calls ++ [call]) r := ⟨calls.length, call, stamped, by simp, name, size⟩

theorem calls_of_append (calls : List Call) (call : Call) (index : Nat) :
    callsOf (calls ++ [call]) index = callsOf calls index ++ (if call.restore = index then [(call.name, call.size)] else []) := by
  by_cases same : call.restore = index
  · simp [callsOf, same]
  · simp [callsOf, same]

theorem calls_of_new (s : State) (sound : Sound s) (index : Nat) (fresh : s.restores.length ≤ index) : callsOf s.calls index = [] := by
  have none : s.calls.filter (fun call => call.restore = index) = [] := by
    apply List.filter_eq_nil_iff.mpr
    intro call member same
    have started := sound.started call member
    have same : call.restore = index := of_decide_eq_true same
    omega
  simp [callsOf, none]

section
variable (table : List (String × ChangedResolution))

-- What a write of the table does to the entry of another display, and to the one it is about.
theorem set_last_changed_other (displayName other : String) (original changed : Size)
    (apart : other ≠ displayName) : Table.get (setLastChangedResolution table displayName original changed) other = Table.get table other := by
  rw [setLastChangedResolution]
  split
  · rw [Table.get_modify, if_neg apart]
  · rw [Table.get_insert, if_neg apart]

theorem set_last_changed_self (displayName : String) (original changed : Size) :
    Table.get (setLastChangedResolution table displayName original changed) displayName =
      some { original := ((Table.get table displayName).map ChangedResolution.original).getD original, changed := changed } := by
  rw [setLastChangedResolution]
  split
  next res found => rw [Table.get_modify, if_pos rfl, found]; rfl
  next missing => rw [Table.get_insert, if_pos rfl, missing]; rfl

-- The original of a display that is in the table stays what it is.
theorem set_last_changed_original (displayName name : String) (original changed : Size)
    (entry : ChangedResolution) (found : Table.get table name = some entry) :
    ∃ after, Table.get (setLastChangedResolution table displayName original changed) name = some after ∧ after.original = entry.original := by
  by_cases same : name = displayName
  · subst same
    exact ⟨_, set_last_changed_self table name original changed, by rw [found]; rfl⟩
  · exact ⟨entry, by rw [set_last_changed_other table displayName name original changed same, found], rfl⟩

end

theorem sound_frame (s : State) (displays : List (String × Size)) (requests : List Request) (sound : Sound s) :
    Sound { s with displays := displays, requests := requests } :=
  { sound with }

theorem not_holding (s : State) (phase : Restoring) (none : s.holds phase = false) (restore : Restore) (member : restore ∈ s.restores) :
    restore.phase ≠ phase := by
  intro same
  have held : s.holds phase = true := List.any_eq_true.mpr ⟨restore, member, decide_eq_true same⟩
  rw [held] at none
  cases none

theorem sound_record (s : State) (index : Nat) (asking : Request) (sound : Sound s) (free : s.holds .walking = false) :
    Sound (record s index asking) := by
  have grown : ∀ r ∈ (record s index asking).records, r ∈ s.records ∨ r = recordOf s asking := by
    intro r member
    exact (List.mem_append.mp member).imp_right List.mem_singleton.mp
  have first_grown : ∀ name epoch original, FirstOf s name epoch original → FirstOf (record s index asking) name epoch original := by
    rintro name epoch original ⟨f, member, facts⟩
    exact ⟨f, List.mem_append_left _ member, facts⟩
  have newest : FirstOf (record s index asking) asking.name s.clears (recordOf s asking).original := by
    cases found : Table.get s.table asking.name with
    | none => exact ⟨recordOf s asking, by simp [record], by simp [recordOf, found], rfl, rfl, by simp [recordOf, found]⟩
    | some entry =>
        have same : (recordOf s asking).original = entry.original := by simp [recordOf, found]
        rw [same]
        exact first_grown _ _ _ (sound.entries asking.name entry found)
  constructor
  · intro r member
    obtain old | rfl := grown r member
    · exact sound.stamped r old
    · exact ⟨Nat.le_refl _, Nat.le_refl _⟩
  · intro r member now
    obtain old | rfl := grown r member
    · obtain ⟨same, entry, found, original⟩ := sound.listed r old now
      obtain ⟨after, found', original'⟩ := set_last_changed_original s.table asking.name r.name asking.original asking.changed entry found
      exact ⟨same, after, found', original'.trans original⟩
    · exact ⟨now, _, set_last_changed_self s.table asking.name asking.original asking.changed, rfl⟩
  · intro restore member phase
    exact absurd phase (not_holding s .walking free restore member)
  · intro restore member phase r there now early
    obtain old | rfl := grown r there
    · exact sound.walked restore member phase r old now early
    · exact absurd phase (not_holding s .walked early restore member)
  · intro r member early
    obtain old | rfl := grown r member
    · exact sound.kept r old early
    · exact .inl rfl
  · intro r member
    obtain old | rfl := grown r member
    · exact first_grown _ _ _ (sound.origin r old)
    · exact newest
  · intro name entry found
    by_cases same : name = asking.name
    · subst same
      have found : Table.get (setLastChangedResolution s.table asking.name asking.original asking.changed) asking.name = some entry := found
      rw [set_last_changed_self] at found
      rw [← Option.some.inj found]
      exact newest
    · have found : Table.get (setLastChangedResolution s.table asking.name asking.original asking.changed) name = some entry := found
      rw [set_last_changed_other _ _ _ _ _ same] at found
      exact first_grown _ _ _ (sound.entries name entry found)
  · exact sound.called
  · exact sound.finished
  · exact sound.started

theorem set_restore_member (s : State) (index : Nat) (changed restore : Restore) (member : restore ∈ s.restores.set index changed) :
    restore ∈ s.restores ∨ restore = changed := List.mem_or_eq_of_mem_set member

theorem pairs_member (table : List (String × ChangedResolution)) (name : String) (entry : ChangedResolution)
    (found : Table.get table name = some entry) : (name, entry.original) ∈ pairs table :=
  List.mem_map.mpr ⟨(name, entry), Table.mem_of_get table name entry found, rfl⟩

section
variable (s : State)

theorem sound_restore (sound : Sound s) :
    Sound { s with restores := s.restores ++ [{ taken := pairs s.table, rest := s.table, phase := .walking }] } := by
  refine ⟨sound.stamped, sound.listed, ?_, ?_, sound.kept, sound.origin, sound.entries, ?_, ?_, ?_⟩
  · intro restore member phase r there now
    obtain old | new := List.mem_append.mp member
    · exact sound.walking restore old phase r there now
    · rw [List.mem_singleton.mp new]
      obtain ⟨-, entry, found, original⟩ := sound.listed r there now
      exact .inr (original ▸ pairs_member s.table r.name entry found)
  · intro restore member phase
    obtain old | new := List.mem_append.mp member
    · exact sound.walked restore old phase
    · rw [List.mem_singleton.mp new] at phase
      cases phase
  · intro index restore there
    by_cases inside : index < s.restores.length
    · rw [List.getElem?_append_left inside] at there
      exact sound.called index restore there
    · have beyond : s.restores.length ≤ index := Nat.le_of_not_lt inside
      rw [List.getElem?_append_right beyond, List.getElem?_singleton] at there
      split at there
      · obtain rfl := Option.some.inj there
        rw [calls_of_new s sound index beyond, List.nil_append]
      · cases there
  · intro restore member phase
    obtain old | new := List.mem_append.mp member
    · exact sound.finished restore old phase
    · rw [List.mem_singleton.mp new] at phase
      exact absurd rfl phase
  · intro call member
    have := sound.started call member
    simp only [List.length_append, List.length_singleton]
    omega

theorem sound_attempt (index entry : Nat) (restore : Restore) (name : String) (res : ChangedResolution) (ok : Bool)
    (sound : Sound s) (there : s.restores[index]? = some restore) (phase : restore.phase = .walking)
    (left : restore.rest[entry]? = some (name, res)) : Sound (attempt s index restore entry name res ok) := by
  have inside : index < s.restores.length := (List.getElem?_eq_some_iff.mp there).1
  have member : restore ∈ s.restores := List.mem_of_getElem? there
  obtain ⟨bound, here⟩ := List.getElem?_eq_some_iff.mp left
  have split : (restore.rest[entry] :: restore.rest.eraseIdx entry).Perm restore.rest := List.getElem_cons_eraseIdx_perm bound
  refine ⟨?_, sound.listed, ?_, ?_, ?_, sound.origin, sound.entries, ?_, ?_, ?_⟩
  · intro r there
    have stamped := sound.stamped r there
    refine ⟨stamped.1, Nat.le_trans stamped.2 ?_⟩
    simp [attempt]
  · intro other found walks r there now
    obtain old | rfl := set_restore_member s index _ other found
    · exact (sound.walking other old walks r there now).imp_left (used_append s.calls r _)
    · obtain used | waiting := sound.walking restore member phase r there now
      · exact .inl (used_append s.calls r _ used)
      · have waiting : (r.name, r.original) ∈ pairs (restore.rest[entry] :: restore.rest.eraseIdx entry) :=
          (split.symm.map _).subset waiting
        obtain same | later := List.mem_cons.mp waiting
        · rw [here] at same
          obtain ⟨same_name, same_size⟩ := Prod.mk.inj same
          exact .inl (used_new s.calls r _ (sound.stamped r there).2 same_name.symm same_size.symm)
        · exact .inr later
  · intro other found walks r there now early
    obtain old | rfl := set_restore_member s index _ other found
    · exact used_append s.calls r _ (sound.walked other old walks r there now early)
    · have walks : restore.phase = .walked := walks
      rw [phase] at walks
      cases walks
  · intro r there early
    exact (sound.kept r there early).imp_right (used_append s.calls r _)
  · intro other changed found
    have found : (s.restores.set index { restore with rest := restore.rest.eraseIdx entry })[other]? = some changed := found
    show (callsOf (s.calls ++ [_]) other ++ pairs changed.rest).Perm changed.taken
    rw [calls_of_append]
    by_cases same : index = other
    · subst same
      rw [List.getElem?_set_self inside] at found
      obtain rfl := Option.some.inj found
      have before := sound.called index restore there
      have moved : (pairs restore.rest).Perm ((name, res.original) :: pairs (restore.rest.eraseIdx entry)) := by
        have := (split.symm.map (fun entry : String × ChangedResolution => (entry.1, entry.2.original)))
        rwa [List.map_cons, here] at this
      rw [if_pos rfl, List.append_assoc]
      exact (moved.symm.append_left (callsOf s.calls index)).trans before
    · rw [List.getElem?_set_ne same] at found
      rw [if_neg same, List.append_nil]
      exact sound.called other changed found
  · intro other found finished
    obtain old | rfl := set_restore_member s index _ other found
    · exact sound.finished other old finished
    · exact absurd phase finished
  · intro call made
    obtain old | new := List.mem_append.mp made
    · simpa [attempt] using sound.started call old
    · rw [List.mem_singleton.mp new]
      simpa [attempt] using inside

theorem called_rephased (index : Nat) (restore : Restore) (phase : Restoring) (sound : Sound s)
    (there : s.restores[index]? = some restore) (other : Nat) (changed : Restore)
    (found : (s.restores.set index { restore with phase := phase })[other]? = some changed) :
    (callsOf s.calls other ++ pairs changed.rest).Perm changed.taken := by
  by_cases same : index = other
  · subst same
    rw [List.getElem?_set_self (List.getElem?_eq_some_iff.mp there).1] at found
    obtain rfl := Option.some.inj found
    exact sound.called index restore there
  · rw [List.getElem?_set_ne same] at found
    exact sound.called other changed found

theorem sound_release (index : Nat) (restore : Restore) (sound : Sound s) (there : s.restores[index]? = some restore)
    (phase : restore.phase = .walking) (empty : restore.rest = []) :
    Sound { s with restores := s.restores.set index { restore with phase := .walked } } := by
  have member : restore ∈ s.restores := List.mem_of_getElem? there
  refine ⟨sound.stamped, sound.listed, ?_, ?_, sound.kept, sound.origin, sound.entries, ?_, ?_, ?_⟩
  · intro other found walks r there now
    obtain old | rfl := set_restore_member s index _ other found
    · exact sound.walking other old walks r there now
    · cases walks
  · intro other found walks r there now early
    obtain old | rfl := set_restore_member s index _ other found
    · exact sound.walked other old walks r there now early
    · obtain used | waiting := sound.walking restore member phase r there now
      · exact used
      · rw [empty] at waiting
        cases waiting
  · exact called_rephased s index restore .walked sound there
  · intro other found finished
    obtain old | rfl := set_restore_member s index _ other found
    · exact sound.finished other old finished
    · exact empty
  · intro call made
    simpa using sound.started call made

theorem sound_clear (index : Nat) (restore : Restore) (sound : Sound s) (there : s.restores[index]? = some restore)
    (phase : restore.phase = .walked) :
    Sound { s with table := [], restores := s.restores.set index { restore with phase := .cleared }, clears := s.clears + 1 } := by
  have member : restore ∈ s.restores := List.mem_of_getElem? there
  have past : ∀ r ∈ s.records, r.epoch ≠ s.clears + 1 := by
    intro r found same
    have := (sound.stamped r found).1
    omega
  refine ⟨?_, ?_, ?_, ?_, ?_, sound.origin, ?_, ?_, ?_, ?_⟩
  · intro r found
    have stamped := sound.stamped r found
    exact ⟨Nat.le_succ_of_le stamped.1, stamped.2⟩
  · intro r found now
    exact absurd now (past r found)
  · intro other _ _ r found now
    exact absurd now (past r found)
  · intro other _ _ r found now
    exact absurd now (past r found)
  · intro r found early
    obtain now | used := sound.kept r found early
    · exact .inr (sound.walked restore member phase r found now early)
    · exact .inr used
  · intro name entry found
    cases found
  · exact called_rephased s index restore .cleared sound there
  · intro other found finished
    obtain old | rfl := set_restore_member s index _ other found
    · exact sound.finished other old finished
    · exact sound.finished restore member (by rw [phase]; decide)
  · intro call made
    simpa using sound.started call made

theorem request_frame (keyboard : Bool) (display : Option Nat) (displayIdx : Nat) (resolution : Size) (recordChanged : Bool) :
    ∃ requests, request s keyboard display displayIdx resolution recordChanged = { s with requests := requests } := by
  rw [request]
  split
  · split
    · exact ⟨_, rfl⟩
    · exact ⟨s.requests, rfl⟩
  · exact ⟨s.requests, rfl⟩

end

section
variable (s next : State)

-- What a step needs of the request or the restore it is about, one action at a time.
theorem record_taken (index : Nat) (taken : step s (.record index) = some next) :
    ∃ asking, s.requests[index]? = some asking ∧ s.holds .walking = false ∧ next = record s index asking := by
  obtain ⟨asking, there, taken⟩ := Option.bind_eq_some_iff.mp taken
  split at taken
  next guard => exact ⟨asking, there, guard.2, (Option.some.inj taken).symm⟩
  next => cases taken

theorem apply_taken (index : Nat) (ok : Bool) (taken : step s (.apply index ok) = some next) :
    ∃ asking, s.requests[index]? = some asking ∧ next = apply s index asking ok := by
  obtain ⟨asking, there, taken⟩ := Option.bind_eq_some_iff.mp taken
  split at taken
  next => exact ⟨asking, there, (Option.some.inj taken).symm⟩
  next => cases taken

theorem attempt_taken (index entry : Nat) (ok : Bool) (taken : step s (.attempt index entry ok) = some next) :
    ∃ restore name res, s.restores[index]? = some restore ∧ restore.phase = .walking ∧ restore.rest[entry]? = some (name, res) ∧
      next = attempt s index restore entry name res ok := by
  obtain ⟨restore, there, taken⟩ := Option.bind_eq_some_iff.mp taken
  split at taken
  next phase =>
    obtain ⟨found, left, rfl⟩ := Option.map_eq_some_iff.mp taken
    exact ⟨restore, found.1, found.2, there, phase, left, rfl⟩
  next => cases taken

theorem release_taken (index : Nat) (taken : step s (.release index) = some next) :
    ∃ restore, s.restores[index]? = some restore ∧ restore.phase = .walking ∧ restore.rest = [] ∧
      next = { s with restores := s.restores.set index { restore with phase := .walked } } := by
  obtain ⟨restore, there, taken⟩ := Option.bind_eq_some_iff.mp taken
  split at taken
  next guard => exact ⟨restore, there, guard.1, guard.2, (Option.some.inj taken).symm⟩
  next => cases taken

theorem clear_taken (index : Nat) (taken : step s (.clear index) = some next) :
    ∃ restore, s.restores[index]? = some restore ∧ restore.phase = .walked ∧
      next = { s with table := [], restores := s.restores.set index { restore with phase := .cleared }, clears := s.clears + 1 } := by
  obtain ⟨restore, there, taken⟩ := Option.bind_eq_some_iff.mp taken
  split at taken
  next guard => exact ⟨restore, there, guard.1, (Option.some.inj taken).symm⟩
  next => cases taken

theorem sound_step (label : Label) (sound : Sound s) (taken : step s label = some next) : Sound next := by
  cases label with
  | hotplug displays =>
      obtain rfl := Option.some.inj taken
      exact sound_frame s displays s.requests sound
  | request keyboard display displayIdx resolution recordChanged =>
      obtain rfl := Option.some.inj taken
      obtain ⟨requests, same⟩ := request_frame s keyboard display displayIdx resolution recordChanged
      rw [same]
      exact sound_frame s s.displays requests sound
  | record index =>
      obtain ⟨asking, -, free, rfl⟩ := record_taken s next index taken
      exact sound_record s index asking sound free
  | apply index ok =>
      obtain ⟨asking, -, rfl⟩ := apply_taken s next index ok taken
      exact sound_frame s _ _ sound
  | restore =>
      obtain rfl := Option.some.inj taken
      exact sound_restore s sound
  | attempt index entry ok =>
      obtain ⟨restore, name, res, there, phase, left, rfl⟩ := attempt_taken s next index entry ok taken
      exact sound_attempt s index entry restore name res ok sound there phase left
  | release index =>
      obtain ⟨restore, there, phase, empty, rfl⟩ := release_taken s next index taken
      exact sound_release s index restore sound there phase empty
  | clear index =>
      obtain ⟨restore, there, phase, rfl⟩ := clear_taken s next index taken
      exact sound_clear s index restore sound there phase

end

theorem sound_new (displays : List (String × Size)) : Sound (.new displays) := by
  constructor
  all_goals simp [State.new, Table.get]

-- A request of the run found the display at this size.
def ReadIn (past : List (State × Label)) (name : String) (size : Size) : Prop :=
  ∃ before keyboard display displayIdx resolution recordChanged,
    (before, Label.request keyboard display displayIdx resolution recordChanged) ∈ past ∧
      before.displays[display.getD displayIdx]? = some (name, size)

structure Recalled (past : List (State × Label)) (s : State) : Prop where
  requests : ∀ asking ∈ s.requests, ReadIn past asking.name asking.original
  records : ∀ r ∈ s.records, ReadIn past r.name r.read

theorem read_in_append (past later : List (State × Label)) (name : String) (size : Size) (read : ReadIn past name size) :
    ReadIn (past ++ later) name size := by
  obtain ⟨before, keyboard, display, displayIdx, resolution, recordChanged, member, found⟩ := read
  exact ⟨before, keyboard, display, displayIdx, resolution, recordChanged, List.mem_append_left later member, found⟩

theorem recalled_later (past later : List (State × Label)) (s : State) (recalled : Recalled past s) : Recalled (past ++ later) s :=
  ⟨fun asking member => read_in_append past later _ _ (recalled.requests asking member),
    fun r member => read_in_append past later _ _ (recalled.records r member)⟩

section
variable (past : List (State × Label))

-- A request that moves on keeps what it read.
theorem recalled_set (s : State) (index : Nat) (asking moved : Request) (recalled : Recalled past s)
    (there : s.requests[index]? = some asking) (name : moved.name = asking.name) (original : moved.original = asking.original) :
    ∀ other ∈ s.requests.set index moved, ReadIn past other.name other.original := by
  intro other member
  obtain old | rfl := List.mem_or_eq_of_mem_set member
  · exact recalled.requests other old
  · rw [name, original]
    exact recalled.requests asking (List.mem_of_getElem? there)

theorem recalled_request (s : State) (keyboard : Bool) (display : Option Nat) (displayIdx : Nat)
    (resolution : Size) (recordChanged : Bool) (recalled : Recalled past s) :
    Recalled (past ++ [(s, .request keyboard display displayIdx resolution recordChanged)])
      (request s keyboard display displayIdx resolution recordChanged) := by
  have before := recalled_later past [(s, .request keyboard display displayIdx resolution recordChanged)] s recalled
  rw [request]
  split
  · split
    next name original found =>
      refine ⟨?_, before.records⟩
      intro asking member
      obtain old | new := List.mem_append.mp member
      · exact before.requests asking old
      · rw [List.mem_singleton.mp new]
        exact ⟨s, keyboard, display, displayIdx, resolution, recordChanged, by simp, found⟩
    next => exact before
  · exact before

theorem recalled_step (s next : State) (label : Label) (recalled : Recalled past s)
    (taken : step s label = some next) : Recalled (past ++ [(s, label)]) next := by
  have before := recalled_later past [(s, label)] s recalled
  cases label with
  | hotplug displays =>
      obtain rfl := Option.some.inj taken
      exact ⟨before.requests, before.records⟩
  | request keyboard display displayIdx resolution recordChanged =>
      obtain rfl := Option.some.inj taken
      exact recalled_request past s keyboard display displayIdx resolution recordChanged recalled
  | record index =>
      obtain ⟨asking, there, -, rfl⟩ := record_taken s next index taken
      refine ⟨recalled_set _ s index asking _ before there rfl rfl, ?_⟩
      intro r member
      obtain old | new := List.mem_append.mp member
      · exact before.records r old
      · rw [List.mem_singleton.mp new]
        exact before.requests asking (List.mem_of_getElem? there)
  | apply index ok =>
      obtain ⟨asking, there, rfl⟩ := apply_taken s next index ok taken
      exact ⟨recalled_set _ s index asking _ before there rfl rfl, before.records⟩
  | restore =>
      obtain rfl := Option.some.inj taken
      exact ⟨before.requests, before.records⟩
  | attempt index entry ok =>
      obtain ⟨restore, name, res, -, -, -, rfl⟩ := attempt_taken s next index entry ok taken
      exact ⟨before.requests, before.records⟩
  | release index =>
      obtain ⟨restore, -, -, -, rfl⟩ := release_taken s next index taken
      exact ⟨before.requests, before.records⟩
  | clear index =>
      obtain ⟨restore, -, -, rfl⟩ := clear_taken s next index taken
      exact ⟨before.requests, before.records⟩

end

-- No step changes the original of a display that stays in the table.
theorem step_original (s next : State) (label : Label) (taken : step s label = some next) (name : String) (entry later : ChangedResolution)
    (found : Table.get s.table name = some entry) (after : Table.get next.table name = some later) : later.original = entry.original := by
  have unchanged (same : next.table = s.table) : later.original = entry.original := by
    rw [same, found] at after
    rw [Option.some.inj after]
  cases label with
  | hotplug displays =>
      obtain rfl := Option.some.inj taken
      exact unchanged rfl
  | request keyboard display displayIdx resolution recordChanged =>
      obtain rfl := Option.some.inj taken
      obtain ⟨requests, same⟩ := request_frame s keyboard display displayIdx resolution recordChanged
      exact unchanged (by rw [same])
  | record index =>
      obtain ⟨asking, -, -, rfl⟩ := record_taken s next index taken
      obtain ⟨kept, there, original⟩ := set_last_changed_original s.table asking.name name asking.original asking.changed entry found
      have same : some kept = some later := there.symm.trans after
      rw [← Option.some.inj same, original]
  | apply index ok =>
      obtain ⟨asking, -, rfl⟩ := apply_taken s next index ok taken
      exact unchanged rfl
  | restore =>
      obtain rfl := Option.some.inj taken
      exact unchanged rfl
  | attempt index place ok =>
      obtain ⟨restore, called, res, -, -, -, rfl⟩ := attempt_taken s next index place ok taken
      exact unchanged rfl
  | release index =>
      obtain ⟨restore, -, -, -, rfl⟩ := release_taken s next index taken
      exact unchanged rfl
  | clear index =>
      obtain ⟨restore, -, -, rfl⟩ := clear_taken s next index taken
      cases after

-- A clear ends a restore that has called the platform once for each entry it had found, and
-- leaves nothing in the table, whatever the calls returned.
def Emptied (entry : State × Label) : Prop :=
  ∀ index next, entry.2 = .clear index → step entry.1 entry.2 = some next →
    next.table = [] ∧ ∃ restore, entry.1.restores[index]? = some restore ∧ (callsOf entry.1.calls index).Perm restore.taken

-- A restore takes on what the table holds.
def Begun (entry : State × Label) : Prop :=
  ∀ next, entry.2 = .restore → step entry.1 entry.2 = some next →
    ∃ restore, next.restores = entry.1.restores ++ [restore] ∧ restore.taken = pairs entry.1.table

def Unchanged (entry : State × Label) : Prop :=
  ∀ next name held later, step entry.1 entry.2 = some next → Table.get entry.1.table name = some held →
    Table.get next.table name = some later → later.original = held.original

theorem emptied (s : State) (label : Label) (sound : Sound s) : Emptied (s, label) := by
  intro index next clears taken
  obtain rfl : label = .clear index := clears
  obtain ⟨restore, there, phase, rfl⟩ := clear_taken s next index taken
  refine ⟨rfl, restore, there, ?_⟩
  have called := sound.called index restore there
  rw [sound.finished restore (List.mem_of_getElem? there) (by rw [phase]; decide)] at called
  simpa [pairs] using called

theorem begun (entry : State × Label) : Begun entry := by
  obtain ⟨s, label⟩ := entry
  intro next restores taken
  obtain rfl : label = .restore := restores
  obtain rfl := Option.some.inj taken
  exact ⟨_, rfl, rfl⟩

-- In every run: a record that is not made between the walk of a restore and its clear is used or
-- still in the table, with the original that the first request for its display read.
theorem records_used_or_listed (displays : List (String × Size)) (past : List (State × Label)) (s : State)
    (traced : Traced step (.new displays) past s) :
    (∀ r ∈ s.records, r.late = false → Used s.calls r ∨ Listed s r) ∧
      (∀ r ∈ s.records, FirstOf s r.name r.epoch r.original ∧ ReadIn past r.name r.original) ∧
      ∀ entry ∈ past, Unchanged entry ∧ Begun entry ∧ Emptied entry := by
  obtain ⟨earlier, sound⟩ := traced_kept step Sound (fun _ _ => True) _ s past (sound_new displays)
    (fun state label next sound _ taken => sound_step state next label sound taken) traced (fun _ _ => trivial)
  have recalled := traced_invariant step Recalled _ s past ⟨by simp [State.new], by simp [State.new]⟩
    (fun past state label after inv taken => recalled_step past state after label inv taken) traced
  refine ⟨?_, ?_, ?_⟩
  · intro r member early
    obtain now | used := sound.kept r member early
    · exact .inr (sound.listed r member now)
    · exact .inl used
  · intro r member
    have origin := sound.origin r member
    obtain ⟨f, found, -, name, -, read⟩ := origin
    refine ⟨sound.origin r member, ?_⟩
    rw [← name, ← read]
    exact recalled.records f found
  · intro entry member
    exact ⟨fun next name held later taken => step_original entry.1 next entry.2 taken name held later, begun entry,
      emptied entry.1 entry.2 (earlier entry member)⟩

def fullSize : Size := { width := 1920, height := 1080 }

def smallSize : Size := { width := 1280, height := 720 }

def lowered : List Label := [.request true none 0 smallSize true, .record 0, .apply 0 true]

-- One connection lowers the resolution and its end restores it.
def visit : List Label := lowered ++ [.restore, .attempt 0 0 true, .release 0, .clear 0]

theorem records_used_or_listed_visit :
    (∀ r ∈ ((run step (.new [("DP-1", fullSize)]) visit).get rfl).records, r.late = false →
        Used ((run step (.new [("DP-1", fullSize)]) visit).get rfl).calls r ∨ Listed ((run step (.new [("DP-1", fullSize)]) visit).get rfl) r) ∧
      (∀ r ∈ ((run step (.new [("DP-1", fullSize)]) visit).get rfl).records,
        FirstOf ((run step (.new [("DP-1", fullSize)]) visit).get rfl) r.name r.epoch r.original ∧
          ReadIn (trace step (.new [("DP-1", fullSize)]) visit) r.name r.original) ∧
      ∀ entry ∈ trace step (.new [("DP-1", fullSize)]) visit, Unchanged entry ∧ Begun entry ∧ Emptied entry :=
  records_used_or_listed [("DP-1", fullSize)] _ _ (traced_run step (.new [("DP-1", fullSize)]) visit rfl)

-- The platform refuses to restore the display, and the next restore finds nothing to do.
def refused : List Label := lowered ++ [.restore, .attempt 0 0 false, .release 0, .clear 0]

-- A record is made after a restore has walked the empty table, and the clear discards it.
def betweenWalkAndClear : List Label := [.restore, .release 0] ++ lowered ++ [.clear 0]

theorem restore_not_repeated :
    (∃ s next, run step (.new [("DP-1", fullSize)]) refused = some s ∧ s.displays = [("DP-1", smallSize)] ∧
      s.calls = [{ restore := 0, name := "DP-1", size := fullSize, ok := false }] ∧ step s .restore = some next ∧
      next.restores[1]?.map Restore.taken = some []) ∧
    ∃ s r, run step (.new [("DP-1", fullSize)]) betweenWalkAndClear = some s ∧ r ∈ s.records ∧ ¬ Used s.calls r ∧ ¬ Listed s r := by
  refine ⟨⟨_, _, rfl, rfl, rfl, rfl, rfl⟩, _, { name := "DP-1", original := fullSize, read := fullSize, first := true, late := true,
                                                epoch := 0, stamp := 0 }, rfl, List.mem_singleton_self _, ?_, ?_⟩
  · rintro ⟨place, call, -, there, -⟩
    cases there
  · rintro ⟨now, -⟩
    cases now

end GotechDesk.DisplayService.Resolutions
