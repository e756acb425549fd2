import GotechDesk.TerminalService.Sessions

set_option autoImplicit false

namespace GotechDesk.TerminalService

-- Each id and each session is in the table once, and no session is newer than the count says.
structure Sound (service : PersistentTerminalService) : Prop where
  distinct : (ids service.sessions).Nodup
  once : (arcs service.sessions).Nodup
  earlier : ∀ arc ∈ arcs service.sessions, arc < service.created

theorem sound_new (serviceId : String) (isPersistent : Bool) : Sound (.new serviceId isPersistent) :=
  ⟨List.nodup_nil, List.nodup_nil, by simp [PersistentTerminalService.new, arcs]⟩

section
variable (service : PersistentTerminalService) (terminalId : Int)

theorem remapped_cases : (¬ Remaps service terminalId ∧ remapped service terminalId = service.sessions) ∨
      (Remaps service terminalId ∧ ∃ lowestId session, (ids service.sessions).min? = some lowestId ∧ Table.get service.sessions lowestId = some session ∧
        remapped service terminalId = Table.insert (Table.remove service.sessions lowestId) terminalId session) := by
  by_cases remaps : Remaps service terminalId
  · have some : ids service.sessions ≠ [] := by simpa [ids] using remaps.2.2
    obtain ⟨lowestId, least⟩ := Option.isSome_iff_exists.mp (List.isSome_min?_of_ne_nil some)
    obtain ⟨session, found⟩ : ∃ session, Table.get service.sessions lowestId = Option.some session := by
      apply Option.ne_none_iff_exists'.mp
      rw [Ne, Table.get_none, not_not]
      exact List.min?_mem least
    refine .inr ⟨remaps, lowestId, session, least, found, ?_⟩
    simp only [remapped, if_pos remaps, least, moveSession, found]
  · exact .inl ⟨remaps, if_neg remaps⟩

theorem remapped_perm (sound : Sound service) :
    (ids (remapped service terminalId)).Nodup ∧ (arcs (remapped service terminalId)).Perm (arcs service.sessions) := by
  obtain ⟨_, same⟩ | ⟨remaps, lowestId, session, _, found, moved⟩ := remapped_cases service terminalId
  · rw [same]
    exact ⟨sound.distinct, .rfl⟩
  · have absent : Table.get (Table.remove service.sessions lowestId) terminalId = none := by
      rw [Table.get_remove, remaps.1, ite_self]
    have appended : Table.insert (Table.remove service.sessions lowestId) terminalId session = Table.remove service.sessions lowestId ++ [(terminalId, session)] := by
      rw [Table.insert, Table.remove_absent _ _ absent]
    rw [moved, appended]
    constructor
    · rw [ids, List.map_append]
      apply List.Nodup.append (Table.nodup_remove _ _ sound.distinct) (List.nodup_singleton terminalId)
      rw [Table.get_none] at absent
      simpa using absent
    · have split := (Table.perm_remove service.sessions lowestId session sound.distinct found).map (fun entry => entry.2.arc)
      rw [arcs, List.map_append]
      exact List.perm_append_comm.trans split.symm

end

section
variable (sessions : List (Int × TerminalSession)) (terminalId : Int) (change : TerminalSession → TerminalSession)

theorem ids_modify : ids (Table.modify sessions terminalId change) = ids sessions := by
  simp [ids, Table.modify, Table.mapValues]

theorem arcs_modify (same : ∀ session, (change session).arc = session.arc) : arcs (Table.modify sessions terminalId change) = arcs sessions := by
  simp only [arcs, Table.modify, Table.mapValues, List.map_map]
  apply List.map_congr_left
  intro entry _
  dsimp only [Function.comp]
  split
  · exact same entry.2
  · rfl

end

section
variable (service : PersistentTerminalService)

section
variable (terminalId : Int) (creation : Except String Launched)

-- The two ways an open succeeds, and how it fails.
theorem open_cases : (∃ session, Table.get (remapped service terminalId) terminalId = some session ∧ handleOpen service terminalId creation =
      ({ service with sessions := Table.modify (remapped service terminalId) terminalId reconnected, needsSessionSync := false },
        .ok (reopened service (remapped service terminalId) terminalId (reconnected session)))) ∨
    (Table.get service.sessions terminalId = none ∧ ¬ Remaps service terminalId ∧
      ((∃ failed, creation = .error failed ∧ handleOpen service terminalId creation = (service, .error failed)) ∨
        ∃ launched, creation = .ok launched ∧ handleOpen service terminalId creation =
          ({ service with
              sessions := service.sessions ++ [(terminalId, ⟨service.created, launched.pid, launched.child, [], .new, .active none .idle⟩)]
              needsSessionSync := false
              created := service.created + 1 }, .ok (openedNew service terminalId launched.pid)))) := by
  cases held : Table.get (remapped service terminalId) terminalId with
  | some session => exact .inl ⟨session, rfl, by simp only [handleOpen, held]⟩
  | none =>
      obtain ⟨stays, same⟩ | ⟨_, lowestId, session, _, _, moved⟩ := remapped_cases service terminalId
      · rw [same] at held
        refine .inr ⟨held, stays, ?_⟩
        cases creation with
        | error failed => exact .inl ⟨failed, rfl, by simp only [handleOpen, same, held]⟩
        | ok launched =>
            refine .inr ⟨launched, rfl, ?_⟩
            simp only [handleOpen, same, held, Table.insert, Table.remove_absent _ _ held]
      · rw [moved, Table.get_insert, if_pos rfl] at held
        cases held

theorem open_sound (sound : Sound service) :
    Sound (handleOpen service terminalId creation).1 ∧ ((arcs (handleOpen service terminalId creation).1.sessions).Perm (arcs service.sessions) ∨
      ∃ new, new ∉ arcs service.sessions ∧ (arcs (handleOpen service terminalId creation).1.sessions).Perm (new :: arcs service.sessions)) := by
  obtain ⟨session, _, opened⟩ | ⟨absent, _, ⟨failed, _, opened⟩ | ⟨launched, _, opened⟩⟩ := open_cases service terminalId creation
  · obtain ⟨distinct, perm⟩ := remapped_perm service terminalId sound
    have same : arcs (Table.modify (remapped service terminalId) terminalId reconnected) = arcs (remapped service terminalId) :=
      arcs_modify _ _ _ (fun _ => rfl)
    rw [opened]
    refine ⟨⟨?_, ?_, ?_⟩, .inl ?_⟩
    · rw [ids_modify]
      exact distinct
    · rw [same]
      exact perm.nodup_iff.mpr sound.once
    · rw [same]
      exact fun arc member => sound.earlier arc (perm.mem_iff.mp member)
    · rw [same]
      exact perm
  · rw [opened]
    exact ⟨sound, .inl .rfl⟩
  · have fresh : service.created ∉ arcs service.sessions := fun member => lt_irrefl _ (sound.earlier _ member)
    have extended : (arcs service.sessions ++ [service.created]).Perm (service.created :: arcs service.sessions) := List.perm_append_singleton _ _
    rw [opened]
    have added : arcs (service.sessions ++ [(terminalId, (⟨service.created, launched.pid, launched.child, [], .new, .active none .idle⟩ : TerminalSession))]) =
        arcs service.sessions ++ [service.created] := by simp [arcs]
    refine ⟨⟨?_, ?_, ?_⟩, .inr ⟨service.created, fresh, ?_⟩⟩
    · rw [Table.get_none] at absent
      rw [ids, List.map_append]
      exact List.Nodup.append sound.distinct (List.nodup_singleton terminalId) (by simpa [ids] using absent)
    · rw [added]
      exact extended.nodup_iff.mpr (List.nodup_cons.mpr ⟨fresh, sound.once⟩)
    · rw [added]
      intro arc member
      obtain old | new := List.mem_append.mp member
      · exact Nat.lt_succ_of_lt (sound.earlier arc old)
      · rw [List.mem_singleton.mp new]
        exact Nat.lt_succ_self _
    · rw [added]
      exact extended

end

theorem close_sound (terminalId : Int) (killed : Bool) (sound : Sound service) : Sound (handleClose service terminalId killed).1 := by
  unfold handleClose
  split
  · have fewer : (arcs (Table.remove service.sessions terminalId)).Sublist (arcs service.sessions) := List.filter_sublist.map _
    exact ⟨Table.nodup_remove _ _ sound.distinct, sound.once.sublist fewer, fun arc member => sound.earlier arc (fewer.subset member)⟩
  · exact sound

theorem serve_sound (call : TerminalCall) (sound : Sound service) : Sound (serve service call) := by
  cases call with
  | resetStatus isPersistent =>
      have sameIds : ids (resetStatus service isPersistent).sessions = ids service.sessions := by simp [ids, resetStatus, Table.mapValues]
      have sameArcs : arcs (resetStatus service isPersistent).sessions = arcs service.sessions := by simp [arcs, resetStatus, Table.mapValues]
      exact ⟨sameIds ▸ sound.distinct, sameArcs ▸ sound.once, fun arc member => sound.earlier arc (sameArcs ▸ member)⟩
  | openTerminal terminalId creation => exact (open_sound service terminalId creation sound).1
  | closeTerminal terminalId killed => exact close_sound service terminalId killed sound
  | shellOutput terminalId data =>
      have sameArcs : arcs (shellOutput service terminalId data).sessions = arcs service.sessions := by
        unfold shellOutput
        dsimp only
        apply arcs_modify
        intro session
        split
        · rfl
        · rfl
      refine ⟨?_, sameArcs ▸ sound.once, fun arc member => sound.earlier arc (sameArcs ▸ member)⟩
      rw [serve, shellOutput, ids_modify]
      exact sound.distinct

theorem serve_all_sound (calls : List TerminalCall) (sound : Sound service) : Sound (serveAll service calls) := by
  induction calls generalizing service with
  | nil => exact sound
  | cons call rest ih => exact ih (serve service call) (serve_sound service call sound)

end

-- The response gives the process, the replay and the id of a session of the table.
def Describes (opened : TerminalOpened) (terminalId : Int) (service : PersistentTerminalService) : Prop :=
  opened.success = true ∧ opened.terminalId = terminalId ∧ opened.serviceId = service.serviceId ∧
    ∃ session, Table.get service.sessions terminalId = some session ∧ opened.pid = session.pid ∧ opened.replayTerminalOutput = session.pending

section
variable (service : PersistentTerminalService) (terminalId : Int) (creation : Except String Launched)

theorem open_describes (opened : TerminalOpened)
    (answered : (handleOpen service terminalId creation).2 = .ok opened) : Describes opened terminalId (handleOpen service terminalId creation).1 := by
  obtain ⟨session, found, result⟩ | ⟨absent, _, ⟨failed, _, result⟩ | ⟨launched, _, result⟩⟩ := open_cases service terminalId creation
  · rw [result] at answered ⊢
    cases answered
    refine ⟨rfl, rfl, rfl, reconnected session, ?_, rfl, rfl⟩
    rw [Table.get_modify, if_pos rfl, found, Option.map_some]
  · rw [result] at answered
    cases answered
  · rw [result] at answered ⊢
    cases answered
    refine ⟨rfl, rfl, rfl, ⟨service.created, launched.pid, launched.child, [], .new, .active none .idle⟩, ?_, rfl, rfl⟩
    rw [Table.get_append, absent, Option.none_or, Table.get_cons, if_pos rfl]

theorem open_failed (failed : String)
    (answered : (handleOpen service terminalId creation).2 = .error failed) : (handleOpen service terminalId creation).1 = service := by
  obtain ⟨session, found, result⟩ | ⟨absent, _, ⟨_, _, result⟩ | ⟨launched, _, result⟩⟩ := open_cases service terminalId creation
  · rw [result] at answered
    cases answered
  · rw [result]
  · rw [result] at answered
    cases answered

end

theorem filter_others (sessions : List (Int × TerminalSession)) (terminalId : Int) (distinct : (ids sessions).Nodup) (listed : terminalId ∈ ids sessions) :
    (terminalId :: (ids sessions).filter (fun id => id ≠ terminalId)).Perm (ids sessions) := by
  have erased : (ids sessions).filter (fun id => id ≠ terminalId) = (ids sessions).erase terminalId := by
    rw [distinct.erase_eq_filter]
    apply List.filter_congr
    intro id _
    simp [bne, Bool.beq_eq_decide_eq]
  rw [erased]
  exact (List.perm_cons_erase listed).symm

section
variable (service : PersistentTerminalService) (terminalId : Int) (creation : Except String Launched) (opened : TerminalOpened)

-- While the sync is due, the answer names every key of the table once.
theorem open_announces (sound : Sound service) (due : service.needsSessionSync = true) (answered : (handleOpen service terminalId creation).2 = .ok opened) :
    (opened.terminalId :: opened.persistentSessions).Perm (ids (handleOpen service terminalId creation).1.sessions) := by
  obtain ⟨session, found, result⟩ | ⟨absent, stays, ⟨failed, _, result⟩ | ⟨launched, _, result⟩⟩ := open_cases service terminalId creation
  · rw [result] at answered ⊢
    cases answered
    have distinct := (remapped_perm service terminalId sound).1
    have listed : terminalId ∈ ids (remapped service terminalId) := List.mem_map_of_mem (Table.mem_of_get _ _ _ found)
    have others := filter_others (remapped service terminalId) terminalId distinct listed
    simp only [reopened, ids_modify, due, true_and]
    by_cases several : 1 < (remapped service terminalId).length
    · rw [if_pos several]
      exact others
    · rw [if_neg several]
      have alone : (ids (remapped service terminalId)).length ≤ 1 := by simpa [ids] using several
      have length := others.length_eq
      rw [List.length_cons] at length
      have none' : (ids (remapped service terminalId)).filter (fun id => id ≠ terminalId) = [] := List.length_eq_zero_iff.mp (by omega)
      rwa [none'] at others
  · rw [result] at answered
    cases answered
  · have empty : service.sessions = [] := by
      by_contra some
      exact stays ⟨absent, due, some⟩
    rw [result] at answered ⊢
    cases answered
    simp [openedNew, empty, ids]

theorem open_settles (answered : (handleOpen service terminalId creation).2 = .ok opened) : (handleOpen service terminalId creation).1.needsSessionSync = false := by
  obtain ⟨session, found, result⟩ | ⟨absent, stays, ⟨failed, _, result⟩ | ⟨launched, _, result⟩⟩ := open_cases service terminalId creation
  · rw [result]
  · rw [result] at answered
    cases answered
  · rw [result]

end

-- Only the requested id and, when it is remapped, the lowest one change hands.
theorem open_frame (service : PersistentTerminalService) (terminalId other : Int) (creation : Except String Launched) (apart : other ≠ terminalId)
    (stays : Remaps service terminalId → (ids service.sessions).min? ≠ some other) :
    Table.get (handleOpen service terminalId creation).1.sessions other = Table.get service.sessions other := by
  have unmoved : Table.get (remapped service terminalId) other = Table.get service.sessions other := by
    obtain ⟨_, same⟩ | ⟨remaps, lowestId, session, least, _, moved⟩ := remapped_cases service terminalId
    · rw [same]
    · have kept : other ≠ lowestId := fun same => stays remaps (same ▸ least)
      rw [moved, Table.get_insert, if_neg apart, Table.get_remove, if_neg kept]
  obtain ⟨session, _, result⟩ | ⟨_, _, ⟨failed, _, result⟩ | ⟨launched, _, result⟩⟩ := open_cases service terminalId creation
  · rw [result, Table.get_modify, if_neg apart, unmoved]
  · rw [result]
  · rw [result, Table.get_append, Table.get_cons, if_neg apart]
    exact Option.or_none

-- A remap reconnects: the lowest session is found under the requested id, and the sync is no longer due.
theorem remap_moves (service : PersistentTerminalService) (terminalId : Int) (creation : Except String Launched) (remaps : Remaps service terminalId) :
    ∃ lowestId session, (ids service.sessions).min? = some lowestId ∧ Table.get service.sessions lowestId = some session ∧
      Table.get (handleOpen service terminalId creation).1.sessions terminalId = some (reconnected session) ∧
      (handleOpen service terminalId creation).1.needsSessionSync = false := by
  obtain ⟨stays, _⟩ | ⟨_, lowestId, session, least, found, moved⟩ := remapped_cases service terminalId
  · exact absurd remaps stays
  · have held : Table.get (remapped service terminalId) terminalId = some session := by rw [moved, Table.get_insert, if_pos rfl]
    obtain ⟨other, again, result⟩ | ⟨_, stays, _⟩ := open_cases service terminalId creation
    · refine ⟨lowestId, session, least, found, ?_, by rw [result]⟩
      rw [result, Table.get_modify, if_pos rfl, held, Option.map_some]
    · exact absurd remaps stays

def Resets : TerminalCall → Prop
  | .resetStatus _ => True
  | _ => False

def Succeeds (service : PersistentTerminalService) : TerminalCall → Prop
  | .openTerminal terminalId creation => ∃ opened, (handleOpen service terminalId creation).2 = .ok opened
  | _ => False

-- No open of these calls succeeds.
def Quiet (service : PersistentTerminalService) : List TerminalCall → Prop
  | [] => True
  | call :: rest => ¬ Succeeds service call ∧ Quiet (serve service call) rest

section
variable (service : PersistentTerminalService)

theorem close_sync (terminalId : Int) (killed : Bool) : (handleClose service terminalId killed).1.needsSessionSync = service.needsSessionSync := by
  unfold handleClose
  split
  · rfl
  · rfl

theorem settled_stays (calls : List TerminalCall) (settled : service.needsSessionSync = false)
    (unreset : ∀ call ∈ calls, ¬ Resets call) : (serveAll service calls).needsSessionSync = false := by
  induction calls generalizing service with
  | nil => exact settled
  | cons call rest ih =>
      obtain ⟨here, later⟩ := List.forall_mem_cons.mp unreset
      apply ih (serve service call) _ later
      cases call with
      | resetStatus isPersistent => exact absurd trivial here
      | openTerminal terminalId creation =>
          rw [serve]
          cases answered : (handleOpen service terminalId creation).2 with
          | error failed => rw [open_failed service terminalId creation failed answered, settled]
          | ok opened => exact open_settles service terminalId creation opened answered
      | closeTerminal terminalId killed => rw [serve, close_sync, settled]
      | shellOutput terminalId data => exact settled

theorem due_stays (calls : List TerminalCall) (due : service.needsSessionSync = true) (quiet : Quiet service calls) :
    (serveAll service calls).needsSessionSync = true := by
  induction calls generalizing service with
  | nil => exact due
  | cons call rest ih =>
      obtain ⟨here, later⟩ := quiet
      apply ih (serve service call) _ later
      cases call with
      | resetStatus isPersistent => rfl
      | openTerminal terminalId creation =>
          rw [serve]
          cases answered : (handleOpen service terminalId creation).2 with
          | error failed => rw [open_failed service terminalId creation failed answered, due]
          | ok opened => exact absurd ⟨opened, answered⟩ here
      | closeTerminal terminalId killed => rw [serve, close_sync, due]
      | shellOutput terminalId data => exact due

end

-- One open in any reachable state of the table.
structure KeepsTable (service : PersistentTerminalService) (terminalId : Int) (creation : Except String Launched) : Prop where
  distinct : (ids (handleOpen service terminalId creation).1.sessions).Nodup
  once : (arcs (handleOpen service terminalId creation).1.sessions).Nodup
  kept : (arcs (handleOpen service terminalId creation).1.sessions).Perm (arcs service.sessions) ∨
    ∃ new, new ∉ arcs service.sessions ∧ (arcs (handleOpen service terminalId creation).1.sessions).Perm (new :: arcs service.sessions)
  failed : ∀ failed, (handleOpen service terminalId creation).2 = .error failed →
    (handleOpen service terminalId creation).1.sessions = service.sessions ∧
      (handleOpen service terminalId creation).1.needsSessionSync = service.needsSessionSync
  bound : ∀ opened, (handleOpen service terminalId creation).2 = .ok opened → Describes opened terminalId (handleOpen service terminalId creation).1
  remap : Remaps service terminalId → Table.get service.sessions terminalId = none ∧ ∃ lowestId session,
    (ids service.sessions).min? = some lowestId ∧ Table.get service.sessions lowestId = some session ∧
      Table.get (handleOpen service terminalId creation).1.sessions terminalId = some (reconnected session)
  others : ∀ other, other ≠ terminalId → (Remaps service terminalId → (ids service.sessions).min? ≠ some other) →
    Table.get (handleOpen service terminalId creation).1.sessions other = Table.get service.sessions other

theorem open_keeps (service : PersistentTerminalService) (terminalId : Int) (creation : Except String Launched) (sound : Sound service) :
    KeepsTable service terminalId creation := by
  obtain ⟨after, kept⟩ := open_sound service terminalId creation sound
  refine ⟨after.distinct, after.once, kept, ?_, open_describes service terminalId creation, ?_, fun other => open_frame service terminalId other creation⟩
  · intro failed answered
    rw [open_failed service terminalId creation failed answered]
    exact ⟨rfl, rfl⟩
  · intro remaps
    obtain ⟨lowestId, session, least, found, moved, _⟩ := remap_moves service terminalId creation remaps
    exact ⟨remaps.1, lowestId, session, least, found, moved⟩

theorem session_table (serviceId : String) (isPersistent : Bool) (before : List TerminalCall) :
    (∀ terminalId creation, KeepsTable (serveAll (.new serviceId isPersistent) before) terminalId creation) ∧
    (∀ first creation middle second, (∀ call ∈ middle, ¬ Resets call) → Remaps (serveAll (.new serviceId isPersistent) before) first →
      ¬ Remaps (serveAll (serveAll (.new serviceId isPersistent) before) (.openTerminal first creation :: middle)) second) ∧
    ∀ persistent middle terminalId creation opened, Quiet (serve (serveAll (.new serviceId isPersistent) before) (.resetStatus persistent)) middle →
      (handleOpen (serveAll (serveAll (.new serviceId isPersistent) before) (.resetStatus persistent :: middle)) terminalId creation).2 = .ok opened →
      (opened.terminalId :: opened.persistentSessions).Perm (ids (handleOpen
        (serveAll (serveAll (.new serviceId isPersistent) before) (.resetStatus persistent :: middle)) terminalId creation).1.sessions) := by
  have sound := serve_all_sound (.new serviceId isPersistent) before (sound_new serviceId isPersistent)
  refine ⟨fun terminalId creation => open_keeps _ terminalId creation sound, ?_, ?_⟩
  · intro first creation middle second unreset remaps again
    obtain ⟨_, _, _, _, _, settled⟩ := remap_moves _ first creation remaps
    have still := settled_stays _ middle settled unreset
    exact absurd again.2.1 (by rw [serveAll, List.foldl_cons]; exact Bool.eq_false_iff.mp still)
  · intro persistent middle terminalId creation opened quiet answered
    have due := due_stays _ middle rfl quiet
    exact open_announces _ terminalId creation opened (serve_all_sound _ (.resetStatus persistent :: middle) sound) due answered

-- Two shells survive a disconnect under the ids 2 and 5; the client asks for 1.
def surviving : List TerminalCall := [.openTerminal 5 (.ok ⟨500, true⟩), .openTerminal 2 (.ok ⟨200, true⟩)]

theorem session_table_remap : ([1, 5] : List Int).Perm (ids (handleOpen
    (serveAll (serveAll (.new "ts" true) surviving) [.resetStatus true]) 1 (.ok ⟨100, true⟩)).1.sessions) :=
  (session_table "ts" true surviving).2.2 true [] 1 (.ok ⟨100, true⟩) ⟨1, true, "Reconnected to existing terminal", 200, "ts", false, [5]⟩ trivial rfl

end GotechDesk.TerminalService
