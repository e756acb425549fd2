import GotechDesk.AuthedConns.Registry

set_option autoImplicit false

namespace GotechDesk.AuthedConns

open Connection (AuthConnType Target)

-- Decided on the clean-up, with an action left to do.
def Stage.cleans : Stage → Bool
  | .cleaning (_ :: _) => true
  | _ => false

-- No action of the clean-up met a remote session.
def Undisturbed (s : Host) : Prop := ∀ entry ∈ s.executed, entry.2 = 0

-- A step of its AuthedConnID's new or drop is pending.
def Stage.pending : Stage → Bool
  | .opening _ | .introducing | .closing | .removing | .counting | .cleaning _ | .ending _ => true
  | _ => false

-- An authorized viewer is known to the video quality control between its opening and its drop.
def Known (s : Host) : Prop := ∀ id connType conn, (id, connType) ∈ s.authedConns → connType = .remote ∨ connType = .viewCamera →
  Table.get s.conns id = some conn → conn.stage.pending = false → id ∈ s.qosUsers

-- No remote session is registered while a clean-up goes on.
def Uninterrupted (s : Host) : Label → Prop
  | .authorize _ .remote => s.conns.all (fun entry => !entry.2.stage.cleans) = true
  | _ => True

instance (s : Host) (label : Label) : Decidable (Uninterrupted s label) :=
  match label with
  | .authorize _ .remote => inferInstanceAs (Decidable (s.conns.all (fun entry => !entry.2.stage.cleans) = true))
  | .authorize _ .fileTransfer | .authorize _ .portForward | .authorize _ .viewCamera | .authorize _ .terminal => inferInstanceAs (Decidable True)
  | .accept | .recheck _ | .subscribe _ | .leave _ | .advance _ | .poll => inferInstanceAs (Decidable True)

structure CleansAlone (s : Host) : Prop where
  registered : Registered s
  alone : ∀ id conn, Table.get s.conns id = some conn → conn.stage.cleans = true → s.remoteCount = 0
  undisturbed : Undisturbed s

-- How a step of a connection's task bears on the clean-up.
inductive CleanStep (target : Target) (s : Host) (id : Nat) (conn : Conn) : Host → Prop where
  | act (action : Cleanup) (left : List Cleanup) : conn.stage = .cleaning (action :: left) →
      CleanStep target s id conn ({ s with executed := s.executed ++ [(action, s.remoteCount)] }.enter id conn (.cleaning left))
  | decide : s.remoteCount = 0 → CleanStep target s id conn (s.enter id conn (.cleaning (cleanups target)))
  | aside (next : Host) (stage : Stage) : stage.cleans = false → next.conns = Table.insert s.conns id { conn with stage } →
      next.executed = s.executed → CleanStep target s id conn next

theorem check_executed (s : Host) (check : Check) : (s.checkWakeLock check).1.executed = s.executed := by
  cases check <;> rfl

theorem check_conns (s : Host) (check : Check) : (s.checkWakeLock check).1.conns = s.conns := congrArg Prod.fst (check_parts s check)

theorem exit_cleans (conn : Conn) : conn.exit.cleans = false := by
  rw [Conn.exit]
  split <;> rfl

theorem rest_cleans (conn : Conn) : conn.rest.cleans = false := by
  rw [Conn.rest]
  split <;> rfl

theorem advance_cleans (target : Target) (s next : Host) (id : Nat) (conn : Conn) (taken : s.advance target id conn = some next) :
    CleanStep target s id conn next := by
  have checks : ∀ (check : Check) (after : Stage) (wrap : Check → Stage), after.cleans = false → (∀ more, (wrap more).cleans = false) →
      CleanStep target s id conn ((s.checkWakeLock check).1.enter id conn ((s.checkWakeLock check).2.elim after wrap)) := by
    intro check after wrap done more
    refine .aside _ _ (check_elim s check (fun stage => stage.cleans = false) after wrap done more) ?_ (check_executed s check)
    rw [Host.enter, check_conns]
  cases stage : conn.stage with
  | unauthorized | authorized | gone => simp [Host.advance, stage] at taken
  | opening check =>
      simp only [Host.advance, stage, Option.some.injEq] at taken
      exact taken ▸ checks check _ _ rfl (fun _ => rfl)
  | rechecking check =>
      simp only [Host.advance, stage, Option.some.injEq] at taken
      exact taken ▸ checks check _ _ (rest_cleans conn) (fun _ => rfl)
  | ending check =>
      simp only [Host.advance, stage, Option.some.injEq] at taken
      exact taken ▸ checks check _ _ rfl (fun _ => rfl)
  | introducing | storing | spawning | closing | removing =>
      simp only [Host.advance, stage, Option.some.injEq] at taken
      exact taken ▸ .aside _ _ rfl rfl rfl
  | stopStoring =>
      simp only [Host.advance, stage, Option.some.injEq] at taken
      exact taken ▸ .aside _ conn.exit (exit_cleans conn) rfl rfl
  | subscribing =>
      simp only [Host.advance, stage] at taken
      obtain ⟨_, taken⟩ := Option.ite_none_left_eq_some.mp taken
      split at taken
      · exact Option.some.inj taken ▸ .aside _ .authorized rfl rfl rfl
      · exact Option.some.inj taken ▸ .aside _ .storing rfl rfl rfl
  | leaving =>
      simp only [Host.advance, stage] at taken
      obtain ⟨_, taken⟩ := Option.ite_none_left_eq_some.mp taken
      split at taken
      · exact Option.some.inj taken ▸ .aside _ conn.exit (exit_cleans conn) rfl rfl
      · exact Option.some.inj taken ▸ .aside _ .stopCounting rfl rfl rfl
  | stopCounting =>
      simp only [Host.advance, stage] at taken
      split at taken
      · exact Option.some.inj taken ▸ .aside _ conn.exit (exit_cleans conn) rfl rfl
      · exact Option.some.inj taken ▸ .aside _ .stopStoring rfl rfl rfl
  | counting =>
      simp only [Host.advance, stage] at taken
      by_cases none : s.remoteCount = 0
      · rw [if_pos none] at taken
        exact Option.some.inj taken ▸ .decide none
      · rw [if_neg none] at taken
        exact Option.some.inj taken ▸ .aside _ (.ending .conns) rfl rfl rfl
  | cleaning left =>
      cases left with
      | nil =>
          simp only [Host.advance, stage, Option.some.injEq] at taken
          exact taken ▸ .aside _ (.ending .conns) rfl rfl rfl
      | cons action left =>
          simp only [Host.advance, stage, Option.some.injEq] at taken
          exact taken ▸ .act action left stage

theorem registered_known (s : Host) (registered : Registered s) : Known s := by
  intro id connType conn member viewer found settled
  obtain ⟨held, again, typed, listed⟩ := (registered.listed id connType).mp member
  obtain rfl := Option.some.inj (found.symm.trans again)
  have watches : conn.watches = true := by
    rw [Conn.watches, typed]
    rcases viewer with rfl | rfl <;> rfl
  have introduced : conn.stage.introduced = true := by
    cases stage : conn.stage with
    | authorized | rechecking check | subscribing | storing | spawning | leaving | stopCounting | stopStoring => rfl
    | opening check | introducing | closing | removing | counting | cleaning left | ending check =>
        rw [stage] at settled
        cases settled
    | unauthorized | gone =>
        rw [stage] at listed
        cases listed
  exact registered.known id conn found watches introduced

theorem advance_remotes (target : Target) (s next : Host) (id : Nat) (conn : Conn) (registered : Registered s)
    (found : Table.get s.conns id = some conn) (taken : s.advance target id conn = some next) : next.remoteCount ≤ s.remoteCount := by
  by_cases removing : conn.stage = .removing
  · simp only [Host.advance, removing, Option.some.injEq] at taken
    subst taken
    exact List.Sublist.countP_le List.filter_sublist
  · obtain ⟨stage, moves⟩ := advance_moves target s next id conn registered found removing taken
    rw [Host.remoteCount, Host.remoteCount, moves.authedConns]

theorem authorize_remotes (s : Host) (id : Nat) (connType : AuthConnType) (other : connType ≠ .remote) :
    (s.authedConns ++ [(id, connType)]).countP (fun entry => decide (entry.2 = .remote)) = s.remoteCount := by
  rw [List.countP_append, Host.remoteCount]
  simp [other]

-- A connection enters a stage that cleans nothing.
theorem aside_alone (s next : Host) (id : Nat) (now : Conn) (still : now.stage.cleans = false) (conns : next.conns = Table.insert s.conns id now)
    (others : ∀ other conn, Table.get s.conns other = some conn → conn.stage.cleans = true → next.remoteCount = 0) :
    ∀ other conn, Table.get next.conns other = some conn → conn.stage.cleans = true → next.remoteCount = 0 := by
  rw [conns]
  refine Table.forall_insert (fun _ conn => conn.stage.cleans = true → next.remoteCount = 0) s.conns id now ?_ ?_
  · exact fun other conn _ found cleans => others other conn found cleans
  · intro cleans
    cases still.symm.trans cleans

theorem advance_alone (target : Target) (s next : Host) (id : Nat) (conn : Conn) (clean : CleansAlone s)
    (found : Table.get s.conns id = some conn) (taken : s.advance target id conn = some next) :
    (∀ other conn, Table.get next.conns other = some conn → conn.stage.cleans = true → next.remoteCount = 0) ∧ Undisturbed next := by
  have fewer := advance_remotes target s next id conn clean.registered found taken
  cases advance_cleans target s next id conn taken with
  | act action left stage =>
      have none : s.remoteCount = 0 := clean.alone id conn found (by rw [stage]; rfl)
      refine ⟨fun _ _ _ _ => none, List.forall_mem_append.mpr ⟨clean.undisturbed, List.forall_mem_singleton.mpr none⟩⟩
  | decide none => exact ⟨fun _ _ _ _ => none, clean.undisturbed⟩
  | aside _ stage still conns executed =>
      refine ⟨aside_alone s next id _ still conns ?_, ?_⟩
      · intro other held had cleans
        have none := clean.alone other held had cleans
        exact Nat.le_zero.mp (none ▸ fewer)
      · rw [Undisturbed, executed]
        exact clean.undisturbed

theorem cleans_step (target : Target) (s : Host) (label : Label) (next : Host) (clean : CleansAlone s) (fits : Uninterrupted s label)
    (taken : s.step target label = some next) : CleansAlone next := by
  have registered := registered_step target s next label clean.registered taken
  cases label with
  | accept =>
      obtain rfl := Option.some.inj taken
      exact ⟨registered, aside_alone s _ _ {} rfl rfl clean.alone, clean.undisturbed⟩
  | authorize id connType =>
      obtain ⟨conn, found, taken⟩ := Option.bind_eq_some_iff.mp taken
      obtain ⟨_, rfl⟩ := Option.ite_some_none_eq_some.mp taken
      refine ⟨registered, aside_alone s _ id _ rfl rfl ?_, clean.undisturbed⟩
      intro other held had cleans
      by_cases remote : connType = .remote
      · subst remote
        have still := List.all_eq_true.mp fits (other, held) (Table.mem_of_get s.conns other held had)
        rw [cleans] at still
        cases still
      · exact (authorize_remotes s id connType remote).trans (clean.alone other held had cleans)
  | recheck id | leave id =>
      obtain ⟨conn, found, taken⟩ := Option.bind_eq_some_iff.mp taken
      obtain ⟨_, rfl⟩ := Option.ite_some_none_eq_some.mp taken
      exact ⟨registered, aside_alone s _ id _ rfl rfl clean.alone, clean.undisturbed⟩
  | subscribe id =>
      obtain ⟨conn, found, taken⟩ := Option.bind_eq_some_iff.mp taken
      obtain ⟨_, rfl⟩ := Option.ite_some_none_eq_some.mp taken
      exact ⟨registered, aside_alone s _ id { conn with servicesSubed := true, stage := .subscribing } rfl rfl clean.alone, clean.undisturbed⟩
  | advance id =>
      obtain ⟨conn, found, taken⟩ := Option.bind_eq_some_iff.mp taken
      obtain ⟨alone, undisturbed⟩ := advance_alone target s next id conn clean found taken
      exact ⟨registered, alone, undisturbed⟩
  | poll =>
      obtain ⟨_, rfl⟩ := Option.ite_some_none_eq_some.mp taken
      exact ⟨registered, clean.alone, clean.undisturbed⟩

-- In every run that registers no remote session during a clean-up, no action of one meets a
-- remote session, and an authorized viewer is known to the quality control.
theorem cleans_after_last (target : Target) (past : List (Host × Label)) (s : Host) (traced : Machine.Traced (Host.step target) {} past s)
    (fitting : ∀ entry ∈ past, Uninterrupted entry.1 entry.2) : Undisturbed s ∧ Known s := by
  have clean := (Machine.traced_kept (Host.step target) CleansAlone Uninterrupted {} s past
    ⟨registered_init, (fun _ _ found => by cases found), fun _ member => by cases member⟩ (cleans_step target) traced fitting).2
  exact ⟨clean.undisturbed, registered_known s clean.registered⟩

-- A remote session is authorized and ends; its clean-up has restored the resolutions when
-- another one is authorized.
def firstSession : List Label :=
  [.accept, .authorize 1 .remote] ++ List.replicate 4 (.advance 1) ++ [.leave 1] ++ List.replicate 5 (.advance 1) ++ [.accept]

def finishesFirst : List Label := firstSession ++ List.replicate 2 (.advance 1) ++ [.authorize 2 .remote] ++ List.replicate 4 (.advance 2)

def comesBetween : List Label := firstSession ++ [.authorize 2 .remote] ++ List.replicate 2 (.advance 1)

theorem finishes_first_runs : (Machine.run (Host.step .macos) {} finishesFirst).isSome = true := by decide

theorem cleans_after_last_first :
    let s := (Machine.run (Host.step .macos) {} finishesFirst).get finishes_first_runs
    Undisturbed s ∧ Known s :=
  cleans_after_last .macos _ _ (Machine.traced_run (Host.step .macos) {} finishesFirst finishes_first_runs) (by decide)

theorem comes_between_runs : (Machine.run (Host.step .macos) {} comesBetween).isSome = true := by decide

theorem cleans_live_session : ∃ s, Machine.Reachable (Host.step .macos) {} s ∧ ¬ Undisturbed s := by
  refine ⟨(Machine.run (Host.step .macos) {} comesBetween).get comes_between_runs, Machine.reachable_run _ _ _ comes_between_runs, ?_⟩
  intro undisturbed
  exact absurd (undisturbed (.restoreResolutions, 1) (by decide)) (by decide)

end GotechDesk.AuthedConns
