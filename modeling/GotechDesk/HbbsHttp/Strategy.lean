import GotechDesk.Machine
import GotechDesk.Table

set_option autoImplicit false

namespace GotechDesk.HbbsHttp

abbrev Options := List (String × String)

-- The settings of the client: what they hold in force and what they fall back to.
structure Config (Store : Type) where
  getOptions : Store → Options
  setOptions : Store → Options → Store
  defaultSettings : Options

-- An empty value removes the user's option, unless a default stands below that it has to keep out.
def changeOption (defaults options : Options) (entry : String × String) : Options :=
  if entry.2 = "" ∧ (Table.get defaults entry.1).getD "" = "" then Table.remove options entry.1 else Table.insert options entry.1 entry.2

section
variable {Store : Type} (config : Config Store)

def changedOptions (store : Store) (configOptions : Options) : Options :=
  configOptions.foldl (changeOption config.defaultSettings) (config.getOptions store)

def handleConfigOptions (store : Store) (configOptions : Options) : Store :=
  config.setOptions store (changedOptions config store configOptions)

end

-- A part of a response: not there, not what it should be, or what it should be.
inductive Part (α : Type) where
  | absent
  | malformed
  | value (content : α)
deriving DecidableEq, Repr

-- What becomes of a part the server puts into a response.
inductive Fate where
  | kept
  | dropped
  | spoilt
deriving DecidableEq, Repr

def Fate.part {α : Type} (fate : Fate) (content : α) : Part α :=
  match fate with
  | .kept => .value content
  | .dropped => .absent
  | .spoilt => .malformed

structure Strategy where
  modifiedAt : Int
  configOptions : Options
  issued : Nat
deriving DecidableEq, Repr

structure Response where
  modifiedAt : Part Int
  strategy : Part Options
deriving DecidableEq, Repr

-- Where the heartbeat stands. `wrote` is whether this response has changed the stored timestamp.
inductive Stage where
  | idle
  | requested (modifiedAt : Int)
  | responded (modifiedAt : Int) (response : Response)
  | stamped (wrote : Bool) (strategy : Part Options)
deriving DecidableEq, Repr

-- The server has issued `strategies`, the last one is in force. `applied` lists what has been
-- handed to `handle_config_options`, each with the number of strategies issued by then.
structure Sync (Store : Type) where
  strategies : List Strategy := []
  timestamp : Option Int := none
  store : Store
  stage : Stage := .idle
  applied : List (Options × Nat) := []
deriving DecidableEq, Repr

inductive Label where
  | issue (modifiedAt : Int) (configOptions : Options)
  | heartbeat
  | respond (modifiedAt strategy : Fate)
  | lost
  | writeTimestamp
  | applyStrategy
  | crash
deriving DecidableEq, Repr

section
variable {Store : Type} (config : Config Store)

def Sync.current (s : Sync Store) : Option Strategy := s.strategies.getLast?

-- The stored text is parsed, and what does not parse is zero.
def Sync.modifiedAt (s : Sync Store) : Int := s.timestamp.getD 0

-- The server sends its strategy to whoever names another time than its own.
def respond (current : Option Strategy) (requested : Int) (modifiedAt strategy : Fate) : Response :=
  match current with
  | none => ⟨.absent, .absent⟩
  | some held => if held.modifiedAt = requested then ⟨modifiedAt.part held.modifiedAt, .absent⟩
      else ⟨modifiedAt.part held.modifiedAt, strategy.part held.configOptions⟩

def Sync.step (s : Sync Store) : Label → Option (Sync Store)
  | .issue modifiedAt configOptions => some { s with strategies := s.strategies ++ [⟨modifiedAt, configOptions, s.strategies.length⟩] }
  | .heartbeat => if s.stage = .idle then some { s with stage := .requested s.modifiedAt } else none
  | .respond modifiedAt strategy =>
      match s.stage with
      | .requested requested => some { s with stage := .responded requested (respond s.current requested modifiedAt strategy) }
      | _ => none
  | .lost =>
      match s.stage with
      | .requested _ | .responded _ _ => some { s with stage := .idle }
      | _ => none
  | .writeTimestamp =>
      match s.stage with
      | .responded requested response =>
          match response.modifiedAt with
          | .value modifiedAt =>
              if modifiedAt = requested then some { s with stage := .stamped false response.strategy }
              else some { s with timestamp := some modifiedAt, stage := .stamped true response.strategy }
          | _ => some { s with stage := .stamped false response.strategy }
      | _ => none
  | .applyStrategy =>
      match s.stage with
      | .stamped _ (.value configOptions) =>
          some { s with store := handleConfigOptions config s.store configOptions, stage := .idle,
                        applied := s.applied ++ [(configOptions, s.strategies.length)] }
      | .stamped _ _ => some { s with stage := .idle }
      | _ => none
  | .crash => some { s with stage := .idle }

-- The strategy went through `handle_config_options` since it was issued.
def Applied (s : Sync Store) (strategy : Strategy) : Prop :=
  ∃ entry ∈ s.applied, entry.1 = strategy.configOptions ∧ strategy.issued < entry.2

-- The client is between the two writes of the response that brought the strategy.
def Applying (s : Sync Store) (strategy : Strategy) : Prop := s.stage = .stamped true (.value strategy.configOptions)

def Enforced (s : Sync Store) : Prop :=
  ∀ strategy, s.current = some strategy → s.modifiedAt = strategy.modifiedAt → Applied s strategy ∨ Applying s strategy

def Stage.between : Stage → Bool
  | .stamped true (.value _) => true
  | _ => false

-- A new strategy has a time of its own, a response that moves the timestamp brings the strategy
-- whole, and nothing cuts the client off between the two writes.
def Fits (s : Sync Store) : Label → Prop
  | .issue modifiedAt _ => modifiedAt ≠ 0 ∧ ∀ strategy ∈ s.strategies, strategy.modifiedAt ≠ modifiedAt
  | .respond modifiedAt strategy => modifiedAt = .kept → strategy = .kept
  | .crash => s.stage.between = false
  | _ => True

instance (s : Sync Store) (label : Label) : Decidable (Fits s label) :=
  match label with
  | .issue modifiedAt _ => inferInstanceAs (Decidable (modifiedAt ≠ 0 ∧ ∀ strategy ∈ s.strategies, strategy.modifiedAt ≠ modifiedAt))
  | .respond modifiedAt strategy => inferInstanceAs (Decidable (modifiedAt = .kept → strategy = .kept))
  | .crash => inferInstanceAs (Decidable (s.stage.between = false))
  | .heartbeat | .lost | .writeTimestamp | .applyStrategy => inferInstanceAs (Decidable True)

structure Sound (s : Sync Store) : Prop where
  own : ∀ first ∈ s.strategies, ∀ second ∈ s.strategies, first.modifiedAt = second.modifiedAt → first = second
  nonzero : ∀ strategy ∈ s.strategies, strategy.modifiedAt ≠ 0
  issued : ∀ strategy ∈ s.strategies, strategy.issued < s.strategies.length
  known : s.modifiedAt = 0 ∨ ∃ strategy ∈ s.strategies, strategy.modifiedAt = s.modifiedAt
  whole : ∀ requested response modifiedAt, s.stage = .responded requested response → response.modifiedAt = .value modifiedAt →
    modifiedAt ≠ requested → ∃ strategy ∈ s.strategies, strategy.modifiedAt = modifiedAt ∧ response.strategy = .value strategy.configOptions
  enforced : ∀ strategy ∈ s.strategies, s.modifiedAt = strategy.modifiedAt → Applied s strategy ∨ Applying s strategy

-- A step that writes nothing and brings no response.
theorem sound_stage (s : Sync Store) (stage : Stage) (sound : Sound s) (settled : s.stage.between = false)
    (whole : ∀ requested response, stage ≠ .responded requested response) : Sound { s with stage } := by
  refine { sound with whole := fun requested response _ stands => absurd stands (whole requested response), enforced := ?_ }
  intro strategy member stored
  rcases sound.enforced strategy member stored with applied | applying
  · exact .inl applied
  · rw [applying] at settled
    cases settled

theorem sound_issue (s : Sync Store) (modifiedAt : Int) (configOptions : Options) (sound : Sound s) (nonzero : modifiedAt ≠ 0)
    (fresh : ∀ strategy ∈ s.strategies, strategy.modifiedAt ≠ modifiedAt) :
    Sound { s with strategies := s.strategies ++ [⟨modifiedAt, configOptions, s.strategies.length⟩] } := by
  have unread : s.modifiedAt ≠ modifiedAt := by
    rcases sound.known with zero | ⟨strategy, member, same⟩
    · rw [zero]
      exact nonzero.symm
    · rw [← same]
      exact fresh strategy member
  refine ⟨?_, ?_, ?_, ?_, ?_, ?_⟩
  · intro first member second member' same
    rcases List.mem_append.mp member with old | new
    · rcases List.mem_append.mp member' with old' | new'
      · exact sound.own first old second old' same
      · rw [List.mem_singleton.mp new'] at same
        exact absurd same (fresh first old)
    · rcases List.mem_append.mp member' with old' | new'
      · rw [List.mem_singleton.mp new] at same
        exact absurd same.symm (fresh second old')
      · rw [List.mem_singleton.mp new, List.mem_singleton.mp new']
  · intro strategy member
    rcases List.mem_append.mp member with old | new
    · exact sound.nonzero strategy old
    · rw [List.mem_singleton.mp new]
      exact nonzero
  · intro strategy member
    rw [List.length_append]
    rcases List.mem_append.mp member with old | new
    · exact Nat.lt_succ_of_lt (sound.issued strategy old)
    · rw [List.mem_singleton.mp new]
      exact Nat.lt_succ_self _
  · rcases sound.known with zero | ⟨strategy, member, same⟩
    · exact .inl zero
    · exact .inr ⟨strategy, List.mem_append_left _ member, same⟩
  · intro requested response named stands part other
    obtain ⟨strategy, member, rest⟩ := sound.whole requested response named stands part other
    exact ⟨strategy, List.mem_append_left _ member, rest⟩
  · intro strategy member stored
    rcases List.mem_append.mp member with old | new
    · exact sound.enforced strategy old stored
    · rw [List.mem_singleton.mp new] at stored
      exact absurd stored unread

-- A response that names a new time, and the strategy it brings.
theorem respond_whole (current : Option Strategy) (requested named : Int) (modifiedAt strategy : Fate)
    (fits : modifiedAt = .kept → strategy = .kept) (part : (respond current requested modifiedAt strategy).modifiedAt = .value named)
    (other : named ≠ requested) : ∃ held, current = some held ∧ held.modifiedAt = named ∧
      (respond current requested modifiedAt strategy).strategy = .value held.configOptions := by
  cases current with
  | none => cases part
  | some held =>
      rw [respond] at part ⊢
      cases modifiedAt with
      | dropped => split at part <;> cases part
      | spoilt => split at part <;> cases part
      | kept =>
          have same : held.modifiedAt = named := by
            split at part
            · exact Part.value.inj part
            · exact Part.value.inj part
          rw [fits rfl, if_neg (by rw [same]; exact other)]
          exact ⟨held, rfl, same, rfl⟩

theorem sound_respond (s : Sync Store) (requested : Int) (modifiedAt strategy : Fate) (sound : Sound s) (stands : s.stage = .requested requested)
    (fits : modifiedAt = .kept → strategy = .kept) :
    Sound { s with stage := .responded requested (respond s.current requested modifiedAt strategy) } := by
  refine { sound with whole := ?_, enforced := ?_ }
  · intro other response named reached part differs
    obtain ⟨rfl, rfl⟩ := Stage.responded.inj reached
    obtain ⟨held, current, same, whole⟩ := respond_whole s.current requested named modifiedAt strategy fits part differs
    exact ⟨held, List.mem_of_getLast? current, same, whole⟩
  · intro held member stored
    rcases sound.enforced held member stored with applied | applying
    · exact .inl applied
    · rw [Applying, stands] at applying
      cases applying

theorem sound_write (s : Sync Store) (requested modifiedAt : Int) (response : Response) (sound : Sound s)
    (stands : s.stage = .responded requested response) (part : response.modifiedAt = .value modifiedAt) (differs : modifiedAt ≠ requested) :
    Sound { s with timestamp := some modifiedAt, stage := .stamped true response.strategy } := by
  obtain ⟨held, listed, same, whole⟩ := sound.whole requested response modifiedAt stands part differs
  refine ⟨sound.own, sound.nonzero, sound.issued, .inr ⟨held, listed, same⟩, (fun _ _ _ reached => by cases reached), ?_⟩
  intro strategy member stored
  obtain rfl : strategy = held := sound.own strategy member held listed (stored.symm.trans same.symm)
  right
  rw [Applying, whole]

theorem sound_apply (s : Sync Store) (wrote : Bool) (configOptions : Options) (store : Store) (sound : Sound s)
    (stands : s.stage = .stamped wrote (.value configOptions)) :
    Sound { s with store, stage := .idle, applied := s.applied ++ [(configOptions, s.strategies.length)] } := by
  refine { sound with whole := (fun _ _ _ reached => by cases reached), enforced := ?_ }
  intro strategy member stored
  left
  rcases sound.enforced strategy member stored with ⟨entry, listed, same⟩ | applying
  · exact ⟨entry, List.mem_append_left _ listed, same⟩
  · rw [Applying, stands] at applying
    obtain ⟨_, brought⟩ := Stage.stamped.inj applying
    exact ⟨(configOptions, s.strategies.length), List.mem_append_right _ List.mem_cons_self, Part.value.inj brought,
      sound.issued strategy member⟩

theorem sound_written (s next : Sync Store) (sound : Sound s) (taken : s.step config .writeTimestamp = some next) : Sound next := by
  rw [Sync.step] at taken
  cases stands : s.stage with
  | idle | requested modifiedAt | stamped wrote strategy =>
      rw [stands] at taken
      cases taken
  | responded requested response =>
      have settled : s.stage.between = false := by rw [stands]; rfl
      rw [stands] at taken
      dsimp only at taken
      cases part : response.modifiedAt with
      | absent | malformed =>
          rw [part] at taken
          obtain rfl := Option.some.inj taken
          exact sound_stage s _ sound settled (fun _ _ same => by cases same)
      | value modifiedAt =>
          rw [part] at taken
          dsimp only at taken
          by_cases same : modifiedAt = requested
          · rw [if_pos same] at taken
            obtain rfl := Option.some.inj taken
            exact sound_stage s _ sound settled (fun _ _ same => by cases same)
          · rw [if_neg same] at taken
            obtain rfl := Option.some.inj taken
            exact sound_write s requested modifiedAt response sound stands part same

theorem sound_applied (s next : Sync Store) (sound : Sound s) (taken : s.step config .applyStrategy = some next) : Sound next := by
  rw [Sync.step] at taken
  cases stands : s.stage with
  | idle | requested modifiedAt | responded modifiedAt response =>
      rw [stands] at taken
      cases taken
  | stamped wrote strategy =>
      rw [stands] at taken
      cases strategy with
      | value configOptions =>
          obtain rfl := Option.some.inj taken
          exact sound_apply s wrote configOptions _ sound stands
      | absent | malformed =>
          obtain rfl := Option.some.inj taken
          apply sound_stage s .idle sound
          · rw [stands]
            cases wrote <;> rfl
          · exact fun _ _ same => by cases same

theorem sound_step (s next : Sync Store) (label : Label) (sound : Sound s) (fits : Fits s label) (taken : s.step config label = some next) :
    Sound next := by
  cases label with
  | issue modifiedAt configOptions =>
      obtain rfl := Option.some.inj taken
      exact sound_issue s modifiedAt configOptions sound fits.1 fits.2
  | heartbeat =>
      obtain ⟨idle, rfl⟩ := Option.ite_some_none_eq_some.mp taken
      exact sound_stage s _ sound (by rw [idle]; rfl) (fun _ _ same => by cases same)
  | respond modifiedAt strategy =>
      rw [Sync.step] at taken
      cases stands : s.stage with
      | requested requested =>
          rw [stands] at taken
          obtain rfl := Option.some.inj taken
          exact sound_respond s requested modifiedAt strategy sound stands fits
      | _ =>
          rw [stands] at taken
          cases taken
  | lost =>
      rw [Sync.step] at taken
      cases stands : s.stage with
      | requested requested | responded requested response =>
          rw [stands] at taken
          obtain rfl := Option.some.inj taken
          exact sound_stage s _ sound (by rw [stands]; rfl) (fun _ _ same => by cases same)
      | _ =>
          rw [stands] at taken
          cases taken
  | writeTimestamp => exact sound_written config s next sound taken
  | applyStrategy => exact sound_applied config s next sound taken
  | crash =>
      obtain rfl := Option.some.inj taken
      exact sound_stage s _ sound fits (fun _ _ same => by cases same)

theorem sound_init (store : Store) : Sound ({ store } : Sync Store) :=
  { own := fun _ member => by cases member
    nonzero := fun _ member => by cases member
    issued := fun _ member => by cases member
    known := .inl rfl
    whole := fun _ _ _ reached => by cases reached
    enforced := fun _ member => by cases member }

-- In every run whose steps all fit, a timestamp that equals the server's says that its
-- strategy has been applied, or is being applied right now.
theorem strategy_enforced (store : Store) (past : List (Sync Store × Label)) (s : Sync Store)
    (traced : Machine.Traced (Sync.step config) { store } past s) (fitting : ∀ entry ∈ past, Fits entry.1 entry.2) : Enforced s := by
  have sound := (Machine.traced_kept (Sync.step config) Sound Fits { store } s past (sound_init store)
    (fun state label next sound fits taken => sound_step config state next label sound fits taken) traced fitting).2
  intro strategy current stored
  exact sound.enforced strategy (List.mem_of_getLast? current) stored

end

-- Settings that hold what was set, with no defaults.
def plainConfig : Config Options := { getOptions := id, setOptions := fun _ options => options, defaultSettings := [] }

def pushed : List Label :=
  [.heartbeat, .respond .kept .kept, .writeTimestamp, .applyStrategy, .issue 5 [("allow-remote", "N")], .heartbeat, .respond .spoilt .kept,
    .writeTimestamp, .crash, .heartbeat, .respond .kept .kept, .writeTimestamp, .applyStrategy, .heartbeat, .lost]

theorem pushed_runs : (Machine.run (Sync.step plainConfig) { store := [] } pushed).isSome = true := by decide

theorem strategy_enforced_pushed : Enforced ((Machine.run (Sync.step plainConfig) { store := [] } pushed).get pushed_runs) :=
  strategy_enforced plainConfig [] _ _ (Machine.traced_run (Sync.step plainConfig) { store := [] } pushed pushed_runs) (by decide)

-- The client dies after it stored the time and before it applied the strategy.
def cutOff : List Label := [.issue 5 [("allow-remote", "N")], .heartbeat, .respond .kept .kept, .writeTimestamp, .crash]

theorem cut_off_runs : (Machine.run (Sync.step plainConfig) { store := [] } cutOff).isSome = true := by decide

theorem strategy_cut_off : ∃ s, Machine.Reachable (Sync.step plainConfig) { store := [] } s ∧ s.stage = .idle ∧
    ∃ strategy, s.current = some strategy ∧ s.modifiedAt = strategy.modifiedAt ∧ ¬ Applied s strategy := by
  refine ⟨(Machine.run (Sync.step plainConfig) { store := [] } cutOff).get cut_off_runs, Machine.reachable_run _ _ _ cut_off_runs, by decide,
    ⟨5, [("allow-remote", "N")], 0⟩, by decide, by decide, ?_⟩
  rintro ⟨entry, member, _⟩
  have none : ((Machine.run (Sync.step plainConfig) { store := [] } cutOff).get cut_off_runs).applied = [] := by decide
  rw [none] at member
  cases member

end GotechDesk.HbbsHttp
