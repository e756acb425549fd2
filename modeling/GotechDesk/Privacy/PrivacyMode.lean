import Mathlib

set_option autoImplicit false

namespace GotechDesk.Privacy

def invalidPrivacyModeConnId : Int32 := 0
def occupied : String := "Privacy occupied by another one."
def turnOffOtherId : String := "Failed to turn off privacy mode that belongs to someone else."

-- An implementation as the connections see it; what it does to the screen is left out.
structure PrivacyMode where
  implKey : String
  isAsync : Bool
  preConnId : Int32
deriving DecidableEq

def PrivacyMode.checkOnConnId (mode : PrivacyMode) (connId : Int32) : Except String Bool :=
  if mode.preConnId = connId then .ok true
  else if mode.preConnId ≠ invalidPrivacyModeConnId then .error occupied
  else .ok false

def PrivacyMode.checkOffConnId (mode : PrivacyMode) (connId : Int32) : Except String Unit :=
  if mode.preConnId ≠ invalidPrivacyModeConnId ∧ connId ≠ invalidPrivacyModeConnId ∧ mode.preConnId ≠ connId then .error turnOffOtherId
  else .ok ()

-- What comes of a turn-on after its check.
inductive OnOutcome where
  | took
  | refused
  | failed (text : String)
deriving DecidableEq

def PrivacyMode.turnOnPrivacy (mode : PrivacyMode) (connId : Int32) (outcome : OnOutcome) : PrivacyMode × Except String Bool :=
  match mode.checkOnConnId connId with
  | .error text => (mode, .error text)
  | .ok true => (mode, .ok true)
  | .ok false =>
      match outcome with
      | .took => ({ mode with preConnId := connId }, .ok true)
      | .refused => (mode, .ok false)
      | .failed text => (mode, .error text)

def PrivacyMode.turnOffPrivacy (mode : PrivacyMode) (connId : Int32) (outcome : Except String Unit) : PrivacyMode × Except String Unit :=
  match mode.checkOffConnId connId with
  | .error text => (mode, .error text)
  | .ok _ => ({ mode with preConnId := invalidPrivacyModeConnId }, outcome)

-- What the machine offers: the implementation behind a key, and whether it is asynchronous;
-- the key that stands in for one that is asked for; and whether there is a default at all.
structure Setup where
  creator : String → Option Bool
  supportedImpl : String → String
  supported : Bool

def getPrivacyModeConnId (mode : Option PrivacyMode) : Int32 := mode.elim invalidPrivacyModeConnId PrivacyMode.preConnId

def curImplKey (mode : Option PrivacyMode) : String := mode.elim "" PrivacyMode.implKey

def isInPrivacyMode (mode : Option PrivacyMode) : Bool := mode.any (fun mode => mode.preConnId ≠ invalidPrivacyModeConnId)

def isAsyncPrivacyMode (mode : Option PrivacyMode) : Bool := mode.any PrivacyMode.isAsync

def turnOffPrivacy (mode : Option PrivacyMode) (connId : Int32) (outcome : Except String Unit) : Option PrivacyMode :=
  mode.map (fun mode => (mode.turnOffPrivacy connId outcome).1)

-- The implementation the key stands for is put in place, and turned on.
def switchAndTurnOn (setup : Setup) (mode : Option PrivacyMode) (implKey : String) (connId : Int32) (outcome : OnOutcome) :
    Option PrivacyMode × Option (Except String Bool) :=
  if curImplKey mode ≠ implKey then
    match setup.creator implKey with
    | none => (mode, some (.error ("Unsupported privacy mode: " ++ implKey)))
    | some isAsync =>
        let turned := PrivacyMode.turnOnPrivacy { implKey := implKey, isAsync := isAsync, preConnId := invalidPrivacyModeConnId } connId outcome
        (some turned.1, some turned.2)
  else
    match mode with
    | none => (none, none)
    | some mode =>
        let turned := mode.turnOnPrivacy connId outcome
        (some turned.1, some turned.2)

def turnOnPrivacySync (setup : Setup) (mode : Option PrivacyMode) (implKey : String) (connId : Int32) (outcome : OnOutcome) :
    Option PrivacyMode × Option (Except String Bool) :=
  match mode with
  | none => switchAndTurnOn setup none (setup.supportedImpl implKey) connId outcome
  | some current =>
      match current.checkOnConnId connId with
      | .error text => (some current, some (.error text))
      | .ok true =>
          if current.implKey = setup.supportedImpl implKey then (some current, some (.ok true))
          else switchAndTurnOn setup (some current) (setup.supportedImpl implKey) connId outcome
      | .ok false => switchAndTurnOn setup (some current) (setup.supportedImpl implKey) connId outcome

-- The option of the local user interface.
def switch (setup : Setup) (mode : Option PrivacyMode) (implKey : String) : Option PrivacyMode :=
  if mode.any (fun mode => mode.implKey = implKey) then mode
  else match setup.creator implKey with
    | some isAsync => some { implKey := implKey, isAsync := isAsync, preConnId := invalidPrivacyModeConnId }
    | none => mode

-- When a turn-on of a connection that does not hold the mode yet makes it the holder.
def Takes (setup : Setup) (mode : Option PrivacyMode) (implKey : String) (outcome : OnOutcome) : Prop :=
  getPrivacyModeConnId mode = invalidPrivacyModeConnId ∧ outcome = .took ∧
    (if curImplKey mode = setup.supportedImpl implKey then mode.isSome else (setup.creator (setup.supportedImpl implKey)).isSome) = true

instance (setup : Setup) (mode : Option PrivacyMode) (implKey : String) (outcome : OnOutcome) : Decidable (Takes setup mode implKey outcome) := by
  unfold Takes
  infer_instance

section
variable (mode : Option PrivacyMode) (connId : Int32) (outcome : Except String Unit)

theorem turn_off_holder (allowed : getPrivacyModeConnId mode = invalidPrivacyModeConnId ∨ connId = invalidPrivacyModeConnId ∨ getPrivacyModeConnId mode = connId) :
    getPrivacyModeConnId (turnOffPrivacy mode connId outcome) = invalidPrivacyModeConnId := by
  cases mode with
  | none => rfl
  | some mode =>
      have checked : mode.checkOffConnId connId = .ok () := by
        unfold PrivacyMode.checkOffConnId
        apply if_neg
        rintro ⟨held, named, other⟩
        obtain free | wild | own := allowed
        · exact held free
        · exact named wild
        · exact other own
      change PrivacyMode.preConnId (mode.turnOffPrivacy connId outcome).1 = _
      unfold PrivacyMode.turnOffPrivacy
      rw [checked]

theorem turn_off_other (held : getPrivacyModeConnId mode ≠ invalidPrivacyModeConnId) (named : connId ≠ invalidPrivacyModeConnId)
    (other : getPrivacyModeConnId mode ≠ connId) : turnOffPrivacy mode connId outcome = mode := by
  cases mode with
  | none => rfl
  | some mode =>
      have refused : mode.checkOffConnId connId = .error turnOffOtherId := if_pos ⟨held, named, other⟩
      change some (mode.turnOffPrivacy connId outcome).1 = _
      unfold PrivacyMode.turnOffPrivacy
      rw [refused]

end

theorem turn_on_free (mode : PrivacyMode) (connId : Int32) (outcome : OnOutcome) (free : mode.preConnId = invalidPrivacyModeConnId)
    (named : connId ≠ invalidPrivacyModeConnId) :
    (mode.turnOnPrivacy connId outcome).1.preConnId = if outcome = .took then connId else invalidPrivacyModeConnId := by
  have checked : mode.checkOnConnId connId = .ok false := by
    unfold PrivacyMode.checkOnConnId
    rw [free, if_neg (Ne.symm named), if_neg (fun held => held rfl)]
  unfold PrivacyMode.turnOnPrivacy
  rw [checked]
  cases outcome with
  | took => rfl
  | refused => simpa using free
  | failed text => simpa using free

section
variable (setup : Setup) (mode : Option PrivacyMode) (implKey : String) (connId : Int32) (outcome : OnOutcome)

-- Nobody holds the mode, or the connection itself does.
theorem switch_and_turn_on_holder (named : connId ≠ invalidPrivacyModeConnId) (free : getPrivacyModeConnId mode = invalidPrivacyModeConnId) :
    getPrivacyModeConnId (switchAndTurnOn setup mode implKey connId outcome).1 =
      if outcome = .took ∧ (if curImplKey mode = implKey then mode.isSome else (setup.creator implKey).isSome) = true then connId
      else invalidPrivacyModeConnId := by
  unfold switchAndTurnOn
  by_cases same : curImplKey mode = implKey
  · rw [if_neg (fun differs => differs same), if_pos same]
    cases mode with
    | none => simp [getPrivacyModeConnId]
    | some mode =>
        simp only [Option.isSome_some, and_true]
        exact turn_on_free mode connId outcome free named
  · rw [if_pos same, if_neg same]
    cases setup.creator implKey with
    | none => simpa using free
    | some isAsync =>
        simp only [Option.isSome_some, and_true]
        exact turn_on_free _ connId outcome rfl named

theorem turn_on_sync_other (held : getPrivacyModeConnId mode ≠ invalidPrivacyModeConnId) (other : getPrivacyModeConnId mode ≠ connId) :
    (turnOnPrivacySync setup mode implKey connId outcome).1 = mode := by
  cases mode with
  | none => exact absurd rfl held
  | some current =>
      have refused : current.checkOnConnId connId = .error occupied := by
        unfold PrivacyMode.checkOnConnId
        rw [if_neg (show current.preConnId ≠ connId from other), if_pos (show current.preConnId ≠ invalidPrivacyModeConnId from held)]
      unfold turnOnPrivacySync
      dsimp only
      rw [refused]

theorem turn_on_sync_free (named : connId ≠ invalidPrivacyModeConnId) (free : getPrivacyModeConnId mode = invalidPrivacyModeConnId) :
    getPrivacyModeConnId (turnOnPrivacySync setup mode implKey connId outcome).1 =
      if Takes setup mode implKey outcome then connId else invalidPrivacyModeConnId := by
  have shape : turnOnPrivacySync setup mode implKey connId outcome = switchAndTurnOn setup mode (setup.supportedImpl implKey) connId outcome := by
    cases mode with
    | none => rfl
    | some current =>
        have checked : current.checkOnConnId connId = .ok false := by
          unfold PrivacyMode.checkOnConnId
          rw [show current.preConnId = invalidPrivacyModeConnId from free, if_neg (Ne.symm named), if_neg (fun held => held rfl)]
        unfold turnOnPrivacySync
        dsimp only
        rw [checked]
  rw [shape, switch_and_turn_on_holder setup mode _ connId outcome named free]
  simp only [Takes, free, true_and]

-- The holder that asks again keeps the mode or loses it.
theorem turn_on_sync_own (named : connId ≠ invalidPrivacyModeConnId) (own : getPrivacyModeConnId mode = connId) :
    getPrivacyModeConnId (turnOnPrivacySync setup mode implKey connId outcome).1 = connId ∨
      getPrivacyModeConnId (turnOnPrivacySync setup mode implKey connId outcome).1 = invalidPrivacyModeConnId := by
  cases mode with
  | none => exact absurd own.symm named
  | some current =>
      have checked : current.checkOnConnId connId = .ok true := if_pos own
      unfold turnOnPrivacySync
      dsimp only
      rw [checked]
      dsimp only
      by_cases same : current.implKey = setup.supportedImpl implKey
      · rw [if_pos same]
        exact Or.inl own
      rw [if_neg same]
      unfold switchAndTurnOn
      rw [if_pos (show curImplKey (some current) ≠ _ from same)]
      cases setup.creator (setup.supportedImpl implKey) with
      | none => exact Or.inl own
      | some isAsync =>
          have turned := turn_on_free { implKey := setup.supportedImpl implKey, isAsync := isAsync, preConnId := invalidPrivacyModeConnId }
            connId outcome rfl named
          by_cases took : outcome = .took
          · exact Or.inl (turned.trans (if_pos took))
          · exact Or.inr (turned.trans (if_neg took))

end

theorem switch_holder (setup : Setup) (mode : Option PrivacyMode) (implKey : String) :
    switch setup mode implKey = mode ∨ getPrivacyModeConnId (switch setup mode implKey) = invalidPrivacyModeConnId := by
  unfold switch
  by_cases same : mode.any (fun mode => mode.implKey = implKey) = true
  · exact Or.inl (if_pos same)
  rw [if_neg same]
  cases setup.creator implKey with
  | none => exact Or.inl rfl
  | some isAsync => exact Or.inr rfl

end GotechDesk.Privacy
