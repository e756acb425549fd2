import GotechDesk.Machine

set_option autoImplicit false

namespace GotechDesk.VirtualDisplay.AmyuniIdd

open GotechDesk.Machine

def virtualDisplayMaxCount : Nat := 4

def iddPlugOutAllIndex : Int := -1

def errorNoMoreItems : Int := 259

inductive DeviceError where
  | winApiLastErr (api : String) (rawOsError : Option Int)
  | winApiErrCode (api : String) (code : Nat)
  | raw (text : String)
deriving DecidableEq, Repr

inductive Failure where
  | bail (text : String)
  | device (error : DeviceError)
deriving DecidableEq, Repr

-- The active displays of the host, those of the driver apart, and the module's statics.
-- `issued` counts the plug-out commands sent so far.
structure Host where
  others : Nat
  virtual : Nat
  count : Nat
  lastPlugInHeadless : Option Nat
  issued : Nat
deriving DecidableEq, Repr

def Host.new (others virtual : Nat) : Host := { others := others, virtual := virtual, count := 0, lastPlugInHeadless := none, issued := 0 }

def getMonitorCount (host : Host) : Nat := host.virtual

def allCount (host : Host) : Nat := host.others + host.virtual

-- The driver's answer to a command to add a display, with whether a display came up, and
-- whether the three seconds of plug_in_monitor_ have not passed yet.
structure Attempt where
  answer : Except DeviceError Bool
  inTime : Bool

def plugMonitorAdd (host : Host) (cameUp : Bool) : Host :=
  { host with
    virtual := if cameUp then host.virtual + 1 else host.virtual
    count := if host.count < virtualDisplayMaxCount then host.count + 1 else host.count }

-- The driver removes one display if it has one; an error of the call skips the count.
def plugMonitorRemove (host : Host) (answered : Bool) : Host :=
  { host with
    virtual := host.virtual - 1
    count := if answered = true ∧ 0 < host.count then host.count - 1 else host.count
    issued := host.issued + 1 }

-- The loop of plug_in_monitor_ over the attempts it made; it has not returned when they run out.
def plugInMonitorLoop (host : Host) (isDriverAsyncInstalled : Bool) : List Attempt → Option (Host × Except Failure Unit)
  | [] => none
  | attempt :: rest =>
      match attempt.answer with
      | .ok cameUp => if rest = [] then some (plugMonitorAdd host cameUp, .ok ()) else none
      | .error error =>
          match error with
          | .winApiLastErr _ (some code) =>
              if isDriverAsyncInstalled = true ∧ code = errorNoMoreItems ∧ attempt.inTime = true then
                plugInMonitorLoop host isDriverAsyncInstalled rest
              else if rest = [] then some (host, .error (.device error)) else none
          | _ => if rest = [] then some (host, .error (.device error)) else none

-- check_install_driver fails, or tells whether the driver is installed asynchronously.
def plugInHeadless (host : Host) (now : Nat) (install : Option Bool) (attempts : List Attempt) : Option (Host × Except Failure Unit) :=
  if host.lastPlugInHeadless.any (fun last => now - last < 3000) then some (host, .error (.bail "Plugging in too frequently."))
  else
    let stamped := { host with lastPlugInHeadless := some now }
    match install with
    | none => some (stamped, .error (.bail "Failed to install driver."))
    | some isAsync => plugInMonitorLoop stamped isAsync attempts

def plugInMonitor (host : Host) (install : Option Bool) (attempts : List Attempt) : Option (Host × Except Failure Unit) :=
  match install with
  | none => some (host, .error (.bail "Failed to install driver."))
  | some isAsync =>
      if getMonitorCount host = virtualDisplayMaxCount then some (host, .error (.bail "There are already 4 monitors plugged in."))
      else plugInMonitorLoop host isAsync attempts

-- The match on all_count; the call does nothing when no display is active.
def matchAllCount (all plugInCount : Nat) (forceAll : Bool) : Except Failure Nat :=
  if all = 0 then .ok 0
  else if all = 1 then
    if plugInCount = 0 then .error (.bail "No virtual displays to plug out.")
    else if forceAll then .ok 1 else .error (.bail "This only virtual display cannot be plugged out.")
  else if all = plugInCount then .ok (if forceAll then all else all - 1)
  else .ok plugInCount

def toPlugOutCount (host : Host) (index : Int) (forceAll forceOne : Bool) : Except Failure Nat :=
  if index = iddPlugOutAllIndex then matchAllCount (allCount host) host.count forceAll
  else
    let plugInCount : Except Failure Nat :=
      if host.count = 0 ∧ 0 < getMonitorCount host then
        if forceOne then .ok 1 else .error (.bail "The virtual display is managed by other processes.")
      else .ok host.count
    plugInCount.bind (fun count => (matchAllCount (allCount host) count forceAll).map (fun toPlugOut => if toPlugOut ≠ 0 then 1 else toPlugOut))

-- `answers` tells which of the commands the driver answers without an error.
def plugOutLoop (answers : Nat → Bool) (host : Host) : Nat → Host
  | 0 => host
  | done + 1 => plugMonitorRemove (plugOutLoop answers host done) (answers done)

def plugOutMonitor (host : Host) (index : Int) (forceAll forceOne : Bool) (answers : Nat → Bool) : Host × Except Failure Unit :=
  match toPlugOutCount host index forceAll forceOne with
  | .error failure => (host, .error failure)
  | .ok toPlugOut => (plugOutLoop answers host toPlugOut, .ok ())

def resetAll (host : Host) (answers : Nat → Bool) : Host :=
  { (plugOutMonitor host iddPlugOutAllIndex true false answers).1 with lastPlugInHeadless := none }

inductive Label where
  | physical (others : Nat)
  | otherProcess (virtual : Nat)
  | plugInMonitor (install : Option Bool) (attempts : List Attempt)
  | plugInHeadless (now : Nat) (install : Option Bool) (attempts : List Attempt)
  | plugOutMonitor (index : Int) (forceAll forceOne : Bool) (answers : Nat → Bool)
  | resetAll (answers : Nat → Bool)

def step (host : Host) : Label → Option Host
  | .physical others => some { host with others := others }
  | .otherProcess virtual => some { host with virtual := virtual }
  | .plugInMonitor install attempts => (plugInMonitor host install attempts).map Prod.fst
  | .plugInHeadless now install attempts => (plugInHeadless host now install attempts).map Prod.fst
  | .plugOutMonitor index forceAll forceOne answers => some (plugOutMonitor host index forceAll forceOne answers).1
  | .resetAll answers => some (resetAll host answers)

-- A call that is not forced to take out everything leaves a display if there was one.
def Keeps (entry : Host × Label) : Prop :=
  ∀ index forceOne answers next, entry.2 = .plugOutMonitor index false forceOne answers → step entry.1 entry.2 = some next →
    0 < allCount entry.1 → 0 < allCount next

-- The commands such a call sends.
def Bounded (entry : Host × Label) : Prop :=
  ∀ index forceOne answers next, entry.2 = .plugOutMonitor index false forceOne answers → step entry.1 entry.2 = some next →
    next.issued ≤ entry.1.issued + (if entry.1.count = 0 ∧ forceOne = true then 1 else entry.1.count)

-- Only virtual displays are left, and fewer of them than the count says.
def Overcounted (host : Host) : Prop := host.others = 0 ∧ 2 ≤ host.virtual ∧ host.virtual < host.count

instance (host : Host) : Decidable (Overcounted host) := inferInstanceAs (Decidable (_ ∧ _ ∧ _))

def Fits (entry : Host × Label) : Prop :=
  ∀ forceOne answers, entry.2 = .plugOutMonitor iddPlugOutAllIndex false forceOne answers → ¬ Overcounted entry.1

theorem plug_out_loop_effect (answers : Nat → Bool) (host : Host) (times : Nat) :
    (plugOutLoop answers host times).others = host.others ∧ (plugOutLoop answers host times).virtual = host.virtual - times ∧
      (plugOutLoop answers host times).issued = host.issued + times ∧ (plugOutLoop answers host times).count ≤ host.count := by
  induction times with
  | zero => exact ⟨rfl, rfl, rfl, Nat.le_refl _⟩
  | succ done ih =>
      obtain ⟨others, virtual, issued, count⟩ := ih
      simp only [plugOutLoop, plugMonitorRemove]
      refine ⟨others, by rw [virtual, Nat.sub_sub], by rw [issued, Nat.add_assoc], ?_⟩
      split
      · exact Nat.le_trans (Nat.sub_le _ _) count
      · exact count

-- Without force_all the last of the active displays is spared, unless the count exceeds them.
theorem match_all_count_unforced (all plugInCount toPlugOut : Nat) (active : 0 < all)
    (chosen : matchAllCount all plugInCount false = .ok toPlugOut) :
    2 ≤ all ∧ toPlugOut = if all = plugInCount then all - 1 else plugInCount := by
  rw [matchAllCount, if_neg (Nat.pos_iff_ne_zero.mp active)] at chosen
  by_cases single : all = 1
  · rw [if_pos single] at chosen
    split at chosen <;> cases chosen
  · rw [if_neg single] at chosen
    refine ⟨by omega, ?_⟩
    by_cases same : all = plugInCount
    · rw [if_pos same] at chosen ⊢
      exact (Except.ok.inj chosen).symm
    · rw [if_neg same] at chosen ⊢
      exact (Except.ok.inj chosen).symm

theorem plug_out_all_chosen (host : Host) (forceOne : Bool) (toPlugOut : Nat) (active : 0 < allCount host)
    (chosen : toPlugOutCount host iddPlugOutAllIndex false forceOne = .ok toPlugOut) :
    2 ≤ allCount host ∧ toPlugOut = if allCount host = host.count then allCount host - 1 else host.count := by
  rw [toPlugOutCount, if_pos rfl] at chosen
  exact match_all_count_unforced _ _ _ active chosen

section
variable (host : Host) (index : Int)

-- Any other index takes out one display at most, and leaves a single one alone.
theorem plug_out_one_chosen (forceOne : Bool) (toPlugOut : Nat) (active : 0 < allCount host)
    (one : index ≠ iddPlugOutAllIndex) (chosen : toPlugOutCount host index false forceOne = .ok toPlugOut) :
    2 ≤ allCount host ∧ toPlugOut ≤ 1 ∧ toPlugOut ≤ if host.count = 0 ∧ forceOne = true then 1 else host.count := by
  rw [toPlugOutCount, if_neg one] at chosen
  obtain ⟨count, counted, picked⟩ : ∃ count, (count = host.count ∨ host.count = 0 ∧ forceOne = true ∧ count = 1) ∧
      (matchAllCount (allCount host) count false).map (fun toPlugOut => if toPlugOut ≠ 0 then 1 else toPlugOut) = .ok toPlugOut := by
    split at chosen
    next managed =>
      cases forceOne with
      | false => cases chosen
      | true => exact ⟨1, .inr ⟨managed.1, rfl, rfl⟩, chosen⟩
    next => exact ⟨host.count, .inl rfl, chosen⟩
  cases matched : matchAllCount (allCount host) count false with
  | error failure => simp [matched, Except.map] at picked
  | ok number =>
      obtain ⟨two, number_eq⟩ := match_all_count_unforced _ _ _ active matched
      have picked : (if number ≠ 0 then 1 else number) = toPlugOut := by simpa [matched, Except.map] using picked
      refine ⟨two, ?_⟩
      grind

-- Nothing is taken out where nothing is active.
theorem nothing_chosen (forceAll forceOne : Bool) (toPlugOut : Nat) (dark : allCount host = 0)
    (chosen : toPlugOutCount host index forceAll forceOne = .ok toPlugOut) : toPlugOut = 0 := by
  have managed : ¬ (host.count = 0 ∧ 0 < getMonitorCount host) := by
    have : host.virtual = 0 := (Nat.add_eq_zero_iff.mp dark).2
    simp [getMonitorCount, this]
  by_cases all : index = iddPlugOutAllIndex
  · rw [toPlugOutCount, if_pos all, matchAllCount, if_pos dark] at chosen
    exact (Except.ok.inj chosen).symm
  · rw [toPlugOutCount, if_neg all, if_neg managed] at chosen
    simpa [Except.bind, Except.map, matchAllCount, dark, eq_comm] using chosen

theorem plug_out_shape (forceAll forceOne : Bool) (answers : Nat → Bool) : (plugOutMonitor host index forceAll forceOne answers).1 = host ∨
      ∃ toPlugOut, toPlugOutCount host index forceAll forceOne = .ok toPlugOut ∧
        (plugOutMonitor host index forceAll forceOne answers).1 = plugOutLoop answers host toPlugOut := by
  cases chosen : toPlugOutCount host index forceAll forceOne with
  | error failure => exact .inl (by simp [plugOutMonitor, chosen])
  | ok toPlugOut => exact .inr ⟨toPlugOut, rfl, by simp [plugOutMonitor, chosen]⟩

theorem plug_out_bounded (forceOne : Bool) (answers : Nat → Bool) : (plugOutMonitor host index false forceOne answers).1.issued ≤
      host.issued + (if host.count = 0 ∧ forceOne = true then 1 else host.count) := by
  obtain same | ⟨toPlugOut, chosen, taken⟩ := plug_out_shape host index false forceOne answers
  · rw [same]
    exact Nat.le_add_right _ _
  · rw [taken, (plug_out_loop_effect answers host toPlugOut).2.2.1]
    apply Nat.add_le_add_left
    obtain dark | active := Nat.eq_zero_or_pos (allCount host)
    · rw [nothing_chosen host index false forceOne toPlugOut dark chosen]
      exact Nat.zero_le _
    · by_cases all : index = iddPlugOutAllIndex
      · subst all
        obtain ⟨two, number⟩ := plug_out_all_chosen host forceOne toPlugOut active chosen
        grind
      · exact (plug_out_one_chosen host index forceOne toPlugOut active all chosen).2.2

-- One call leaves a display exactly when -1 does not meet an overcounted host.
theorem plug_out_kept_iff (forceOne : Bool) (answers : Nat → Bool) (active : 0 < allCount host) :
    0 < allCount (plugOutMonitor host index false forceOne answers).1 ↔ ¬ (index = iddPlugOutAllIndex ∧ Overcounted host) := by
  cases chosen : toPlugOutCount host index false forceOne with
  | error failure =>
      have same : (plugOutMonitor host index false forceOne answers).1 = host := by simp [plugOutMonitor, chosen]
      rw [same]
      refine iff_of_true active ?_
      rintro ⟨rfl, alone, two, less⟩
      have all : allCount host = host.virtual := by rw [allCount, alone, Nat.zero_add]
      have wanted : matchAllCount (allCount host) host.count false = .ok host.count := by
        rw [matchAllCount, if_neg (by omega), if_neg (by omega), if_neg (by omega)]
      rw [toPlugOutCount, if_pos rfl, wanted] at chosen
      cases chosen
  | ok toPlugOut =>
      have taken : (plugOutMonitor host index false forceOne answers).1 = plugOutLoop answers host toPlugOut := by simp [plugOutMonitor, chosen]
      obtain ⟨others, virtual, -⟩ := plug_out_loop_effect answers host toPlugOut
      have left : allCount (plugOutLoop answers host toPlugOut) = host.others + (host.virtual - toPlugOut) := by rw [allCount, others, virtual]
      rw [taken, left, Overcounted]
      unfold allCount at active
      by_cases all : index = iddPlugOutAllIndex
      · subst all
        obtain ⟨two, number⟩ := plug_out_all_chosen host forceOne toPlugOut active chosen
        unfold allCount at two number
        split at number <;> simp only [true_and] <;> omega
      · obtain ⟨two, most, -⟩ := plug_out_one_chosen host index forceOne toPlugOut active all chosen
        unfold allCount at two
        simp only [all, false_and, not_false_eq_true, iff_true]
        omega

end

theorem keeps_iff_fits (entry : Host × Label) : Keeps entry ↔ Fits entry := by
  obtain ⟨host, label⟩ := entry
  constructor
  · intro keeps forceOne answers call exceeded
    obtain rfl : label = .plugOutMonitor iddPlugOutAllIndex false forceOne answers := call
    have active : 0 < allCount host := Nat.lt_of_lt_of_le (Nat.lt_of_lt_of_le Nat.two_pos exceeded.2.1) (Nat.le_add_left _ _)
    exact (plug_out_kept_iff host iddPlugOutAllIndex forceOne answers active).mp
      (keeps iddPlugOutAllIndex forceOne answers _ rfl rfl active) ⟨rfl, exceeded⟩
  · intro fits index forceOne answers next call taken active
    obtain rfl : label = .plugOutMonitor index false forceOne answers := call
    obtain rfl := Option.some.inj taken
    apply (plug_out_kept_iff host index forceOne answers active).mpr
    rintro ⟨rfl, exceeded⟩
    exact fits forceOne answers rfl exceeded

theorem bounded (entry : Host × Label) : Bounded entry := by
  obtain ⟨host, label⟩ := entry
  intro index forceOne answers next call taken
  obtain rfl : label = .plugOutMonitor index false forceOne answers := call
  obtain rfl := Option.some.inj taken
  exact plug_out_bounded host index forceOne answers

theorem plug_monitor_add_count (host : Host) (cameUp : Bool) (small : host.count ≤ virtualDisplayMaxCount) :
    (plugMonitorAdd host cameUp).count ≤ virtualDisplayMaxCount := by
  simp only [plugMonitorAdd]
  split
  next room => exact room
  next => exact small

section
variable (host next : Host) (isAsync : Bool) (attempts : List Attempt) (result : Except Failure Unit)

-- Whatever the attempts are, the loop leaves the host alone or adds one display.
theorem plug_in_loop_result (ran : plugInMonitorLoop host isAsync attempts = some (next, result)) : next = host ∨ ∃ cameUp, next = plugMonitorAdd host cameUp := by
  induction attempts with
  | nil => cases ran
  | cons attempt rest ih =>
      rw [plugInMonitorLoop] at ran
      split at ran
      next cameUp _ =>
        split at ran
        · obtain ⟨rfl, -⟩ := Prod.mk.inj (Option.some.inj ran)
          exact .inr ⟨cameUp, rfl⟩
        · cases ran
      next error _ =>
        split at ran <;> split at ran
        · exact ih ran
        · split at ran
          · exact .inl (Prod.mk.inj (Option.some.inj ran)).1.symm
          · cases ran
        · exact .inl (Prod.mk.inj (Option.some.inj ran)).1.symm
        · cases ran

theorem plug_in_loop_count (small : host.count ≤ virtualDisplayMaxCount) (ran : plugInMonitorLoop host isAsync attempts = some (next, result)) :
    next.count ≤ virtualDisplayMaxCount := by
  obtain rfl | ⟨cameUp, rfl⟩ := plug_in_loop_result host next isAsync attempts result ran
  · exact small
  · exact plug_monitor_add_count host cameUp small

end

theorem plug_out_count (host : Host) (index : Int) (forceAll forceOne : Bool) (answers : Nat → Bool)
    (small : host.count ≤ virtualDisplayMaxCount) :
    (plugOutMonitor host index forceAll forceOne answers).1.count ≤ virtualDisplayMaxCount := by
  obtain same | ⟨toPlugOut, -, taken⟩ := plug_out_shape host index forceAll forceOne answers
  · rw [same]
    exact small
  · rw [taken]
    exact Nat.le_trans (plug_out_loop_effect answers host toPlugOut).2.2.2 small

theorem step_count (host next : Host) (label : Label) (small : host.count ≤ virtualDisplayMaxCount) (taken : step host label = some next) :
    next.count ≤ virtualDisplayMaxCount := by
  cases label with
  | physical others | otherProcess virtual =>
      obtain rfl := Option.some.inj taken
      exact small
  | plugInMonitor install attempts =>
      obtain ⟨⟨after, result⟩, ran, rfl⟩ := Option.map_eq_some_iff.mp taken
      rw [plugInMonitor.eq_def] at ran
      split at ran
      · exact (Prod.mk.inj (Option.some.inj ran)).1 ▸ small
      · split at ran
        · exact (Prod.mk.inj (Option.some.inj ran)).1 ▸ small
        · exact plug_in_loop_count host after _ attempts result small ran
  | plugInHeadless now install attempts =>
      obtain ⟨⟨after, result⟩, ran, rfl⟩ := Option.map_eq_some_iff.mp taken
      rw [plugInHeadless] at ran
      split at ran
      · exact (Prod.mk.inj (Option.some.inj ran)).1 ▸ small
      · split at ran
        · obtain ⟨rfl, -⟩ := Prod.mk.inj (Option.some.inj ran)
          exact small
        next isAsync => exact plug_in_loop_count { host with lastPlugInHeadless := some now } after isAsync attempts result small ran
  | plugOutMonitor index forceAll forceOne answers =>
      obtain rfl := Option.some.inj taken
      exact plug_out_count host index forceAll forceOne answers small
  | resetAll answers =>
      obtain rfl := Option.some.inj taken
      exact plug_out_count host iddPlugOutAllIndex true false answers small

-- Along every run a plug-out that is not forced leaves a display exactly when none of them
-- takes out all while the count exceeds the displays left; the two bounds hold regardless.
theorem last_display_kept (others virtual : Nat) (past : List (Host × Label)) (host : Host)
    (traced : Traced step (.new others virtual) past host) :
    ((∀ entry ∈ past, Keeps entry) ↔ ∀ entry ∈ past, Fits entry) ∧ (∀ entry ∈ past, Bounded entry) ∧
      (∀ entry ∈ past, entry.1.count ≤ virtualDisplayMaxCount) ∧ host.count ≤ virtualDisplayMaxCount := by
  refine ⟨forall₂_congr (fun entry _ => keeps_iff_fits entry), fun entry _ => bounded entry, ?_⟩
  exact traced_kept step (fun host => host.count ≤ virtualDisplayMaxCount) (fun _ _ => True) _ host past (Nat.zero_le _)
    (fun state label next small _ taken => step_count state next label small taken) traced (fun _ _ => trivial)

def plugged : Attempt := { answer := .ok true, inTime := true }

-- A display is plugged in beside a physical one, and -1 takes it out again.
def visit : List Label := [.plugInMonitor (some false) [plugged], .plugOutMonitor iddPlugOutAllIndex false true (fun _ => true)]

theorem last_display_kept_visit :
    ((∀ entry ∈ trace step (.new 1 0) visit, Keeps entry) ↔ ∀ entry ∈ trace step (.new 1 0) visit, Fits entry) ∧
      (∀ entry ∈ trace step (.new 1 0) visit, Bounded entry) ∧
      (∀ entry ∈ trace step (.new 1 0) visit, entry.1.count ≤ virtualDisplayMaxCount) ∧
      ((run step (.new 1 0) visit).get rfl).count ≤ virtualDisplayMaxCount :=
  last_display_kept 1 0 (trace step (.new 1 0) visit) _ (traced_run step (.new 1 0) visit rfl)

-- Three displays are plugged in on a host without another, one of them is plugged out by another
-- process, and -1 takes out the two that are left.
theorem last_display_lost :
    ∃ host, run step (.new 0 0) [.plugInMonitor (some false) [plugged], .plugInMonitor (some false) [plugged],
        .plugInMonitor (some false) [plugged], .otherProcess 2] = some host ∧ allCount host = 2 ∧ host.count = 3 ∧
      ¬ Keeps (host, .plugOutMonitor iddPlugOutAllIndex false true (fun _ => true)) := by
  refine ⟨{ others := 0, virtual := 2, count := 3, lastPlugInHeadless := none, issued := 0 }, rfl, rfl, rfl, ?_⟩
  intro keeps
  exact absurd (keeps iddPlugOutAllIndex true (fun _ => true) _ rfl rfl (by decide)) (by decide)

end GotechDesk.VirtualDisplay.AmyuniIdd
