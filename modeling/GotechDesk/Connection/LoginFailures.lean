import GotechDesk.Table
import GotechDesk.Net.IpAddr
import GotechDesk.Connection.Login

set_option autoImplicit false

namespace GotechDesk.Connection

open GotechDesk.Net

-- An entry of LOGIN_FAILURES: the minute of the last failure, the failures in it, and all of them.
-- The counts stay far below i32's bound (entries_small).
structure Failure where
  minute : Int
  inMinute : Nat
  total : Nat
deriving DecidableEq

def noFailure : Failure := ⟨0, 0, 0⟩

abbrev Failures := List (List Char × Failure)

def Failures.at (failures : Failures) (key : List Char) : Failure := (Table.get failures key).getD noFailure

def maskU128 (addr : Ipv6Addr) (bits : Nat) : Ipv6Addr :=
  addr &&& (if bits = 0 ∨ bits > 128 then 0 else BitVec.allOnes 128 <<< (128 - bits))

def suffix64 : List Char := "/64".toList
def suffix56 : List Char := "/56".toList
def suffix48 : List Char := "/48".toList

-- A zone id is cut off before the address is read.
def getIpv6Prefixes (ip : List Char) : Option (List Char × List Char × List Char) :=
  (readIpv6 (trim (String.ofList (ip.takeWhile (fun c => c ≠ '%')))).toList).map (fun addr =>
    (ipv6Text (maskU128 addr 64) ++ suffix64, ipv6Text (maskU128 addr 56) ++ suffix56, ipv6Text (maskU128 addr 48) ++ suffix48))

def bumpFailureEntry (cur : Failure) (time : Int) : Failure :=
  if cur.minute = time then { cur with inMinute := cur.inMinute + 1, total := cur.total + 1 }
  else { minute := time, inMinute := 1, total := cur.total + 1 }

-- The entry that was consulted last, and the error sent when the attempt is refused.
structure Check where
  failure : Failure
  refusal : Option String
deriving DecidableEq

def checkFailureIpv6 (failures : Failures) (key : List Char) (bits : String) (thresh : Nat) : Option Check :=
  if (failures.at key).total > thresh then some ⟨failures.at key, some ("Too many wrong attempts for IPv6 prefix /" ++ bits)⟩ else none

def checkDirect (failures : Failures) (ip : List Char) (time : Int) : Check :=
  let failure := failures.at ip
  if failure.total > 30 then ⟨failure, some "Too many wrong attempts"⟩
  else if time = failure.minute ∧ failure.inMinute > 6 then ⟨failure, some "Please try 1 minute later"⟩
  else ⟨failure, none⟩

def checkFailure (failures : Failures) (ip : List Char) (time : Int) : Check :=
  match getIpv6Prefixes ip with
  | some (p64, p56, p48) =>
      (((checkFailureIpv6 failures p64 "64" 60).orElse (fun _ => checkFailureIpv6 failures p56 "56" 80)).orElse
        (fun _ => checkFailureIpv6 failures p48 "48" 100)).getD (checkDirect failures ip time)
  | none => checkDirect failures ip time

def bumpKey (failures : Failures) (time : Int) (key : List Char) : Failures :=
  Table.insert failures key (bumpFailureEntry (failures.at key) time)

-- A success only clears the entries when the connection had one of its own.
def updateFailure (failures : Failures) (ip : List Char) (failure : Failure) (time : Int) (success : Bool) : Failures :=
  if success = true then
    if failure.minute ≠ 0 then
      match getIpv6Prefixes ip with
      | some (p64, p56, p48) => Table.remove (Table.remove (Table.remove (Table.remove failures p64) p56) p48) ip
      | none => Table.remove failures ip
    else failures
  else
    match getIpv6Prefixes ip with
    | some (p64, p56, p48) => [p64, p56, p48, ip].foldl (fun failures key => bumpKey failures time key) failures
    | none => bumpKey failures time ip

-- `right` is what validate_password would say.
structure Attempt where
  ip : IpAddr
  minute : Int
  right : Bool
deriving DecidableEq

-- An attempt, and whether it reached validate_password.
def attempt (failures : Failures) (tried : Attempt) : Failures × Bool :=
  let check := checkFailure failures tried.ip.text tried.minute
  if check.refusal.isSome then (failures, false)
  else (updateFailure failures tried.ip.text check.failure tried.minute tried.right, true)

def after (failures : Failures) : List Attempt → Failures
  | [] => failures
  | tried :: rest => after (attempt failures tried).1 rest

def validated (failures : Failures) : List Attempt → List Attempt
  | [] => []
  | tried :: rest =>
      if (attempt failures tried).2 = true then tried :: validated (attempt failures tried).1 rest else validated (attempt failures tried).1 rest

def inBlock (bits : Nat) (base : Ipv6Addr) : IpAddr → Bool
  | .v4 _ => false
  | .v6 addr => maskU128 addr bits = maskU128 base bits

-- The keys an attempt consults, each with the most failures it allows.
def failureKeys : IpAddr → List (List Char × Nat)
  | .v4 addr => [(ipv4Text addr, 30)]
  | .v6 addr => [(ipv6Text (maskU128 addr 64) ++ suffix64, 60), (ipv6Text (maskU128 addr 56) ++ suffix56, 80),
      (ipv6Text (maskU128 addr 48) ++ suffix48, 100), (ipv6Text addr, 30)]

theorem not_whitespace (c : Char) (low : 46 ≤ c.toNat) (high : c.toNat ≤ 102) : isWhitespace c = false := by
  unfold isWhitespace
  simp only [Bool.or_eq_false_iff, Bool.and_eq_false_iff, decide_eq_false_iff_not, beq_eq_false_iff_ne]
  omega

theorem dropped_plain (text : List Char) (plain : ∀ c ∈ text, isWhitespace c = false) : text.dropWhile isWhitespace = text := by
  cases text with
  | nil => rfl
  | cons c rest => exact List.dropWhile_cons_of_neg (by rw [plain c List.mem_cons_self]; exact Bool.false_ne_true)

theorem trim_plain (text : List Char) (plain : ∀ c ∈ text, isWhitespace c = false) : (trim (String.ofList text)).toList = text := by
  unfold trim
  rw [String.toList_ofList, String.toList_ofList, dropped_plain text plain,
    dropped_plain text.reverse (fun c member => plain c (List.mem_reverse.mp member)), List.reverse_reverse]

theorem ip_trimmed (ip : IpAddr) : (trim (String.ofList (ip.text.takeWhile (fun c => c ≠ '%')))).toList = ip.text := by
  have whole : ip.text.takeWhile (fun c => c ≠ '%') = ip.text := by
    apply List.takeWhile_eq_self_iff.mpr
    intro c member
    simpa using (ip_chars ip c member).2.1
  rw [whole, trim_plain ip.text (fun c member => not_whitespace c (ip_chars ip c member).2.2.1 (ip_chars ip c member).2.2.2)]

theorem prefixes_v4 (addr : Ipv4Addr) : getIpv6Prefixes (IpAddr.v4 addr).text = none := by
  unfold getIpv6Prefixes
  rw [ip_trimmed]
  change (readIpv6 (ipv4Text addr)).map _ = none
  rw [read_ipv6_ipv4]
  rfl

theorem prefixes_v6 (addr : Ipv6Addr) : getIpv6Prefixes (IpAddr.v6 addr).text =
    some (ipv6Text (maskU128 addr 64) ++ suffix64, ipv6Text (maskU128 addr 56) ++ suffix56, ipv6Text (maskU128 addr 48) ++ suffix48) := by
  unfold getIpv6Prefixes
  rw [ip_trimmed]
  change (readIpv6 (ipv6Text addr)).map _ = _
  rw [read_ipv6_text]
  rfl

theorem at_insert (failures : Failures) (key other : List Char) (value : Failure) :
    Failures.at (Table.insert failures key value) other = if other = key then value else failures.at other := by
  unfold Failures.at
  rw [Table.get_insert]
  split <;> rfl

theorem at_remove (failures : Failures) (key other : List Char) :
    Failures.at (Table.remove failures key) other = if other = key then noFailure else failures.at other := by
  unfold Failures.at
  rw [Table.get_remove]
  split <;> rfl

theorem at_bump (failures : Failures) (time : Int) (key other : List Char) :
    (bumpKey failures time key).at other = if other = key then bumpFailureEntry (failures.at key) time else failures.at other :=
  at_insert failures key other _

def isKey (ip : IpAddr) (key : List Char) : Prop := key ∈ (failureKeys ip).map Prod.fst

instance (ip : IpAddr) (key : List Char) : Decidable (isKey ip key) := by
  unfold isKey
  infer_instance

-- No address is written with a slash, so it is no block's key; blocks of two sizes differ in their
-- last character.
theorem text_not_block (ip : IpAddr) (addr : Ipv6Addr) (suffix : List Char) (slash : '/' ∈ suffix) : ip.text ≠ ipv6Text addr ++ suffix := by
  intro same
  have inside : '/' ∈ ip.text := by
    rw [same]
    exact List.mem_append_right _ slash
  exact (ip_chars ip '/' inside).1 rfl

theorem blocks_differ (first second : Ipv6Addr) (one other : List Char) (filled : one ≠ [] ∧ other ≠ [])
    (ends : one.getLast? ≠ other.getLast?) : ipv6Text first ++ one ≠ ipv6Text second ++ other := by
  intro same
  have last := congrArg List.getLast? same
  rw [List.getLast?_append_of_ne_nil _ filled.1, List.getLast?_append_of_ne_nil _ filled.2] at last
  exact ends last

theorem keys_distinct (ip : IpAddr) : ((failureKeys ip).map Prod.fst).Nodup := by
  cases ip with
  | v4 addr => exact List.nodup_singleton _
  | v6 addr =>
      have own := fun other suffix slash => (text_not_block (.v6 addr) other suffix slash).symm
      refine List.nodup_cons.mpr ⟨?_, List.nodup_cons.mpr ⟨?_, List.nodup_cons.mpr ⟨?_, List.nodup_singleton _⟩⟩⟩
      · simp only [List.map_cons, List.map_nil, List.mem_cons, List.not_mem_nil, or_false, not_or]
        exact ⟨blocks_differ _ _ suffix64 suffix56 (by decide) (by decide), blocks_differ _ _ suffix64 suffix48 (by decide) (by decide),
          own _ suffix64 (by decide)⟩
      · simp only [List.map_cons, List.map_nil, List.mem_cons, List.not_mem_nil, or_false, not_or]
        exact ⟨blocks_differ _ _ suffix56 suffix48 (by decide) (by decide), own _ suffix56 (by decide)⟩
      · simp only [List.map_cons, List.map_nil, List.mem_cons, List.not_mem_nil, or_false]
        exact own _ suffix48 (by decide)

theorem own_key (ip : IpAddr) : isKey ip ip.text := by
  cases ip with
  | v4 addr => exact List.mem_cons_self
  | v6 addr => simp [isKey, failureKeys, IpAddr.text]

theorem own_key_only (ip other : IpAddr) (key : isKey ip other.text) : ip = other := by
  cases ip with
  | v4 addr => exact (ip_text_injective other (.v4 addr) (List.mem_singleton.mp key)).symm
  | v6 addr =>
      have texts := fun block suffix slash => text_not_block other block suffix slash
      simp only [isKey, failureKeys, List.map_cons, List.map_nil, List.mem_cons, List.not_mem_nil, or_false] at key
      obtain block | block | block | same := key
      · exact absurd block (texts _ suffix64 (by decide))
      · exact absurd block (texts _ suffix56 (by decide))
      · exact absurd block (texts _ suffix48 (by decide))
      · exact (ip_text_injective other (.v6 addr) same).symm

section
variable (failures : Failures)

theorem bumped_all (time : Int) (keys : List (List Char)) (distinct : keys.Nodup) (key : List Char) :
    (keys.foldl (fun failures key => bumpKey failures time key) failures).at key =
      if key ∈ keys then bumpFailureEntry (failures.at key) time else failures.at key := by
  induction keys generalizing failures with
  | nil => exact (if_neg List.not_mem_nil).symm
  | cons first rest ih =>
      obtain ⟨fresh, others⟩ := List.nodup_cons.mp distinct
      rw [List.foldl_cons, ih (bumpKey failures time first) others, at_bump]
      by_cases same : key = first
      · subst same
        rw [if_neg fresh, if_pos rfl, if_pos List.mem_cons_self]
      · rw [if_neg same]
        by_cases listed : key ∈ rest
        · rw [if_pos listed, if_pos (List.mem_cons_of_mem _ listed)]
        · rw [if_neg listed, if_neg (fun member => (List.mem_cons.mp member).elim same listed)]

theorem removed_all (keys : List (List Char)) (key : List Char) :
    Failures.at (keys.foldl (fun failures key => Table.remove failures key) failures) key =
      if key ∈ keys then noFailure else failures.at key := by
  induction keys generalizing failures with
  | nil => exact (if_neg List.not_mem_nil).symm
  | cons first rest ih =>
      rw [List.foldl_cons, ih, at_remove]
      by_cases later : key ∈ rest
      · rw [if_pos later, if_pos (List.mem_cons_of_mem _ later)]
      · rw [if_neg later]
        by_cases same : key = first
        · rw [if_pos same, if_pos (same ▸ List.mem_cons_self)]
        · rw [if_neg same, if_neg (fun member => (List.mem_cons.mp member).elim same later)]

-- What a failed password and a right one do to every entry.
theorem failed_at (ip : IpAddr) (failure : Failure) (time : Int) (key : List Char) : (updateFailure failures ip.text failure time false).at key =
      if isKey ip key then bumpFailureEntry (failures.at key) time else failures.at key := by
  unfold updateFailure
  rw [if_neg Bool.false_ne_true]
  have bumped := bumped_all failures time ((failureKeys ip).map Prod.fst) (keys_distinct ip) key
  cases ip with
  | v4 addr =>
      rw [prefixes_v4 addr]
      exact bumped
  | v6 addr =>
      rw [prefixes_v6 addr]
      exact bumped

theorem succeeded_entry (ip : IpAddr) (failure : Failure) (time : Int) (key : List Char) : (updateFailure failures ip.text failure time true).at key =
      if failure.minute ≠ 0 ∧ isKey ip key then noFailure else failures.at key := by
  have removed := removed_all failures ((failureKeys ip).map Prod.fst) key
  unfold updateFailure
  rw [if_pos rfl]
  by_cases cleared : failure.minute ≠ 0
  · simp only [cleared, ne_eq, not_false_eq_true, true_and]
    cases ip with
    | v4 addr =>
        rw [prefixes_v4 addr]
        exact removed
    | v6 addr =>
        rw [prefixes_v6 addr]
        exact removed
  · rw [if_neg cleared, if_neg (fun both => cleared both.1)]

-- An attempt reaches the password only while none of its keys has more failures than it allows,
-- and its address not seven in this minute.
theorem allowed_direct (ip : List Char) (time : Int) (allowed : (checkDirect failures ip time).refusal = none) :
    (failures.at ip).total ≤ 30 ∧ (time = (failures.at ip).minute → (failures.at ip).inMinute ≤ 6) := by
  unfold checkDirect at allowed
  dsimp only at allowed
  split at allowed
  · cases allowed
  · rename_i few
    split at allowed
    · cases allowed
    · rename_i slow
      exact ⟨by omega, fun same => by by_contra fast; exact slow ⟨same, by omega⟩⟩

theorem refused_prefix (key : List Char) (bits : String) (thresh : Nat) :
    (checkFailureIpv6 failures key bits thresh = none ∧ (failures.at key).total ≤ thresh) ∨
      ∃ check, checkFailureIpv6 failures key bits thresh = some check ∧ check.refusal ≠ none := by
  unfold checkFailureIpv6
  by_cases many : (failures.at key).total > thresh
  · exact Or.inr ⟨_, if_pos many, by simp⟩
  · exact Or.inl ⟨if_neg many, by omega⟩

theorem allowed_attempt (tried : Attempt) (reached : (attempt failures tried).2 = true) :
    (∀ entry ∈ failureKeys tried.ip, (failures.at entry.1).total ≤ entry.2) ∧
      (tried.minute = (failures.at tried.ip.text).minute → (failures.at tried.ip.text).inMinute ≤ 6) := by
  have allowed : (checkFailure failures tried.ip.text tried.minute).refusal = none := by
    cases refused : (checkFailure failures tried.ip.text tried.minute).refusal with
    | none => rfl
    | some text =>
        unfold attempt at reached
        dsimp only at reached
        rw [refused, if_pos (Option.isSome_some)] at reached
        cases reached
  unfold checkFailure at allowed
  cases address : tried.ip with
  | v4 addr =>
      rw [address, prefixes_v4 addr] at allowed
      obtain ⟨few, slow⟩ := allowed_direct failures _ tried.minute allowed
      refine ⟨?_, slow⟩
      intro entry listed
      obtain rfl := List.mem_singleton.mp listed
      exact few
  | v6 addr =>
      rw [address, prefixes_v6 addr] at allowed
      dsimp only at allowed
      obtain ⟨none64, few64⟩ | ⟨check, found, refused⟩ := refused_prefix failures (ipv6Text (maskU128 addr 64) ++ suffix64) "64" 60
      swap
      · rw [found] at allowed
        exact absurd allowed refused
      obtain ⟨none56, few56⟩ | ⟨check, found, refused⟩ := refused_prefix failures (ipv6Text (maskU128 addr 56) ++ suffix56) "56" 80
      swap
      · rw [none64, found] at allowed
        exact absurd allowed refused
      obtain ⟨none48, few48⟩ | ⟨check, found, refused⟩ := refused_prefix failures (ipv6Text (maskU128 addr 48) ++ suffix48) "48" 100
      swap
      · rw [none64, none56, found] at allowed
        exact absurd allowed refused
      rw [none64, none56, none48] at allowed
      obtain ⟨few, slow⟩ := allowed_direct failures _ tried.minute allowed
      refine ⟨?_, slow⟩
      intro entry listed
      simp only [failureKeys, List.mem_cons, List.not_mem_nil, or_false] at listed
      obtain rfl | rfl | rfl | rfl := listed
      · exact few64
      · exact few56
      · exact few48
      · exact few

theorem attempt_refused (tried : Attempt) (refused : (attempt failures tried).2 = false) : (attempt failures tried).1 = failures := by
  unfold attempt at refused ⊢
  dsimp only at refused ⊢
  split at refused
  · rename_i blocked
    rw [if_pos blocked]
  · cases refused

-- An attempt that reached the password, entry by entry.
theorem attempt_entry (tried : Attempt) (key : List Char) (reached : (attempt failures tried).2 = true) : (attempt failures tried).1.at key =
      if tried.right = true then
        if (checkFailure failures tried.ip.text tried.minute).failure.minute ≠ 0 ∧ isKey tried.ip key then noFailure else failures.at key
      else if isKey tried.ip key then bumpFailureEntry (failures.at key) tried.minute else failures.at key := by
  unfold attempt at reached ⊢
  dsimp only at reached ⊢
  split at reached
  · cases reached
  · rename_i allowed
    rw [if_neg allowed]
    dsimp only
    cases tried.right with
    | true => exact (succeeded_entry failures tried.ip _ tried.minute key).trans (if_pos rfl).symm
    | false => exact (failed_at failures tried.ip _ tried.minute key).trans (if_neg Bool.false_ne_true).symm

theorem attempt_at (tried : Attempt) (key : List Char) (reached : (attempt failures tried).2 = true)
    (kept : isKey tried.ip key → tried.right = false) :
    (attempt failures tried).1.at key = if isKey tried.ip key then bumpFailureEntry (failures.at key) tried.minute else failures.at key := by
  rw [attempt_entry failures tried key reached]
  by_cases own : isKey tried.ip key
  · rw [if_neg (by rw [kept own]; exact Bool.false_ne_true)]
  · simp only [own, and_false, if_false, ite_self]

end

theorem bump_total (cur : Failure) (time : Int) : (bumpFailureEntry cur time).total = cur.total + 1 := by
  unfold bumpFailureEntry
  split <;> rfl

section
variable (failures : Failures) (tried : Attempt) (rest : List Attempt)

theorem validated_reached (reached : (attempt failures tried).2 = true) :
    validated failures (tried :: rest) = tried :: validated (attempt failures tried).1 rest := if_pos reached

theorem validated_refused (refused : (attempt failures tried).2 = false) : validated failures (tried :: rest) = validated failures rest := by
  have same := attempt_refused failures tried refused
  change (if (attempt failures tried).2 = true then _ else validated (attempt failures tried).1 rest) = _
  rw [if_neg (by rw [refused]; exact Bool.false_ne_true), same]

end

theorem validated_listed (failures : Failures) (stretch : List Attempt) (tried : Attempt) (reached : tried ∈ validated failures stretch) :
    tried ∈ stretch := by
  induction stretch generalizing failures with
  | nil => exact reached
  | cons first rest ih =>
      cases here : (attempt failures first).2 with
      | true =>
          rw [validated_reached failures first rest here] at reached
          obtain rfl | later := List.mem_cons.mp reached
          · exact List.mem_cons_self
          · exact List.mem_cons_of_mem _ (ih _ later)
      | false =>
          rw [validated_refused failures first rest here] at reached
          exact List.mem_cons_of_mem _ (ih _ reached)

-- A stretch with no success under one key: every attempt under it that reaches the password costs
-- one of the failures the key allows.
theorem bounded_stretch (key : List Char) (limit : Nat) (touches : IpAddr → Bool) (keyed : ∀ ip, touches ip = true ↔ isKey ip key)
    (allowed : ∀ ip, touches ip = true → (key, limit) ∈ failureKeys ip) (stretch : List Attempt) (failures : Failures)
    (failing : ∀ tried ∈ validated failures stretch, touches tried.ip = true → tried.right = false) :
    ((validated failures stretch).countP (fun tried => touches tried.ip)) = 0 ∨
      (validated failures stretch).countP (fun tried => touches tried.ip) + (failures.at key).total ≤ limit + 1 := by
  induction stretch generalizing failures with
  | nil => exact Or.inl rfl
  | cons tried rest ih =>
      cases reached : (attempt failures tried).2 with
      | false =>
          rw [validated_refused failures tried rest reached] at failing ⊢
          exact ih failures failing
      | true =>
          rw [validated_reached failures tried rest reached] at failing ⊢
          have after := attempt_at failures tried key reached (fun own => failing tried List.mem_cons_self ((keyed tried.ip).mpr own))
          have later := ih (attempt failures tried).1 (fun other listed => failing other (List.mem_cons_of_mem _ listed))
          cases touched : touches tried.ip with
          | true =>
              have few := (allowed_attempt failures tried reached).1 (key, limit) (allowed tried.ip touched)
              dsimp only at few
              rw [after, if_pos ((keyed tried.ip).mp touched), bump_total] at later
              rw [List.countP_cons_of_pos (p := fun tried : Attempt => touches tried.ip) touched]
              omega
          | false =>
              have other : ¬ isKey tried.ip key := fun own => Bool.noConfusion (touched.symm.trans ((keyed tried.ip).mpr own))
              rw [after, if_neg other] at later
              rw [List.countP_cons_of_neg (p := fun tried : Attempt => touches tried.ip) (by rw [touched]; exact Bool.false_ne_true)]
              exact later

section
variable (ip : IpAddr) (minute : Int) (stretch : List Attempt) (failures : Failures)

-- In one minute the failures of an address are counted from its first one.
theorem minute_stretch (now : ∀ tried ∈ stretch, minute ≤ tried.minute) (ordered : stretch.Pairwise (fun first second => first.minute ≤ second.minute))
    (failing : ∀ tried ∈ validated failures stretch, tried.ip = ip → tried.right = false) (counting : (failures.at ip.text).minute = minute) :
    (validated failures stretch).countP (fun tried => tried.ip = ip ∧ tried.minute = minute) = 0 ∨
      (validated failures stretch).countP (fun tried => tried.ip = ip ∧ tried.minute = minute) + (failures.at ip.text).inMinute ≤ 7 := by
  induction stretch generalizing failures with
  | nil => exact Or.inl rfl
  | cons tried rest ih =>
      obtain ⟨first, others⟩ := List.pairwise_cons.mp ordered
      have nowRest := fun other listed => now other (List.mem_cons_of_mem _ listed)
      cases reached : (attempt failures tried).2 with
      | false =>
          rw [validated_refused failures tried rest reached] at failing ⊢
          exact ih failures nowRest others failing counting
      | true =>
          rw [validated_reached failures tried rest reached] at failing ⊢
          by_cases here : tried.ip = ip
          · by_cases same : tried.minute = minute
            · have own : isKey tried.ip ip.text := by rw [here]; exact own_key ip
              have after := attempt_at failures tried ip.text reached (fun _ => failing tried List.mem_cons_self here)
              have slow := (allowed_attempt failures tried reached).2
              rw [here, counting] at slow
              have few := slow same
              rw [if_pos own] at after
              have bumped : bumpFailureEntry (failures.at ip.text) tried.minute =
                  { failures.at ip.text with inMinute := (failures.at ip.text).inMinute + 1, total := (failures.at ip.text).total + 1 } :=
                if_pos (counting.trans same.symm)
              rw [bumped] at after
              have later := ih (attempt failures tried).1 nowRest others (fun other listed => failing other (List.mem_cons_of_mem _ listed))
                (by rw [after]; exact counting)
              rw [after] at later
              rw [List.countP_cons_of_pos (by simp [here, same])]
              dsimp only at later
              omega
            · left
              -- The minute is over.
              apply List.countP_eq_zero.mpr
              intro other listed
              have later : minute < tried.minute := lt_of_le_of_ne (now tried List.mem_cons_self) (Ne.symm same)
              have passed : minute < other.minute := by
                obtain rfl | follows := List.mem_cons.mp listed
                · exact later
                · exact lt_of_lt_of_le later (first other (validated_listed _ _ other follows))
              simp [passed.ne']
          · have other : ¬ isKey tried.ip ip.text := fun own => here (own_key_only tried.ip ip own)
            have after := attempt_at failures tried ip.text reached (fun own => absurd own other)
            rw [if_neg other] at after
            have later := ih (attempt failures tried).1 nowRest others (fun other listed => failing other (List.mem_cons_of_mem _ listed))
              (by rw [after]; exact counting)
            rw [after] at later
            rw [List.countP_cons_of_neg (by simp [here])]
            exact later

theorem minute_bound (ordered : stretch.Pairwise (fun first second => first.minute ≤ second.minute))
    (failing : ∀ tried ∈ validated failures stretch, tried.ip = ip → tried.right = false) :
    (validated failures stretch).countP (fun tried => tried.ip = ip ∧ tried.minute = minute) ≤ 7 := by
  induction stretch generalizing failures with
  | nil => exact Nat.zero_le 7
  | cons tried rest ih =>
      obtain ⟨first, others⟩ := List.pairwise_cons.mp ordered
      cases reached : (attempt failures tried).2 with
      | false =>
          rw [validated_refused failures tried rest reached] at failing ⊢
          exact ih failures others failing
      | true =>
          rw [validated_reached failures tried rest reached] at failing ⊢
          have failingRest : ∀ other ∈ validated (attempt failures tried).1 rest, other.ip = ip → other.right = false :=
            fun other listed => failing other (List.mem_cons_of_mem _ listed)
          by_cases counts : tried.ip = ip ∧ tried.minute = minute
          · -- The first failure in the minute leaves an entry that counts it.
            obtain ⟨here, same⟩ := counts
            have own : isKey tried.ip ip.text := by rw [here]; exact own_key ip
            have after := attempt_at failures tried ip.text reached (fun _ => failing tried List.mem_cons_self here)
            rw [if_pos own] at after
            have entry : ((attempt failures tried).1.at ip.text).minute = minute ∧ 1 ≤ ((attempt failures tried).1.at ip.text).inMinute := by
              rw [after]
              unfold bumpFailureEntry
              split
              · rename_i current
                exact ⟨current.trans same, Nat.le_add_left 1 _⟩
              · exact ⟨same, Nat.le_refl 1⟩
            have later := minute_stretch ip minute rest (attempt failures tried).1 (fun other listed => same ▸ first other listed) others failingRest
              entry.1
            rw [List.countP_cons_of_pos (by simp [here, same])]
            omega
          · rw [List.countP_cons_of_neg (by simpa using counts)]
            exact ih (attempt failures tried).1 others failingRest

end

theorem block_key (bits : Nat) (suffix : List Char) (slash : '/' ∈ suffix) (base addr : Ipv6Addr)
    (same : ipv6Text (maskU128 addr bits) ++ suffix = ipv6Text (maskU128 base bits) ++ suffix) : maskU128 addr bits = maskU128 base bits := by
  have texts : ipv6Text (maskU128 addr bits) = ipv6Text (maskU128 base bits) := List.append_cancel_right same
  have ips := ip_text_injective (.v6 (maskU128 addr bits)) (.v6 (maskU128 base bits)) texts
  injection ips

theorem in_block (bits : Nat) (base addr : Ipv6Addr) : inBlock bits base (.v6 addr) = true ↔ maskU128 addr bits = maskU128 base bits :=
  decide_eq_true_iff

-- The block sizes with their keys' suffixes and the most failures each allows.
def blocks : List (Nat × List Char × Nat) := [(64, suffix64, 60), (56, suffix56, 80), (48, suffix48, 100)]

theorem block_touches (bits : Nat) (suffix : List Char) (limit : Nat) (listed : (bits, suffix, limit) ∈ blocks) (base : Ipv6Addr) (ip : IpAddr) :
    (inBlock bits base ip = true ↔ isKey ip (ipv6Text (maskU128 base bits) ++ suffix)) ∧
      (inBlock bits base ip = true → (ipv6Text (maskU128 base bits) ++ suffix, limit) ∈ failureKeys ip) := by
  have slash : '/' ∈ suffix := by
    simp only [blocks, List.mem_cons, Prod.mk.injEq, List.not_mem_nil, or_false] at listed
    obtain ⟨_, rfl, _⟩ | ⟨_, rfl, _⟩ | ⟨_, rfl, _⟩ := listed <;> decide
  cases ip with
  | v4 addr =>
      have outside : ¬ isKey (.v4 addr) (ipv6Text (maskU128 base bits) ++ suffix) := by
        intro own
        exact text_not_block (.v4 addr) (maskU128 base bits) suffix slash (List.mem_singleton.mp own).symm
      exact ⟨⟨fun inside => Bool.noConfusion inside, fun own => absurd own outside⟩, fun inside => Bool.noConfusion inside⟩
  | v6 addr =>
      have present : inBlock bits base (.v6 addr) = true → (ipv6Text (maskU128 base bits) ++ suffix, limit) ∈ failureKeys (.v6 addr) := by
        intro inside
        rw [← (in_block bits base addr).mp inside]
        simp only [blocks, List.mem_cons, Prod.mk.injEq, List.not_mem_nil, or_false] at listed
        obtain ⟨rfl, rfl, rfl⟩ | ⟨rfl, rfl, rfl⟩ | ⟨rfl, rfl, rfl⟩ := listed
        · exact List.mem_cons_self
        · exact List.mem_cons_of_mem _ List.mem_cons_self
        · exact List.mem_cons_of_mem _ (List.mem_cons_of_mem _ List.mem_cons_self)
      refine ⟨⟨fun inside => List.mem_map.mpr ⟨_, present inside, rfl⟩, ?_⟩, present⟩
      intro own
      rw [in_block]
      have text := text_not_block (.v6 addr) (maskU128 base bits) suffix slash
      have apart := fun other addr' filled ends => blocks_differ (maskU128 base bits) addr' suffix other filled ends
      simp only [isKey, failureKeys, List.map_cons, List.map_nil, List.mem_cons, List.not_mem_nil, or_false] at own
      simp only [blocks, List.mem_cons, Prod.mk.injEq, List.not_mem_nil, or_false] at listed
      obtain ⟨rfl, rfl, _⟩ | ⟨rfl, rfl, _⟩ | ⟨rfl, rfl, _⟩ := listed
      · obtain same | same | same | same := own
        · exact block_key 64 suffix64 slash base addr same.symm
        · exact absurd same (apart suffix56 _ (by decide) (by decide))
        · exact absurd same (apart suffix48 _ (by decide) (by decide))
        · exact absurd same.symm text
      · obtain same | same | same | same := own
        · exact absurd same (apart suffix64 _ (by decide) (by decide))
        · exact block_key 56 suffix56 slash base addr same.symm
        · exact absurd same (apart suffix48 _ (by decide) (by decide))
        · exact absurd same.symm text
      · obtain same | same | same | same := own
        · exact absurd same (apart suffix64 _ (by decide) (by decide))
        · exact absurd same (apart suffix56 _ (by decide) (by decide))
        · exact block_key 48 suffix48 slash base addr same.symm
        · exact absurd same.symm text

-- After any attempts, in a stretch of them in the order of their minutes: while no password from an
-- address was right, at most 31 of its attempts reached the password, and at most 7 in a minute;
-- while none from a block was, at most 61, 81 and 101 of the block's.
theorem password_attempts_bounded (past stretch : List Attempt)
    (ordered : (past ++ stretch).Pairwise (fun first second => first.minute ≤ second.minute)) :
    (∀ ip, (∀ tried ∈ validated (after [] past) stretch, tried.ip = ip → tried.right = false) →
      (validated (after [] past) stretch).countP (fun tried => tried.ip = ip) ≤ 31 ∧
        ∀ minute, (validated (after [] past) stretch).countP (fun tried => tried.ip = ip ∧ tried.minute = minute) ≤ 7) ∧
      ∀ base, ∀ entry ∈ blocks, (∀ tried ∈ validated (after [] past) stretch, inBlock entry.1 base tried.ip = true → tried.right = false) →
        (validated (after [] past) stretch).countP (fun tried => inBlock entry.1 base tried.ip) ≤ entry.2.2 + 1 := by
  have sorted := (List.pairwise_append.mp ordered).2.1
  constructor
  · intro ip failing
    refine ⟨?_, fun minute => minute_bound ip minute stretch (after [] past) sorted failing⟩
    have keyed : ∀ other, decide (other = ip) = true ↔ isKey other ip.text := by
      intro other
      rw [decide_eq_true_iff]
      exact ⟨fun same => same ▸ own_key other, own_key_only other ip⟩
    have direct : ∀ other, decide (other = ip) = true → (ip.text, 30) ∈ failureKeys other := by
      intro other same
      rw [of_decide_eq_true same]
      cases ip with
      | v4 addr => exact List.mem_cons_self
      | v6 addr => simp [failureKeys, IpAddr.text]
    obtain none | few := bounded_stretch ip.text 30 (fun other => decide (other = ip)) keyed direct stretch (after [] past)
      (fun tried listed same => failing tried listed (of_decide_eq_true same))
    · rw [none]
      exact Nat.zero_le 31
    · omega
  · intro base entry listed failing
    obtain ⟨bits, suffix, limit⟩ := entry
    have touches := block_touches bits suffix limit listed base
    obtain none | few := bounded_stretch (ipv6Text (maskU128 base bits) ++ suffix) limit (inBlock bits base) (fun ip => (touches ip).1)
      (fun ip => (touches ip).2) stretch (after [] past) failing
    · rw [none]
      exact Nat.zero_le _
    · dsimp only
      omega

-- Eight wrong passwords in a minute: the eighth is refused.
def guesses : List Attempt := List.replicate 8 ⟨.v4 (BitVec.ofNat 32 0xc0000207), 29000000, false⟩

theorem password_attempts_bounded_minute :
    (validated (after [] []) guesses).countP (fun tried => tried.ip = .v4 (BitVec.ofNat 32 0xc0000207) ∧ tried.minute = 29000000) ≤ 7 :=
  ((password_attempts_bounded [] guesses (by decide)).1 (.v4 (BitVec.ofNat 32 0xc0000207))
    (fun tried listed _ => (List.eq_of_mem_replicate (validated_listed [] guesses tried listed)) ▸ rfl)).2 29000000

def Small (failures : Failures) : Prop := ∀ key, (failures.at key).inMinute ≤ (failures.at key).total ∧ (failures.at key).total ≤ 101

theorem limits_small (ip : IpAddr) : ∀ entry ∈ failureKeys ip, entry.2 ≤ 100 := by
  intro entry listed
  cases ip with
  | v4 addr =>
      obtain rfl := List.mem_singleton.mp listed
      omega
  | v6 addr =>
      simp only [failureKeys, List.mem_cons, List.not_mem_nil, or_false] at listed
      obtain rfl | rfl | rfl | rfl := listed <;> dsimp only <;> omega

theorem attempt_small (failures : Failures) (tried : Attempt) (small : Small failures) : Small (attempt failures tried).1 := by
  intro key
  have bound := small key
  cases reached : (attempt failures tried).2 with
  | false =>
      rw [attempt_refused failures tried reached]
      exact bound
  | true =>
      rw [attempt_entry failures tried key reached]
      split
      · split
        · exact ⟨Nat.le_refl 0, Nat.zero_le _⟩
        · exact bound
      · split
        · rename_i own
          obtain ⟨entry, listed, rfl⟩ := List.mem_map.mp own
          have few := (allowed_attempt failures tried reached).1 entry listed
          have limit := limits_small tried.ip entry listed
          unfold bumpFailureEntry
          split <;> dsimp only <;> omega
        · exact bound

theorem after_cons (failures : Failures) (tried : Attempt) (rest : List Attempt) :
    after failures (tried :: rest) = after (attempt failures tried).1 rest := by
  conv => lhs; unfold after

theorem after_small (past : List Attempt) (failures : Failures) (small : Small failures) : Small (after failures past) := by
  induction past generalizing failures with
  | nil => exact small
  | cons tried rest ih =>
      rw [after_cons]
      exact ih (attempt failures tried).1 (attempt_small failures tried small)

-- However many attempts there are, the counts stay small enough for any integer.
theorem entries_small (past : List Attempt) : Small (after [] past) :=
  after_small past [] (fun _ => ⟨Nat.le_refl 0, Nat.zero_le _⟩)

-- Addresses that can have an entry in common: one IPv4 address, or a /48 of IPv6 ones.
def sameNetwork : IpAddr → IpAddr → Bool
  | .v4 addr, .v4 other => addr = other
  | .v6 addr, .v6 other => maskU128 addr 48 = maskU128 other 48
  | _, _ => false

theorem same_network_trans (first second third : IpAddr) (one : sameNetwork first second = true) (other : sameNetwork second third = true) :
    sameNetwork first third = true := by
  cases first <;> cases second <;> cases third <;> simp_all [sameNetwork]

theorem block_in_48 (bits : Nat) (suffix : List Char) (limit : Nat) (listed : (bits, suffix, limit) ∈ blocks) (addr other : Ipv6Addr)
    (same : maskU128 addr bits = maskU128 other bits) : maskU128 addr 48 = maskU128 other 48 := by
  have narrower : maskU128 (maskU128 addr bits) 48 = maskU128 addr 48 ∧ maskU128 (maskU128 other bits) 48 = maskU128 other 48 := by
    simp only [blocks, List.mem_cons, Prod.mk.injEq, List.not_mem_nil, or_false] at listed
    obtain ⟨rfl, _⟩ | ⟨rfl, _⟩ | ⟨rfl, _⟩ := listed <;>
      exact ⟨(BitVec.and_assoc _ _ _).trans (congrArg _ (by decide)), (BitVec.and_assoc _ _ _).trans (congrArg _ (by decide))⟩
  rw [← narrower.1, same, narrower.2]

theorem shared_key (ip other : IpAddr) (key : List Char) (own : isKey ip key) (theirs : isKey other key) : sameNetwork ip other = true := by
  have text : key = ip.text → sameNetwork ip other = true := by
    rintro rfl
    rw [own_key_only other ip theirs]
    cases ip <;> exact decide_eq_true rfl
  cases ip with
  | v4 addr => exact text (List.mem_singleton.mp own)
  | v6 addr =>
      have block : ∀ bits suffix limit, (bits, suffix, limit) ∈ blocks → key = ipv6Text (maskU128 addr bits) ++ suffix →
          sameNetwork (.v6 addr) other = true := by
        rintro bits suffix limit listed rfl
        have inside := (block_touches bits suffix limit listed addr other).1.mpr theirs
        cases other with
        | v4 _ => cases inside
        | v6 base => exact decide_eq_true (block_in_48 bits suffix limit listed base addr ((in_block bits addr base).mp inside)).symm
      simp only [isKey, failureKeys, List.map_cons, List.map_nil, List.mem_cons, List.not_mem_nil, or_false] at own
      obtain same | same | same | same := own
      · exact block 64 suffix64 60 (by simp [blocks]) same
      · exact block 56 suffix56 80 (by simp [blocks]) same
      · exact block 48 suffix48 100 (by simp [blocks]) same
      · exact text same

-- Two tables that a network cannot tell apart.
def Agree (ip : IpAddr) (failures others : Failures) : Prop :=
  ∀ member key, sameNetwork ip member = true → isKey member key → failures.at key = others.at key

theorem check_agrees (failures others : Failures) (ip : IpAddr) (time : Int) (same : ∀ key, isKey ip key → failures.at key = others.at key) :
    checkFailure failures ip.text time = checkFailure others ip.text time := by
  have own : failures.at ip.text = others.at ip.text := same _ (own_key ip)
  unfold checkFailure
  cases ip with
  | v4 addr =>
      rw [prefixes_v4 addr]
      simp only [checkDirect, own]
  | v6 addr =>
      rw [prefixes_v6 addr]
      simp only [isKey, failureKeys, List.map_cons, List.map_nil, List.mem_cons, List.not_mem_nil, or_false] at same
      simp only [checkDirect, checkFailureIpv6, own, same _ (.inl rfl), same _ (.inr (.inl rfl)), same _ (.inr (.inr (.inl rfl)))]

section
variable (ip : IpAddr) (failures others : Failures) (tried : Attempt)

theorem member_agrees (agree : Agree ip failures others) (inside : sameNetwork ip tried.ip = true) :
    (attempt failures tried).2 = (attempt others tried).2 ∧ Agree ip (attempt failures tried).1 (attempt others tried).1 := by
  have check := check_agrees failures others tried.ip tried.minute (fun key own => agree tried.ip key inside own)
  have verdict : (attempt failures tried).2 = (attempt others tried).2 := by
    unfold attempt
    dsimp only
    rw [check]
    split <;> rfl
  refine ⟨verdict, fun member key near own => ?_⟩
  have same := agree member key near own
  cases reached : (attempt failures tried).2 with
  | false =>
      rw [attempt_refused failures tried reached, attempt_refused others tried (verdict ▸ reached)]
      exact same
  | true => rw [attempt_entry failures tried key reached, attempt_entry others tried key (verdict ▸ reached), check, same]

theorem stranger_agrees (agree : Agree ip failures others)
    (outside : ¬ sameNetwork ip tried.ip = true) : Agree ip (attempt failures tried).1 others := by
  intro member key near own
  have apart : ¬ isKey tried.ip key := fun theirs => outside (same_network_trans ip member tried.ip near (shared_key member tried.ip key own theirs))
  rw [← agree member key near own]
  cases reached : (attempt failures tried).2 with
  | false => rw [attempt_refused failures tried reached]
  | true => rw [attempt_at failures tried key reached (fun theirs => absurd theirs apart), if_neg apart]

end

theorem network_agrees (ip : IpAddr) (past : List Attempt) (failures others : Failures) (agree : Agree ip failures others) :
    Agree ip (after failures past) (after others (past.filter (fun other => sameNetwork ip other.ip))) := by
  induction past generalizing failures others with
  | nil => exact agree
  | cons tried rest ih =>
      by_cases inside : sameNetwork ip tried.ip = true
      · rw [List.filter_cons_of_pos (by exact inside), after_cons, after_cons]
        exact ih _ _ (member_agrees ip failures others tried agree inside).2
      · rw [List.filter_cons_of_neg (by exact inside), after_cons]
        exact ih _ _ (stranger_agrees ip failures others tried agree inside)

-- Whether an attempt reaches the password depends on its own network: nobody else locks it out or
-- clears its failures.
theorem lockouts_local (past : List Attempt) (tried : Attempt) :
    (attempt (after [] past) tried).2 = (attempt (after [] (past.filter (fun other => sameNetwork tried.ip other.ip))) tried).2 := by
  have same : sameNetwork tried.ip tried.ip = true := shared_key tried.ip tried.ip _ (own_key tried.ip) (own_key tried.ip)
  exact (member_agrees tried.ip _ _ tried (network_agrees tried.ip past [] [] (fun _ _ _ _ => rfl)) same).1

end GotechDesk.Connection
