import Mathlib

set_option autoImplicit false

namespace GotechDesk.Exchange

-- A client and a service on a pair of ordered streams, where an answer is known by its place
-- alone. The numbers beside the frames are not sent: they say which request a frame belongs to.
structure Channel (Q A : Type) where
  sent : Nat := 0
  requests : List (Nat × Q) := []
  answers : List (Nat × A) := []
  waiting : Option Nat := none
deriving DecidableEq, Repr

section
variable {Q A : Type}

def Channel.send (c : Channel Q A) (request : Q) : Channel Q A :=
  { c with sent := c.sent + 1, requests := c.requests ++ [(c.sent, request)] }

-- A request whose sender stays to wait for the answer.
def Channel.call (c : Channel Q A) (request : Q) : Channel Q A := { c.send request with waiting := some c.sent }

def Channel.serve (c : Channel Q A) (answer : Q → Option A) : Option (Channel Q A) :=
  match c.requests with
  | [] => none
  | (number, request) :: rest =>
      some { c with requests := rest, answers := c.answers ++ (answer request).toList.map (fun value => (number, value)) }

def Channel.receive (c : Channel Q A) : Option (Nat × (Nat × A) × Channel Q A) :=
  match c.waiting, c.answers with
  | some call, entry :: rest => some (call, entry, { c with answers := rest, waiting := none })
  | _, _ => none

-- The call gives up; its request and its answer stay where they are.
def Channel.expire (c : Channel Q A) : Channel Q A := { c with waiting := none }

def Channel.reconnect (c : Channel Q A) : Channel Q A := { sent := c.sent }

-- The service is about to answer a request nobody waits for, while another call waits.
def Channel.late (c : Channel Q A) (answers : Q → Bool) : Bool :=
  match c.waiting, c.requests with
  | some call, (number, request) :: _ => decide (number ≠ call) && answers request
  | _, _ => false

theorem serve_cases (c next : Channel Q A) (answer : Q → Option A) (served : c.serve answer = some next) :
    ∃ number request rest, c.requests = (number, request) :: rest ∧
      next = { c with requests := rest, answers := c.answers ++ (answer request).toList.map (fun value => (number, value)) } := by
  rw [Channel.serve] at served
  cases queued : c.requests with
  | nil =>
      rw [queued] at served
      cases served
  | cons head rest =>
      rw [queued] at served
      exact ⟨head.1, head.2, rest, rfl, (Option.some.inj served).symm⟩

theorem receive_cases (c next : Channel Q A) (call : Nat) (entry : Nat × A) (received : c.receive = some (call, entry, next)) :
    c.waiting = some call ∧ ∃ rest, c.answers = entry :: rest ∧ next = { c with answers := rest, waiting := none } := by
  rw [Channel.receive] at received
  cases waits : c.waiting with
  | none =>
      rw [waits] at received
      cases received
  | some waiting =>
      cases stream : c.answers with
      | nil =>
          rw [waits, stream] at received
          cases received
      | cons head rest =>
          rw [waits, stream] at received
          obtain ⟨rfl, rfl, rfl⟩ := Option.some.inj received
          exact ⟨rfl, rest, rfl, rfl⟩

-- Whoever waits finds nothing but its own answer in the stream.
def Channel.Matched (c : Channel Q A) : Prop := ∀ call, c.waiting = some call → ∀ entry ∈ c.answers, entry.1 = call

theorem matched_idle (c : Channel Q A) (idle : c.waiting = none) : c.Matched := by
  intro call waits
  rw [idle] at waits
  cases waits

theorem matched_send (c : Channel Q A) (request : Q) (matched : c.Matched) : (c.send request).Matched := matched

theorem matched_call (c : Channel Q A) (request : Q) (clean : c.answers = []) : (c.call request).Matched := by
  intro call _ entry member
  have stream : (c.call request).answers = c.answers := rfl
  rw [stream, clean] at member
  cases member

theorem matched_serve (c next : Channel Q A) (answer : Q → Option A) (served : c.serve answer = some next) (matched : c.Matched)
    (timely : c.late (fun request => (answer request).isSome) = false) : next.Matched := by
  obtain ⟨number, request, rest, queued, rfl⟩ := serve_cases c next answer served
  intro call waits entry member
  rcases List.mem_append.mp member with old | new
  · exact matched call waits entry old
  · obtain ⟨value, answered, rfl⟩ := List.mem_map.mp new
    have waiting : c.waiting = some call := waits
    have some : (answer request).isSome = true := Option.isSome_of_mem (Option.mem_toList.mp answered)
    rw [Channel.late, waiting, queued] at timely
    simpa [some] using timely

theorem matched_receive (c next : Channel Q A) (call : Nat) (entry : Nat × A) (received : c.receive = some (call, entry, next)) :
    next.Matched := by
  obtain ⟨_, rest, _, rfl⟩ := receive_cases c next call entry received
  exact matched_idle _ rfl

theorem matched_expire (c : Channel Q A) : c.expire.Matched := matched_idle _ rfl

theorem received_own (c next : Channel Q A) (call : Nat) (entry : Nat × A) (received : c.receive = some (call, entry, next))
    (matched : c.Matched) : entry.1 = call := by
  obtain ⟨waits, rest, stream, _⟩ := receive_cases c next call entry received
  exact matched call waits entry (by simp [stream])

end

end GotechDesk.Exchange
