import GotechDesk.Machine

set_option autoImplicit false

namespace GotechDesk.RendezvousMediator.IceRoute

def iceDedupWindow : Nat := 256

-- A route with the bounded channel behind its sender. `accepted`, `taken` and `lost` are the
-- history: what got a place, what the receiver took, and what a dropped receiver left there.
structure State where
  capacity : Nat
  closed : Bool
  channel : List String
  recent : List UInt64
  accepted : List String
  taken : List String
  lost : List String

inductive Label where
  | queue (candidate : String)
  | take
  | close
  | drop

def new (capacity : Nat) : State :=
  { capacity := capacity, closed := false, channel := [], recent := [], accepted := [], taken := [], lost := [] }

def trySend (state : State) (candidate : String) : Option State :=
  if state.closed = false ∧ state.channel.length < state.capacity then
    some { state with channel := state.channel ++ [candidate], accepted := state.accepted ++ [candidate] }
  else none

-- The newest at the back, the oldest out when the window is full.
def slide {α : Type} (window : Nat) (recent : List α) (newest : α) : List α :=
  (if window ≤ recent.length then recent.tail else recent) ++ [newest]

-- `hash` is the digest of this process, whose seed is random.
def queue (hash : String → UInt64) (state : State) (candidate : String) : Bool × State :=
  let digest := hash candidate
  if digest ∈ state.recent then (!state.closed, state)
  else
    match trySend state candidate with
    | none => (false, state)
    | some sent => (true, { sent with recent := slide iceDedupWindow sent.recent digest })

-- A closed receiver still takes what is in the channel; a dropped one does not.
def step (hash : String → UInt64) (state : State) : Label → Option State
  | .queue candidate => some (queue hash state candidate).2
  | .take =>
      match state.channel with
      | [] => none
      | candidate :: rest => some { state with channel := rest, taken := state.taken ++ [candidate] }
  | .close => some { state with closed := true }
  | .drop => some { state with closed := true, channel := [], lost := state.lost ++ state.channel }

def lastAccepted (state : State) : List String := state.accepted.rtake iceDedupWindow

def CollisionFree (hash : String → UInt64) (labels : List Label) : Prop :=
  ∀ first second, .queue first ∈ labels → .queue second ∈ labels → hash first = hash second → first = second

-- What a call does in a state, and what it answers.
structure Served (hash : String → UInt64) (state : State) (candidate : String) : Prop where
  repeated : candidate ∈ lastAccepted state → (queue hash state candidate).2 = state
  refused : (queue hash state candidate).1 = false → (queue hash state candidate).2 = state
  placed : candidate ∉ lastAccepted state → state.closed = false → state.channel.length < state.capacity →
    (queue hash state candidate).1 = true ∧ (queue hash state candidate).2.channel = state.channel ++ [candidate]
  answer : (queue hash state candidate).1 = true ↔
    state.closed = false ∧ ((queue hash state candidate).2.channel = state.channel ++ [candidate] ∨ candidate ∈ lastAccepted state)

structure Sound (hash : String → UInt64) (state : State) : Prop where
  recent : state.recent = (lastAccepted state).map hash
  distinct : (lastAccepted state).Nodup
  digests : state.recent.Nodup
  order : state.taken ++ state.channel ++ state.lost = state.accepted
  whole : state.lost = [] ∨ state.closed = true ∧ state.channel = []
  room : state.channel.length ≤ state.capacity

section
variable (hash : String → UInt64)

-- The window of the longer list slides by one.
theorem rtake_concat {α : Type} (window : Nat) (positive : 0 < window) (list : List α) (last : α) :
    (list ++ [last]).rtake window = slide window (list.rtake window) last := by
  obtain ⟨size, rfl⟩ : ∃ size, window = size + 1 := ⟨window - 1, by omega⟩
  rw [List.rtake_concat_succ, slide]
  congr 1
  by_cases full : size + 1 ≤ list.length
  · have length : (list.rtake (size + 1)).length = size + 1 := by
      simp only [List.rtake, List.length_drop]
      omega
    rw [length, if_pos (Nat.le_refl _), List.rtake, List.rtake, List.tail_drop]
    congr 1
    omega
  · have whole : ∀ count, list.length ≤ count → list.rtake count = list := by
      intro count more
      rw [List.rtake, Nat.sub_eq_zero_of_le more, List.drop_zero]
    rw [whole (size + 1) (by omega), if_neg full, whole size (by omega)]

theorem slide_map {α β : Type} (f : α → β) (window : Nat) (recent : List α) (newest : α) :
    (slide window recent newest).map f = slide window (recent.map f) (f newest) := by
  rw [slide, slide, List.map_append, List.length_map]
  by_cases full : window ≤ recent.length
  · rw [if_pos full, if_pos full, List.map_tail]
    rfl
  · rw [if_neg full, if_neg full]
    rfl

theorem slide_nodup {α : Type} (window : Nat) (recent : List α) (newest : α) (distinct : recent.Nodup) (fresh : newest ∉ recent) :
    (slide window recent newest).Nodup := by
  rw [slide, List.nodup_append]
  have older : (if window ≤ recent.length then recent.tail else recent).Sublist recent := by
    split
    · exact List.tail_sublist recent
    · exact List.Sublist.refl recent
  refine ⟨distinct.sublist older, List.nodup_singleton newest, ?_⟩
  intro one member other last same
  obtain rfl := List.mem_singleton.mp last
  exact fresh (same ▸ older.subset member)

theorem mem_slide {α : Type} (window : Nat) (recent : List α) (newest one : α) (member : one ∈ slide window recent newest) : one ∈ recent ∨ one = newest := by
  rw [slide, List.mem_append, List.mem_singleton] at member
  apply member.imp_left
  intro older
  split at older
  · exact List.mem_of_mem_tail older
  · exact older

theorem queue_repeated (state : State) (candidate : String) (known : hash candidate ∈ state.recent) :
    queue hash state candidate = (!state.closed, state) := by
  rw [queue, if_pos known]

theorem queue_refused (state : State) (candidate : String) (fresh : hash candidate ∉ state.recent)
    (full : ¬ (state.closed = false ∧ state.channel.length < state.capacity)) : queue hash state candidate = (false, state) := by
  rw [queue, if_neg fresh, trySend, if_neg full]

def place (state : State) (candidate : String) (digest : UInt64) : State :=
  { state with
    channel := state.channel ++ [candidate]
    accepted := state.accepted ++ [candidate]
    recent := slide iceDedupWindow state.recent digest }

theorem queue_placed (state : State) (candidate : String) (fresh : hash candidate ∉ state.recent)
    (free : state.closed = false ∧ state.channel.length < state.capacity) :
    queue hash state candidate = (true, place state candidate (hash candidate)) := by
  rw [queue, if_neg fresh, trySend, if_pos free]
  rfl

-- A digest stands for its candidate among those that are offered.
theorem recent_iff (offered : Set String) (collisionFree : Set.InjOn hash offered) (state : State) (candidate : String) (sound : Sound hash state)
    (inside : ∀ one ∈ state.accepted, one ∈ offered) (here : candidate ∈ offered) : hash candidate ∈ state.recent ↔ candidate ∈ lastAccepted state := by
  rw [sound.recent, List.mem_map]
  constructor
  · rintro ⟨one, member, same⟩
    exact collisionFree (inside one (List.mem_of_mem_drop member)) here same ▸ member
  · exact fun member => ⟨candidate, member, rfl⟩

theorem queue_served (offered : Set String) (collisionFree : Set.InjOn hash offered) (state : State) (candidate : String) (sound : Sound hash state)
    (inside : ∀ one ∈ state.accepted, one ∈ offered) (here : candidate ∈ offered) : Served hash state candidate := by
  have known := recent_iff hash offered collisionFree state candidate sound inside here
  by_cases repeated : candidate ∈ lastAccepted state
  · have same := queue_repeated hash state candidate (known.mpr repeated)
    refine ⟨fun _ => by rw [same], fun _ => by rw [same], fun fresh => absurd repeated fresh, ?_⟩
    rw [same]
    simp [repeated]
  · have fresh : hash candidate ∉ state.recent := fun member => repeated (known.mp member)
    by_cases free : state.closed = false ∧ state.channel.length < state.capacity
    · have placed := queue_placed hash state candidate fresh free
      refine ⟨fun member => absurd member repeated, ?_, ?_, ?_⟩ <;> rw [placed]
      · exact fun failed => Bool.noConfusion failed
      · exact fun _ _ _ => ⟨rfl, rfl⟩
      · simp [place, free.1]
    · have same := queue_refused hash state candidate fresh free
      refine ⟨fun _ => by rw [same], fun _ => by rw [same], fun _ opened room => absurd ⟨opened, room⟩ free, ?_⟩
      rw [same]
      simp [repeated]

theorem place_sound (state : State) (candidate : String) (sound : Sound hash state) (fresh : hash candidate ∉ state.recent)
    (free : state.closed = false ∧ state.channel.length < state.capacity) : Sound hash (place state candidate (hash candidate)) := by
  have window : lastAccepted (place state candidate (hash candidate)) = slide iceDedupWindow (lastAccepted state) candidate :=
    rtake_concat iceDedupWindow (by decide) state.accepted candidate
  have unseen : candidate ∉ lastAccepted state := by
    intro member
    apply fresh
    rw [sound.recent]
    exact List.mem_map_of_mem member
  have kept : state.lost = [] := by
    rcases sound.whole with none | ⟨closed, -⟩
    · exact none
    · rw [free.1] at closed
      cases closed
  refine ⟨?_, ?_, ?_, ?_, .inl kept, ?_⟩
  · rw [window, slide_map, ← sound.recent]
    rfl
  · rw [window]
    exact slide_nodup iceDedupWindow (lastAccepted state) candidate sound.distinct unseen
  · exact slide_nodup iceDedupWindow state.recent (hash candidate) sound.digests fresh
  · have order := sound.order
    rw [kept, List.append_nil] at order
    simp [place, kept, ← order]
  · have room := free.2
    simp only [place, List.length_append, List.length_singleton]
    omega

end

end GotechDesk.RendezvousMediator.IceRoute
