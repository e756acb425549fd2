import GotechDesk.Machine

set_option autoImplicit false

namespace GotechDesk.VideoService

-- The two maps of a service, by connection id.
structure ServiceInner where
  subscribes : Finset Int32
  newSubscribes : Finset Int32
  active : Bool
  needSnapshot : Bool

def ServiceInner.new (needSnapshot : Bool) : ServiceInner :=
  { subscribes := ∅, newSubscribes := ∅, active := true, needSnapshot := needSnapshot }

def ServiceInner.onSubscribe (service : ServiceInner) (id : Int32) : ServiceInner :=
  if id ∈ service.subscribes then service
  else if service.needSnapshot then { service with newSubscribes := insert id service.newSubscribes }
  else { service with subscribes := insert id service.subscribes }

def ServiceInner.onUnsubscribe (service : ServiceInner) (id : Int32) : ServiceInner :=
  if id ∈ service.subscribes then { service with subscribes := service.subscribes.erase id }
  else { service with newSubscribes := service.newSubscribes.erase id }

def ServiceInner.swapNewSubscribes (service : ServiceInner) : ServiceInner :=
  { service with subscribes := service.subscribes ∪ service.newSubscribes, newSubscribes := ∅ }

def ServiceInner.hasSubscribes (service : ServiceInner) : Bool := service.subscribes.Nonempty || service.newSubscribes.Nonempty

def ServiceInner.ok (service : ServiceInner) : Bool := service.active && service.hasSubscribes

-- `ENCODE_NEED_SWITCH` of the codec.
def encodeNeedSwitch : String := "ENCODE_NEED_SWITCH"

structure EncoderKind where
  hardware : Bool
  latencyFree : Bool
deriving DecidableEq

-- An encoder by the number of its creation, with how many frames it has put out.
structure Encoder where
  serial : Nat
  outputs : Nat
  kind : EncoderKind
deriving DecidableEq

-- The counters of one run of the service's loop.
structure Counters where
  encodeFailCounter : Nat
  firstFrame : Bool
deriving DecidableEq

-- Whether a failed encode ends the run, and the counter it leaves.
def encodeFailed (android : Bool) (kind : EncoderKind) (error : String) (first : Bool) (encodeFailCounter : Nat) : Bool × Nat :=
  let failed := encodeFailCounter + 1
  let maxFailTimes := if android && kind.hardware then 9 else 3
  let tooMany := (first && kind.latencyFree) || decide (maxFailTimes ≤ failed)
  (tooMany && kind.hardware || error = encodeNeedSwitch, if tooMany then 0 else failed)

-- Where the service's thread is: outside a run, before its encoder is there, at the test of the loop, at the capture, in the
-- stages of `handle_one_frame`, after it, or in the snapshot of a changed display.
inductive Phase where
  | outside
  | starting
  | looping
  | capturing
  | snapshot
  | called
  | swapping (switch : Bool)
  | encoding
  | sending (frame : Nat)
  | waiting
  | announcing
  | announced
deriving DecidableEq

-- `received` holds the frames a connection was sent since it subscribed, by encoder and number.
structure Host where
  service : ServiceInner
  phase : Phase
  encoder : Encoder
  counters : Counters
  received : Int32 → List (Nat × Nat)

inductive Label where
  | subscribe (id : Int32)
  | unsubscribe (id : Int32)
  | join
  | enter
  | setupEncoder (kind : EncoderKind)
  | test
  | capture (valid : Bool)
  | again
  | fail
  | display
  | check
  | callback
  | drop
  | encode (result : Except String Unit)
  | send
  | next

def Host.to (host : Host) (phase : Phase) : Host := { host with phase := phase }

def Host.sendVideoFrame (host : Host) (frame : Nat) : Host :=
  { host with received := fun id => if id ∈ host.service.subscribes then host.received id ++ [(host.encoder.serial, frame)] else host.received id }

def Host.onSubscribe (host : Host) (id : Int32) : Host :=
  { host with
    service := host.service.onSubscribe id,
    received := if id ∈ host.service.subscribes then host.received else Function.update host.received id [] }

def Host.encode (android : Bool) (host : Host) : Except String Unit → Host
  | .ok _ =>
      { host with
        phase := .sending host.encoder.outputs,
        encoder := { host.encoder with outputs := host.encoder.outputs + 1 },
        counters := { encodeFailCounter := 0, firstFrame := false } }
  | .error error =>
      let failed := encodeFailed android host.encoder.kind error host.counters.firstFrame host.counters.encodeFailCounter
      { host with phase := if failed.1 then .outside else .waiting, counters := { encodeFailCounter := failed.2, firstFrame := false } }

section
variable (android : Bool)

def step (host : Host) : Label → Option Host
  | .subscribe id => some (host.onSubscribe id)
  | .unsubscribe id => some { host with service := host.service.onUnsubscribe id }
  | .join => some { host with service := { host.service with active := false } }
  | .enter => if host.phase = .outside ∧ host.service.active ∧ host.service.hasSubscribes then some (host.to .starting) else none
  | .setupEncoder kind =>
      if host.phase = .starting then
        some { host with
          phase := .looping,
          encoder := { serial := host.encoder.serial + 1, outputs := 0, kind := kind },
          counters := { encodeFailCounter := 0, firstFrame := true } }
      else none
  | .test => if host.phase = .looping then some (host.to (if host.service.ok then .capturing else .outside)) else none
  | .capture valid => if host.phase = .capturing then some (host.to (if valid then .snapshot else .waiting)) else none
  | .again => if host.phase = .capturing then some (host.to .looping) else none
  -- Any of the errors that end a run before its encoder, before a frame or after it.
  | .fail => if host.phase = .starting ∨ host.phase = .capturing ∨ host.phase = .waiting then some (host.to .outside) else none
  | .display => if host.phase = .capturing ∨ host.phase = .waiting then some (host.to .announcing) else none
  | .check =>
      match host.phase with
      | .snapshot => some (host.to (if host.service.newSubscribes.Nonempty then .called else .encoding))
      | .announcing => some (host.to (if host.service.newSubscribes.Nonempty then .announced else .outside))
      | _ => none
  | .callback => if host.phase = .called then some (host.to (.swapping (decide host.service.subscribes.Nonempty))) else none
  | .drop =>
      match host.phase with
      | .swapping switch => some { host with service := host.service.swapNewSubscribes, phase := if switch then .outside else .encoding }
      | .announced => some { host with service := host.service.swapNewSubscribes, phase := .outside }
      | _ => none
  | .encode result => if host.phase = .encoding then some (host.encode android result) else none
  | .send =>
      match host.phase with
      | .sending frame => some ((host.sendVideoFrame frame).to .waiting)
      | _ => none
  | .next => if host.phase = .waiting then some (host.to .looping) else none

def start (kind : EncoderKind) : Host :=
  { service := ServiceInner.new true, phase := .outside, encoder := { serial := 0, outputs := 0, kind := kind },
    counters := { encodeFailCounter := 0, firstFrame := true }, received := fun _ => [] }

-- Every frame only depends on frames that were sent before it.
def Whole (frames : List (Nat × Nat)) : Prop :=
  ∀ before frame after, frames = before ++ frame :: after → ∀ number, number < frame.2 → (frame.1, number) ∈ before

structure Fresh (host : Host) : Prop where
  first : ∀ id, ∀ frame ∈ (host.received id).head?, frame.2 = 0
  whole : ∀ id, Whole (host.received id)

-- A swap that does not end the run moves nobody to an encoder that has put out frames.
def Unspent (host : Host) : Label → Prop
  | .drop => host.phase = .swapping false → host.service.newSubscribes.Nonempty → host.encoder.outputs = 0
  | _ => True

theorem whole_nil : Whole [] := by
  intro before frame after split
  have lengths := congrArg List.length split
  rw [List.length_append, List.length_cons, List.length_nil] at lengths
  omega

theorem whole_snoc (frames : List (Nat × Nat)) (encoder number : Nat) (whole : Whole frames)
    (earlier : ∀ one, one < number → (encoder, one) ∈ frames) : Whole (frames ++ [(encoder, number)]) := by
  intro before frame after split one small
  obtain rfl | ⟨rest, last, rfl⟩ := List.eq_nil_or_concat after
  · obtain ⟨rfl, last⟩ := List.append_inj' split rfl
    rw [← List.cons.inj last |>.1] at small ⊢
    exact earlier one small
  · rw [List.concat_eq_append, ← List.cons_append, ← List.append_assoc] at split
    obtain ⟨rfl, _⟩ := List.append_inj' split rfl
    exact whole before frame rest rfl one small

theorem whole_first (frames : List (Nat × Nat)) (whole : Whole frames) : ∀ frame ∈ frames.head?, frame.2 = 0 := by
  intro frame head
  cases frames with
  | nil => cases head
  | cons first rest =>
      obtain rfl := Option.some.inj head
      by_contra late
      exact absurd (whole [] first rest rfl 0 (Nat.pos_of_ne_zero late)) List.not_mem_nil

-- How many frames of its encoder the service has sent; the one being sent does not count yet.
def Host.sent (host : Host) : Nat :=
  match host.phase with
  | .sending frame => frame
  | _ => host.encoder.outputs

structure CaughtUp (host : Host) : Prop where
  snapshot : host.service.needSnapshot = true
  whole : ∀ id, Whole (host.received id)
  pending : ∀ frame, host.phase = .sending frame → host.encoder.outputs = frame + 1
  caught : host.phase ≠ .outside → host.phase ≠ .starting → ∀ id ∈ host.service.subscribes, ∀ number, number < host.sent →
    (host.encoder.serial, number) ∈ host.received id

theorem caught_fresh (host : Host) (caught : CaughtUp host) : Fresh host :=
  ⟨fun id => whole_first (host.received id) (caught.whole id), caught.whole⟩

theorem sent_outputs (host : Host) (here : ∀ frame, host.phase ≠ .sending frame) : host.sent = host.encoder.outputs := by
  unfold Host.sent
  split
  · rename_i frame is
    exact absurd is (here frame)
  · rfl

-- The thread goes on without touching the maps or the encoder.
theorem caught_to (host : Host) (phase : Phase) (caught : CaughtUp host) (here : ∀ frame, host.phase ≠ .sending frame)
    (there : ∀ frame, phase ≠ .sending frame)
    (live : phase = .outside ∨ phase = .starting ∨ (host.phase ≠ .outside ∧ host.phase ≠ .starting)) : CaughtUp (host.to phase) := by
  refine ⟨caught.snapshot, caught.whole, fun frame is => absurd is (there frame), ?_⟩
  intro inside started id listed number small
  rw [sent_outputs (host.to phase) there] at small
  obtain beyond | beyond | ⟨was_inside, was_started⟩ := live
  · exact absurd beyond inside
  · exact absurd beyond started
  · exact caught.caught was_inside was_started id listed number (by rwa [sent_outputs host here])

theorem caught_within (host : Host) (now phase : Phase) (caught : CaughtUp host) (here : host.phase = now)
    (steady : now ≠ .outside ∧ now ≠ .starting ∧ ∀ frame, now ≠ .sending frame) (there : ∀ frame, phase ≠ .sending frame) :
    CaughtUp (host.to phase) := by
  apply caught_to host phase caught _ there
  · rw [here]
    exact Or.inr (Or.inr ⟨steady.1, steady.2.1⟩)
  · rw [here]
    exact steady.2.2

theorem on_subscribe_subscribes (service : ServiceInner) (id : Int32) (needs : service.needSnapshot = true) :
    (service.onSubscribe id).subscribes = service.subscribes ∧ (service.onSubscribe id).needSnapshot = true := by
  unfold ServiceInner.onSubscribe
  by_cases listed : id ∈ service.subscribes
  · rw [if_pos listed]
    exact ⟨rfl, needs⟩
  · rw [if_neg listed, if_pos needs]
    exact ⟨rfl, needs⟩

theorem on_unsubscribe_subscribes (service : ServiceInner) (id : Int32) :
    (service.onUnsubscribe id).subscribes ⊆ service.subscribes ∧ (service.onUnsubscribe id).needSnapshot = service.needSnapshot := by
  unfold ServiceInner.onUnsubscribe
  split
  · exact ⟨Finset.erase_subset id service.subscribes, rfl⟩
  · exact ⟨Finset.Subset.refl _, rfl⟩

section
variable (host : Host)

theorem caught_subscribe (id : Int32) (caught : CaughtUp host) : CaughtUp (host.onSubscribe id) := by
  obtain ⟨same, needs⟩ := on_subscribe_subscribes host.service id caught.snapshot
  -- A connection that gets a new list is not among the ones that frames are sent to.
  have received : ∀ other, other ∈ host.service.subscribes → (host.onSubscribe id).received other = host.received other := by
    intro other listed
    unfold Host.onSubscribe
    split
    · rfl
    · rename_i absent
      apply Function.update_of_ne
      rintro rfl
      exact absent listed
  refine ⟨needs, ?_, caught.pending, ?_⟩
  · intro other
    unfold Host.onSubscribe
    dsimp only
    split
    · exact caught.whole other
    · rw [Function.update_apply]
      split
      · exact whole_nil
      · exact caught.whole other
  · intro inside started other listed number small
    rw [show (host.onSubscribe id).service.subscribes = host.service.subscribes from same] at listed
    rw [received other listed]
    exact caught.caught inside started other listed number small

theorem caught_unsubscribe (id : Int32) (caught : CaughtUp host) : CaughtUp { host with service := host.service.onUnsubscribe id } := by
  obtain ⟨fewer, needs⟩ := on_unsubscribe_subscribes host.service id
  refine ⟨needs.trans caught.snapshot, caught.whole, caught.pending, ?_⟩
  intro inside started other listed number small
  exact caught.caught inside started other (fewer listed) number small

-- Between two runs there is no encoder to be behind with.
theorem caught_outside (service : ServiceInner) (caught : CaughtUp host) (needs : service.needSnapshot = host.service.needSnapshot) :
    CaughtUp { host with service := service, phase := .outside } :=
  ⟨needs.trans caught.snapshot, caught.whole, nofun, fun inside => absurd rfl inside⟩

theorem caught_drop (caught : CaughtUp host) (here : host.phase = .swapping false)
    (unspent : host.service.newSubscribes.Nonempty → host.encoder.outputs = 0) :
    CaughtUp { host with service := host.service.swapNewSubscribes, phase := .encoding } := by
  refine ⟨caught.snapshot, caught.whole, nofun, ?_⟩
  intro _ _ id listed number small
  have fresh : number < host.encoder.outputs := small
  obtain none_new | new := Finset.eq_empty_or_nonempty host.service.newSubscribes
  · have old : id ∈ host.service.subscribes := by
      have moved : id ∈ host.service.subscribes ∪ host.service.newSubscribes := listed
      rwa [none_new, Finset.union_empty] at moved
    apply caught.caught (by rw [here]; exact nofun) (by rw [here]; exact nofun) id old number
    rw [sent_outputs host (by rw [here]; exact nofun)]
    exact fresh
  · rw [unspent new] at fresh
    exact absurd fresh (Nat.not_lt_zero number)

theorem caught_send (frame : Nat) (caught : CaughtUp host) (here : host.phase = .sending frame) :
    CaughtUp ((host.sendVideoFrame frame).to .waiting) := by
  have sent : host.sent = frame := by
    unfold Host.sent
    rw [here]
  have before : ∀ id ∈ host.service.subscribes, ∀ number, number < frame → (host.encoder.serial, number) ∈ host.received id := by
    intro id listed number small
    exact caught.caught (by rw [here]; exact nofun) (by rw [here]; exact nofun) id listed number (by rwa [sent])
  refine ⟨caught.snapshot, ?_, nofun, ?_⟩
  · intro id
    change Whole (if id ∈ host.service.subscribes then host.received id ++ [(host.encoder.serial, frame)] else host.received id)
    split
    · rename_i listed
      exact whole_snoc (host.received id) host.encoder.serial frame (caught.whole id) (before id listed)
    · exact caught.whole id
  · intro _ _ id listed number small
    have bound : number < frame + 1 := by
      rw [← caught.pending frame here]
      exact small
    change (host.encoder.serial, number) ∈ (if id ∈ host.service.subscribes then host.received id ++ [(host.encoder.serial, frame)] else host.received id)
    rw [if_pos (show id ∈ host.service.subscribes from listed)]
    obtain earlier | rfl := Nat.lt_succ_iff_lt_or_eq.mp bound
    · exact List.mem_append_left _ (before id listed number earlier)
    · exact List.mem_append_right _ (List.mem_singleton_self _)

theorem caught_encode (result : Except String Unit) (caught : CaughtUp host) (here : host.phase = .encoding) :
    CaughtUp (host.encode android result) := by
  have sent := sent_outputs host (by rw [here]; exact nofun)
  have behind := caught.caught (by rw [here]; exact nofun) (by rw [here]; exact nofun)
  rw [sent] at behind
  cases result with
  | ok done =>
      refine ⟨caught.snapshot, caught.whole, ?_, fun _ _ => behind⟩
      intro frame is
      rw [← Phase.sending.inj is]
      rfl
  | error error =>
      by_cases ends : (encodeFailed android host.encoder.kind error host.counters.firstFrame host.counters.encodeFailCounter).1 = true
      · refine ⟨caught.snapshot, caught.whole, ?_, ?_⟩
        · intro frame is
          rw [show (host.encode android (.error error)).phase = .outside from if_pos ends] at is
          cases is
        · exact fun inside => absurd (if_pos ends) inside
      · have phase : (host.encode android (.error error)).phase = .waiting := if_neg ends
        refine ⟨caught.snapshot, caught.whole, ?_, ?_⟩
        · intro frame is
          rw [phase] at is
          cases is
        · intro _ _ id listed number small
          rw [sent_outputs _ (by rw [phase]; exact nofun)] at small
          exact behind id listed number small

theorem caught_step (label : Label) (next : Host) (caught : CaughtUp host) (unspent : Unspent host label)
    (taken : step android host label = some next) : CaughtUp next := by
  cases label with
  | subscribe id =>
      obtain rfl := Option.some.inj taken
      exact caught_subscribe host id caught
  | unsubscribe id =>
      obtain rfl := Option.some.inj taken
      exact caught_unsubscribe host id caught
  | join =>
      obtain rfl := Option.some.inj taken
      exact { caught with }
  | enter =>
      obtain ⟨⟨here, _⟩, rfl⟩ := Option.ite_some_none_eq_some.mp taken
      exact caught_to host .starting caught (by rw [here]; exact nofun) nofun (Or.inr (Or.inl rfl))
  | setupEncoder kind =>
      obtain ⟨here, rfl⟩ := Option.ite_some_none_eq_some.mp taken
      exact ⟨caught.snapshot, caught.whole, nofun, fun _ _ _ _ number small => absurd small (Nat.not_lt_zero number)⟩
  | test =>
      obtain ⟨here, rfl⟩ := Option.ite_some_none_eq_some.mp taken
      split
      · exact caught_within host _ .capturing caught here ⟨nofun, nofun, nofun⟩ nofun
      · exact caught_to host .outside caught (by rw [here]; exact nofun) nofun (Or.inl rfl)
  | capture valid =>
      obtain ⟨here, rfl⟩ := Option.ite_some_none_eq_some.mp taken
      refine caught_within host _ _ caught here ⟨nofun, nofun, nofun⟩ ?_
      intro frame
      split <;> exact nofun
  | again =>
      obtain ⟨here, rfl⟩ := Option.ite_some_none_eq_some.mp taken
      exact caught_within host _ .looping caught here ⟨nofun, nofun, nofun⟩ nofun
  | fail =>
      obtain ⟨here, rfl⟩ := Option.ite_some_none_eq_some.mp taken
      refine caught_to host .outside caught ?_ nofun (Or.inl rfl)
      obtain here | here | here := here <;> (rw [here]; exact nofun)
  | display =>
      obtain ⟨here, rfl⟩ := Option.ite_some_none_eq_some.mp taken
      obtain here | here := here
      · exact caught_within host _ .announcing caught here ⟨nofun, nofun, nofun⟩ nofun
      · exact caught_within host _ .announcing caught here ⟨nofun, nofun, nofun⟩ nofun
  | check =>
      dsimp only [step] at taken
      split at taken
      · rename_i here
        obtain rfl := Option.some.inj taken
        refine caught_within host _ _ caught here ⟨nofun, nofun, nofun⟩ ?_
        intro frame
        split <;> exact nofun
      · rename_i here
        obtain rfl := Option.some.inj taken
        refine caught_within host _ _ caught here ⟨nofun, nofun, nofun⟩ ?_
        intro frame
        split <;> exact nofun
      · cases taken
  | callback =>
      obtain ⟨here, rfl⟩ := Option.ite_some_none_eq_some.mp taken
      exact caught_within host _ _ caught here ⟨nofun, nofun, nofun⟩ nofun
  | drop =>
      dsimp only [step] at taken
      split at taken
      · rename_i switch here
        obtain rfl := Option.some.inj taken
        cases switch with
        | true => exact caught_outside host host.service.swapNewSubscribes caught rfl
        | false => exact caught_drop host caught here (unspent here)
      · obtain rfl := Option.some.inj taken
        exact caught_outside host host.service.swapNewSubscribes caught rfl
      · cases taken
  | encode result =>
      obtain ⟨here, rfl⟩ := Option.ite_some_none_eq_some.mp taken
      exact caught_encode android host result caught here
  | send =>
      dsimp only [step] at taken
      split at taken
      · rename_i frame here
        obtain rfl := Option.some.inj taken
        exact caught_send host frame caught here
      · cases taken
  | next =>
      obtain ⟨here, rfl⟩ := Option.ite_some_none_eq_some.mp taken
      exact caught_within host _ .looping caught here ⟨nofun, nofun, nofun⟩ nofun

end

theorem caught_start (kind : EncoderKind) : CaughtUp (start kind) :=
  ⟨rfl, fun _ => whole_nil, nofun, fun inside => absurd rfl inside⟩

theorem starts_fresh (kind : EncoderKind) (past : List (Host × Label)) (host : Host)
    (traced : Machine.Traced (step android) (start kind) past host) (unspent : ∀ entry ∈ past, Unspent entry.1 entry.2) :
    (∀ entry ∈ past, Fresh entry.1) ∧ Fresh host := by
  obtain ⟨before, here⟩ := Machine.traced_kept (step android) CaughtUp Unspent (start kind) host past (caught_start kind)
    (caught_step android) traced unspent
  exact ⟨fun entry listed => caught_fresh entry.1 (before entry listed), caught_fresh host here⟩

end

def software : EncoderKind := { hardware := false, latencyFree := true }

def oneFrame : List Label := [.test, .capture true, .check, .encode (.ok ()), .send, .next]

-- A second viewer arrives, the service switches, and both get the first frame of the new encoder.
def joins : List Label :=
  [Label.subscribe 1, .enter, .setupEncoder software, .test, .capture true, .check, .callback, .drop, .encode (.ok ()), .send, .next] ++
    oneFrame ++ [Label.subscribe 2, .test, .capture true, .check, .callback, .drop, .enter, .setupEncoder software] ++ oneFrame

instance (host : Host) (label : Label) : Decidable (Unspent host label) := by
  cases label <;> (unfold Unspent; infer_instance)

theorem joins_run : (Machine.run (step false) (start software) joins).isSome = true := by decide

theorem starts_fresh_joins :
    ((Machine.run (step false) (start software) joins).get joins_run).received 2 = [(2, 0)] ∧
      (∀ entry ∈ Machine.trace (step false) (start software) joins, Fresh entry.1) ∧
        Fresh ((Machine.run (step false) (start software) joins).get joins_run) := by
  refine ⟨by decide, ?_⟩
  apply starts_fresh false software _ _ (Machine.traced_run (step false) (start software) joins joins_run)
  decide

-- The only viewer leaves and another one comes while a frame is captured.
def replaced : List Label :=
  [.subscribe 1, .enter, .setupEncoder software, .test, .capture true, .check, .callback, .drop, .encode (.ok ()), .send, .next,
   .test, .unsubscribe 1, .subscribe 2, .capture true, .check, .callback, .drop, .encode (.ok ()), .send]

theorem replaced_received : (Machine.run (step false) (start software) replaced).map (fun host => host.received 2) = some [(1, 1)] := by decide

theorem starts_within : ∃ host, Machine.Reachable (step false) (start software) host ∧ ¬ Fresh host := by
  obtain ⟨host, ran, received⟩ := Option.map_eq_some_iff.mp replaced_received
  refine ⟨host, ⟨replaced, ran⟩, fun fresh => ?_⟩
  have first := fresh.first 2 (1, 1) (by rw [received]; rfl)
  cases first

end GotechDesk.VideoService
