import GotechDesk.VideoThread.Queue

set_option autoImplicit false

namespace GotechDesk.VideoThread

def Outcome.frame : Outcome → VideoFrame
  | .decoded vf => vf
  | .lost vf => vf

def Outcome.given : Outcome → Option VideoFrame
  | .decoded vf => some vf
  | .lost _ => none

-- The frames the decoder was given, in its order.
def given (outcomes : List Outcome) : List VideoFrame := outcomes.filterMap Outcome.given

-- After a frame that was lost, no frame that needs it before a later key frame.
def Recovers (outcomes : List Outcome) : Prop :=
  ∀ before lost between vf after, outcomes = before ++ .lost lost :: between ++ .decoded vf :: after → vf.key = false → lost.serial < vf.serial →
    ∃ key ∈ given (before ++ between), key.key = true ∧ lost.serial < key.serial

structure Ordered (d : Display) : Prop where
  subsequence : (given d.outcomes).Sublist d.arrived
  once : d.arrived.Nodup
  recovers : Recovers d.outcomes

def Thread.hasKey : Thread → Bool
  | .clearing _ => true
  | .decoding vf => vf.key
  | _ => false

def MediaData.isFrame : MediaData → Bool
  | .videoFrame _ => true
  | .videoQueue => false

-- A key frame is on its way to the decoder.
def Display.keyUnderWay (d : Display) : Bool := d.thread.hasKey || d.videoSender.any MediaData.isFrame

-- A frame that is no key frame finds room in the queue, or all that is under way is to be discarded.
def Fits (d : Display) : Event → Prop
  | .arrive false => d.videoQueue.length < d.capacity ∨ (d.discardQueue = true ∧ d.keyUnderWay = false)
  | _ => True

instance (d : Display) : (event : Event) → Decidable (Fits d event)
  | .arrive false => inferInstanceAs (Decidable (d.videoQueue.length < d.capacity ∨ (d.discardQueue = true ∧ d.keyUnderWay = false)))
  | .arrive true => inferInstanceAs (Decidable True)
  | .sendToken => inferInstanceAs (Decidable True)
  | .refresh => inferInstanceAs (Decidable True)
  | .receive => inferInstanceAs (Decidable True)
  | .pop => inferInstanceAs (Decidable True)
  | .look => inferInstanceAs (Decidable True)
  | .clear => inferInstanceAs (Decidable True)
  | .decode => inferInstanceAs (Decidable True)

-- The frames of the channel, each token standing for the next of the queue.
def merge : List MediaData → List VideoFrame → List VideoFrame
  | [], _ => []
  | .videoFrame vf :: rest, queue => vf :: merge rest queue
  | .videoQueue :: rest, [] => merge rest []
  | .videoQueue :: rest, vf :: queue => vf :: merge rest queue

def tokens (line : List MediaData) : Nat := line.count .videoQueue

section
variable (line : List MediaData) (queue : List VideoFrame)

theorem merge_key (vf : VideoFrame) : merge (line ++ [.videoFrame vf]) queue = merge line queue ++ [vf] := by
  induction line generalizing queue with
  | nil => rfl
  | cons media rest ih =>
      cases media with
      | videoFrame first => rw [List.cons_append, merge, merge, ih, List.cons_append]
      | videoQueue =>
          cases queue with
          | nil => rw [List.cons_append, merge, merge, ih]
          | cons first queue => rw [List.cons_append, merge, merge, ih, List.cons_append]

theorem merge_token (vf : VideoFrame) (matched : tokens line = queue.length) :
    merge (line ++ [.videoQueue]) (queue ++ [vf]) = merge line queue ++ [vf] := by
  induction line generalizing queue with
  | nil =>
      have empty : queue = [] := List.eq_nil_of_length_eq_zero matched.symm
      rw [empty]
      rfl
  | cons media rest ih =>
      cases media with
      | videoFrame first =>
          rw [List.cons_append, merge, merge, List.cons_append]
          congr 1
          apply ih
          rw [← matched, tokens, tokens, List.count_cons_of_ne (fun same => by cases same)]
      | videoQueue =>
          rw [tokens, List.count_cons_self] at matched
          cases queue with
          | nil => cases matched
          | cons first queue =>
              rw [List.cons_append, List.cons_append, merge, merge, List.cons_append]
              congr 1
              exact ih queue (Nat.succ.inj matched)

theorem merge_tokens (matched : tokens line = queue.length) (plain : line.any MediaData.isFrame = false) : merge line queue = queue := by
  induction line generalizing queue with
  | nil => exact (List.eq_nil_of_length_eq_zero matched.symm).symm
  | cons media rest ih =>
      cases media with
      | videoFrame vf => cases plain
      | videoQueue =>
          rw [tokens, List.count_cons_self] at matched
          cases queue with
          | nil => cases matched
          | cons first queue => rw [merge, ih queue (Nat.succ.inj matched) plain]

end

def Thread.held : Thread → List VideoFrame
  | .receiving => []
  | .popping => []
  | .popped vf => [vf]
  | .clearing vf => [vf]
  | .decoding vf => [vf]

def Thread.token : Thread → List MediaData
  | .popping => [.videoQueue]
  | _ => []

def owed (tokenOwed : Bool) : List MediaData := if tokenOwed then [.videoQueue] else []

-- The channel with the token the thread has taken and the one the io loop still owes.
def Display.line (d : Display) : List MediaData := d.thread.token ++ d.videoSender ++ owed d.tokenOwed

def Display.upcoming (d : Display) : List VideoFrame := d.thread.held ++ merge d.line d.videoQueue

-- A lost frame after which the decoder has had no key frame yet.
def Uncovered (outcomes : List Outcome) (lost : VideoFrame) : Prop :=
  .lost lost ∈ outcomes ∧ ∀ key ∈ given outcomes, key.key = true → ¬ lost.serial < key.serial

-- What the decoder was given and what is under way are in the order of arrival, each key frame
-- under way comes after all that was lost, and a lost frame keeps the flag up until a key frame
-- goes to the decoder.
structure Flowing (d : Display) : Prop where
  sized : 0 < d.capacity
  order : (given d.outcomes ++ d.upcoming).Sublist d.arrived
  matched : tokens d.line = d.videoQueue.length
  rising : d.arrived.Pairwise (fun first second => first.serial < second.serial)
  numbered : ∀ vf ∈ d.arrived, vf.serial < d.arrived.length
  keys : ∀ vf, .videoFrame vf ∈ d.videoSender → vf.key = true
  clearing : ∀ vf, d.thread = .clearing vf → vf.key = true
  queued : ∀ vf ∈ d.videoQueue, vf.key = false
  popped : ∀ vf, d.thread = .popped vf → vf.key = false
  behind : ∀ lost, .lost lost ∈ d.outcomes → lost ∈ d.arrived ∧ ∀ vf ∈ d.upcoming, vf.key = true → lost.serial < vf.serial
  flagged : ∀ lost, Uncovered d.outcomes lost → d.discardQueue = true ∨ ∃ vf, d.thread = .decoding vf ∧ vf.key = true
  ready : ∀ vf, d.thread = .decoding vf → vf.key = false → ∀ lost, Uncovered d.outcomes lost → ¬ lost.serial < vf.serial
  recovers : Recovers d.outcomes

theorem given_append (first second : List Outcome) : given (first ++ second) = given first ++ given second := List.filterMap_append

theorem recovers_snoc (outcomes : List Outcome) (last : Outcome) (held : Recovers outcomes)
    (ready : ∀ before lost between vf, outcomes = before ++ .lost lost :: between → last = .decoded vf → vf.key = false →
      lost.serial < vf.serial → ∃ key ∈ given (before ++ between), key.key = true ∧ lost.serial < key.serial) :
    Recovers (outcomes ++ [last]) := by
  intro before lost between late after split plain later
  rcases List.eq_nil_or_concat after with rfl | ⟨rest, final, rfl⟩
  · have ends : outcomes ++ [last] = (before ++ .lost lost :: between) ++ [.decoded late] := by
      rw [split, List.append_assoc, List.cons_append]
    obtain ⟨same, only⟩ := List.append_inj' ends rfl
    exact ready before lost between late same (List.singleton_inj.mp only) plain later
  · have ends : outcomes ++ [last] = (before ++ .lost lost :: between ++ .decoded late :: rest) ++ [final] := by
      rw [split]
      simp
    refine held before lost between late rest ?_ plain later
    rw [(List.append_inj' ends rfl).1]

theorem recovers_lost (outcomes : List Outcome) (vf : VideoFrame) (held : Recovers outcomes) : Recovers (outcomes ++ [.lost vf]) :=
  recovers_snoc outcomes (.lost vf) held (fun _ _ _ _ _ decoded => by cases decoded)

theorem recovers_decoded (outcomes : List Outcome) (vf : VideoFrame) (held : Recovers outcomes)
    (ready : vf.key = false → ∀ lost, Uncovered outcomes lost → ¬ lost.serial < vf.serial) : Recovers (outcomes ++ [.decoded vf]) := by
  apply recovers_snoc outcomes (.decoded vf) held
  intro before lost between late same decoded plain later
  cases decoded
  have covered := ready plain lost
  rw [same] at covered
  have listed : Outcome.lost lost ∈ before ++ .lost lost :: between := List.mem_append_right _ List.mem_cons_self
  by_contra none
  refine covered ⟨listed, fun key member isKey above => none ⟨key, ?_, isKey, above⟩⟩ later
  have dropped : given (.lost lost :: between) = given between := rfl
  rw [given_append, dropped] at member
  rw [given_append]
  exact member

theorem flowing_start (capacity : Nat) (sized : 0 < capacity) : Flowing { capacity := capacity } where
  sized := sized
  order := List.Sublist.slnil
  matched := rfl
  rising := List.Pairwise.nil
  numbered := fun _ member => by cases member
  keys := fun _ member => by cases member
  clearing := fun _ same => by cases same
  queued := fun _ member => by cases member
  popped := fun _ same => by cases same
  behind := fun _ member => by cases member
  flagged := fun _ uncovered => by cases uncovered.1
  ready := fun _ same => by cases same
  recovers := by
    intro before lost between vf after split
    cases before with
    | nil => cases split
    | cons first rest => cases split

-- A new frame comes after all the others.
theorem arrived_snoc (arrived : List VideoFrame) (key : Bool) (rising : arrived.Pairwise (fun first second => first.serial < second.serial))
    (numbered : ∀ vf ∈ arrived, vf.serial < arrived.length) :
    (arrived ++ [VideoFrame.mk arrived.length key]).Pairwise (fun first second => first.serial < second.serial) ∧
      ∀ vf ∈ arrived ++ [VideoFrame.mk arrived.length key], vf.serial < (arrived ++ [VideoFrame.mk arrived.length key]).length := by
  constructor
  · refine List.pairwise_append.mpr ⟨rising, List.pairwise_singleton _ _, fun vf member last same => ?_⟩
    rw [List.mem_singleton.mp same]
    exact numbered vf member
  · rw [List.length_append]
    refine List.forall_mem_append.mpr ⟨fun vf member => Nat.lt_succ_of_lt (numbered vf member), ?_⟩
    exact List.forall_mem_singleton.mpr (Nat.lt_succ_self _)

section
variable (d : Display)

theorem behind_snoc (held : Flowing d) (key : Bool) : ∀ lost, .lost lost ∈ d.outcomes → lost ∈ d.arrived ++ [⟨d.arrived.length, key⟩] ∧
      ∀ vf ∈ d.upcoming ++ [⟨d.arrived.length, key⟩], vf.key = true → lost.serial < vf.serial := by
  intro lost member
  obtain ⟨there, above⟩ := held.behind lost member
  refine ⟨List.mem_append_left _ there, fun vf coming isKey => ?_⟩
  rcases List.mem_append.mp coming with old | new
  · exact above vf old isKey
  · rw [List.mem_singleton.mp new]
    exact held.numbered lost there

theorem order_snoc (held : Flowing d) (vf : VideoFrame) : (given d.outcomes ++ (d.upcoming ++ [vf])).Sublist (d.arrived ++ [vf]) := by
  rw [← List.append_assoc]
  exact held.order.append (List.Sublist.refl _)

theorem flowing_arrive_key (held : Flowing d) (free : d.tokenOwed = false) : Flowing (d.handleVideoFrame true) := by
  obtain ⟨rising, numbered⟩ := arrived_snoc d.arrived true held.rising held.numbered
  have line : d.line = d.thread.token ++ d.videoSender := by
    rw [Display.line, free]
    exact List.append_nil _
  have after : (d.handleVideoFrame true).line = d.line ++ [.videoFrame ⟨d.arrived.length, true⟩] := by
    have owes : (d.handleVideoFrame true).tokenOwed = false := free
    have sent : (d.handleVideoFrame true).line =
        d.thread.token ++ (d.videoSender ++ [.videoFrame ⟨d.arrived.length, true⟩]) ++ owed (d.handleVideoFrame true).tokenOwed := rfl
    rw [sent, owes, line, List.append_assoc d.thread.token d.videoSender]
    exact List.append_nil _
  have coming : (d.handleVideoFrame true).upcoming = d.upcoming ++ [⟨d.arrived.length, true⟩] := by
    have same : (d.handleVideoFrame true).upcoming = d.thread.held ++ merge (d.handleVideoFrame true).line d.videoQueue := rfl
    rw [same, after, merge_key, Display.upcoming, List.append_assoc]
  refine { held with order := ?_, matched := ?_, rising := rising, numbered := numbered, keys := ?_, behind := ?_ }
  · rw [coming]
    exact order_snoc d held _
  · rw [after, tokens, List.count_append, List.count_singleton]
    exact held.matched
  · intro vf member
    rcases List.mem_append.mp member with old | new
    · exact held.keys vf old
    · cases List.mem_singleton.mp new
      rfl
  · rw [coming]
    exact behind_snoc d held true

theorem flowing_arrive_queued (held : Flowing d) (free : d.tokenOwed = false) (room : d.videoQueue.length < d.capacity) :
    Flowing { d with videoQueue := d.videoQueue ++ [⟨d.arrived.length, false⟩], tokenOwed := true, arrived := d.arrived ++ [⟨d.arrived.length, false⟩] } := by
  obtain ⟨rising, numbered⟩ := arrived_snoc d.arrived false held.rising held.numbered
  generalize vf : VideoFrame.mk d.arrived.length false = new at rising numbered
  have after : Display.line { d with videoQueue := d.videoQueue ++ [new], tokenOwed := true, arrived := d.arrived ++ [new] } = d.line ++ [.videoQueue] := by
    rw [Display.line, Display.line, free]
    simp [owed]
  have coming : Display.upcoming { d with videoQueue := d.videoQueue ++ [new], tokenOwed := true, arrived := d.arrived ++ [new] } = d.upcoming ++ [new] := by
    rw [Display.upcoming, after]
    rw [merge_token d.line d.videoQueue new held.matched, Display.upcoming, List.append_assoc]
  refine { held with order := ?_, matched := ?_, rising := rising, numbered := numbered, queued := ?_, behind := ?_ }
  · rw [coming]
    exact order_snoc d held new
  · rw [after, tokens, List.count_append, List.count_singleton, List.length_append]
    exact congrArg (fun count => count + 1) held.matched
  · refine List.forall_mem_append.mpr ⟨held.queued, List.forall_mem_singleton.mpr ?_⟩
    rw [← vf]
  · rw [coming, ← vf]
    exact behind_snoc d held false

theorem flowing_evict (held : Flowing d) (free : d.tokenOwed = false) (full : ¬ d.videoQueue.length < d.capacity) (up : d.discardQueue = true)
    (noKey : d.keyUnderWay = false) :
    Flowing { d with videoQueue := d.videoQueue.tail ++ [⟨d.arrived.length, false⟩], arrived := d.arrived ++ [⟨d.arrived.length, false⟩],
                     outcomes := d.outcomes ++ d.videoQueue.head?.toList.map .lost } := by
  obtain ⟨rising, numbered⟩ := arrived_snoc d.arrived false held.rising held.numbered
  obtain ⟨noHeld, noSent⟩ := Bool.or_eq_false_iff.mp noKey
  have plain : d.line.any MediaData.isFrame = false := by
    rw [Display.line, free, List.any_append, List.any_append, noSent]
    cases d.thread <;> rfl
  have matched := held.matched
  have order := held.order
  have queued := held.queued
  rw [Display.upcoming, merge_tokens d.line d.videoQueue held.matched plain] at order
  obtain ⟨first, rest, split⟩ := List.exists_cons_of_length_pos (Nat.lt_of_lt_of_le held.sized (Nat.not_lt.mp full))
  have earlier := held.rising.sublist order
  rw [split] at matched order queued earlier ⊢
  generalize vf : VideoFrame.mk d.arrived.length false = new at rising numbered ⊢
  have evicted : (first :: rest).head?.toList.map Outcome.lost = [.lost first] := rfl
  rw [evicted, List.tail_cons]
  have dropped : given (d.outcomes ++ [.lost first]) = given d.outcomes := by
    rw [given_append]
    exact List.append_nil _
  have coming : Display.upcoming { d with videoQueue := rest ++ [new], arrived := d.arrived ++ [new], outcomes := d.outcomes ++ [.lost first] } =
      d.thread.held ++ (rest ++ [new]) := by
    rw [Display.upcoming]
    refine congrArg (fun frames => d.thread.held ++ frames) (merge_tokens d.line (rest ++ [new]) ?_ plain)
    rw [matched, List.length_append]
    rfl
  have kept : (given d.outcomes ++ (d.thread.held ++ rest)).Sublist d.arrived :=
    (((List.sublist_cons_self first rest).append_left d.thread.held).append_left (given d.outcomes)).trans order
  obtain ⟨_, others⟩ := List.forall_mem_cons.mp queued
  have noKeys : ∀ other ∈ d.thread.held ++ (rest ++ [new]), other.key = false := by
    refine List.forall_mem_append.mpr ⟨?_, List.forall_mem_append.mpr ⟨others, List.forall_mem_singleton.mpr (by rw [← vf])⟩⟩
    intro other member
    cases here : d.thread with
    | receiving =>
        rw [here] at member
        cases member
    | popping =>
        rw [here] at member
        cases member
    | popped held' =>
        rw [here] at member
        rw [List.mem_singleton.mp member]
        exact held.popped held' here
    | clearing _ =>
        rw [here] at noHeld
        cases noHeld
    | decoding held' =>
        rw [here] at member noHeld
        rw [List.mem_singleton.mp member]
        exact noHeld
  refine ⟨held.sized, ?_, ?_, rising, numbered, held.keys, held.clearing, ?_, held.popped, ?_, fun _ _ => .inl up, ?_, recovers_lost d.outcomes first held.recovers⟩
  · rw [coming]
    rw [dropped, ← List.append_assoc d.thread.held, ← List.append_assoc]
    exact kept.append (List.Sublist.refl _)
  · refine matched.trans ?_
    rw [List.length_append]
    rfl
  · exact List.forall_mem_append.mpr ⟨others, List.forall_mem_singleton.mpr (by rw [← vf])⟩
  · rw [coming]
    intro lost member
    refine ⟨List.mem_append_left _ ?_, fun other member isKey => absurd ((noKeys other member).symm.trans isKey) (by decide)⟩
    rcases List.mem_append.mp member with old | last
    · exact (held.behind lost old).1
    · cases List.mem_singleton.mp last
      exact order.subset (List.mem_append_right _ (List.mem_append_right _ List.mem_cons_self))
  · -- A frame already on its way to the decoder came before the evicted one.
    intro other decodes notKey lost uncovered
    obtain ⟨member, none⟩ := uncovered
    rw [dropped] at none
    rcases List.mem_append.mp member with old | last
    · exact held.ready other decodes notKey lost ⟨old, none⟩
    · cases List.mem_singleton.mp last
      have under := (List.pairwise_append.mp earlier).2.1
      have holds : d.thread.held = [other] := by
        rw [show d.thread = .decoding other from decodes]
        rfl
      rw [holds] at under
      have less : other.serial < first.serial := List.rel_of_pairwise_cons under List.mem_cons_self
      omega

theorem flowing_arrive (held : Flowing d) (free : d.tokenOwed = false) (fits : Fits d (.arrive false)) : Flowing (d.handleVideoFrame false) := by
  by_cases room : d.videoQueue.length < d.capacity
  · have pushed : d.handleVideoFrame false =
        { d with videoQueue := d.videoQueue ++ [⟨d.arrived.length, false⟩], tokenOwed := true, arrived := d.arrived ++ [⟨d.arrived.length, false⟩] } := if_pos room
    rw [pushed]
    exact flowing_arrive_queued d held free room
  · have pushed : d.handleVideoFrame false =
        { d with videoQueue := d.videoQueue.tail ++ [⟨d.arrived.length, false⟩], arrived := d.arrived ++ [⟨d.arrived.length, false⟩],
                 outcomes := d.outcomes ++ d.videoQueue.head?.toList.map .lost } := if_neg room
    rw [pushed]
    obtain there | ⟨up, noKey⟩ := fits
    · exact absurd there room
    · exact flowing_evict d held free room up noKey

theorem flowing_send_token (held : Flowing d) (owes : d.tokenOwed = true) :
    Flowing { d with videoSender := d.videoSender ++ [.videoQueue], tokenOwed := false } := by
  have line : Display.line { d with videoSender := d.videoSender ++ [.videoQueue], tokenOwed := false } = d.line := by
    have sent : Display.line { d with videoSender := d.videoSender ++ [.videoQueue], tokenOwed := false } =
        d.thread.token ++ (d.videoSender ++ [.videoQueue]) ++ owed false := rfl
    rw [sent, Display.line, owes, ← List.append_assoc d.thread.token d.videoSender]
    exact List.append_nil _
  refine { held with order := ?_, matched := ?_, keys := ?_, behind := ?_ }
  · rw [Display.upcoming, line]
    exact held.order
  · rw [line]
    exact held.matched
  · intro vf member
    rcases List.mem_append.mp member with old | token
    · exact held.keys vf old
    · cases List.mem_singleton.mp token
  · rw [Display.upcoming, line]
    exact held.behind

theorem flowing_refresh (held : Flowing d) : Flowing { d with discardQueue := true } :=
  { held with flagged := fun _ _ => .inl rfl }

end

theorem flowing_receive (d next : Display) (held : Flowing d) (waits : d.thread = .receiving) (taken : d.receive = some next) : Flowing next := by
  have line : d.line = d.videoSender ++ owed d.tokenOwed := by
    rw [Display.line, waits]
    rfl
  have order := held.order
  have matched := held.matched
  have behind := held.behind
  rw [Display.upcoming, line, waits] at order behind
  rw [line] at matched
  unfold Display.receive at taken
  have flagged : ∀ lost, Uncovered d.outcomes lost → d.discardQueue = true := by
    intro lost uncovered
    obtain up | ⟨vf, decodes, _⟩ := held.flagged lost uncovered
    · exact up
    · rw [waits] at decodes
      cases decodes
  cases sent : d.videoSender with
  | nil =>
      rw [sent] at taken
      cases taken
  | cons media rest =>
      rw [sent] at taken order matched behind
      have keys : ∀ vf, .videoFrame vf ∈ rest → vf.key = true := by
        intro vf member
        apply held.keys vf
        rw [sent]
        exact List.mem_cons_of_mem _ member
      cases media with
      | videoFrame vf =>
          cases taken
          refine ⟨held.sized, order, ?_, held.rising, held.numbered, keys, ?_, held.queued, (fun _ same => by cases same), behind,
            fun lost uncovered => .inl (flagged lost uncovered), (fun _ same => by cases same), held.recovers⟩
          · rw [List.cons_append, tokens, List.count_cons_of_ne (fun same => by cases same)] at matched
            exact matched
          · intro other same
            cases same
            apply held.keys vf
            rw [sent]
            exact List.mem_cons_self
      | videoQueue =>
          cases taken
          exact ⟨held.sized, order, matched, held.rising, held.numbered, keys, (fun _ same => by cases same), held.queued, (fun _ same => by cases same), behind,
            fun lost uncovered => .inl (flagged lost uncovered), (fun _ same => by cases same), held.recovers⟩

theorem flowing_pop (d : Display) (held : Flowing d) (pops : d.thread = .popping) : Flowing d.pop := by
  have line : d.line = .videoQueue :: (d.videoSender ++ owed d.tokenOwed) := by
    rw [Display.line, pops]
    rfl
  have order := held.order
  have matched := held.matched
  have behind := held.behind
  have plain := held.queued
  rw [Display.upcoming, line, pops] at order behind
  rw [line, tokens, List.count_cons_self] at matched
  have flagged : ∀ lost, Uncovered d.outcomes lost → d.discardQueue = true := by
    intro lost uncovered
    obtain up | ⟨vf, decodes, _⟩ := held.flagged lost uncovered
    · exact up
    · rw [pops] at decodes
      cases decodes
  unfold Display.pop
  -- Every token has a frame in the queue.
  cases queued : d.videoQueue with
  | nil =>
      rw [queued] at matched
      cases matched
  | cons vf rest =>
      rw [queued] at matched order behind plain
      obtain ⟨first, others⟩ := List.forall_mem_cons.mp plain
      refine ⟨held.sized, order, Nat.succ.inj matched, held.rising, held.numbered, held.keys, (fun _ same => by cases same), others, ?_, behind,
        fun lost uncovered => .inl (flagged lost uncovered), (fun _ same => by cases same), held.recovers⟩
      intro other same
      cases same
      exact first

theorem uncovered_lost (outcomes : List Outcome) (lost vf : VideoFrame) (uncovered : Uncovered (outcomes ++ [.decoded vf]) lost) :
    Uncovered outcomes lost ∧ (vf.key = true → ¬ lost.serial < vf.serial) := by
  obtain ⟨member, none⟩ := uncovered
  rw [given_append] at none
  refine ⟨⟨?_, fun key decoded => none key (List.mem_append_left _ decoded)⟩, none vf (List.mem_append_right _ List.mem_cons_self)⟩
  rcases List.mem_append.mp member with old | last
  · exact old
  · cases List.mem_singleton.mp last

section
variable (d next : Display)

theorem flowing_look (held : Flowing d) (taken : d.step .look = some next) : Flowing next := by
  unfold Display.step at taken
  have order := held.order
  have matched := held.matched
  have flag := held.flagged
  have behind := held.behind
  rw [Display.upcoming, Display.line] at order behind
  rw [Display.line] at matched
  cases here : d.thread with
  | popped vf =>
      rw [here] at taken order matched behind
      have flagged : ∀ lost, Uncovered d.outcomes lost → d.discardQueue = true := by
        intro lost uncovered
        obtain up | ⟨vf, decodes, _⟩ := flag lost uncovered
        · exact up
        · rw [here] at decodes
          cases decodes
      obtain rfl := Option.some.inj taken
      by_cases up : d.discardQueue = true
      · rw [if_pos up]
        -- The frame is lost: it comes before all that are still under way.
        have kept := (List.sublist_append_right [vf] _).append_left (given d.outcomes) |>.trans order
        have dropped : given (d.outcomes ++ [.lost vf]) = given d.outcomes := by
          rw [given_append]
          exact List.append_nil _
        have rising := held.rising.sublist ((List.sublist_append_right _ _).trans order)
        refine ⟨held.sized, ?_, matched, held.rising, held.numbered, held.keys, (fun _ same => by cases same), held.queued, (fun _ same => by cases same), ?_,
          fun _ _ => .inl up, (fun _ same => by cases same), recovers_lost d.outcomes vf held.recovers⟩
        · dsimp only
          rw [dropped]
          exact kept
        · intro lost member
          rcases List.mem_append.mp member with old | last
          · obtain ⟨there, above⟩ := behind lost old
            exact ⟨there, fun other coming => above other (List.mem_cons_of_mem _ coming)⟩
          · cases List.mem_singleton.mp last
            refine ⟨order.subset (List.mem_append_right _ List.mem_cons_self), fun other coming _ => ?_⟩
            exact List.rel_of_pairwise_cons rising coming
      · rw [if_neg up]
        refine ⟨held.sized, order, matched, held.rising, held.numbered, held.keys, (fun _ same => by cases same), held.queued, (fun _ same => by cases same),
          behind, fun lost uncovered => .inl (flagged lost uncovered), ?_, held.recovers⟩
        exact fun _ _ _ lost uncovered => absurd (flagged lost uncovered) up
  | receiving | popping | clearing vf | decoding vf =>
      rw [here] at taken
      cases taken

theorem flowing_clear (held : Flowing d) (taken : d.step .clear = some next) : Flowing next := by
  unfold Display.step at taken
  have order := held.order
  have matched := held.matched
  have keyed := held.clearing
  have behind := held.behind
  rw [Display.upcoming, Display.line] at order behind
  rw [Display.line] at matched
  cases here : d.thread with
  | clearing vf =>
      rw [here] at taken order matched behind
      cases taken
      refine ⟨held.sized, order, matched, held.rising, held.numbered, held.keys, (fun _ same => by cases same), held.queued, (fun _ same => by cases same),
        behind, fun _ _ => .inr ⟨vf, rfl, keyed vf here⟩, ?_, held.recovers⟩
      intro other same plain
      cases same
      rw [keyed vf here] at plain
      cases plain
  | receiving | popping | popped vf | decoding vf =>
      rw [here] at taken
      cases taken

theorem flowing_decode (held : Flowing d) (taken : d.step .decode = some next) : Flowing next := by
  unfold Display.step at taken
  have order := held.order
  have matched := held.matched
  have behind := held.behind
  rw [Display.upcoming, Display.line] at order behind
  rw [Display.line] at matched
  cases here : d.thread with
  | decoding vf =>
      rw [here] at taken order matched behind
      cases taken
      refine ⟨held.sized, ?_, matched, held.rising, held.numbered, held.keys, (fun _ same => by cases same), held.queued, (fun _ same => by cases same), ?_,
        fun lost uncovered => ?_, (fun _ same => by cases same), recovers_decoded d.outcomes vf held.recovers (held.ready vf here)⟩
      · dsimp only
        rw [given_append, List.append_assoc]
        exact order
      · intro lost member
        rcases List.mem_append.mp member with old | last
        · obtain ⟨there, above⟩ := behind lost old
          exact ⟨there, fun other coming => above other (List.mem_cons_of_mem _ coming)⟩
        · cases List.mem_singleton.mp last
      · obtain ⟨before, notKey⟩ := uncovered_lost d.outcomes lost vf uncovered
        obtain up | ⟨other, decodes, isKey⟩ := held.flagged lost before
        · exact .inl up
        · rw [here] at decodes
          cases decodes
          exact absurd ((behind lost before.1).2 vf List.mem_cons_self isKey) (notKey isKey)
  | receiving | popping | popped vf | clearing vf =>
      rw [here] at taken
      cases taken

theorem flowing_step (event : Event) (held : Flowing d) (fits : Fits d event) (taken : d.step event = some next) : Flowing next := by
  cases event with
  | arrive key =>
      obtain ⟨free, taken⟩ := Option.ite_none_left_eq_some.mp taken
      cases taken
      cases key with
      | true => exact flowing_arrive_key d held (Bool.eq_false_iff.mpr free)
      | false => exact flowing_arrive d held (Bool.eq_false_iff.mpr free) fits
  | sendToken =>
      obtain ⟨owes, rfl⟩ := Option.ite_some_none_eq_some.mp taken
      exact flowing_send_token d held owes
  | refresh =>
      obtain ⟨_, taken⟩ := Option.ite_none_left_eq_some.mp taken
      cases taken
      exact flowing_refresh d held
  | receive =>
      obtain ⟨waits, taken⟩ := Option.ite_none_right_eq_some.mp taken
      exact flowing_receive d next held waits taken
  | pop =>
      obtain ⟨pops, rfl⟩ := Option.ite_some_none_eq_some.mp taken
      exact flowing_pop d held pops
  | look => exact flowing_look d next held taken
  | clear => exact flowing_clear d next held taken
  | decode => exact flowing_decode d next held taken

end

theorem flowing_ordered (d : Display) (held : Flowing d) : Ordered d := by
  refine ⟨?_, held.rising.imp fun less same => ?_, held.recovers⟩
  · exact (List.sublist_append_left _ _).trans held.order
  · rw [same] at less
    exact Nat.lt_irrefl _ less

theorem decoding_order (capacity : Nat) (sized : 0 < capacity) (past : List (Display × Event)) (d : Display)
    (traced : Machine.Traced Display.step { capacity := capacity } past d) (fits : ∀ entry ∈ past, Fits entry.1 entry.2) : Ordered d :=
  flowing_ordered d (Machine.traced_kept Display.step Flowing Fits _ d past (flowing_start capacity sized)
    (fun state event next held fitting taken => flowing_step state next event held fitting taken) traced fits).2

-- A refresh between two frames: the second is discarded, and the key frame is decoded.
def refreshed : List Event := [.arrive false, .sendToken, .receive, .pop, .refresh, .look, .arrive true, .receive, .clear, .decode]

-- The queue is full when a frame comes after a key frame that is still in the channel.
def overflowing : List Event :=
  [.arrive false, .sendToken, .arrive false, .sendToken, .arrive true, .arrive false,
    .receive, .pop, .look, .decode, .receive, .pop, .look, .decode, .receive, .clear, .decode]

theorem refreshed_runs : (Machine.run Display.step { capacity := 2 } refreshed).isSome = true := by decide

theorem overflowing_runs : (Machine.run Display.step { capacity := 2 } overflowing).isSome = true := by decide

theorem decoding_order_refreshed : Ordered ((Machine.run Display.step { capacity := 2 } refreshed).get refreshed_runs) :=
  decoding_order 2 (by decide) _ _ (Machine.traced_run _ _ _ refreshed_runs) (by decide)

-- The evicted frame's token is used up by the frame after it, the last frame goes to the
-- decoder before the key frame it follows, and nothing was discarded.
theorem overflow_reorders : ∃ past d, Machine.Traced Display.step { capacity := 2 } past d ∧ ¬ Ordered d := by
  refine ⟨_, _, Machine.traced_run Display.step { capacity := 2 } overflowing overflowing_runs, fun ordered => ?_⟩
  exact absurd ordered.subsequence (by decide)

def MediaData.frame : MediaData → Option VideoFrame
  | .videoFrame vf => some vf
  | .videoQueue => none

def Display.places (d : Display) : List VideoFrame :=
  d.outcomes.map Outcome.frame ++ d.thread.held ++ d.videoQueue ++ d.videoSender.filterMap MediaData.frame

structure Accounted (capacity : Nat) (d : Display) : Prop where
  limit : d.capacity = capacity
  places : ∀ vf, d.places.count vf = d.arrived.count vf
  serials : d.arrived.map VideoFrame.serial = List.range d.arrived.length
  matched : tokens d.line = d.videoQueue.length
  room : d.videoQueue.length ≤ d.capacity

theorem accounted_arrive (capacity : Nat) (sized : 0 < capacity) (d : Display) (held : Accounted capacity d)
    (free : d.tokenOwed = false) (key : Bool) : Accounted capacity (d.handleVideoFrame key) := by
  obtain ⟨limit, places, serials, matched, room⟩ := held
  simp only [Display.places, List.count_append] at places
  simp only [tokens, Display.line, List.count_append, free, owed] at matched
  cases key with
  | true =>
      refine ⟨limit, fun vf => ?_, by simp [Display.handleVideoFrame, serials, List.range_succ],
        by simpa [tokens, Display.line, Display.handleVideoFrame, free, owed] using matched, room⟩
      simp [Display.handleVideoFrame, Display.places, MediaData.frame, List.count_append, ← places]
      omega
  | false =>
      simp only [Display.handleVideoFrame, Display.forcePush, Bool.false_eq_true, if_false]
      split
      · next fits =>
        refine ⟨limit, fun vf => ?_, by simp [serials, List.range_succ],
          by simpa [tokens, Display.line, owed, ← Nat.add_assoc] using matched, by simpa using fits⟩
        simp only [Display.places, List.count_append, ← places]
        omega
      · next full =>
        obtain ⟨first, rest, split⟩ := List.exists_cons_of_length_pos (Nat.lt_of_lt_of_le (limit ▸ sized) (Nat.not_lt.mp full))
        refine ⟨limit, fun vf => ?_, by simp [serials, List.range_succ],
          by simpa [tokens, Display.line, free, owed, split] using matched, by simpa [split] using room⟩
        simp [Display.places, List.count_append, ← places, split, Outcome.frame, List.count_cons]
        omega

theorem accounted_step (capacity : Nat) (sized : 0 < capacity) (d : Display) (event : Event) (next : Display) (held : Accounted capacity d)
    (taken : d.step event = some next) : Accounted capacity next := by
  cases event with
  | arrive key =>
      obtain ⟨free, taken⟩ := Option.ite_none_left_eq_some.mp taken
      cases taken
      exact accounted_arrive capacity sized d held (Bool.eq_false_iff.mpr free) key
  | refresh =>
      obtain ⟨_, taken⟩ := Option.ite_none_left_eq_some.mp taken
      cases taken
      exact { held with }
  | sendToken =>
      obtain ⟨owes, rfl⟩ := Option.ite_some_none_eq_some.mp taken
      refine { held with places := fun vf => ?_, matched := by simpa [tokens, Display.line, owed, owes] using held.matched }
      simp [← held.places, Display.places, MediaData.frame, List.filterMap_cons]
  | receive =>
      obtain ⟨idle, taken⟩ := Option.ite_none_right_eq_some.mp taken
      cases sent : d.videoSender with
      | nil => simp [Display.receive, sent] at taken
      | cons media rest =>
          cases media with
          | videoFrame first =>
              simp only [Display.receive, sent, Option.some.injEq] at taken
              subst taken
              refine { held with places := fun vf => ?_, matched := by simpa [tokens, Display.line, Thread.token, idle, sent] using held.matched }
              simp [← held.places, Display.places, Thread.held, idle, sent, MediaData.frame, List.count_cons]
              omega
          | videoQueue =>
              simp only [Display.receive, sent, Option.some.injEq] at taken
              subst taken
              refine { held with places := fun vf => ?_, matched := by simpa [tokens, Display.line, Thread.token, idle, sent] using held.matched }
              simp [← held.places, Display.places, Thread.held, idle, sent, MediaData.frame, List.filterMap_cons]
  | pop =>
      obtain ⟨pops, rfl⟩ := Option.ite_some_none_eq_some.mp taken
      have matched := held.matched
      cases queue : d.videoQueue with
      | nil => simp [tokens, Display.line, Thread.token, pops, queue] at matched
      | cons first rest =>
          simp only [Display.pop, queue]
          refine { held with
            places := fun vf => ?_
            matched := by simpa [tokens, Display.line, Thread.token, pops, queue] using matched
            room := Nat.le_of_succ_le (by simpa [queue] using held.room) }
          simp [← held.places, Display.places, Thread.held, pops, queue, List.count_cons]
  | look | clear | decode =>
      dsimp only [Display.step] at taken
      split at taken <;> cases taken
      next vf here =>
      try split
      all_goals
        refine { held with places := fun other => ?_, matched := by simpa [Display.line, Thread.token, here] using held.matched }
        simp [← held.places, Display.places, Thread.held, here, Outcome.frame, List.count_cons, Nat.add_left_comm]

-- Every frame that arrived is in one place, evicted ones too, and no frame of the queue is
-- without a token.
theorem frames_accounted (capacity : Nat) (sized : 0 < capacity) (d : Display)
    (reach : Machine.Reachable Display.step { capacity := capacity } d) :
    d.places.Perm d.arrived ∧ d.places.Nodup ∧ d.videoQueue.length ≤ capacity ∧ tokens d.line = d.videoQueue.length := by
  have held := Machine.reachable_invariant Display.step (Accounted capacity) { capacity := capacity } d
    ⟨rfl, fun _ => rfl, rfl, rfl, Nat.zero_le _⟩
    (fun state event next held taken => accounted_step capacity sized state event next held taken) reach
  have same := List.perm_iff_count.mpr held.places
  refine ⟨same, same.nodup_iff.mpr (.of_map VideoFrame.serial ?_), held.limit ▸ held.room, held.matched⟩
  rw [held.serials]
  exact List.nodup_range

theorem frames_accounted_overflow :
    let d := (Machine.run Display.step { capacity := 2 } overflowing).get overflowing_runs
    d.places.Perm d.arrived ∧ d.places.Nodup ∧ d.videoQueue.length ≤ 2 ∧ tokens d.line = d.videoQueue.length :=
  frames_accounted 2 (by decide) _ (Machine.reachable_run _ _ _ overflowing_runs)

end GotechDesk.VideoThread
