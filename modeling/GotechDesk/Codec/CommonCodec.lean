import GotechDesk.Machine
import GotechDesk.Codec.Negotiation

set_option autoImplicit false

namespace GotechDesk.Codec

def SupportedDecoding.ability (s : SupportedDecoding) : CodecFormat → Int
  | .vp8 => s.abilityVp8
  | .vp9 => s.abilityVp9
  | .av1 => s.abilityAv1
  | .h264 => s.abilityH264
  | .h265 => s.abilityH265
  | .unknown => 0

def SupportedDecoding.declares (s : SupportedDecoding) (codec : CodecFormat) : Bool := decide (0 < s.ability codec)

-- VP9 has no flag of its own: it can always be encoded.
def SupportedEncoding.encodes (encoding : SupportedEncoding) : CodecFormat → Bool
  | .vp8 => encoding.vp8
  | .vp9 => true
  | .av1 => encoding.av1
  | .h264 => encoding.h264
  | .h265 => encoding.h265
  | .unknown => false

def CodecFormat.prefer : CodecFormat → PreferCodec
  | .vp8 => .vp8
  | .vp9 => .vp9
  | .av1 => .av1
  | .h264 => .h264
  | .h265 => .h265
  | .unknown => .auto

def SupportedDecoding.prefers (s : SupportedDecoding) (codec : CodecFormat) : Bool := s.prefer == codec.prefer.value

theorem mark_ability (decoding : SupportedDecoding) (unsupported codec : CodecFormat) :
    (decoding.mark unsupported).ability codec = if codec = unsupported then 0 else decoding.ability codec := by
  cases unsupported <;> cases codec <;> rfl

-- A viewer never declares a codec whose decoder it has marked as unsupported.
theorem marked_undeclared (prefer : PreferCodec) (disableAv1 : Bool) (h264 h265 : Int) (marks : List CodecFormat) (codec : CodecFormat)
    (marked : codec ∈ marks) : (Decoder.supportedDecodings prefer disableAv1 h264 h265 marks).declares codec = false := by
  have kept : ∀ (marks : List CodecFormat) (decoding : SupportedDecoding),
      (marks.foldl SupportedDecoding.mark decoding).ability codec = if codec ∈ marks then 0 else decoding.ability codec := by
    intro marks
    induction marks with
    | nil => exact fun _ => rfl
    | cons unsupported rest ih =>
        intro decoding
        rw [List.foldl_cons, ih, mark_ability]
        by_cases here : codec = unsupported
        · simp [here]
        · simp [here]
  rw [SupportedDecoding.declares, Decoder.supportedDecodings, kept, if_pos marked]
  rfl

-- A codec the host can encode and every peer has declared.
def Host.common (host : Host) (peers : List SupportedDecoding) (codec : CodecFormat) : Bool :=
  host.supportedEncoding.encodes codec && peers.all (fun s => s.declares codec)

-- The preferences the vote is taken among: VP9 whatever the peers declare, the others when they can be followed.
def Host.eligible (host : Host) (peers : List SupportedDecoding) (codec : CodecFormat) : Bool := codec == .vp9 || host.common peers codec

def backing (peers : List SupportedDecoding) (codec : CodecFormat) : Nat := peers.countP (fun s => s.prefers codec)

-- A preference that no other eligible one outvotes.
structure Front (host : Host) (peers : List SupportedDecoding) (codec : CodecFormat) : Prop where
  eligible : host.eligible peers codec = true
  backed : 0 < backing peers codec
  ahead : ∀ other, host.eligible peers other = true → backing peers other ≤ backing peers codec

theorem prefer_value_injective (first second : CodecFormat) (same : first.prefer.value = second.prefer.value) : first = second := by
  cases first <;> cases second <;> first | rfl | exact absurd same (by decide)

theorem enum_value_or_prefer (codec : CodecFormat) : PreferCodec.enumValueOr codec.prefer.value .auto = codec.prefer := by
  cases codec <;> rfl

theorem all_perm (holds : SupportedDecoding → Bool) (first second : List SupportedDecoding) (same : first.Perm second) : first.all holds = second.all holds := by
  rw [Bool.eq_iff_iff, List.all_eq_true, List.all_eq_true]
  exact ⟨fun all s member => all s (same.mem_iff.mpr member), fun all s member => all s (same.mem_iff.mp member)⟩

section
variable (host : Host) (first second : List SupportedDecoding)

theorem common_perm (same : first.Perm second) : host.common first = host.common second := by
  funext codec
  rw [Host.common, Host.common, all_perm _ first second same]

theorem eligible_perm (same : first.Perm second) : host.eligible first = host.eligible second := by
  funext codec
  rw [Host.eligible, Host.eligible, common_perm host first second same]

theorem front_perm (codec : CodecFormat) (same : first.Perm second) (front : Front host first codec) : Front host second codec := by
  have counts : ∀ other, backing second other = backing first other := fun other => (same.countP_eq _).symm
  refine ⟨?_, ?_, fun other fits => ?_⟩
  · rw [← eligible_perm host first second same]
    exact front.eligible
  · rw [counts]
    exact front.backed
  · rw [counts, counts]
    rw [← eligible_perm host first second same] at fits
    exact front.ahead other fits

end

section
variable (host : Host) (peers : List SupportedDecoding)

theorem all_declare (ability : SupportedDecoding → Int) (peered : peers ≠ []) :
    allDeclare ability peers = peers.all (fun s => decide (0 < ability s)) := by
  rw [allDeclare, decide_eq_true (List.length_pos_iff.mpr peered), Bool.true_and]

-- What the host's probes give for one of the hardware codecs when all the peers decode it.
theorem probes_agree (format : CodecFormat) (all : Bool) :
    (all && (host.vramEncoding format all || (host.hwEncoding format all).isSome)) =
      (((host.enableHwcodecOption && (host.hwramName format).isSome) || (host.enableVramOption && decide (0 < host.vramAvailable format))) && all) := by
  unfold Host.vramEncoding Host.hwEncoding
  cases all with
  | false => rw [Bool.false_and, Bool.and_false]
  | true =>
      rw [Bool.true_and, Bool.and_true, if_pos rfl, if_pos rfl]
      cases host.enableVramOption with
      | false => cases host.enableHwcodecOption <;> simp
      | true => cases host.enableHwcodecOption <;> simp [Bool.or_comm]

theorem supported_h264 : host.supportedEncoding.h264 =
    ((host.enableHwcodecOption && (host.hwramName .h264).isSome) || (host.enableVramOption && decide (0 < host.vramAvailable .h264))) := by
  unfold Host.supportedEncoding
  cases host.enableVramOption <;> cases host.enableHwcodecOption <;> simp

theorem supported_h265 : host.supportedEncoding.h265 =
    ((host.enableHwcodecOption && (host.hwramName .h265).isSome) || (host.enableVramOption && decide (0 < host.vramAvailable .h265))) := by
  unfold Host.supportedEncoding
  cases host.enableVramOption <;> cases host.enableHwcodecOption <;> simp

theorem supported_av1 : host.supportedEncoding.av1 = !host.disableAv1 ∧ host.supportedEncoding.vp8 = true := by
  unfold Host.supportedEncoding
  cases host.enableVramOption <;> cases host.enableHwcodecOption <;> exact ⟨rfl, rfl⟩

-- What the call works out to be useable is what the host can encode and every peer declared, VP9 apart.
theorem useable_encodes (peered : peers ≠ []) : (host.useable peers).encodes = host.eligible peers := by
  funext codec
  cases codec with
  | vp8 =>
      have here : (host.useable peers).encodes .vp8 = peers.all (fun s => decide (0 < s.abilityVp8)) := all_declare peers _ peered
      have eligible : host.eligible peers .vp8 = (host.supportedEncoding.vp8 && peers.all (fun s => decide (0 < s.abilityVp8))) := Bool.false_or _
      rw [here, eligible, (supported_av1 host).2, Bool.true_and]
  | vp9 => rfl
  | av1 =>
      have here : (host.useable peers).encodes .av1 = (allDeclare (·.abilityAv1) peers && !host.disableAv1) := rfl
      have eligible : host.eligible peers .av1 = (host.supportedEncoding.av1 && peers.all (fun s => decide (0 < s.abilityAv1))) := Bool.false_or _
      rw [here, eligible, (supported_av1 host).1, all_declare peers _ peered, Bool.and_comm]
  | h264 =>
      have here : (host.useable peers).encodes .h264 = (allDeclare (·.abilityH264) peers && host.h264Encoding peers) := rfl
      have eligible : host.eligible peers .h264 = (host.supportedEncoding.h264 && peers.all (fun s => decide (0 < s.abilityH264))) := Bool.false_or _
      rw [here, eligible, supported_h264, Host.h264Encoding, probes_agree, all_declare peers _ peered]
  | h265 =>
      have here : (host.useable peers).encodes .h265 = (allDeclare (·.abilityH265) peers && host.h265Encoding peers) := rfl
      have eligible : host.eligible peers .h265 = (host.supportedEncoding.h265 && peers.all (fun s => decide (0 < s.abilityH265))) := Bool.false_or _
      rw [here, eligible, supported_h265, Host.h265Encoding, probes_agree, all_declare peers _ peered]
  | unknown => rfl

theorem keeps_prefers (useable : SupportedEncoding) (s : SupportedDecoding) :
    useable.keeps s = true ↔ ∃ codec, s.prefers codec = true ∧ useable.encodes codec = true := by
  unfold SupportedEncoding.keeps
  simp only [Bool.or_eq_true, Bool.and_eq_true]
  constructor
  · rintro ((((kept | kept) | kept) | kept) | kept)
    · exact ⟨.vp9, kept, rfl⟩
    · exact ⟨.vp8, kept⟩
    · exact ⟨.av1, kept⟩
    · exact ⟨.h264, kept⟩
    · exact ⟨.h265, kept⟩
  · rintro ⟨codec, wanted, fits⟩
    cases codec with
    | vp8 => exact .inl (.inl (.inl (.inr ⟨wanted, fits⟩)))
    | vp9 => exact .inl (.inl (.inl (.inl wanted)))
    | av1 => exact .inl (.inl (.inr ⟨wanted, fits⟩))
    | h264 => exact .inl (.inr ⟨wanted, fits⟩)
    | h265 => exact .inr ⟨wanted, fits⟩
    | unknown => cases fits

theorem mem_preferences (value : Int) (peered : peers ≠ []) :
    value ∈ host.preferences peers ↔ ∃ codec, value = codec.prefer.value ∧ host.eligible peers codec = true ∧ 0 < backing peers codec := by
  simp only [Host.preferences, List.mem_map, List.mem_filter, keeps_prefers, useable_encodes host peers peered]
  constructor
  · rintro ⟨s, ⟨member, codec, wanted, fits⟩, rfl⟩
    exact ⟨codec, beq_iff_eq.mp wanted, fits, List.countP_pos_iff.mpr ⟨s, member, wanted⟩⟩
  · rintro ⟨codec, rfl, fits, backed⟩
    obtain ⟨s, member, wanted⟩ := List.countP_pos_iff.mp backed
    exact ⟨s, ⟨member, codec, wanted, fits⟩, beq_iff_eq.mp wanted⟩

theorem count_preferences (codec : CodecFormat) (peered : peers ≠ []) (fits : host.eligible peers codec = true) :
    (host.preferences peers).count codec.prefer.value = backing peers codec := by
  rw [List.count, Host.preferences, List.countP_map, List.countP_filter, backing]
  apply List.countP_congr
  intro s _
  simp only [Function.comp_apply, Bool.and_eq_true]
  constructor
  · exact And.left
  · intro wanted
    refine ⟨wanted, (keeps_prefers _ s).mpr ⟨codec, wanted, ?_⟩⟩
    rw [useable_encodes host peers peered]
    exact fits

theorem leads_front (value : Int) (peered : peers ≠ []) :
    Vote.Leads (host.preferences peers) value ↔ ∃ codec, value = codec.prefer.value ∧ Front host peers codec := by
  constructor
  · rintro ⟨voted, ahead⟩
    obtain ⟨codec, rfl, fits, backed⟩ := (mem_preferences host peers value peered).mp voted
    refine ⟨codec, rfl, fits, backed, fun other eligible => ?_⟩
    rw [← count_preferences host peers codec peered fits, ← count_preferences host peers other peered eligible]
    exact ahead other.prefer.value
  · rintro ⟨codec, rfl, fits, backed, ahead⟩
    refine ⟨(mem_preferences host peers _ peered).mpr ⟨codec, rfl, fits, backed⟩, fun other => ?_⟩
    rw [count_preferences host peers codec peered fits]
    by_cases voted : other ∈ host.preferences peers
    · obtain ⟨rival, rfl, eligible, _⟩ := (mem_preferences host peers other peered).mp voted
      rw [count_preferences host peers rival peered eligible]
      exact ahead rival eligible
    · rw [List.count_eq_zero_of_not_mem voted]
      exact Nat.zero_le _

-- The preference of a call is one of the fronts, or there is none.
theorem preference_cases (peered : peers ≠ []) :
    ((∀ codec, ¬ Front host peers codec) ∧ host.preference peers = .auto) ∨ ∃ codec, Front host peers codec ∧ host.preference peers = codec.prefer := by
  cases won : Vote.mostFrequent (host.preferences peers) with
  | none =>
      refine .inl ⟨fun codec front => ?_, by rw [Host.preference, won]; rfl⟩
      have voted : host.preferences peers ≠ [] := List.ne_nil_of_mem ((mem_preferences host peers _ peered).mpr ⟨codec, rfl, front.eligible, front.backed⟩)
      obtain ⟨vote, found⟩ := Vote.most_frequent_exists _ voted
      rw [won] at found
      cases found
  | some value =>
      obtain ⟨codec, rfl, front⟩ := (leads_front host peers value peered).mp (Vote.most_frequent_leads _ _ won)
      refine .inr ⟨codec, front, ?_⟩
      rw [Host.preference, won]
      exact enum_value_or_prefer codec

-- Every front is the preference in some order of the map.
theorem front_reached (codec : CodecFormat) (peered : peers ≠ []) (front : Front host peers codec) :
    ∃ order, order.Perm peers ∧ host.preference order = codec.prefer := by
  obtain ⟨s, member, wanted⟩ := List.countP_pos_iff.mp front.backed
  have same : (s :: peers.erase s).Perm peers := (List.perm_cons_erase member).symm
  refine ⟨s :: peers.erase s, same, ?_⟩
  have leads := (leads_front host (s :: peers.erase s) codec.prefer.value (by simp)).mpr ⟨codec, rfl, front_perm host peers _ codec same.symm front⟩
  have kept : (host.useable (s :: peers.erase s)).keeps s = true := by
    refine (keeps_prefers _ s).mpr ⟨codec, wanted, ?_⟩
    rw [useable_encodes host _ (by simp), eligible_perm host _ _ same]
    exact front.eligible
  have first : host.preferences (s :: peers.erase s) =
      codec.prefer.value :: ((peers.erase s).filter (host.useable (s :: peers.erase s)).keeps).map SupportedDecoding.prefer := by
    rw [Host.preferences, List.filter_cons_of_pos kept, List.map_cons, beq_iff_eq.mp wanted]
  rw [first] at leads
  rw [Host.preference, first, Vote.first_leader_wins _ _ leads]
  exact enum_value_or_prefer codec

end

end GotechDesk.Codec
