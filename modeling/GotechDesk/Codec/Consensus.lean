import GotechDesk.Codec.CommonCodec

set_option autoImplicit false

namespace GotechDesk.Codec

-- The automatic choice, and what it rests on.
inductive AutoChoice (host : Host) (useable : SupportedEncoding) : CodecFormat → Prop where
  | h265 : useable.h265 = true → AutoChoice host useable .h265
  | h264 : useable.h264 = true → AutoChoice host useable .h264
  | av1 : useable.av1 = true → host.av1Test ≠ "N" → AutoChoice host useable .av1
  | vp8 : useable.vp8 = true → host.totalMemory ≤ 4 * 1024 * 1024 * 1024 → AutoChoice host useable .vp8
  | vp9 : useable.h265 = false → useable.h264 = false → ¬ (useable.av1 = true ∧ host.av1Test ≠ "N") →
      ¬ (useable.vp8 = true ∧ host.totalMemory ≤ 4 * 1024 * 1024 * 1024) → AutoChoice host useable .vp9

theorem auto_choice (host : Host) (useable : SupportedEncoding) : AutoChoice host useable (host.autoCodec useable) := by
  unfold Host.autoCodec
  dsimp only
  cases h265 : useable.h265 with
  | true => exact .h265 h265
  | false =>
      cases h264 : useable.h264 with
      | true => exact .h264 h264
      | false =>
          by_cases small : (useable.vp8 && decide (host.totalMemory ≤ 4 * 1024 * 1024 * 1024)) = true
          · obtain ⟨vp8, memory⟩ := Bool.and_eq_true_iff.mp small
            have chosen := AutoChoice.vp8 vp8 (of_decide_eq_true memory)
            rw [small]
            cases useable.av1 && host.av1Test != "N" with
            | false => exact chosen
            | true => exact chosen
          · have large : ¬ (useable.vp8 = true ∧ host.totalMemory ≤ 4 * 1024 * 1024 * 1024) :=
              fun both => small (Bool.and_eq_true_iff.mpr ⟨both.1, decide_eq_true both.2⟩)
            rw [Bool.eq_false_iff.mpr small]
            by_cases tested : (useable.av1 && host.av1Test != "N") = true
            · obtain ⟨av1, test⟩ := Bool.and_eq_true_iff.mp tested
              rw [tested]
              exact .av1 av1 (bne_iff_ne.mp test)
            · rw [Bool.eq_false_iff.mpr tested]
              exact .vp9 h265 h264 (fun both => tested (Bool.and_eq_true_iff.mpr ⟨both.1, bne_iff_ne.mpr both.2⟩)) large

section
variable (host : Host) (peers : List SupportedDecoding)

theorem eligible_common (codec : CodecFormat) (other : codec ≠ .vp9) (fits : host.eligible peers codec = true) : host.common peers codec = true := by
  rcases Bool.or_eq_true_iff.mp fits with vp9 | common
  · exact absurd (beq_iff_eq.mp vp9) other
  · exact common

theorem common_declared (codec : CodecFormat) (common : host.common peers codec = true) :
    ∀ s ∈ peers, s.declares codec = true :=
  List.all_eq_true.mp (Bool.and_eq_true_iff.mp common).2

theorem declared_vp9 (declared : ∀ s ∈ peers, s.declares .vp9 = true) : host.common peers .vp9 = true :=
  Bool.and_eq_true_iff.mpr ⟨rfl, List.all_eq_true.mpr declared⟩

end

section
variable (host : Host) (peers : List SupportedDecoding)

theorem negotiate_front (codec : CodecFormat) (peered : peers ≠ []) (front : Front host peers codec) (preferred : host.preference peers = codec.prefer) :
    host.negotiate peers = codec := by
  have fits := front.eligible
  rw [← useable_encodes host peers peered] at fits
  rw [Host.negotiate, preferred]
  cases codec with
  | vp8 => rfl
  | vp9 => rfl
  | av1 => rfl
  | h264 => exact if_pos (Bool.and_eq_true_iff.mp fits).2
  | h265 => exact if_pos (Bool.and_eq_true_iff.mp fits).2
  | unknown => cases fits

theorem negotiate_auto (preferred : host.preference peers = .auto) : host.negotiate peers = host.autoCodec (host.useable peers) := by
  rw [Host.negotiate, preferred]

theorem useable_perm (other : List SupportedDecoding) (same : other.Perm peers) : host.useable other = host.useable peers := by
  have declare : ∀ ability, allDeclare ability other = allDeclare ability peers := by
    intro ability
    rw [allDeclare, allDeclare, same.length_eq, all_perm _ other peers same]
  unfold Host.useable Host.h264Encoding Host.h265Encoding
  simp only [declare]

-- When the vote has one winner or none, a VP9 that wins is declared by all, and so is a VP9
-- the automatic choice falls back on while there is a codec it could take.
structure Clear : Prop where
  sole : ∀ first second, Front host peers first → Front host peers second → first = second
  vp9 : Front host peers .vp9 → ∀ s ∈ peers, s.declares .vp9 = true
  fallback : (∀ codec, ¬ Front host peers codec) → (∀ s ∈ peers, s.declares .vp9 = true) ∨
    host.common peers .h265 = true ∨ host.common peers .h264 = true ∨ (host.common peers .av1 = true ∧ host.av1Test ≠ "N") ∨
    (host.common peers .vp8 = true ∧ host.totalMemory ≤ 4 * 1024 * 1024 * 1024) ∨ (host.common peers .vp8 = false ∧ host.common peers .av1 = false)

end

-- What a call should leave: a codec all the peers declared when there is one, a preference
-- followed only if it is such a codec, and nothing that depends on the ids or on an order.
structure Agreed (call : Call) (after : Encoder) : Prop where
  declared : (∃ codec, call.host.common after.peers codec = true) → ∀ s ∈ after.peers, s.declares after.encodeCodecFormat = true
  followed : ∀ codec, codec ≠ .unknown → call.host.preference call.order = codec.prefer → call.host.common after.peers codec = true
  settled : ∀ earlier again later, Machine.Reachable Encoder.update {} earlier → earlier.update again = some later → again.host = call.host →
    later.peers.Perm after.peers → later.encodeCodecFormat = after.encodeCodecFormat

theorem update_spec (encoder after : Encoder) (call : Call) (taken : encoder.update call = some after) :
    call.order.Perm after.peers ∧ after.encodeCodecFormat = call.host.negotiate call.order := by
  unfold Encoder.update at taken
  dsimp only at taken
  split at taken
  · rename_i same
    cases taken
    exact ⟨same, rfl⟩
  · cases taken

-- The same call can meet its map in any other order.
theorem update_reorder (encoder after : Encoder) (call : Call) (order : List SupportedDecoding) (taken : encoder.update call = some after)
    (same : order.Perm after.peers) :
    ∃ other, encoder.update { call with order := order } = some other ∧ other.peers = after.peers ∧ other.encodeCodecFormat = call.host.negotiate order := by
  unfold Encoder.update at taken ⊢
  dsimp only at taken ⊢
  split at taken
  · cases taken
    exact ⟨_, if_pos same, rfl, rfl⟩
  · cases taken

theorem prefer_injective (first second : CodecFormat) (same : first.prefer = second.prefer) : first = second :=
  prefer_value_injective first second (congrArg PreferCodec.value same)

-- How a call comes to its codec: by a preference that leads, or by the automatic choice when nobody's preference counts.
theorem update_outcome (encoder after : Encoder) (call : Call) (taken : encoder.update call = some after) (peered : after.peers ≠ []) :
    ((∀ codec, ¬ Front call.host after.peers codec) ∧ call.host.preference call.order = .auto ∧
        after.encodeCodecFormat = call.host.autoCodec (call.host.useable after.peers)) ∨
      (Front call.host after.peers after.encodeCodecFormat ∧ call.host.preference call.order = after.encodeCodecFormat.prefer) := by
  obtain ⟨same, format⟩ := update_spec encoder after call taken
  have ordered : call.order ≠ [] := by
    intro empty
    rw [empty] at same
    exact peered (List.nil_perm.mp same)
  obtain ⟨none, auto⟩ | ⟨codec, front, preferred⟩ := preference_cases call.host call.order ordered
  · refine .inl ⟨fun codec front => none codec (front_perm call.host _ _ codec same.symm front), auto, ?_⟩
    rw [format, negotiate_auto call.host call.order auto, useable_perm call.host after.peers call.order same]
  · refine .inr ?_
    rw [format, negotiate_front call.host call.order codec ordered front preferred]
    exact ⟨front_perm call.host _ _ codec same front, preferred⟩

theorem auto_declared (host : Host) (peers : List SupportedDecoding) (peered : peers ≠ []) (clear : Clear host peers)
    (none : ∀ codec, ¬ Front host peers codec) (shared : ∃ codec, host.common peers codec = true) :
    ∀ s ∈ peers, s.declares (host.autoCodec (host.useable peers)) = true := by
  have eligible : ∀ codec, (host.useable peers).encodes codec = host.eligible peers codec := congrFun (useable_encodes host peers peered)
  have useable : ∀ codec, codec ≠ .vp9 → (host.useable peers).encodes codec = true → ∀ s ∈ peers, s.declares codec = true :=
    fun codec other fits => common_declared host peers codec (eligible_common host peers codec other ((eligible codec).symm.trans fits))
  have usable : ∀ codec, host.common peers codec = true → (host.useable peers).encodes codec = true := by
    intro codec common
    rw [eligible, Host.eligible, common, Bool.or_true]
  generalize chosen : host.autoCodec (host.useable peers) = codec
  have choice := auto_choice host (host.useable peers)
  rw [chosen] at choice
  cases choice with
  | h265 fits => exact useable .h265 (by decide) fits
  | h264 fits => exact useable .h264 (by decide) fits
  | av1 fits _ => exact useable .av1 (by decide) fits
  | vp8 fits _ => exact useable .vp8 (by decide) fits
  | vp9 h265 h264 av1 vp8 =>
      obtain declared | common | common | ⟨common, test⟩ | ⟨common, memory⟩ | ⟨noVp8, noAv1⟩ := clear.fallback none
      · exact declared
      · exact absurd ((usable .h265 common).symm.trans h265) (by decide)
      · exact absurd ((usable .h264 common).symm.trans h264) (by decide)
      · exact absurd ⟨usable .av1 common, test⟩ av1
      · exact absurd ⟨usable .vp8 common, memory⟩ vp8
      · obtain ⟨codec, common⟩ := shared
        cases codec with
        | vp8 => exact absurd (common.symm.trans noVp8) (by decide)
        | vp9 => exact common_declared host peers .vp9 common
        | av1 => exact absurd (common.symm.trans noAv1) (by decide)
        | h264 => exact absurd ((usable .h264 common).symm.trans h264) (by decide)
        | h265 => exact absurd ((usable .h265 common).symm.trans h265) (by decide)
        | unknown => cases common

theorem front_common (host : Host) (peers : List SupportedDecoding) (codec : CodecFormat) (clear : Clear host peers) (front : Front host peers codec) :
    host.common peers codec = true := by
  by_cases vp9 : codec = .vp9
  · subst vp9
    exact declared_vp9 host peers (clear.vp9 front)
  · exact eligible_common host peers codec vp9 front.eligible

theorem clear_agreed (encoder after : Encoder) (call : Call) (taken : encoder.update call = some after) (peered : after.peers ≠ [])
    (clear : Clear call.host after.peers) : Agreed call after := by
  have outcome := update_outcome encoder after call taken peered
  refine ⟨fun shared => ?_, fun codec known preferred => ?_, fun earlier again later _ retaken host same => ?_⟩
  · obtain ⟨none, _, auto⟩ | ⟨front, _⟩ := outcome
    · rw [auto]
      exact auto_declared call.host after.peers peered clear none shared
    · exact common_declared call.host after.peers _ (front_common call.host after.peers _ clear front)
  · obtain ⟨_, auto, _⟩ | ⟨front, won⟩ := outcome
    · exact absurd (prefer_injective codec .unknown (preferred.symm.trans auto)) known
    · rw [prefer_injective codec after.encodeCodecFormat (preferred.symm.trans won)]
      exact front_common call.host after.peers _ clear front
  · have others : later.peers ≠ [] := by
      intro empty
      rw [empty] at same
      exact peered (List.nil_perm.mp same)
    have again := update_outcome earlier later again retaken others
    rw [host] at again
    obtain ⟨none, _, auto⟩ | ⟨front, _⟩ := outcome
    · obtain ⟨_, _, auto'⟩ | ⟨rival, _⟩ := again
      · rw [auto, auto', useable_perm call.host after.peers later.peers same]
      · exact absurd (front_perm call.host _ _ _ same rival) (none _)
    · obtain ⟨none, _, _⟩ | ⟨rival, _⟩ := again
      · exact absurd (front_perm call.host _ _ _ same.symm front) (none _)
      · exact clear.sole _ _ (front_perm call.host _ _ _ same rival) front

theorem agreed_clear (encoder after : Encoder) (call : Call) (reach : Machine.Reachable Encoder.update {} encoder)
    (taken : encoder.update call = some after) (peered : after.peers ≠ []) (agreed : Agreed call after) : Clear call.host after.peers := by
  have outcome := update_outcome encoder after call taken peered
  have only : ∀ codec, Front call.host after.peers codec → codec = after.encodeCodecFormat := by
    intro codec front
    obtain ⟨order, same, preferred⟩ := front_reached call.host after.peers codec peered front
    obtain ⟨other, retaken, peers, format⟩ := update_reorder encoder after call order taken same
    have ordered : order ≠ [] := by
      intro empty
      rw [empty] at same
      exact peered (List.nil_perm.mp same)
    rw [negotiate_front call.host order codec ordered (front_perm call.host _ _ codec same.symm front) preferred] at format
    rw [← format]
    exact agreed.settled encoder _ other reach retaken rfl (by rw [peers])
  refine ⟨fun first second one two => (only first one).trans (only second two).symm, fun front => ?_, fun none => ?_⟩
  · obtain ⟨none, _⟩ | ⟨_, won⟩ := outcome
    · exact absurd front (none _)
    · rw [← only .vp9 front] at won
      exact common_declared call.host after.peers .vp9 (agreed.followed .vp9 (by decide) won)
  · obtain ⟨_, _, auto⟩ | ⟨front, _⟩ := outcome
    · have eligible : ∀ codec, (call.host.useable after.peers).encodes codec = call.host.eligible after.peers codec :=
        congrFun (useable_encodes call.host after.peers peered)
      have common : ∀ codec, codec ≠ .vp9 → (call.host.useable after.peers).encodes codec = true → call.host.common after.peers codec = true :=
        fun codec other fits => eligible_common call.host after.peers codec other ((eligible codec).symm.trans fits)
      have choice := auto_choice call.host (call.host.useable after.peers)
      have declared := agreed.declared
      rw [auto] at declared
      generalize call.host.autoCodec (call.host.useable after.peers) = codec at choice declared
      cases choice with
      | h265 fits => exact .inr (.inl (common .h265 (by decide) fits))
      | h264 fits => exact .inr (.inr (.inl (common .h264 (by decide) fits)))
      | av1 fits test => exact .inr (.inr (.inr (.inl ⟨common .av1 (by decide) fits, test⟩)))
      | vp8 fits memory => exact .inr (.inr (.inr (.inr (.inl ⟨common .vp8 (by decide) fits, memory⟩))))
      | vp9 _ _ _ _ =>
          by_cases shared : ∃ codec, call.host.common after.peers codec = true
          · exact .inl (declared shared)
          · have nothing : ∀ codec, call.host.common after.peers codec = false := fun codec => Bool.eq_false_iff.mpr fun held => shared ⟨codec, held⟩
            exact .inr (.inr (.inr (.inr (.inr ⟨nothing .vp8, nothing .av1⟩))))
    · exact absurd front (none _)

theorem codec_negotiation (encoder after : Encoder) (call : Call) (reach : Machine.Reachable Encoder.update {} encoder)
    (taken : encoder.update call = some after) (peered : after.peers ≠ []) : Agreed call after ↔ Clear call.host after.peers :=
  ⟨agreed_clear encoder after call reach taken peered, clear_agreed encoder after call taken peered⟩

-- A host without hardware encoders.
def softwareHost : Host where
  disableAv1 := false
  enableVramOption := false
  vramAvailable := fun _ => 0
  enableHwcodecOption := false
  hwramName := fun _ => none
  av1Test := ""
  totalMemory := 8589934592

def joins (decoding : SupportedDecoding) : Call := ⟨.update 1 decoding, softwareHost, [decoding]⟩

def joined (decoding : SupportedDecoding) : Encoder where
  peerDecodings := [(1, decoding)]
  encodeCodecFormat := softwareHost.negotiate [decoding]
  usableEncoding := some (softwareHost.useable [decoding])

theorem joins_taken (decoding : SupportedDecoding) : Encoder.update {} (joins decoding) = some (joined decoding) := if_pos (List.Perm.refl _)

-- A viewer whose VP9 decoder failed says so, and is sent VP9 all the same.
def failedVp9 : SupportedDecoding := Decoder.supportedDecodings .vp9 false 0 0 [.vp9]

def anyCodec : SupportedDecoding := Decoder.supportedDecodings .auto false 0 0 []

theorem codec_negotiation_auto : Agreed (joins anyCodec) (joined anyCodec) := by
  apply (codec_negotiation {} (joined anyCodec) (joins anyCodec) (Machine.reachable_refl _ _) (joins_taken anyCodec) (by decide)).mpr
  have none : ∀ codec, ¬ Front softwareHost [anyCodec] codec := by
    rintro codec ⟨fits, backed, _⟩
    cases codec <;> first | exact absurd backed (by decide) | exact absurd fits (by decide)
  exact ⟨fun first _ one _ => absurd one (none first), fun front => absurd front (none _), fun _ => .inl (by decide)⟩

theorem failed_vp9_sent : ∃ encoder call after, Machine.Reachable Encoder.update {} encoder ∧ encoder.update call = some after ∧ after.peers ≠ [] ∧
    ¬ Agreed call after := by
  refine ⟨{}, joins failedVp9, joined failedVp9, Machine.reachable_refl _ _, joins_taken failedVp9, by decide, fun agreed => ?_⟩
  have declared := agreed.declared ⟨.vp8, by decide⟩ failedVp9 List.mem_cons_self
  have failed : failedVp9.declares .vp9 = false := marked_undeclared .vp9 false 0 0 [.vp9] .vp9 List.mem_cons_self
  exact absurd (declared.symm.trans failed) (by decide)

end GotechDesk.Codec
