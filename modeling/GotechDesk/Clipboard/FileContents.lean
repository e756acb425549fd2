import Mathlib

set_option autoImplicit false

namespace GotechDesk.Clipboard

-- The request as it travels: every field is a signed 32-bit number.
structure FileContentsRequest where
  streamId : Int32
  listIndex : Int32
  dwFlags : Int32
  nPositionLow : Int32
  nPositionHigh : Int32
  cbRequested : Int32
  haveClipDataId : Bool
  clipDataId : Int32
deriving DecidableEq, Repr

-- What the serving side makes of it.
inductive ContentsRequest where
  | size (streamId : Int32) (fileIdx : UInt64)
  | range (streamId : Int32) (fileIdx offset length : UInt64)
deriving DecidableEq, Repr

def blockSize : UInt64 := 4 * 1024 * 1024

def readNode (requestStreamId : Int32) (nodeIndex : UInt64) (offset : Int64) (size : UInt32) : FileContentsRequest :=
  { streamId := requestStreamId, listIndex := nodeIndex.toInt64.toInt32, dwFlags := 2, nPositionLow := (offset &&& 0xFFFFFFFF).toInt32,
    nPositionHigh := (offset >>> 32).toInt32, cbRequested := size.toInt32, haveClipDataId := false, clipDataId := 0 }

-- The list index is the stream id as well.
def sendFileContentsRequest (listIndex : Int32) (fileSize offset : UInt64) : FileContentsRequest :=
  { streamId := listIndex, listIndex := listIndex, dwFlags := 2, nPositionLow := (offset &&& 0xFFFFFFFF).toInt64.toInt32,
    nPositionHigh := (offset >>> 32).toInt64.toInt32, cbRequested := (min blockSize (fileSize - offset)).toInt64.toInt32,
    haveClipDataId := false, clipDataId := 0 }

-- `as u64` of an i32 copies the sign.
def asU64 (value : Int32) : UInt64 := value.toInt64.toUInt64

def readFileContents (request : FileContentsRequest) : Except String ContentsRequest :=
  if request.dwFlags = 1 then .ok (.size request.streamId (asU64 request.listIndex))
  else if request.dwFlags = 2 then
    .ok (.range request.streamId (asU64 request.listIndex) (asU64 request.nPositionHigh <<< 32 ||| asU64 request.nPositionLow)
      (asU64 request.cbRequested))
  else .error ("got invalid FileContentsRequest, dw_flats: " ++ toString request.dwFlags)

theorem msb_low (bits : BitVec 64) : (bits.setWidth 32).msb = bits.getLsbD 31 := by
  rw [BitVec.msb_eq_getLsbD_last, BitVec.getLsbD_setWidth]
  rfl

def highOnes : BitVec 64 := BitVec.allOnes 64 <<< 32

-- Two halves that are sign-extended and put together again: a low half with its top bit set
-- covers the high half with ones.
theorem halves_joined (bits : BitVec 64) :
    (((bits >>> 32).setWidth 32).signExtend 64 <<< 32 ||| (bits.setWidth 32).signExtend 64) =
      if bits.getLsbD 31 then bits ||| highOnes else bits := by
  unfold highOnes
  apply BitVec.eq_of_getLsbD_eq
  intro i inside
  simp only [BitVec.getLsbD_or, BitVec.getLsbD_shiftLeft, BitVec.getLsbD_signExtend, BitVec.getLsbD_setWidth, BitVec.getLsbD_ushiftRight,
    msb_low, apply_ite (fun bits : BitVec 64 => bits.getLsbD i), BitVec.getLsbD_allOnes, inside, decide_true, Bool.true_and]
  by_cases low : i < 32
  · cases sign : bits.getLsbD 31 <;> simp [low]
  · have back : 32 + (i - 32) = i := by omega
    have small : i - 32 < 32 := by omega
    have within : i - 32 < 64 := by omega
    cases sign : bits.getLsbD 31 <;> simp [low, back, small, within]

theorem getLsbD_highOnes (i : Nat) (inside : i < 64) : highOnes.getLsbD i = decide (32 ≤ i) := by
  unfold highOnes
  rw [BitVec.getLsbD_shiftLeft, BitVec.getLsbD_allOnes]
  by_cases low : i < 32
  · simp [low]
  · have within : i - 32 < 64 := by omega
    simp [low, inside, within]
    omega

section
variable (bits : BitVec 64)

theorem or_highOnes : bits ||| highOnes = bits ↔ 2 ^ 64 - 2 ^ 32 ≤ bits.toNat := by
  constructor
  · intro same
    have value := congrArg BitVec.toNat same
    rw [BitVec.toNat_or] at value
    have above : highOnes.toNat ≤ bits.toNat ||| highOnes.toNat := Nat.right_le_or
    have size : highOnes.toNat = 2 ^ 64 - 2 ^ 32 := by decide
    omega
  · intro above
    have quotient : bits.toNat / 2 ^ 32 = 2 ^ 32 - 1 := by
      have := bits.isLt
      omega
    apply BitVec.eq_of_getLsbD_eq
    intro i inside
    rw [BitVec.getLsbD_or, getLsbD_highOnes i inside]
    by_cases low : i < 32
    · simp [low]
    · have set : bits.getLsbD i = true := by
        have back : i - 32 + 32 = i := by omega
        have shifted := Nat.testBit_div_two_pow bits.toNat (i - 32) (n := 32)
        rw [quotient, back] at shifted
        rw [BitVec.getLsbD, ← shifted, Nat.testBit_two_pow_sub_one]
        simp
        omega
      simp [set]

theorem low_bit_31 : bits.getLsbD 31 = decide (2 ^ 31 ≤ bits.toNat % 2 ^ 32) := by
  rw [BitVec.getLsbD, Nat.testBit_eq_decide_div_mod_eq]
  have := bits.isLt
  apply decide_eq_decide.mpr
  omega

theorem masked_low : (bits &&& 0xFFFFFFFF#64).setWidth 32 = bits.setWidth 32 := by
  apply BitVec.eq_of_getLsbD_eq
  intro i inside
  have ones : (0xFFFFFFFF#64).getLsbD i = true := by
    have shape : (0xFFFFFFFF#64) = (BitVec.allOnes 32).setWidth 64 := by decide
    rw [shape, BitVec.getLsbD_setWidth, BitVec.getLsbD_allOnes]
    simp
    omega
  rw [BitVec.getLsbD_setWidth, BitVec.getLsbD_setWidth, BitVec.getLsbD_and, ones, Bool.and_true]

theorem narrowed : bits.signExtend 32 = bits.setWidth 32 := by
  apply BitVec.eq_of_getLsbD_eq
  intro i inside
  rw [BitVec.getLsbD_signExtend, BitVec.getLsbD_setWidth, if_pos (by omega)]

-- The upper half is the same for a shift that copies the sign and one that does not.
theorem shifted_high : (bits.sshiftRight 32).setWidth 32 = (bits >>> 32).setWidth 32 := by
  apply BitVec.eq_of_getLsbD_eq
  intro i inside
  rw [BitVec.getLsbD_setWidth, BitVec.getLsbD_setWidth, BitVec.getLsbD_sshiftRight, BitVec.getLsbD_ushiftRight]
  have upper : 32 + i < 64 := by omega
  have small : ¬ 64 ≤ i := by omega
  simp [upper, small]

theorem joined_halves (low high : Int32) (lowBits : low.toBitVec = bits.setWidth 32) (highBits : high.toBitVec = (bits >>> 32).setWidth 32) :
    asU64 high <<< 32 ||| asU64 low = UInt64.ofBitVec bits ↔ bits.toNat % 2 ^ 32 < 2 ^ 31 ∨ 2 ^ 64 - 2 ^ 32 ≤ bits.toNat := by
  have joined : (asU64 high <<< 32 ||| asU64 low).toBitVec =
      ((bits >>> 32).setWidth 32).signExtend 64 <<< 32 ||| (bits.setWidth 32).signExtend 64 := by
    rw [← lowBits, ← highBits]
    rfl
  have value : asU64 high <<< 32 ||| asU64 low = UInt64.ofBitVec bits ↔
      (((bits >>> 32).setWidth 32).signExtend 64 <<< 32 ||| (bits.setWidth 32).signExtend 64) = bits := by
    rw [← joined]
    constructor
    · intro same
      rw [same]
    · intro same
      rw [← same]
  rw [value, halves_joined, low_bit_31]
  by_cases sign : 2 ^ 31 ≤ bits.toNat % 2 ^ 32
  · rw [if_pos (decide_eq_true sign), or_highOnes]
    omega
  · rw [if_neg (by simpa using sign)]
    simp only [true_iff]
    omega

end

theorem length_kept (size : UInt32) : asU64 size.toInt32 = size.toUInt64 ↔ size.toNat < 2 ^ 31 := by
  have value : (asU64 size.toInt32).toNat = if size.toNat < 2 ^ 31 then size.toNat else size.toNat + (2 ^ 64 - 2 ^ 32) := by
    change (size.toBitVec.signExtend 64).toNat = _
    rw [BitVec.toNat_signExtend]
    have bound : size.toNat < 2 ^ 32 := size.toNat_lt
    have sign : size.toBitVec.msb = decide (2 ^ 31 ≤ size.toNat) := BitVec.msb_eq_decide size.toBitVec
    rw [sign]
    by_cases small : size.toNat < 2 ^ 31
    · rw [if_neg (by simpa using small), if_pos small]
      have same : (size.toBitVec.setWidth 64).toNat = size.toNat := by
        rw [BitVec.toNat_setWidth]
        exact Nat.mod_eq_of_lt (by change size.toNat < _; omega)
      rw [same]
      rfl
    · rw [if_pos (by simp; omega), if_neg small]
      have same : (size.toBitVec.setWidth 64).toNat = size.toNat := by
        rw [BitVec.toNat_setWidth]
        exact Nat.mod_eq_of_lt (by change size.toNat < _; omega)
      rw [same]
  rw [← UInt64.toNat_inj, value, UInt32.toNat_toUInt64]
  by_cases small : size.toNat < 2 ^ 31
  · simp [small]
  · rw [if_neg small]
    omega

theorem block_length (length : UInt64) : asU64 (min blockSize length).toInt64.toInt32 = min blockSize length := by
  have small : (min blockSize length).toNat ≤ 4194304 := by
    rw [UInt64.toNat_min]
    exact Nat.min_le_left _ _
  generalize min blockSize length = amount at small
  have narrow : amount.toInt64.toInt32 = amount.toUInt32.toInt32 := by
    apply Int32.toBitVec_inj.mp
    exact narrowed amount.toBitVec
  have kept : amount.toUInt32.toNat = amount.toNat := by
    rw [UInt64.toNat_toUInt32]
    omega
  rw [narrow, (length_kept amount.toUInt32).mpr (by omega)]
  apply UInt64.toNat_inj.mp
  rw [UInt32.toNat_toUInt64, kept]

theorem readFileContents_range (request : FileContentsRequest) (flags : request.dwFlags = 2) :
    readFileContents request = .ok (.range request.streamId (asU64 request.listIndex)
      (asU64 request.nPositionHigh <<< 32 ||| asU64 request.nPositionLow) (asU64 request.cbRequested)) := by
  unfold readFileContents
  rw [flags, if_neg (by decide), if_pos rfl]

theorem nonnegative_bound (offset : Int64) (positive : 0 ≤ offset) : offset.toBitVec.toNat < 2 ^ 63 := by
  have value : 0 ≤ offset.toInt := Int64.le_iff_toInt_le.mp positive
  have signed : offset.toInt = offset.toBitVec.toInt := rfl
  have bound := offset.toBitVec.isLt
  rw [signed, BitVec.toInt_eq_toNat_cond] at value
  split at value <;> omega

-- A range that is asked for is turned back into the same range exactly when the lower half of the
-- offset and the length have their top bit clear.
theorem ranges_decoded (streamId listIndex : Int32) (nodeIndex : UInt64) (offset : Int64) (size : UInt32) (fileSize place : UInt64) :
    (0 ≤ offset →
      (readFileContents (readNode streamId nodeIndex offset size) =
          .ok (.range streamId (asU64 nodeIndex.toInt64.toInt32) offset.toUInt64 size.toUInt64) ↔
        offset.toUInt64.toNat % 2 ^ 32 < 2 ^ 31 ∧ size.toNat < 2 ^ 31)) ∧
    (readFileContents (sendFileContentsRequest listIndex fileSize place) =
        .ok (.range listIndex (asU64 listIndex) place (min blockSize (fileSize - place))) ↔
      place.toNat % 2 ^ 32 < 2 ^ 31 ∨ 2 ^ 64 - 2 ^ 32 ≤ place.toNat) := by
  constructor
  · intro positive
    have low : (readNode streamId nodeIndex offset size).nPositionLow.toBitVec = offset.toBitVec.setWidth 32 :=
      (narrowed (offset.toBitVec &&& 0xFFFFFFFF#64)).trans (masked_low offset.toBitVec)
    have high : (readNode streamId nodeIndex offset size).nPositionHigh.toBitVec = (offset.toBitVec >>> 32).setWidth 32 :=
      (narrowed (offset.toBitVec.sshiftRight 32)).trans (shifted_high offset.toBitVec)
    have position := joined_halves offset.toBitVec _ _ low high
    have bound := nonnegative_bound offset positive
    have length := length_kept size
    rw [readFileContents_range _ rfl]
    simp only [Except.ok.injEq, ContentsRequest.range.injEq]
    change (_ ∧ _ ∧ _ ∧ asU64 size.toInt32 = size.toUInt64) ↔ _
    rw [length]
    change (_ ∧ _ ∧ (_ = UInt64.ofBitVec offset.toBitVec) ∧ _) ↔ _
    rw [position]
    change (streamId = streamId ∧ asU64 nodeIndex.toInt64.toInt32 = asU64 nodeIndex.toInt64.toInt32 ∧
      (offset.toBitVec.toNat % 2 ^ 32 < 2 ^ 31 ∨ 2 ^ 64 - 2 ^ 32 ≤ offset.toBitVec.toNat) ∧ _) ↔ offset.toBitVec.toNat % 2 ^ 32 < 2 ^ 31 ∧ _
    constructor
    · rintro ⟨_, _, here | above, short⟩
      · exact ⟨here, short⟩
      · omega
    · rintro ⟨here, short⟩
      exact ⟨rfl, rfl, .inl here, short⟩
  · have low : (sendFileContentsRequest listIndex fileSize place).nPositionLow.toBitVec = place.toBitVec.setWidth 32 :=
      (narrowed (place.toBitVec &&& 0xFFFFFFFF#64)).trans (masked_low place.toBitVec)
    have high : (sendFileContentsRequest listIndex fileSize place).nPositionHigh.toBitVec = (place.toBitVec >>> 32).setWidth 32 :=
      narrowed (place.toBitVec >>> 32)
    have position := joined_halves place.toBitVec _ _ low high
    have length := block_length (fileSize - place)
    rw [readFileContents_range _ rfl]
    simp only [Except.ok.injEq, ContentsRequest.range.injEq]
    change (_ ∧ _ ∧ (_ = UInt64.ofBitVec place.toBitVec) ∧ asU64 (min blockSize (fileSize - place)).toInt64.toInt32 = _) ↔ _
    rw [length, position]
    constructor
    · rintro ⟨_, _, here, _⟩
      exact here
    · intro here
      exact ⟨rfl, rfl, here, rfl⟩

theorem ranges_decoded_small :
    readFileContents (readNode 7 0 65536 4096) = .ok (.range 7 0 65536 4096) := by
  have whole := ((ranges_decoded 7 0 0 65536 4096 0 0).1 (by decide)).mpr (by decide)
  exact whole

-- A read at 2 GiB is served from just below 2^64.
theorem two_gib_misread : (0 : Int64) ≤ 0x80000000 ∧
    readFileContents (readNode 7 0 0x80000000 4096) = .ok (.range 7 0 0xFFFFFFFF80000000 4096) ∧
    readFileContents (sendFileContentsRequest 0 0x90000000 0x80000000) = .ok (.range 0 0 0xFFFFFFFF80000000 0x400000) ∧
    readFileContents (readNode 7 0 0 0x80000000) = .ok (.range 7 0 0 0xFFFFFFFF80000000) := by decide

end GotechDesk.Clipboard
