import GotechDesk.Segments
import GotechDesk.Net.Digits

set_option autoImplicit false

namespace GotechDesk.Net

open GotechDesk.Segments

abbrev Ipv4Addr := BitVec 32
abbrev Ipv6Addr := BitVec 128

inductive IpAddr where
  | v4 (addr : Ipv4Addr)
  | v6 (addr : Ipv6Addr)
deriving DecidableEq

def octets (addr : Ipv4Addr) : List Nat := [24, 16, 8, 0].map (fun shift => addr.toNat / 2 ^ shift % 256)

def segmentsOf (addr : Ipv6Addr) : List Nat := [112, 96, 80, 64, 48, 32, 16, 0].map (fun shift => addr.toNat / 2 ^ shift % 65536)

def fromOctets (parts : List Nat) : Ipv4Addr := BitVec.ofNat 32 (parts.foldl (fun value part => value * 256 + part) 0)

def fromSegments (parts : List Nat) : Ipv6Addr := BitVec.ofNat 128 (parts.foldl (fun value part => value * 65536 + part) 0)

def isColon (c : Char) : Bool := c == ':'
def isDot (c : Char) : Bool := c == '.'

def ipv4Text (addr : Ipv4Addr) : List Char := joined '.' ((octets addr).map (numberText 10 3))

structure Span where
  start : Nat
  len : Nat
deriving DecidableEq

-- The longest run of zero segments, the first of its length.
def longestZeros : Nat → List Nat → Span → Span → Span
  | _, [], longest, _ => longest
  | index, segment :: rest, longest, current =>
      if segment = 0 then
        let grown := if current.len = 0 then Span.mk index 1 else { current with len := current.len + 1 }
        longestZeros (index + 1) rest (if grown.len > longest.len then grown else longest) grown
      else longestZeros (index + 1) rest longest ⟨0, 0⟩

def hexText (segment : Nat) : List Char := numberText 16 4 segment

def fmtSubslice (chunk : List Nat) : List Char := joined ':' (chunk.map hexText)

def isMapped (parts : List Nat) : Bool := parts.take 6 == [0, 0, 0, 0, 0, 65535]

def ipv6Text (addr : Ipv6Addr) : List Char :=
  let parts := segmentsOf addr
  if isMapped parts then "::ffff:".toList ++ ipv4Text (addr.setWidth 32)
  else
    let zeroes := longestZeros 0 parts ⟨0, 0⟩ ⟨0, 0⟩
    if zeroes.len > 1 then fmtSubslice (parts.take zeroes.start) ++ "::".toList ++ fmtSubslice (parts.drop (zeroes.start + zeroes.len))
    else fmtSubslice parts

def IpAddr.text : IpAddr → List Char
  | .v4 addr => ipv4Text addr
  | .v6 addr => ipv6Text addr

-- Reading an address back: an octet has no leading zero, a group at most four digits, and `::`
-- stands for at least one zero group.
def readOctet (piece : List Char) : Option Nat :=
  if piece.length ≤ 3 ∧ piece ≠ [] ∧ (piece.head? = some '0' → piece = ['0']) then
    (readNumber 10 piece).filter (fun value => value < 256)
  else none

def readIpv4 (text : List Char) : Option (List Nat) := ((segments isDot text).mapM readOctet).filter (fun parts => parts.length = 4)

def readGroup (piece : List Char) : Option Nat := if piece.length ≤ 4 ∧ piece ≠ [] then readNumber 16 piece else none

def ipv4Groups (parts : List Nat) : List Nat := [parts.getD 0 0 * 256 + parts.getD 1 0, parts.getD 2 0 * 256 + parts.getD 3 0]

-- Groups, and whether the last two were written as an IPv4 address.
def readGroups : List (List Char) → Option (List Nat × Bool)
  | [] => some ([], false)
  | [last] =>
      match readIpv4 last with
      | some parts => some (ipv4Groups parts, true)
      | none => (readGroup last).map (fun group => ([group], false))
  | piece :: rest => (readGroup piece).bind (fun group => (readGroups rest).map (fun groups => (group :: groups.1, groups.2)))

-- What follows the first empty piece when it belongs to a `::`.
def afterGap (front back : List (List Char)) : Option (List (List Char)) :=
  let rest := if front = [] then (if back.head? = some [] then some back.tail else none) else some back
  rest.bind (fun pieces => if pieces = [] then none else some (if pieces = [[]] then [] else pieces))

def readIpv6 (text : List Char) : Option Ipv6Addr :=
  let front := (segments isColon text).takeWhile (fun piece => !piece.isEmpty)
  match (segments isColon text).dropWhile (fun piece => !piece.isEmpty) with
  | [] => (readGroups front).bind (fun groups => if groups.1.length = 8 then some (fromSegments groups.1) else none)
  | _ :: back =>
      (afterGap front back).bind (fun pieces => (readGroups front).bind (fun head => (readGroups pieces).bind (fun tail =>
        if head.2 = false ∧ head.1.length + tail.1.length ≤ 7 then
          some (fromSegments (head.1 ++ List.replicate (8 - head.1.length - tail.1.length) 0 ++ tail.1))
        else none)))

theorem octets_back (addr : Ipv4Addr) : fromOctets (octets addr) = addr := by
  apply BitVec.eq_of_toNat_eq
  have bound := addr.isLt
  simp only [fromOctets, octets, List.map_cons, List.map_nil, List.foldl_cons, List.foldl_nil, BitVec.toNat_ofNat]
  omega

theorem segments_back (addr : Ipv6Addr) : fromSegments (segmentsOf addr) = addr := by
  apply BitVec.eq_of_toNat_eq
  have bound := addr.isLt
  simp only [fromSegments, segmentsOf, List.map_cons, List.map_nil, List.foldl_cons, List.foldl_nil, BitVec.toNat_ofNat]
  omega

theorem octets_small (addr : Ipv4Addr) : ∀ part ∈ octets addr, part < 256 := by
  intro part listed
  obtain ⟨shift, _, rfl⟩ := List.mem_map.mp listed
  exact Nat.mod_lt _ (by omega)

theorem segments_small (addr : Ipv6Addr) : ∀ part ∈ segmentsOf addr, part < 65536 := by
  intro part listed
  obtain ⟨shift, _, rfl⟩ := List.mem_map.mp listed
  exact Nat.mod_lt _ (by omega)

-- A digit is none of the characters that separate or follow numbers.
theorem digit_plain (value : Nat) (small : value < 16) :
    isColon (digit value) = false ∧ isDot (digit value) = false ∧ digit value ≠ '/' ∧ digit value ≠ '%' ∧ 46 ≤ (digit value).toNat ∧ (digit value).toNat ≤ 102 := by
  interval_cases value <;> decide

theorem number_plain (base width value : Nat) (based : base ≤ 16) (positive : 0 < base) (c : Char) (member : c ∈ numberText base width value) :
    isColon c = false ∧ isDot c = false ∧ c ≠ '/' ∧ c ≠ '%' ∧ 46 ≤ c.toNat ∧ c.toNat ≤ 102 := by
  obtain ⟨d, small, rfl⟩ := number_text_digits base width value positive c member
  exact digit_plain d (by omega)

theorem read_octet_text (part : Nat) (small : part < 256) : readOctet (numberText 10 3 part) = some part := by
  unfold readOctet
  have head : (numberText 10 3 part).head? = some '0' → numberText 10 3 part = ['0'] := by
    intro zero
    by_cases none : part = 0
    · rw [none]
      rfl
    · exact absurd zero (number_text_head 10 3 part (by omega) (by omega) (by omega) (by omega))
  rw [if_pos ⟨number_text_length 10 3 part, number_text_ne_nil 10 2 part, head⟩, read_number_text 10 3 part (by omega) (by omega) (by omega)]
  simp [small]

theorem mapM_read {A B : Type} (read : B → Option A) (write : A → B) (items : List A) (back : ∀ item ∈ items, read (write item) = some item) :
    (items.map write).mapM read = some items := by
  induction items with
  | nil => rfl
  | cons item rest ih =>
      rw [List.map_cons, List.mapM_cons, back item List.mem_cons_self, ih (fun other listed => back other (List.mem_cons_of_mem _ listed))]
      rfl

section
variable (addr : Ipv4Addr)

theorem split_ipv4 : segments isDot (ipv4Text addr) = (octets addr).map (numberText 10 3) := by
  apply segments_joined isDot '.' ((octets addr).map (numberText 10 3)) rfl (by simp [octets])
  intro piece listed c member
  obtain ⟨part, _, rfl⟩ := List.mem_map.mp listed
  exact (number_plain 10 3 part (by omega) (by omega) c member).2.1

theorem read_ipv4_text : readIpv4 (ipv4Text addr) = some (octets addr) := by
  unfold readIpv4
  rw [split_ipv4, mapM_read readOctet (numberText 10 3) (octets addr) (fun part listed => read_octet_text part (octets_small addr part listed))]
  rfl

theorem ipv4_chars (c : Char) (member : c ∈ ipv4Text addr) : isColon c = false ∧ c ≠ '/' ∧ c ≠ '%' ∧ 46 ≤ c.toNat ∧ c.toNat ≤ 102 := by
  obtain rfl | ⟨piece, listed, inside⟩ := mem_joined '.' _ c member
  · decide
  · obtain ⟨part, _, rfl⟩ := List.mem_map.mp listed
    obtain ⟨colon, _, rest⟩ := number_plain 10 3 part (by omega) (by omega) c inside
    exact ⟨colon, rest⟩

theorem ipv4_ne_nil : ipv4Text addr ≠ [] := by
  intro empty
  have read := read_ipv4_text addr
  rw [empty] at read
  cases read

end

theorem hex_ne_nil (segment : Nat) : hexText segment ≠ [] := number_text_ne_nil 16 3 segment

theorem hex_plain (segment : Nat) (c : Char) (member : c ∈ hexText segment) :
    isColon c = false ∧ isDot c = false ∧ c ≠ '/' ∧ c ≠ '%' ∧ 46 ≤ c.toNat ∧ c.toNat ≤ 102 :=
  number_plain 16 4 segment (by omega) (by omega) c member

theorem read_group_text (segment : Nat) (small : segment < 65536) : readGroup (hexText segment) = some segment := by
  unfold readGroup
  rw [if_pos ⟨number_text_length 16 4 segment, hex_ne_nil segment⟩]
  exact read_number_text 16 4 segment (by omega) (by omega) (by omega)

-- A hexadecimal group has no dots, so it is not read as an IPv4 address.
theorem hex_not_ipv4 (segment : Nat) : readIpv4 (hexText segment) = none := by
  unfold readIpv4
  rw [segments_plain isDot (hexText segment) (fun c member => (hex_plain segment c member).2.1)]
  cases read : readOctet (hexText segment) with
  | none => simp [read]
  | some part => simp [read]

theorem read_groups_cons (piece next : List Char) (rest : List (List Char)) : readGroups (piece :: next :: rest) =
    (readGroup piece).bind (fun group => (readGroups (next :: rest)).map (fun groups => (group :: groups.1, groups.2))) := rfl

theorem read_groups_last (piece : List Char) (plain : readIpv4 piece = none) :
    readGroups [piece] = (readGroup piece).map (fun group => ([group], false)) := by
  unfold readGroups
  rw [plain]

section
variable (parts : List Nat)

theorem read_groups_hex (small : ∀ part ∈ parts, part < 65536) : readGroups (parts.map hexText) = some (parts, false) := by
  induction parts with
  | nil => rfl
  | cons part rest ih =>
      have here := read_group_text part (small part List.mem_cons_self)
      cases rest with
      | nil =>
          rw [List.map_singleton, read_groups_last (hexText part) (hex_not_ipv4 part), here]
          rfl
      | cons next others =>
          have tail := ih (fun other listed => small other (List.mem_cons_of_mem _ listed))
          rw [List.map_cons, List.map_cons, read_groups_cons, here, Option.bind_some, ← List.map_cons, tail]
          rfl

theorem join_hex : segments isColon (fmtSubslice parts) = if parts = [] then [[]] else parts.map hexText := by
  by_cases empty : parts = []
  · rw [if_pos empty, empty]
    rfl
  · rw [if_neg empty]
    apply segments_joined isColon ':' (parts.map hexText) rfl (by simpa using empty)
    intro piece listed c member
    obtain ⟨part, _, rfl⟩ := List.mem_map.mp listed
    exact (hex_plain part c member).1

theorem hex_filled : ∀ piece ∈ parts.map hexText, (!piece.isEmpty) = true := by
  intro piece listed
  obtain ⟨part, _, rfl⟩ := List.mem_map.mp listed
  simpa using hex_ne_nil part

-- The front of a text with a gap, cut at the first empty piece.
theorem front_hex (rest : List (List Char)) : (parts.map hexText ++ [] :: rest).takeWhile (fun piece => !piece.isEmpty) = parts.map hexText ∧
      (parts.map hexText ++ [] :: rest).dropWhile (fun piece => !piece.isEmpty) = [] :: rest := by
  rw [List.takeWhile_append_of_pos (hex_filled parts), List.dropWhile_append_of_pos (hex_filled parts)]
  exact ⟨List.append_nil _, rfl⟩

end

-- A run of zeros as the scan knows it: inside the part that was read, and all of it zero.
def Zeros (parts : List Nat) (span : Span) : Prop :=
  span.start + span.len ≤ parts.length ∧ ∀ index, span.start ≤ index → index < span.start + span.len → parts[index]? = some 0

theorem zeros_nil (parts : List Nat) : Zeros parts ⟨0, 0⟩ := by
  refine ⟨Nat.zero_le _, fun index _ inside => ?_⟩
  exact absurd inside (Nat.not_lt_zero index)

theorem longest_zeros (done rest : List Nat) (longest current : Span) (long : Zeros (done ++ rest) longest) (here : Zeros (done ++ rest) current)
    (ends : current.len = 0 ∨ current.start + current.len = done.length) : Zeros (done ++ rest) (longestZeros done.length rest longest current) := by
  induction rest generalizing done longest current with
  | nil => exact long
  | cons segment rest ih =>
      have shape : done ++ segment :: rest = (done ++ [segment]) ++ rest := by simp
      have size : (done ++ [segment]).length = done.length + 1 := by simp
      have found : (done ++ segment :: rest)[done.length]? = some segment := by simp
      unfold longestZeros
      by_cases zero : segment = 0
      · rw [if_pos zero]
        have grown : ∀ span : Span, span = (if current.len = 0 then Span.mk done.length 1 else { current with len := current.len + 1 }) →
            Zeros (done ++ segment :: rest) span ∧ span.start + span.len = done.length + 1 := by
          rintro span rfl
          by_cases new : current.len = 0
          · rw [if_pos new]
            refine ⟨⟨by simp, fun index from' inside => ?_⟩, rfl⟩
            obtain rfl : index = done.length := by dsimp only at from' inside; omega
            rw [found, zero]
          · have adjoins : current.start + current.len = done.length := ends.resolve_left new
            rw [if_neg new]
            refine ⟨⟨by simp only [List.length_append, List.length_cons]; omega, fun index from' inside => ?_⟩, by dsimp only; omega⟩
            by_cases last : index = done.length
            · rw [last, found, zero]
            · exact here.2 index from' (by dsimp only at inside; omega)
        obtain ⟨zeros, adjoins⟩ := grown _ rfl
        clear grown
        generalize (if current.len = 0 then Span.mk done.length 1 else { current with len := current.len + 1 }) = grown at zeros adjoins ⊢
        rw [shape] at long zeros ⊢
        have continued := ih (done ++ [segment])
        rw [size] at continued
        refine continued _ _ ?_ zeros (Or.inr adjoins)
        split
        · exact zeros
        · exact long
      · rw [if_neg zero]
        rw [shape] at long ⊢
        have continued := ih (done ++ [segment])
        rw [size] at continued
        exact continued longest ⟨0, 0⟩ long (zeros_nil _) (Or.inl rfl)

-- The segments around the run, with the run filled in again.
theorem zeros_filled (parts : List Nat) (span : Span) (zeros : Zeros parts span) :
    parts.take span.start ++ List.replicate span.len 0 ++ parts.drop (span.start + span.len) = parts := by
  have middle : (parts.drop span.start).take span.len = List.replicate span.len 0 := by
    apply List.eq_replicate_iff.mpr
    refine ⟨by rw [List.length_take, List.length_drop]; have := zeros.1; omega, ?_⟩
    intro part listed
    obtain ⟨index, inside, rfl⟩ := List.mem_iff_getElem.mp listed
    rw [List.length_take, List.length_drop] at inside
    have zero := zeros.2 (span.start + index) (by omega) (by omega)
    rw [List.getElem?_eq_some_iff] at zero
    obtain ⟨_, same⟩ := zero
    simpa using same
  rw [← middle, List.append_assoc, ← List.drop_drop, List.take_append_drop, List.take_append_drop]

theorem read_plain (parts : List Nat) (small : ∀ part ∈ parts, part < 65536) (eight : parts.length = 8) :
    readIpv6 (fmtSubslice parts) = some (fromSegments parts) := by
  have some : parts ≠ [] := by
    rintro rfl
    cases eight
  have front := @List.takeWhile_append_of_pos _ _ _ [] (hex_filled parts)
  have rest := @List.dropWhile_append_of_pos _ _ _ [] (hex_filled parts)
  rw [List.append_nil] at front rest
  unfold readIpv6
  rw [join_hex, if_neg some, front, rest]
  change (readGroups (parts.map hexText ++ [])).bind _ = _
  rw [List.append_nil, read_groups_hex parts small, Option.bind_some]
  exact if_pos eight

-- The pieces after a gap that the groups `tail` were written behind.
theorem after_gap (front : List (List Char)) (tail : List Nat) : afterGap front
    ((if front = [] then [[]] else []) ++ (if tail = [] then [[]] else tail.map hexText)) = some (tail.map hexText) := by
  unfold afterGap
  by_cases empty : tail = []
  · rw [if_pos empty, empty]
    by_cases first : front = []
    · rw [first]
      rfl
    · rw [if_neg first, if_neg first]
      rfl
  · have filled : tail.map hexText ≠ [] := by simpa using empty
    have lone : tail.map hexText ≠ [[]] := by
      intro same
      have listed : ([] : List Char) ∈ tail.map hexText := by rw [same]; exact List.mem_singleton_self _
      obtain ⟨part, _, none⟩ := List.mem_map.mp listed
      exact hex_ne_nil part none
    rw [if_neg empty]
    by_cases first : front = []
    · rw [if_pos first, if_pos first]
      simp [filled, lone]
    · rw [if_neg first, if_neg first]
      simp [filled, lone]

theorem read_gap (head : List Nat) (text : List Char) (rest : List (List Char)) (split : segments isColon text =
    head.map hexText ++ [] :: ((if head.map hexText = [] then [[]] else []) ++ rest)) :
    readIpv6 text = (afterGap (head.map hexText) ((if head.map hexText = [] then [[]] else []) ++ rest)).bind
      (fun pieces => (readGroups (head.map hexText)).bind (fun front => (readGroups pieces).bind (fun tail =>
        if front.2 = false ∧ front.1.length + tail.1.length ≤ 7 then
          some (fromSegments (front.1 ++ List.replicate (8 - front.1.length - tail.1.length) 0 ++ tail.1))
        else none))) := by
  obtain ⟨taken, dropped⟩ := front_hex head ((if head.map hexText = [] then [[]] else []) ++ rest)
  unfold readIpv6
  rw [split, taken, dropped]

theorem split_compressed (head tail : List Nat) : segments isColon (fmtSubslice head ++ "::".toList ++ fmtSubslice tail) =
    head.map hexText ++ [] :: ((if head.map hexText = [] then [[]] else []) ++ (if tail = [] then [[]] else tail.map hexText)) := by
  have shape : fmtSubslice head ++ "::".toList ++ fmtSubslice tail = fmtSubslice head ++ ':' :: ([] ++ ':' :: fmtSubslice tail) := by
    rw [List.append_assoc]
    rfl
  rw [shape, segments_append_sep isColon (fmtSubslice head) _ ':' rfl, segments_append_sep isColon [] _ ':' rfl, join_hex, join_hex]
  by_cases empty : head = []
  · rw [if_pos empty, empty]
    rfl
  · rw [if_neg empty, if_neg (show ¬ head.map hexText = [] by simpa using empty)]
    rfl

theorem read_compressed (head tail : List Nat) (smallHead : ∀ part ∈ head, part < 65536) (smallTail : ∀ part ∈ tail, part < 65536)
    (short : head.length + tail.length ≤ 7) : readIpv6 (fmtSubslice head ++ "::".toList ++ fmtSubslice tail) =
      some (fromSegments (head ++ List.replicate (8 - head.length - tail.length) 0 ++ tail)) := by
  rw [read_gap head _ _ (split_compressed head tail), after_gap, Option.bind_some, read_groups_hex head smallHead, Option.bind_some,
    read_groups_hex tail smallTail, Option.bind_some]
  exact if_pos ⟨rfl, short⟩

theorem read_mapped (addr : Ipv4Addr) : readIpv6 ("::ffff:".toList ++ ipv4Text addr) =
    some (fromSegments ([0, 0, 0, 0, 0, 65535] ++ ipv4Groups (octets addr))) := by
  have whole : segments isColon (ipv4Text addr) = [ipv4Text addr] := segments_plain isColon _ (fun c member => (ipv4_chars addr c member).1)
  have split : segments isColon ("::ffff:".toList ++ ipv4Text addr) = ([] : List Nat).map hexText ++ [] ::
      ((if ([] : List Nat).map hexText = [] then [[]] else []) ++ ["ffff".toList, ipv4Text addr]) := by
    change segments isColon ([] ++ ':' :: ([] ++ ':' :: ("ffff".toList ++ ':' :: ipv4Text addr))) = _
    rw [segments_append_sep isColon [] _ ':' rfl, segments_append_sep isColon [] _ ':' rfl, segments_append_sep isColon "ffff".toList _ ':' rfl, whole]
    rfl
  have groups : readGroups ["ffff".toList, ipv4Text addr] = some (65535 :: ipv4Groups (octets addr), true) := by
    have last : readGroups [ipv4Text addr] = some (ipv4Groups (octets addr), true) := by
      unfold readGroups
      rw [read_ipv4_text]
    rw [read_groups_cons, last]
    rfl
  rw [read_gap [] _ _ split]
  change (readGroups []).bind (fun front => (readGroups ["ffff".toList, ipv4Text addr]).bind _) = _
  rw [groups]
  rfl

-- The last two segments of an address are the groups of its low half.
theorem low_groups (addr : Ipv6Addr) : (segmentsOf addr).drop 6 = ipv4Groups (octets (addr.setWidth 32)) := by
  have high : addr.toNat / 2 ^ 16 % 65536 = addr.toNat % 2 ^ 32 / 2 ^ 24 % 256 * 256 + addr.toNat % 2 ^ 32 / 2 ^ 16 % 256 := by omega
  have low : addr.toNat / 2 ^ 0 % 65536 = addr.toNat % 2 ^ 32 / 2 ^ 8 % 256 * 256 + addr.toNat % 2 ^ 32 / 2 ^ 0 % 256 := by omega
  change [addr.toNat / 2 ^ 16 % 65536, addr.toNat / 2 ^ 0 % 65536] = _
  rw [high, low]
  rfl

theorem mapped_segments (addr : Ipv6Addr) (mapped : isMapped (segmentsOf addr) = true) :
    [0, 0, 0, 0, 0, 65535] ++ ipv4Groups (octets (addr.setWidth 32)) = segmentsOf addr := by
  rw [← eq_of_beq mapped, ← low_groups addr, List.take_append_drop]

-- An address read back from its text is itself; an IPv4 text is no IPv6 address.
theorem read_ipv6_text (addr : Ipv6Addr) : readIpv6 (ipv6Text addr) = some addr := by
  have small := segments_small addr
  have eight : (segmentsOf addr).length = 8 := rfl
  unfold ipv6Text
  by_cases mapped : isMapped (segmentsOf addr) = true
  · rw [if_pos mapped, read_mapped, mapped_segments addr mapped, segments_back]
  · rw [if_neg mapped]
    have zeros := longest_zeros [] (segmentsOf addr) ⟨0, 0⟩ ⟨0, 0⟩ (zeros_nil _) (zeros_nil _) (Or.inl rfl)
    rw [List.nil_append, List.length_nil] at zeros
    generalize longestZeros 0 (segmentsOf addr) ⟨0, 0⟩ ⟨0, 0⟩ = span at zeros ⊢
    by_cases long : span.len > 1
    · have filled := zeros_filled (segmentsOf addr) span zeros
      have inside := zeros.1
      have lengths : ((segmentsOf addr).take span.start).length = span.start ∧
          ((segmentsOf addr).drop (span.start + span.len)).length = 8 - (span.start + span.len) := by
        rw [List.length_take, List.length_drop, eight]
        omega
      rw [if_pos long, read_compressed _ _ (fun part listed => small part (List.mem_of_mem_take listed))
        (fun part listed => small part (List.mem_of_mem_drop listed)) (by omega), lengths.1, lengths.2]
      have gap : 8 - span.start - (8 - (span.start + span.len)) = span.len := by omega
      rw [gap, filled, segments_back]
    · rw [if_neg long, read_plain (segmentsOf addr) small eight, segments_back]

theorem read_ipv6_ipv4 (addr : Ipv4Addr) : readIpv6 (ipv4Text addr) = none := by
  have whole : segments isColon (ipv4Text addr) = [ipv4Text addr] := segments_plain isColon _ (fun c member => (ipv4_chars addr c member).1)
  have filled : (!(ipv4Text addr).isEmpty) = true := by simpa using ipv4_ne_nil addr
  have groups : readGroups [ipv4Text addr] = some (ipv4Groups (octets addr), true) := by
    unfold readGroups
    rw [read_ipv4_text]
  unfold readIpv6
  have front : List.takeWhile (fun piece => !List.isEmpty piece) [ipv4Text addr] = [ipv4Text addr] := List.takeWhile_cons_of_pos filled
  have rest : List.dropWhile (fun piece => !List.isEmpty piece) [ipv4Text addr] = [] := List.dropWhile_cons_of_pos filled
  rw [whole, front, rest]
  change (readGroups [ipv4Text addr]).bind _ = _
  rw [groups]
  rfl

theorem ip_text_injective (first second : IpAddr) (same : first.text = second.text) : first = second := by
  cases first with
  | v4 a =>
      cases second with
      | v4 b =>
          have read := congrArg readIpv4 same
          change readIpv4 (ipv4Text a) = readIpv4 (ipv4Text b) at read
          rw [read_ipv4_text, read_ipv4_text] at read
          rw [← octets_back a, ← octets_back b, Option.some.inj read]
      | v6 b =>
          have read := congrArg readIpv6 same
          change readIpv6 (ipv4Text a) = readIpv6 (ipv6Text b) at read
          rw [read_ipv6_ipv4, read_ipv6_text] at read
          cases read
  | v6 a =>
      have read := congrArg readIpv6 same
      change readIpv6 (ipv6Text a) = readIpv6 second.text at read
      cases second with
      | v4 b =>
          change _ = readIpv6 (ipv4Text b) at read
          rw [read_ipv6_ipv4, read_ipv6_text] at read
          cases read
      | v6 b =>
          change _ = readIpv6 (ipv6Text b) at read
          rw [read_ipv6_text, read_ipv6_text] at read
          rw [Option.some.inj read]

theorem fmt_chars (parts : List Nat) (c : Char) (member : c ∈ fmtSubslice parts) : c ≠ '/' ∧ c ≠ '%' ∧ 46 ≤ c.toNat ∧ c.toNat ≤ 102 := by
  obtain rfl | ⟨piece, listed, inside⟩ := mem_joined ':' _ c member
  · decide
  · obtain ⟨part, _, rfl⟩ := List.mem_map.mp listed
    obtain ⟨_, _, rest⟩ := hex_plain part c inside
    exact rest

theorem mapped_chars (c : Char) (member : c ∈ "::ffff:".toList) : c ≠ '/' ∧ c ≠ '%' ∧ 46 ≤ c.toNat ∧ c.toNat ≤ 102 := by
  have plain : "::ffff:".toList.all (fun c => c ≠ '/' && c ≠ '%' && 46 ≤ c.toNat && c.toNat ≤ 102) = true := by decide
  simpa [and_assoc] using List.all_eq_true.mp plain c member

theorem ipv6_chars (addr : Ipv6Addr) (c : Char) (member : c ∈ ipv6Text addr) : c ≠ '/' ∧ c ≠ '%' ∧ 46 ≤ c.toNat ∧ c.toNat ≤ 102 := by
  unfold ipv6Text at member
  dsimp only at member
  split at member
  · obtain lead | rest := List.mem_append.mp member
    · exact mapped_chars c lead
    · exact (ipv4_chars _ c rest).2
  · split at member
    · obtain lead | tail := List.mem_append.mp member
      · obtain front | colons := List.mem_append.mp lead
        · exact fmt_chars _ c front
        · exact mapped_chars c (List.mem_append_left "ffff:".toList colons)
      · exact fmt_chars _ c tail
    · exact fmt_chars _ c member

theorem ip_chars (addr : IpAddr) (c : Char) (member : c ∈ addr.text) : c ≠ '/' ∧ c ≠ '%' ∧ 46 ≤ c.toNat ∧ c.toNat ≤ 102 := by
  cases addr with
  | v4 addr => exact (ipv4_chars addr c member).2
  | v6 addr => exact ipv6_chars addr c member

example : ipv6Text (fromSegments [0x2001, 0xdb8, 0, 0, 1, 0, 0, 1]) = "2001:db8::1:0:0:1".toList := by decide
example : readIpv6 "::ffff:192.0.2.7".toList = some (fromSegments [0, 0, 0, 0, 0, 65535, 0xc000, 0x207]) := by decide

end GotechDesk.Net
