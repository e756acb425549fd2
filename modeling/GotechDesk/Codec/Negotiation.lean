import GotechDesk.Table
import GotechDesk.Vote

set_option autoImplicit false

namespace GotechDesk.Codec

inductive CodecFormat where
  | vp8 | vp9 | av1 | h264 | h265 | unknown
deriving DecidableEq, Repr

inductive PreferCodec where
  | auto | vp9 | h264 | h265 | vp8 | av1
deriving DecidableEq, Repr

def PreferCodec.value : PreferCodec → Int
  | .auto => 0
  | .vp9 => 1
  | .h264 => 2
  | .h265 => 3
  | .vp8 => 4
  | .av1 => 5

-- The enumeration value of a number that came over the wire.
def PreferCodec.enumValueOr (value : Int) (default : PreferCodec) : PreferCodec :=
  ([.auto, .vp9, .h264, .h265, .vp8, .av1].find? (fun prefer => prefer.value == value)).getD default

structure SupportedDecoding where
  abilityVp9 : Int := 0
  abilityH264 : Int := 0
  abilityH265 : Int := 0
  prefer : Int := 0
  abilityVp8 : Int := 0
  abilityAv1 : Int := 0
deriving DecidableEq, Repr

structure SupportedEncoding where
  h264 : Bool := false
  h265 : Bool := false
  vp8 : Bool := false
  av1 : Bool := false
deriving DecidableEq, Repr

-- What a call reads of the host: its options, what the encoder probes report, and its memory.
structure Host where
  disableAv1 : Bool
  enableVramOption : Bool
  vramAvailable : CodecFormat → Nat
  enableHwcodecOption : Bool
  hwramName : CodecFormat → Option String
  av1Test : String
  totalMemory : Nat

def Host.supportedEncoding (host : Host) : SupportedEncoding :=
  let encoding : SupportedEncoding := { vp8 := true, av1 := !host.disableAv1 }
  let encoding := if host.enableHwcodecOption then
      { encoding with h264 := encoding.h264 || (host.hwramName .h264).isSome, h265 := encoding.h265 || (host.hwramName .h265).isSome } else encoding
  if host.enableVramOption then
    { encoding with h264 := encoding.h264 || decide (0 < host.vramAvailable .h264), h265 := encoding.h265 || decide (0 < host.vramAvailable .h265) }
  else encoding

-- The peers are given in the order an iteration of the map meets them.
def allDeclare (ability : SupportedDecoding → Int) (decodings : List SupportedDecoding) : Bool :=
  decide (0 < decodings.length) && decodings.all (fun s => decide (0 < ability s))

def Host.vramEncoding (host : Host) (format : CodecFormat) (allSupport : Bool) : Bool :=
  if host.enableVramOption then if allSupport then decide (0 < host.vramAvailable format) else false else false

def Host.hwEncoding (host : Host) (format : CodecFormat) (allSupport : Bool) : Option String :=
  if host.enableHwcodecOption then if allSupport then host.hwramName format else none else none

def Host.h264Encoding (host : Host) (decodings : List SupportedDecoding) : Bool :=
  host.vramEncoding .h264 (allDeclare (·.abilityH264) decodings) || (host.hwEncoding .h264 (allDeclare (·.abilityH264) decodings)).isSome

def Host.h265Encoding (host : Host) (decodings : List SupportedDecoding) : Bool :=
  host.vramEncoding .h265 (allDeclare (·.abilityH265) decodings) || (host.hwEncoding .h265 (allDeclare (·.abilityH265) decodings)).isSome

def Host.useable (host : Host) (decodings : List SupportedDecoding) : SupportedEncoding where
  vp8 := allDeclare (·.abilityVp8) decodings
  av1 := allDeclare (·.abilityAv1) decodings && !host.disableAv1
  h264 := allDeclare (·.abilityH264) decodings && host.h264Encoding decodings
  h265 := allDeclare (·.abilityH265) decodings && host.h265Encoding decodings

def SupportedEncoding.keeps (useable : SupportedEncoding) (s : SupportedDecoding) : Bool :=
  s.prefer == PreferCodec.vp9.value ||
    s.prefer == PreferCodec.vp8.value && useable.vp8 ||
    s.prefer == PreferCodec.av1.value && useable.av1 ||
    s.prefer == PreferCodec.h264.value && useable.h264 ||
    s.prefer == PreferCodec.h265.value && useable.h265

def Host.preferences (host : Host) (decodings : List SupportedDecoding) : List Int :=
  (decodings.filter (host.useable decodings).keeps).map SupportedDecoding.prefer

def Host.preference (host : Host) (decodings : List SupportedDecoding) : PreferCodec :=
  PreferCodec.enumValueOr ((Vote.mostFrequent (host.preferences decodings)).getD PreferCodec.auto.value) .auto

def Host.autoCodec (host : Host) (useable : SupportedEncoding) : CodecFormat :=
  let autoCodec := if useable.av1 && host.av1Test != "N" then CodecFormat.av1 else CodecFormat.vp9
  let autoCodec := if useable.h264 then CodecFormat.h264 else autoCodec
  let autoCodec := if useable.h265 then CodecFormat.h265 else autoCodec
  if autoCodec == CodecFormat.vp9 || autoCodec == CodecFormat.av1 then
    if useable.vp8 && decide (host.totalMemory ≤ 4 * 1024 * 1024 * 1024) then CodecFormat.vp8 else autoCodec
  else autoCodec

def Host.negotiate (host : Host) (decodings : List SupportedDecoding) : CodecFormat :=
  let autoCodec := host.autoCodec (host.useable decodings)
  match host.preference decodings with
  | .vp8 => .vp8
  | .vp9 => .vp9
  | .av1 => .av1
  | .h264 => if host.h264Encoding decodings then .h264 else autoCodec
  | .h265 => if host.h265Encoding decodings then .h265 else autoCodec
  | .auto => autoCodec

inductive EncodingUpdate where
  | update (id : Int) (decoding : SupportedDecoding)
  | remove (id : Int)
  | newOnlyVP9 (id : Int)
  | check
deriving DecidableEq, Repr

-- The three globals of the encoder.
structure Encoder where
  peerDecodings : List (Int × SupportedDecoding) := []
  encodeCodecFormat : CodecFormat := .vp9
  usableEncoding : Option SupportedEncoding := none
deriving Repr

def EncodingUpdate.apply (decodings : List (Int × SupportedDecoding)) : EncodingUpdate → List (Int × SupportedDecoding)
  | .update id decoding => Table.insert decodings id decoding
  | .remove id => Table.remove decodings id
  | .newOnlyVP9 id => Table.insert decodings id { abilityVp9 := 1 }
  | .check => decodings

def Encoder.peers (encoder : Encoder) : List SupportedDecoding := encoder.peerDecodings.map Prod.snd

-- A call, with the host it finds and the order its map is iterated in.
structure Call where
  update : EncodingUpdate
  host : Host
  order : List SupportedDecoding

def Encoder.update (encoder : Encoder) (call : Call) : Option Encoder :=
  let decodings := call.update.apply encoder.peerDecodings
  if call.order.Perm (decodings.map Prod.snd) then
    some { peerDecodings := decodings, encodeCodecFormat := call.host.negotiate call.order, usableEncoding := some (call.host.useable call.order) }
  else none

def SupportedDecoding.mark (decoding : SupportedDecoding) : CodecFormat → SupportedDecoding
  | .vp8 => { decoding with abilityVp8 := 0 }
  | .vp9 => { decoding with abilityVp9 := 0 }
  | .av1 => { decoding with abilityAv1 := 0 }
  | .h264 => { decoding with abilityH264 := 0 }
  | .h265 => { decoding with abilityH265 := 0 }
  | .unknown => decoding

-- What a controller declares: its own decoders, less those it has marked as unsupported.
def Decoder.supportedDecodings (prefer : PreferCodec) (disableAv1 : Bool) (h264 h265 : Int) (markUnsupported : List CodecFormat) : SupportedDecoding :=
  markUnsupported.foldl SupportedDecoding.mark
    { abilityVp8 := 1, abilityVp9 := 1, abilityAv1 := if disableAv1 then 0 else 1, abilityH264 := h264, abilityH265 := h265, prefer := prefer.value }

end GotechDesk.Codec
