import Mathlib

set_option autoImplicit false

namespace GotechDesk.Connection

-- A protobuf string. The length of a Rust string fits an isize, so writing it as
-- a u64 never loses a bit.
def Text : Type := { s : String // s.utf8ByteSize < 2 ^ 63 }
deriving DecidableEq

instance : Inhabited Text := ⟨⟨"", by decide⟩⟩

inductive EnumOrUnknown (α : Type) where
  | known (value : α)
  | unknown (raw : Int)
deriving DecidableEq, Repr

inductive BoolOption where
  | notSet
  | no
  | yes
deriving DecidableEq, Repr

inductive ImageQuality where
  | notSet
  | low
  | balanced
  | best
deriving DecidableEq, Repr

structure OptionMessage where
  imageQuality : EnumOrUnknown ImageQuality := .known .notSet
  lockAfterSessionEnd : EnumOrUnknown BoolOption := .known .notSet
  showRemoteCursor : EnumOrUnknown BoolOption := .known .notSet
  privacyMode : EnumOrUnknown BoolOption := .known .notSet
  blockInput : EnumOrUnknown BoolOption := .known .notSet
  customImageQuality : Int := 0
  disableAudio : EnumOrUnknown BoolOption := .known .notSet
  disableClipboard : EnumOrUnknown BoolOption := .known .notSet
  enableFileTransfer : EnumOrUnknown BoolOption := .known .notSet
  supportedDecoding : Option (List UInt8) := none
  customFps : Int := 0
  disableKeyboard : EnumOrUnknown BoolOption := .known .notSet
  followRemoteCursor : EnumOrUnknown BoolOption := .known .notSet
  followRemoteWindow : EnumOrUnknown BoolOption := .known .notSet
  disableCamera : EnumOrUnknown BoolOption := .known .notSet
  terminalPersistent : EnumOrUnknown BoolOption := .known .notSet
  showMyCursor : EnumOrUnknown BoolOption := .known .notSet
deriving DecidableEq, Repr

structure FileTransfer where
  dir : Text
  showHidden : Bool
deriving DecidableEq

structure Terminal where
  serviceId : Text
deriving DecidableEq

structure PortForward where
  host : Text
  port : Int32
  multiplex : Bool
deriving DecidableEq

-- `unknown` is a variant this build does not know.
inductive LoginUnion where
  | fileTransfer (ft : FileTransfer)
  | viewCamera
  | terminal (t : Terminal)
  | portForward (pf : PortForward)
  | unknown (field : Nat)
deriving DecidableEq

structure OSLogin where
  username : Text
  password : Text
deriving DecidableEq, Inhabited

structure LoginRequest where
  username : Text := default
  password : List UInt8 := []
  myId : Text := default
  myName : Text := default
  option : Option OptionMessage := none
  union : Option LoginUnion := none
  sessionId : UInt64 := 0
  version : Text := default
  osLogin : OSLogin := default
  myPlatform : Text := default
  hwid : List UInt8 := []
  avatar : Text := default
deriving DecidableEq, Inhabited

structure Auth2FA where
  code : Text
  hwid : List UInt8
deriving DecidableEq

structure SwitchSidesResponse where
  uuid : List UInt8
  lr : Option LoginRequest
deriving DecidableEq

-- The payloads are those the connection's login and scope checks read.
inductive Misc where
  | chatMessage
  | switchDisplay
  | option (o : OptionMessage)
  | audioFormat
  | closeReason (reason : Text)
  | refreshVideo
  | refreshVideoDisplay
  | videoReceived
  | captureDisplays
  | clientRecordStatus
  | togglePrivacyMode
  | toggleVirtualDisplay
  | selectedSid (sid : Nat)
  | changeResolution
  | changeDisplayResolution
  | messageQuery
  | followCurrentDisplay
  | switchSidesRequest (uuid : List UInt8)
  | other
  | empty
deriving DecidableEq

inductive Message where
  | loginRequest (lr : LoginRequest)
  | auth2fa (tfa : Auth2FA)
  | testDelay (fromClient : Bool)
  | switchSidesResponse (s : SwitchSidesResponse)
  | misc (misc : Misc)
  | mouseEvent
  | audioFrame
  | pointerDeviceEvent
  | keyEvent
  | clipboard
  | multiClipboards
  | fileAction
  | fileResponse
  | voiceCallRequest
  | voiceCallResponse
  | screenshotRequest
  | screenshotResponse
  | terminalAction
  | terminalResponse
  | portForwardChannel
  | other
  | empty
deriving DecidableEq

end GotechDesk.Connection
