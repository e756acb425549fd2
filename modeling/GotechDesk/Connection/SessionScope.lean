import GotechDesk.Connection.Messages

set_option autoImplicit false

namespace GotechDesk.Connection

inductive AuthConnType where
  | remote
  | fileTransfer
  | portForward
  | viewCamera
  | terminal
deriving DecidableEq, Repr

inductive Target where
  | windows
  | linux
  | macos
  | android
  | ios
deriving DecidableEq, Repr

def Target.mobile : Target → Bool
  | .android | .ios => true
  | .windows | .linux | .macos => false

def isBoolOptionNotSet (option : EnumOrUnknown BoolOption) : Bool := decide (option = .known .notSet)

def optionHasNonTerminalLoginField (o : OptionMessage) : Bool :=
  decide (o.imageQuality ≠ .known .notSet) || decide (o.customImageQuality ≠ 0) || decide (o.customFps ≠ 0) ||
    o.supportedDecoding.isSome || !isBoolOptionNotSet o.lockAfterSessionEnd || !isBoolOptionNotSet o.showRemoteCursor ||
    !isBoolOptionNotSet o.privacyMode || !isBoolOptionNotSet o.blockInput || !isBoolOptionNotSet o.disableAudio ||
    !isBoolOptionNotSet o.disableClipboard || !isBoolOptionNotSet o.enableFileTransfer ||
    !isBoolOptionNotSet o.disableKeyboard || !isBoolOptionNotSet o.followRemoteCursor ||
    !isBoolOptionNotSet o.followRemoteWindow || !isBoolOptionNotSet o.disableCamera || !isBoolOptionNotSet o.showMyCursor

def optionHasAnyField (o : OptionMessage) : Bool :=
  optionHasNonTerminalLoginField o || !isBoolOptionNotSet o.terminalPersistent

def optionHasNonViewCameraLoginField (o : OptionMessage) : Bool :=
  !(isBoolOptionNotSet o.lockAfterSessionEnd && isBoolOptionNotSet o.showRemoteCursor && isBoolOptionNotSet o.privacyMode &&
    isBoolOptionNotSet o.blockInput && isBoolOptionNotSet o.disableClipboard && isBoolOptionNotSet o.enableFileTransfer &&
    isBoolOptionNotSet o.disableKeyboard && isBoolOptionNotSet o.followRemoteCursor &&
    isBoolOptionNotSet o.followRemoteWindow && isBoolOptionNotSet o.disableCamera &&
    isBoolOptionNotSet o.terminalPersistent && isBoolOptionNotSet o.showMyCursor)

def keptIfAny (kept : OptionMessage) : Option OptionMessage := if optionHasAnyField kept then some kept else none

def loginOptionViolation (violation : Bool) : Option String := if violation then some "login.option" else none

def scopedTerminalLoginOption (o : OptionMessage) : Option OptionMessage × Option String :=
  match o.terminalPersistent with
  | .known value =>
      (keptIfAny { terminalPersistent := .known value }, loginOptionViolation (optionHasNonTerminalLoginField o))
  | .unknown _ => (keptIfAny {}, loginOptionViolation true)

def scopedViewCameraOption (o : OptionMessage) : Option OptionMessage × Option String :=
  let kept : OptionMessage :=
    { imageQuality := match o.imageQuality with
        | .known quality => .known quality
        | .unknown _ => .known .notSet
      customImageQuality := if 0 ≤ o.customImageQuality then o.customImageQuality else 0
      customFps := if 0 ≤ o.customFps then o.customFps else 0
      supportedDecoding := o.supportedDecoding
      disableAudio := match o.disableAudio with
        | .known value => .known value
        | .unknown _ => .known .notSet }
  (keptIfAny kept, loginOptionViolation (optionHasNonViewCameraLoginField o))

def scopedLoginOption (connType : AuthConnType) (o : OptionMessage) : Option OptionMessage × Option String :=
  match connType with
  | .remote => (some o, none)
  | .viewCamera => scopedViewCameraOption o
  | .terminal => scopedTerminalLoginOption o
  | .fileTransfer | .portForward => (none, loginOptionViolation (optionHasAnyField o))

def scopedUpdateOptionMessage (connType : Option AuthConnType) (o : OptionMessage) : Option OptionMessage :=
  match connType with
  | some .viewCamera => (scopedViewCameraOption o).1
  | some .terminal => (scopedTerminalLoginOption o).1
  | some .remote | some .fileTransfer | some .portForward | none => none

def isSupportedDecodingOnlyOption (o : OptionMessage) : Bool :=
  o.supportedDecoding.isSome && decide (o.imageQuality = .known .notSet) && decide (o.customImageQuality = 0) &&
    decide (o.customFps = 0) && isBoolOptionNotSet o.lockAfterSessionEnd && isBoolOptionNotSet o.showRemoteCursor &&
    isBoolOptionNotSet o.privacyMode && isBoolOptionNotSet o.blockInput && isBoolOptionNotSet o.disableAudio &&
    isBoolOptionNotSet o.disableClipboard && isBoolOptionNotSet o.enableFileTransfer &&
    isBoolOptionNotSet o.disableKeyboard && isBoolOptionNotSet o.followRemoteCursor &&
    isBoolOptionNotSet o.followRemoteWindow && isBoolOptionNotSet o.disableCamera &&
    isBoolOptionNotSet o.terminalPersistent && isBoolOptionNotSet o.showMyCursor

def isRenderBroadcastNoopCompatMessage : Message → Bool
  | .misc .refreshVideo | .misc .refreshVideoDisplay => true
  | .misc (.option o) => isSupportedDecodingOnlyOption o
  | _ => false

def isTextClipboardNoopCompatMessage : Message → Bool
  | .clipboard | .multiClipboards => true
  | _ => false

def isConnectionHousekeepingMessage : Message → Bool
  | .loginRequest _ | .testDelay _ | .misc (.closeReason _) => true
  | _ => false

def isFileTransferScopedMessage (target : Target) : Message → Bool
  | .fileAction | .fileResponse => true
  | .misc (.selectedSid _) => decide (target = .windows)
  | _ => false

def isPortForwardScopedMessage : Message → Bool
  | .portForwardChannel => true
  | _ => false

def isTerminalScopedMessage : Message → Bool
  | .terminalAction | .misc .chatMessage => true
  | .misc (.option o) => (scopedTerminalLoginOption o).2.isNone
  | _ => false

def isViewCameraScopedMisc (target : Target) : Misc → Bool
  | .switchDisplay | .captureDisplays | .refreshVideo | .refreshVideoDisplay | .videoReceived | .chatMessage
  | .audioFormat | .clientRecordStatus | .messageQuery | .togglePrivacyMode | .toggleVirtualDisplay
  | .changeResolution | .changeDisplayResolution => true
  | .option o => (scopedViewCameraOption o).2.isNone
  | .selectedSid _ => decide (target = .windows)
  | _ => false

def isViewCameraScopedMessage (target : Target) : Message → Bool
  | .screenshotRequest | .mouseEvent | .pointerDeviceEvent | .keyEvent | .audioFrame | .voiceCallRequest
  | .voiceCallResponse => true
  | .misc misc => isViewCameraScopedMisc target misc
  | _ => false

def miscMessageFamily : Misc → String
  | .chatMessage => "misc.chat_message"
  | .switchDisplay => "misc.switch_display"
  | .option _ => "misc.option"
  | .audioFormat => "misc.audio_format"
  | .captureDisplays => "misc.capture_displays"
  | .clientRecordStatus => "misc.client_record_status"
  | .togglePrivacyMode => "misc.toggle_privacy_mode"
  | .toggleVirtualDisplay => "misc.toggle_virtual_display"
  | .selectedSid _ => "misc.selected_sid"
  | .changeResolution => "misc.change_resolution"
  | .changeDisplayResolution => "misc.change_display_resolution"
  | .messageQuery => "misc.message_query"
  | .followCurrentDisplay => "misc.follow_current_display"
  | .switchSidesRequest _ => "misc.switch_sides_request"
  | .closeReason _ | .refreshVideo | .refreshVideoDisplay | .videoReceived | .other => "misc.other"
  | .empty => "misc.empty"

def messageFamily : Message → String
  | .mouseEvent => "mouse_event"
  | .audioFrame => "audio_frame"
  | .pointerDeviceEvent => "pointer_device_event"
  | .keyEvent => "key_event"
  | .clipboard => "clipboard"
  | .fileAction => "file_action"
  | .fileResponse => "file_response"
  | .voiceCallRequest => "voice_call_request"
  | .voiceCallResponse => "voice_call_response"
  | .multiClipboards => "multi_clipboards"
  | .screenshotRequest => "screenshot_request"
  | .screenshotResponse => "screenshot_response"
  | .terminalAction => "terminal_action"
  | .terminalResponse => "terminal_response"
  | .portForwardChannel => "port_forward_channel"
  | .misc misc => miscMessageFamily misc
  | .loginRequest _ | .auth2fa _ | .testDelay _ | .switchSidesResponse _ | .other => "message.other"
  | .empty => "empty"

def noopCompat (connType : AuthConnType) (msg : Message) : Bool :=
  match connType with
  | .fileTransfer | .terminal => isRenderBroadcastNoopCompatMessage msg || isTextClipboardNoopCompatMessage msg
  | .portForward => isRenderBroadcastNoopCompatMessage msg
  | .viewCamera => isTextClipboardNoopCompatMessage msg
  | .remote => false

def allowedMessage (target : Target) (connType : AuthConnType) (msg : Message) : Bool :=
  match connType with
  | .remote => true
  | .fileTransfer => isFileTransferScopedMessage target msg
  | .portForward => isPortForwardScopedMessage msg
  | .viewCamera => isViewCameraScopedMessage target msg
  | .terminal => isTerminalScopedMessage msg

def authorizedMessageScopeViolation (target : Target) (connType : AuthConnType) (msg : Message) : Option String :=
  if isConnectionHousekeepingMessage msg then none
  else if noopCompat connType msg then none
  else if allowedMessage target connType msg then none
  else some (messageFamily msg)

-- Only a remote session lets a switch of sides through.
theorem switch_sides_scope (target : Target) (connType : AuthConnType) (s : SwitchSidesResponse)
    (passes : authorizedMessageScopeViolation target connType (.switchSidesResponse s) = none) : connType = .remote := by
  cases connType with
  | remote => rfl
  | fileTransfer | portForward | viewCamera | terminal =>
      simp [authorizedMessageScopeViolation, isConnectionHousekeepingMessage, noopCompat, isRenderBroadcastNoopCompatMessage,
        isTextClipboardNoopCompatMessage, allowedMessage, isFileTransferScopedMessage, isPortForwardScopedMessage,
        isViewCameraScopedMessage, isTerminalScopedMessage] at passes

-- u64::to_le_bytes and u32::to_le_bytes, for any width.
def leBytes : Nat → Nat → List UInt8
  | 0, _ => []
  | width + 1, n => UInt8.ofNat n :: leBytes width (n / 256)

def Text.bytes (t : Text) : List UInt8 := t.val.toUTF8.data.toList

def pushBytes (bytes : List UInt8) : List UInt8 := leBytes 8 bytes.length ++ bytes

def flagByte (flag : Bool) : List UInt8 := [if flag then 1 else 0]

def scopeFields (union : Option LoginUnion) : List (List UInt8) :=
  match union with
  | some (.fileTransfer ft) => ["file_transfer".toUTF8.data.toList, ft.dir.bytes, flagByte ft.showHidden]
  | some .viewCamera => ["view_camera".toUTF8.data.toList]
  | some (.terminal t) => ["terminal".toUTF8.data.toList, t.serviceId.bytes]
  | some (.portForward pf) =>
      ["port_forward".toUTF8.data.toList, pf.host.bytes, leBytes 4 pf.port.toUInt32.toNat, flagByte pf.multiplex]
  | some (.unknown _) | none => ["remote".toUTF8.data.toList]

-- What login_scope_digest hands to the hash, one length-prefixed field after the other.
def loginScopeBytes (lr : LoginRequest) : List UInt8 :=
  ((lr.myId.bytes :: scopeFields lr.union).map pushBytes).flatten

theorem le_bytes_length (width n : Nat) : (leBytes width n).length = width := by
  induction width generalizing n with
  | zero => rfl
  | succ width ih => simp [leBytes, ih]

theorem le_bytes_inj (width m n : Nat) (small : m < 256 ^ width) (other : n < 256 ^ width)
    (same : leBytes width m = leBytes width n) : m = n := by
  induction width generalizing m n with
  | zero =>
      rw [Nat.pow_zero] at small other
      omega
  | succ width ih =>
      rw [Nat.pow_succ] at small other
      obtain ⟨low, high⟩ := List.cons.inj same
      have digit : m % 256 = n % 256 := by simpa using congrArg UInt8.toNat low
      have rest : m / 256 = n / 256 := ih (m / 256) (n / 256) (by omega) (by omega) high
      omega

theorem push_bytes_inj (a b x y : List UInt8) (fits : a.length < 2 ^ 64) (other : b.length < 2 ^ 64)
    (same : pushBytes a ++ x = pushBytes b ++ y) : a = b ∧ x = y := by
  simp only [pushBytes, List.append_assoc] at same
  obtain ⟨lengths, contents⟩ := List.append_inj same (by simp [le_bytes_length])
  exact List.append_inj contents (le_bytes_inj 8 a.length b.length fits other lengths)

theorem push_bytes_length (bytes : List UInt8) : (pushBytes bytes).length = 8 + bytes.length := by
  simp [pushBytes, le_bytes_length]

theorem fields_inj (xs ys : List (List UInt8)) (fit : ∀ x ∈ xs, x.length < 2 ^ 64) (other : ∀ y ∈ ys, y.length < 2 ^ 64)
    (same : (xs.map pushBytes).flatten = (ys.map pushBytes).flatten) : xs = ys := by
  induction xs generalizing ys with
  | nil =>
      cases ys with
      | nil => rfl
      | cons y ys =>
          have lengths := congrArg List.length same
          simp only [List.map_cons, List.flatten_cons, List.length_append, push_bytes_length, List.map_nil, List.flatten_nil,
            List.length_nil] at lengths
          omega
  | cons x xs ih =>
      cases ys with
      | nil =>
          have lengths := congrArg List.length same
          simp only [List.map_cons, List.flatten_cons, List.length_append, push_bytes_length, List.map_nil, List.flatten_nil,
            List.length_nil] at lengths
          omega
      | cons y ys =>
          simp only [List.map_cons, List.flatten_cons] at same
          obtain ⟨head, tail⟩ := push_bytes_inj x y _ _ (fit x List.mem_cons_self) (other y List.mem_cons_self) same
          rw [head, ih ys (fun z member => fit z (List.mem_cons_of_mem x member))
            (fun z member => other z (List.mem_cons_of_mem y member)) tail]

theorem text_bytes_inj (a b : Text) (same : a.bytes = b.bytes) : a = b := by
  apply Subtype.ext
  apply String.toByteArray_inj.mp
  exact ByteArray.ext (Array.toList_inj.mp same)

theorem text_bytes_fit (t : Text) : t.bytes.length < 2 ^ 64 := by
  have fits : t.bytes.length < 2 ^ 63 := by simpa [Text.bytes] using t.property
  omega

-- What a login asks for, apart from who asks: variants this build does not know are
-- remote control.
inductive Scope where
  | remote
  | fileTransfer (dir : Text) (showHidden : Bool)
  | viewCamera
  | terminal (serviceId : Text)
  | portForward (host : Text) (port : Int32) (multiplex : Bool)
deriving DecidableEq

def scopeOf : Option LoginUnion → Scope
  | some (.fileTransfer ft) => .fileTransfer ft.dir ft.showHidden
  | some .viewCamera => .viewCamera
  | some (.terminal t) => .terminal t.serviceId
  | some (.portForward pf) => .portForward pf.host pf.port pf.multiplex
  | some (.unknown _) | none => .remote

def Scope.kind : Scope → AuthConnType
  | .remote => .remote
  | .fileTransfer _ _ => .fileTransfer
  | .viewCamera => .viewCamera
  | .terminal _ => .terminal
  | .portForward _ _ _ => .portForward

def Scope.fields : Scope → List (List UInt8)
  | .remote => ["remote".toUTF8.data.toList]
  | .fileTransfer dir showHidden => ["file_transfer".toUTF8.data.toList, dir.bytes, flagByte showHidden]
  | .viewCamera => ["view_camera".toUTF8.data.toList]
  | .terminal serviceId => ["terminal".toUTF8.data.toList, serviceId.bytes]
  | .portForward host port multiplex =>
      ["port_forward".toUTF8.data.toList, host.bytes, leBytes 4 port.toUInt32.toNat, flagByte multiplex]

theorem scope_fields_eq (union : Option LoginUnion) : scopeFields union = (scopeOf union).fields := by
  cases union with
  | none => rfl
  | some union => cases union <;> rfl

theorem flag_byte_inj (a b : Bool) (same : flagByte a = flagByte b) : a = b := by
  cases a <;> cases b <;> first | rfl | exact absurd same (by decide)

theorem port_bytes_inj (a b : Int32) (same : leBytes 4 a.toUInt32.toNat = leBytes 4 b.toUInt32.toNat) : a = b := by
  have values := le_bytes_inj 4 _ _ a.toUInt32.toNat_lt b.toUInt32.toNat_lt same
  rw [← a.toInt32_toUInt32, UInt32.toNat_inj.mp values, b.toInt32_toUInt32]

theorem scope_tag (s t : Scope) (same : s.fields = t.fields) : s.kind = t.kind := by
  have heads := congrArg List.head? same
  cases s <;> cases t <;> first
    | rfl
    | exact absurd (Option.some.inj heads) (by decide)

theorem scope_fields_inj (s t : Scope) (same : s.fields = t.fields) : s = t := by
  have kinds := scope_tag s t same
  cases s <;> cases t <;> simp only [Scope.kind, reduceCtorEq] at kinds
  case remote.remote => rfl
  case viewCamera.viewCamera => rfl
  case fileTransfer.fileTransfer dir showHidden dir' showHidden' =>
      simp only [Scope.fields, List.cons.injEq, true_and, and_true] at same
      rw [text_bytes_inj _ _ same.1, flag_byte_inj _ _ same.2]
  case terminal.terminal id id' =>
      simp only [Scope.fields, List.cons.injEq, true_and, and_true] at same
      rw [text_bytes_inj _ _ same]
  case portForward.portForward host port multiplex host' port' multiplex' =>
      simp only [Scope.fields, List.cons.injEq, true_and, and_true] at same
      rw [text_bytes_inj _ _ same.1, port_bytes_inj _ _ same.2.1, flag_byte_inj _ _ same.2.2]

theorem scope_fields_fit (s : Scope) : ∀ field ∈ s.fields, field.length < 2 ^ 64 := by
  have flag : ∀ b, (flagByte b).length < 2 ^ 64 := fun b => by simp [flagByte]
  have port : ∀ n, (leBytes 4 n).length < 2 ^ 64 := fun n => by simp [le_bytes_length]
  cases s with
  | remote => decide
  | viewCamera => decide
  | fileTransfer dir showHidden =>
      simp only [Scope.fields, List.forall_mem_cons]
      exact ⟨by decide, text_bytes_fit dir, flag showHidden, by simp⟩
  | terminal serviceId =>
      simp only [Scope.fields, List.forall_mem_cons]
      exact ⟨by decide, text_bytes_fit serviceId, by simp⟩
  | portForward host port' multiplex =>
      simp only [Scope.fields, List.forall_mem_cons]
      exact ⟨by decide, text_bytes_fit host, port _, flag multiplex, by simp⟩

-- The bytes under the digest name the controller and the scope, nothing less.
theorem login_scope_bytes_inj (a b : LoginRequest) (same : loginScopeBytes a = loginScopeBytes b) :
    a.myId = b.myId ∧ scopeOf a.union = scopeOf b.union := by
  have fit : ∀ lr : LoginRequest, ∀ field ∈ lr.myId.bytes :: scopeFields lr.union, field.length < 2 ^ 64 := by
    intro lr
    rw [scope_fields_eq, List.forall_mem_cons]
    exact ⟨text_bytes_fit lr.myId, scope_fields_fit _⟩
  have fields := fields_inj _ _ (fit a) (fit b) same
  rw [List.cons.injEq, scope_fields_eq, scope_fields_eq] at fields
  exact ⟨text_bytes_inj _ _ fields.1, scope_fields_inj _ _ fields.2⟩

theorem login_scope_digest_binds (a b : LoginRequest) :
    loginScopeBytes a = loginScopeBytes b ↔ a.myId = b.myId ∧ scopeOf a.union = scopeOf b.union := by
  constructor
  · exact login_scope_bytes_inj a b
  · rintro ⟨controller, scope⟩
    rw [loginScopeBytes, loginScopeBytes, controller, scope_fields_eq, scope_fields_eq, scope]

end GotechDesk.Connection
