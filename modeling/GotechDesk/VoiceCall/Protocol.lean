import GotechDesk.Machine

set_option autoImplicit false

namespace GotechDesk.VoiceCall

inductive Message where
  | voiceCallRequest (isConnect : Bool) (reqTimestamp : Int)
  | voiceCallResponse (accepted : Bool) (reqTimestamp : Int)
deriving DecidableEq, Repr

-- The controller. `capturesVoice` is false for the sessions start_voice_call gives no recorder.
structure Remote where
  capturesVoice : Bool
  voiceCallRequestTimestamp : Option Int := none
  stopVoiceCallSender : Bool := false
deriving DecidableEq, Repr

-- The host's side of the connection, with its subscription to the audio service.
structure Connection where
  viewCamera : Bool
  audioEnabled : Bool
  audioSubscribed : Bool
  voiceCallRequestTimestamp : Option Int := none
  voiceCalling : Bool := false
deriving DecidableEq, Repr

structure System where
  remote : Remote
  connection : Connection
  toConnection : List Message := []
  toRemote : List Message := []
deriving DecidableEq, Repr

def System.start (capturesVoice viewCamera audioEnabled : Bool) : System where
  remote := { capturesVoice := capturesVoice }
  connection := { viewCamera := viewCamera, audioEnabled := audioEnabled, audioSubscribed := !viewCamera && audioEnabled }

-- The timestamp that is kept of a request. The fallback is read first, and the clock must not stand at zero.
def keptTimestamp (reqTimestamp fallback : Int) : Option Int :=
  if fallback = 0 then none else some (if reqTimestamp = 0 then fallback else reqTimestamp)

inductive Event where
  | newVoiceCall (now fallback : Int)
  | closeVoiceCall (now : Int)
  | connectionReceives (fallback : Int)
  | remoteReceives
  | answer (accepted : Bool)
  | hangUp (now : Int)
  | audio (enabled : Bool)
deriving DecidableEq, Repr

def Remote.stopVoiceCall (r : Remote) : Remote := { r with stopVoiceCallSender := false }

def Remote.startVoiceCall (r : Remote) : Bool := r.capturesVoice

def System.newVoiceCall (s : System) (now fallback : Int) : Option System :=
  (keptTimestamp now fallback).map fun timestamp =>
    { s with remote := { s.remote with voiceCallRequestTimestamp := some timestamp },
             toConnection := s.toConnection ++ [.voiceCallRequest true now] }

def System.closeVoiceCall (s : System) (now : Int) : System :=
  { s with remote := s.remote.stopVoiceCall, toConnection := s.toConnection ++ [.voiceCallRequest false now] }

def Connection.closeVoiceCall (c : Connection) : Connection :=
  { c with voiceCalling := false, audioSubscribed := if c.viewCamera then false else c.audioSubscribed }

def Connection.onMessage (c : Connection) (fallback : Int) : Message → Option Connection
  | .voiceCallRequest true reqTimestamp =>
      (keptTimestamp reqTimestamp fallback).map fun timestamp => { c with voiceCallRequestTimestamp := some timestamp }
  | .voiceCallRequest false _ => some c.closeVoiceCall
  | .voiceCallResponse _ _ => some c

def Remote.handleMsgFromPeer (r : Remote) : Message → Remote
  | .voiceCallRequest true _ => r
  | .voiceCallRequest false _ => if r.stopVoiceCallSender then { r with stopVoiceCallSender := false } else r
  | .voiceCallResponse accepted reqTimestamp =>
      let taken := { r with voiceCallRequestTimestamp := none }
      if r.voiceCallRequestTimestamp = some reqTimestamp then
        if accepted then { taken with stopVoiceCallSender := taken.startVoiceCall } else taken
      else taken

def System.handleVoiceCall (s : System) (accepted : Bool) : System :=
  s.connection.voiceCallRequestTimestamp.elim s fun timestamp =>
    { s with connection := { s.connection with voiceCallRequestTimestamp := none, voiceCalling := accepted,
                                               audioSubscribed := if s.connection.viewCamera then s.connection.audioEnabled && accepted
                                                 else s.connection.audioSubscribed },
             toRemote := s.toRemote ++ [.voiceCallResponse accepted timestamp] }

-- A change of the audio permission or of the disable_audio option.
def Connection.switchAudio (c : Connection) (enabled : Bool) : Connection :=
  if c.viewCamera then
    if c.voiceCalling || !enabled then { c with audioEnabled := enabled, audioSubscribed := enabled } else { c with audioEnabled := enabled }
  else { c with audioEnabled := enabled, audioSubscribed := enabled }

-- One step of either party, or of a channel. None where the clock stands at zero or the channel is empty.
def System.step (s : System) : Event → Option System
  | .newVoiceCall now fallback => s.newVoiceCall now fallback
  | .closeVoiceCall now => some (s.closeVoiceCall now)
  | .connectionReceives fallback =>
      match s.toConnection with
      | [] => none
      | message :: rest => (s.connection.onMessage fallback message).map fun connection => { s with connection := connection, toConnection := rest }
  | .remoteReceives =>
      match s.toRemote with
      | [] => none
      | message :: rest => some { s with remote := s.remote.handleMsgFromPeer message, toRemote := rest }
  | .answer accepted => some (s.handleVoiceCall accepted)
  | .hangUp now => some { s with connection := s.connection.closeVoiceCall, toRemote := s.toRemote ++ [.voiceCallRequest false now] }
  | .audio enabled => some { s with connection := s.connection.switchAudio enabled }

end GotechDesk.VoiceCall
