import GotechDesk.Machine
import GotechDesk.Table

set_option autoImplicit false

namespace GotechDesk.AudioPlayback

-- Times are milliseconds of one clock.
def recoveryInterval : Nat := 1000
def startupConfirmationTimeout : Nat := 5000
def priorityWarningPrefix : String := "SetThreadPriority failed: "

inductive StreamError where
  | deviceNotAvailable
  | backendSpecific (description : String)
deriving DecidableEq, Repr

def StreamError.terminal : StreamError → Bool
  | .deviceNotAvailable => true
  | .backendSpecific description => !priorityWarningPrefix.isPrefixOf description

structure AudioFormat where
  sampleRate : Nat
  channels : Nat
deriving DecidableEq, Repr

structure AudioDecoder where
  sampleRate : Nat
  stereo : Bool
deriving DecidableEq, Repr

def AudioFormat.decoder (f : AudioFormat) : AudioDecoder := ⟨f.sampleRate, decide (1 < f.channels)⟩

def AudioFormat.supportedChannels (f : AudioFormat) : Bool := decide (1 ≤ f.channels) && decide (f.channels ≤ 2)

-- An audio handler without the output pending in it. `stream` is the open output, `status` and
-- `errors` the flag and the queue the handler shares with a stream's callbacks, each under the
-- number of the stream whose callbacks hold it; `none` is one that no callback holds.
structure Output where
  audioDecoder : Option AudioDecoder := none
  sampleRate : Nat × Nat := (0, 0)
  stream : Option Nat := none
  channels : Nat := 0
  status : Option Nat := none
  errors : Option Nat := none
  format : Option AudioFormat := none
  retryAt : Option Nat := none
  restartNotBefore : Option Nat := none
  awaitingCallback : Bool := false
  startupDeadline : Option Nat := none
deriving DecidableEq, Repr

-- The handler, the output pending in it (which has none pending itself) and what the callbacks
-- share. `accepted` is the last accepted format, `lastAttempt` when the last start ended,
-- `keptAt` the same time when that start failed and the output in place was kept, and
-- `restarts` lists the recovery restarts, each with the start attempt before it.
structure Handler where
  active : Output := {}
  pending : Option Output := none
  queues : List (Nat × List StreamError) := []
  ready : List Nat := []
  opened : Nat := 0
  accepted : Option AudioFormat := none
  lastAttempt : Option Nat := none
  keptAt : Option Nat := none
  restarts : List (Option Nat × Nat) := []
deriving DecidableEq, Repr

-- What opening an output led to: nothing, or a stream at this rate that may have reported
-- errors and begun its callbacks by the time the call returns.
structure Opened where
  outputRate : Nat
  errors : List StreamError := []
  ready : Bool := false
deriving DecidableEq, Repr

def Handler.unread (s : Handler) (errors : Option Nat) : List StreamError := errors.elim [] (fun id => (Table.get s.queues id).getD [])

def Handler.drain (s : Handler) (errors : Option Nat) : Handler :=
  { s with queues := errors.elim s.queues (fun id => Table.insert s.queues id []) }

def Handler.push (s : Handler) (errors : Option Nat) (reported : List StreamError) : Handler :=
  { s with queues := errors.elim s.queues (fun id => Table.insert s.queues id (s.unread errors ++ reported)) }

-- What `report_pending` returns; it also drains the queue.
def Handler.reports (s : Handler) (errors : Option Nat) : Bool := (s.unread errors).any StreamError.terminal

def Handler.isReady (s : Handler) (status : Option Nat) : Bool := status.any (fun id => decide (id ∈ s.ready))

def Handler.timedOut (s : Handler) (out : Output) (now : Nat) : Bool :=
  out.awaitingCallback && !s.isReady out.status && out.startupDeadline.any (fun due => decide (due ≤ now))

def Handler.fails (s : Handler) (out : Output) (now : Nat) : Bool := s.reports out.errors || s.timedOut out now

-- `playback_start_timed_out` is asked when no error was found, and stops the wait when it says yes.
def Handler.judged (s : Handler) (out : Output) (now : Nat) : Output :=
  if !s.reports out.errors && s.timedOut out now then { out with awaitingCallback := false, startupDeadline := none } else out

def Handler.clearPlaybackStream (s : Handler) : Handler :=
  { s.drain s.active.errors with
    active := { format := s.active.format, retryAt := s.active.retryAt, restartNotBefore := s.active.restartNotBefore }
    pending := none }

def Handler.startAudio (s : Handler) (f : AudioFormat) (stream : Opened) : Handler :=
  { s with
    active := { s.active with sampleRate := (f.sampleRate, stream.outputRate), stream := some s.opened, status := some s.opened, errors := some s.opened }
    queues := Table.insert s.queues s.opened stream.errors
    ready := if stream.ready then s.opened :: s.ready else s.ready
    opened := s.opened + 1 }

def Handler.finishPlaybackStart (s : Handler) (started : Bool) (now : Nat) : Handler :=
  let s := { s with active := { s.active with restartNotBefore := some (now + recoveryInterval) }, lastAttempt := some now, keptAt := none }
  if started then
    { s with active := { s.active with retryAt := none, awaitingCallback := true, startupDeadline := some (now + startupConfirmationTimeout) } }
  else
    let s := s.clearPlaybackStream
    { s with active := { s.active with retryAt := some (now + recoveryInterval) } }

def Handler.resolvePendingPlayback (s : Handler) (now : Nat) : Handler × Option Bool :=
  match s.pending with
  | none => (s, none)
  | some candidate =>
      let read := s.drain candidate.errors
      let done := { read.drain s.active.errors with active := read.judged s.active now, pending := none }
      if s.fails candidate now then
        ({ done with active := { done.active with restartNotBefore := candidate.restartNotBefore } }, some (read.fails s.active now))
      else if s.isReady candidate.status || read.fails s.active now then
        ({ done with active := { candidate with audioDecoder := done.active.audioDecoder } }, some false)
      else ({ done with pending := some candidate }, some false)

def Handler.cancelPendingPlayback (s : Handler) (now : Nat) : Handler × Bool :=
  let resolved := s.resolvePendingPlayback now
  ({ resolved.1.drain (resolved.1.pending.bind (fun candidate => candidate.errors)) with pending := none }, resolved.2.getD false)

section
variable (decodes : AudioFormat → Bool)

def Handler.restartPlayback (s : Handler) (f : AudioFormat) (stream : Option Nat) : Handler × Bool :=
  if decodes f then
    match stream with
    | none => (s, false)
    | some outputRate =>
        let s := s.startAudio f { outputRate }
        ({ s with active := { s.active with channels := f.channels, audioDecoder := some f.decoder } }, true)
  else (s, false)

-- What the recovery finds wrong with the output in place.
def Handler.inspect (s : Handler) (now : Nat) : Handler × Bool :=
  let resolved := s.resolvePendingPlayback now
  match resolved.2 with
  | some failed => (resolved.1, failed)
  | none => ({ s.drain s.active.errors with active := s.judged s.active now }, s.fails s.active now)

def Handler.retire (s : Handler) (now : Nat) : Handler :=
  let cleared := s.clearPlaybackStream
  { cleared with active := { cleared.active with retryAt := some (cleared.active.restartNotBefore.elim now (fun due => max due now)) } }

def Handler.confirm (s : Handler) : Handler :=
  if s.active.awaitingCallback && s.isReady s.active.status then
    { s with active := { s.active with awaitingCallback := false, startupDeadline := none } }
  else s

def Handler.retry (s : Handler) (now : Nat) (stream : Option Nat) (finished : Nat) : Handler :=
  if s.active.retryAt.any (fun due => decide (due ≤ now)) then
    match s.active.format with
    | none => s
    | some f =>
        let restarted := { s with restarts := s.restarts ++ [(s.lastAttempt, now)] }.restartPlayback decodes f stream
        restarted.1.finishPlaybackStart restarted.2 finished
  else s

-- `stream` is what a restart opens, if there is one, and `finished` when it is over.
def Handler.recoverPlayback (s : Handler) (now : Nat) (stream : Option Nat) (finished : Nat) : Handler :=
  let inspected := s.inspect now
  let judged := if inspected.2 then inspected.1.retire now else inspected.1
  judged.confirm.retry decodes now stream finished

-- The times a format is handled at, and what happens meanwhile: `reported` comes from the output
-- in place while the new one is opened.
structure Handling where
  cancelled : Nat
  reported : List StreamError := []
  finished : Nat
  recovered : Nat
  restarted : Option Nat := none
  done : Nat
deriving DecidableEq, Repr

def Handler.finishPlaybackReplacement (s : Handler) (started : Bool) (previous : Option Output) (handling : Handling) : Handler :=
  let s := s.finishPlaybackStart started handling.finished
  match previous with
  | none => s
  | some previous =>
      { s with active := { previous with audioDecoder := s.active.audioDecoder }, pending := some { s.active with audioDecoder := none } }.recoverPlayback
        decodes handling.recovered handling.restarted handling.done

-- What `prepare_playback` and the decoder leave in the emptied handler.
def AudioFormat.prepared (f : AudioFormat) : Output := { format := some f, audioDecoder := some f.decoder, channels := f.channels }

def Output.plays (out : Output) (f : AudioFormat) : Bool :=
  out.stream.isSome && decide (out.sampleRate.1 = f.sampleRate) && decide (out.channels = f.channels)

def Handler.handleFormat (s : Handler) (f : AudioFormat) (stream : Option Opened) (handling : Handling) : Handler :=
  if f.supportedChannels && decodes f then
    let cancelled := s.cancelPendingPlayback handling.cancelled
    let s := { cancelled.1 with accepted := some f }
    let previous := s.active
    let opening := { s.push previous.errors handling.reported with active := f.prepared }
    let opened := stream.elim opening (fun stream => opening.startAudio f stream)
    let keeps := previous.plays f && !cancelled.2
    let read := if keeps then opened.drain previous.errors else opened
    if keeps && !opened.reports previous.errors then
      if stream.isSome then read.finishPlaybackReplacement decodes true (some previous) handling
      else
        { read with active := { previous with audioDecoder := read.active.audioDecoder }
                    lastAttempt := some handling.finished, keptAt := some handling.finished }
    else read.finishPlaybackReplacement decodes stream.isSome none handling
  else s

inductive Label where
  | format (f : AudioFormat) (stream : Option Opened) (handling : Handling)
  | frame
  | error (stream : Nat) (error : StreamError)
  | callback (stream : Nat)
  | recover (now : Nat) (stream : Option Nat) (finished : Nat)
deriving DecidableEq, Repr

-- A frame is decoded and played, and touches none of this.
def Handler.step (s : Handler) : Label → Option Handler
  | .format f stream handling => some (s.handleFormat decodes f stream handling)
  | .frame => some s
  | .error stream error => if stream < s.opened then some (s.push (some stream) [error]) else none
  | .callback stream => if stream < s.opened then some { s with ready := stream :: s.ready } else none
  | .recover now stream finished => some (s.recoverPlayback decodes now stream finished)

end

end GotechDesk.AudioPlayback
