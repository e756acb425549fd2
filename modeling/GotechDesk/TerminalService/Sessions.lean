import GotechDesk.Table
import GotechDesk.TerminalService.OutputBuffer

set_option autoImplicit false

namespace GotechDesk.TerminalService

def channelBufferSize : Nat := 500
def defaultReconnectBufferBytes : Nat := 8 * 1024
def maxSigwinchPhaseAttempts : Nat := 3

inductive SigwinchPhase where
  | idle
  | tempResize (retries : Nat)
  | restore (retries : Nat)
deriving DecidableEq

inductive SessionState where
  | closed
  | active (pendingBuffer : Option (List UInt8)) (sigwinch : SigwinchPhase)
deriving DecidableEq

-- `arc` tells which shared session this is; output_rx is what its channel holds.
structure TerminalSession where
  arc : Nat
  pid : Nat
  child : Bool
  outputRx : List (List UInt8)
  outputBuffer : OutputBuffer
  state : SessionState
deriving DecidableEq

-- `created` counts the sessions there ever were.
structure PersistentTerminalService where
  serviceId : String
  sessions : List (Int × TerminalSession)
  isPersistent : Bool
  needsSessionSync : Bool
  created : Nat
deriving DecidableEq

def PersistentTerminalService.new (serviceId : String) (isPersistent : Bool) : PersistentTerminalService := ⟨serviceId, [], isPersistent, false, 0⟩

def ids (sessions : List (Int × TerminalSession)) : List Int := sessions.map Prod.fst

def arcs (sessions : List (Int × TerminalSession)) : List Nat := sessions.map (fun entry => entry.2.arc)

structure TerminalOpened where
  terminalId : Int
  success : Bool
  message : String
  pid : Nat
  serviceId : String
  replayTerminalOutput : Bool
  persistentSessions : List Int
deriving DecidableEq

def resetStatus (service : PersistentTerminalService) (isPersistent : Bool) : PersistentTerminalService :=
  { service with
    isPersistent := isPersistent
    needsSessionSync := true
    sessions := Table.mapValues service.sessions (fun _ session => { session with state := .closed }) }

-- The lowest surviving session takes over the requested id.
def Remaps (service : PersistentTerminalService) (terminalId : Int) : Prop :=
  Table.get service.sessions terminalId = none ∧ service.needsSessionSync = true ∧ service.sessions ≠ []

instance (service : PersistentTerminalService) (terminalId : Int) : Decidable (Remaps service terminalId) :=
  inferInstanceAs (Decidable (Table.get service.sessions terminalId = none ∧ service.needsSessionSync = true ∧ service.sessions ≠ []))

def moveSession (sessions : List (Int × TerminalSession)) (lowestId terminalId : Int) : List (Int × TerminalSession) :=
  match Table.get sessions lowestId with
  | some session => Table.insert (Table.remove sessions lowestId) terminalId session
  | none => sessions

def remapped (service : PersistentTerminalService) (terminalId : Int) : List (Int × TerminalSession) :=
  if Remaps service terminalId then
    match (ids service.sessions).min? with
    | some lowestId => moveSession service.sessions lowestId terminalId
    | none => service.sessions
  else service.sessions

-- The backlog is drained, at most a channel's worth, before the replay is taken.
def reconnected (session : TerminalSession) : TerminalSession :=
  let outputBuffer := (session.outputRx.take channelBufferSize).foldl (fun buffer data => (append buffer data).1) session.outputBuffer
  let buffer := getRecent outputBuffer defaultReconnectBufferBytes
  { session with
    outputRx := session.outputRx.drop channelBufferSize
    outputBuffer := outputBuffer
    state := .active (if buffer.isEmpty then none else some buffer) (.tempResize maxSigwinchPhaseAttempts) }

def TerminalSession.pending (session : TerminalSession) : Bool :=
  match session.state with
  | .active pendingBuffer _ => pendingBuffer.isSome
  | .closed => false

def reopened (service : PersistentTerminalService) (sessions : List (Int × TerminalSession)) (terminalId : Int) (session : TerminalSession) : TerminalOpened :=
  { terminalId := terminalId
    success := true
    message := if session.pending then "Reconnected to existing terminal with pending output" else "Reconnected to existing terminal"
    pid := session.pid
    serviceId := service.serviceId
    replayTerminalOutput := session.pending
    persistentSessions := if service.needsSessionSync ∧ 1 < sessions.length then (ids sessions).filter (fun id => id ≠ terminalId) else [] }

def openedNew (service : PersistentTerminalService) (terminalId : Int) (pid : Nat) : TerminalOpened :=
  { terminalId := terminalId
    success := true
    message := "Terminal opened"
    pid := pid
    serviceId := service.serviceId
    replayTerminalOutput := false
    persistentSessions := if service.needsSessionSync ∧ service.sessions ≠ [] then ids service.sessions else [] }

-- What the platform gives for a new terminal; a helper's process is not the session's child.
structure Launched where
  pid : Nat
  child : Bool

-- `creation` is the step of it that failed, or the process.
def handleOpen (service : PersistentTerminalService) (terminalId : Int) (creation : Except String Launched) :
    PersistentTerminalService × Except String TerminalOpened :=
  let sessions := remapped service terminalId
  match Table.get sessions terminalId with
  | some session =>
      ({ service with sessions := Table.modify sessions terminalId reconnected, needsSessionSync := false },
        .ok (reopened service sessions terminalId (reconnected session)))
  | none =>
      match creation with
      | .error failed => ({ service with sessions := sessions }, .error failed)
      | .ok launched =>
          let session : TerminalSession := ⟨service.created, launched.pid, launched.child, [], .new, .active none .idle⟩
          ({ service with sessions := Table.insert sessions terminalId session, needsSessionSync := false, created := service.created + 1 },
            .ok (openedNew service terminalId launched.pid))

-- The session goes first, so a failed kill loses it all the same.
def handleClose (service : PersistentTerminalService) (terminalId : Int) (killed : Bool) : PersistentTerminalService × Except Unit (Option (Int × Int)) :=
  match Table.get service.sessions terminalId with
  | some session =>
      ({ service with sessions := Table.remove service.sessions terminalId },
        if session.child then (if killed then .ok (some (terminalId, -1)) else .error ()) else .ok (some (terminalId, 0)))
  | none => (service, .ok none)

-- A chunk of a session's shell; a full channel drops it.
def shellOutput (service : PersistentTerminalService) (terminalId : Int) (data : List UInt8) : PersistentTerminalService :=
  { service with sessions := Table.modify service.sessions terminalId (fun session =>
      if session.outputRx.length < channelBufferSize then { session with outputRx := session.outputRx ++ [data] } else session) }

inductive TerminalCall where
  | resetStatus (isPersistent : Bool)
  | openTerminal (terminalId : Int) (creation : Except String Launched)
  | closeTerminal (terminalId : Int) (killed : Bool)
  | shellOutput (terminalId : Int) (data : List UInt8)

def serve (service : PersistentTerminalService) : TerminalCall → PersistentTerminalService
  | .resetStatus isPersistent => resetStatus service isPersistent
  | .openTerminal terminalId creation => (handleOpen service terminalId creation).1
  | .closeTerminal terminalId killed => (handleClose service terminalId killed).1
  | .shellOutput terminalId data => shellOutput service terminalId data

def serveAll (service : PersistentTerminalService) (calls : List TerminalCall) : PersistentTerminalService := calls.foldl serve service

end GotechDesk.TerminalService
