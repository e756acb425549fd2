import GotechDesk.Machine

set_option autoImplicit false

namespace GotechDesk.VideoService.FrameController

inductive VideoSource where
  | monitor
  | camera
deriving DecidableEq

structure Service where
  source : VideoSource
  idx : Nat
deriving DecidableEq

-- One message of a notifier channel: the connection, and the instant of the fetch, which a
-- closing connection does not give. `service` is whose frame it is about; the message itself
-- does not say.
structure Report (κ : Type) where
  conn : κ
  instant : Option Nat
  service : Service
deriving DecidableEq

-- What the video loop of a service is doing. A frame goes into the queues of its connections
-- before `set_send` notes them; a turn without a frame sends to nobody. A wait also has the
-- connections counted as done.
inductive Phase (κ : Type) where
  | stopped
  | capturing
  | sending (cur : Nat) (connIds : Finset κ)
  | waiting (cur : Nat) (sendConnIds fetchedConnIds : Finset κ)

-- The frame that is out: its time, its connections, and those counted as done.
def Phase.awaited {κ : Type} : Phase κ → Option (Nat × Finset κ × Finset κ)
  | .sending cur connIds => some (cur, connIds, ∅)
  | .waiting cur connIds fetched => some (cur, connIds, fetched)
  | _ => none

structure Outcome (κ : Type) where
  service : Service
  cur : Nat
  sendConnIds : Finset κ
  early : Bool
deriving DecidableEq

-- `notifiers` and `displayConnIds` are the two global maps, by display index alone; an entry
-- of the second also has the service that wrote it, which the code does not keep. `clock` and
-- the fields after the two maps are the history.
structure State (κ : Type) where
  clock : Nat
  phase : Service → Phase κ
  notifiers : Nat → Option (List (Report κ))
  displayConnIds : Nat → Option (Service × Finset κ)
  reports : List (Report κ)
  videoReceived : List (κ × Nat)
  closed : List κ
  consumed : List (Service × Report κ)
  ended : List (Outcome κ)

-- `fetched` is a frame taken off a connection's queue, `received` the VideoReceived of a web
-- client, which names no display and stands for every frame its sender has been sent.
inductive Label (κ : Type) where
  | new (service : Service)
  | run (service : Service)
  | send (service : Service) (connIds : Finset κ)
  | setSend (service : Service)
  | poll (service : Service)
  | expire (service : Service)
  | fail (service : Service)
  | fetched (service : Service) (conn : κ)
  | received (conn : κ)
  | close (conn : κ)

section
variable {κ : Type}

def start : State κ :=
  { clock := 0, phase := fun _ => .stopped, notifiers := fun _ => none, displayConnIds := fun _ => none, reports := [], videoReceived := [], closed := [], consumed := [],
    ended := [] }

def setPhase (state : State κ) (service : Service) (phase : Phase κ) : State κ :=
  { state with phase := Function.update state.phase service phase }

def new (state : State κ) (service : Service) : State κ :=
  { state with notifiers := Function.update state.notifiers service.idx (some ((state.notifiers service.idx).getD [])) }

-- A frame that went to nobody leaves the controller as `reset` left it.
def setSend [DecidableEq κ] (state : State κ) (service : Service) (cur : Nat) (connIds : Finset κ) : State κ :=
  if connIds = ∅ then setPhase state service (.waiting cur ∅ ∅)
  else { setPhase state service (.waiting cur connIds ∅) with
    displayConnIds := Function.update state.displayConnIds service.idx (some (service, connIds)) }

def finish (state : State κ) (service : Service) (cur : Nat) (sendConnIds : Finset κ) (early : Bool) : State κ :=
  { setPhase state service .capturing with
    displayConnIds := Function.update state.displayConnIds service.idx none
    ended := state.ended ++ [{ service := service, cur := cur, sendConnIds := sendConnIds, early := early }] }

-- `run` returns, and the drop of its guard forgets the connections of the index.
def stop (state : State κ) (service : Service) : State κ :=
  { setPhase state service .stopped with displayConnIds := Function.update state.displayConnIds service.idx none }

-- What one `try_wait_next` takes off the channel.
def tryWaitNext (state : State κ) (service : Service) : List (Report κ) := (state.notifiers service.idx).getD []

-- A turn of the wait loop that starts within its 3 s. Without connections it looks at nothing.
def poll [DecidableEq κ] (state : State κ) (service : Service) (cur : Nat) (sendConnIds fetchedConnIds : Finset κ) : State κ :=
  if sendConnIds = ∅ then finish state service cur sendConnIds true
  else
    let taken := tryWaitNext state service
    let fetchedConnIds := fetchedConnIds ∪ (taken.map Report.conn).toFinset
    let drained := { state with
      notifiers := Function.update state.notifiers service.idx ((state.notifiers service.idx).map (fun _ => []))
      consumed := state.consumed ++ taken.map (fun report => (service, report)) }
    if sendConnIds.card ≤ fetchedConnIds.card then finish drained service cur sendConnIds true
    else setPhase drained service (.waiting cur sendConnIds fetchedConnIds)

def put (state : State κ) (report : Report κ) : State κ :=
  { state with
    notifiers := Function.update state.notifiers report.service.idx ((state.notifiers report.service.idx).map (fun queue => queue ++ [report]))
    reports := state.reports ++ [report] }

-- `notify_video_frame_fetched_by_conn_id`, at one index.
def notifyAt [DecidableEq κ] (conn : κ) (instant : Option Nat) (queues : Nat → Option (List (Report κ)))
    (displayConnIds : Nat → Option (Service × Finset κ)) (idx : Nat) : Option (List (Report κ)) :=
  match displayConnIds idx with
  | some (service, connIds) =>
      if conn ∈ connIds then (queues idx).map (fun queue => queue ++ [{ conn := conn, instant := instant, service := service }]) else queues idx
  | none => queues idx

def tick (state : State κ) : State κ := { state with clock := state.clock + 1 }

def act [DecidableEq κ] (state : State κ) (label : Label κ) : Option (State κ) :=
  match label with
  | .new service => some (new state service)
  | .run service =>
      match state.phase service with
      | .stopped => some (setPhase state service .capturing)
      | _ => none
  | .send service connIds =>
      match state.phase service with
      | .capturing => some (setPhase state service (.sending state.clock connIds))
      | _ => none
  | .setSend service =>
      match state.phase service with
      | .sending cur connIds => some (setSend state service cur connIds)
      | _ => none
  | .poll service =>
      match state.phase service with
      | .waiting cur sendConnIds fetchedConnIds => some (poll state service cur sendConnIds fetchedConnIds)
      | _ => none
  | .expire service =>
      match state.phase service with
      | .waiting cur sendConnIds _ => some (finish state service cur sendConnIds false)
      | _ => none
  | .fail service =>
      match state.phase service with
      | .stopped => none
      | _ => some (stop state service)
  | .fetched service conn => some (put state { conn := conn, instant := some state.clock, service := service })
  | .received conn =>
      some { state with
        notifiers := notifyAt conn (some state.clock) state.notifiers state.displayConnIds
        videoReceived := state.videoReceived ++ [(conn, state.clock)] }
  | .close conn =>
      some { state with
        notifiers := notifyAt conn none state.notifiers state.displayConnIds
        closed := state.closed ++ [conn] }

def step [DecidableEq κ] (state : State κ) (label : Label κ) : Option (State κ) := (act state label).map tick

end

end GotechDesk.VideoService.FrameController
