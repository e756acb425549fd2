import GotechDesk.Connection.Subscriptions

set_option autoImplicit false

namespace GotechDesk.Connection

def Conn.RemoteAuthed (c : Conn) : Prop := c.authorized = true ∧ c.authedConnType = some .remote

def Conn.CameraAuthed (c : Conn) : Prop := c.authorized = true ∧ c.authedConnType = some .viewCamera

-- Who may have the data of a service.
def Entitled (c : Conn) (voiceCalling : Bool) : Service → Prop
  | .clipboard | .fileClipboard | .cursor | .position | .windowFocus | .monitor _ => c.RemoteAuthed
  | .audio => c.RemoteAuthed ∨ (c.CameraAuthed ∧ voiceCalling = true)
  | .camera _ => c.CameraAuthed
  | .display | .printer => True

def Safe (s : ServedConn) : Prop :=
  ∀ service, s.server.subscribed service = true → Entitled s.conn s.voiceCalling service

-- What every handler keeps: the connection's own login fields, and the frame of the
-- flags and services its later steps rely on.
structure Grows (s next : ServedConn) : Prop where
  conn : next.conn = s.conn
  follows : next.perms.followRemoteWindow = true → s.perms.followRemoteWindow = true ∨ s.conn.RemoteAuthed
  subed : next.servicesSubed = true → s.servicesSubed = true ∨ s.conn.RemoteAuthed
  called : next.voiceCallRequested = true → s.voiceCallRequested = true ∨ s.conn.authorized = true
  kept : ∀ service, service ∈ s.server.registered → service ∈ next.server.registered
  added : ∀ service, service ∈ next.server.registered → service ∈ s.server.registered ∨ service.isVideo = true
  known : ∀ service, next.server.subscribed service = true → s.server.subscribed service = true ∨ service ∈ next.server.registered

-- A handler that opens only what the connection may have.
structure Widens (s next : ServedConn) : Prop extends Grows s next where
  voice : next.voiceCalling = s.voiceCalling
  opens : ∀ service, next.server.subscribed service = true →
    s.server.subscribed service = true ∨ Entitled s.conn s.voiceCalling service

section
variable (s next last : ServedConn)

theorem grows_refl : Grows s s := ⟨rfl, .inl, .inl, .inl, fun _ => id, fun _ => .inl, fun _ => .inl⟩

theorem widens_refl : Widens s s := ⟨grows_refl s, rfl, fun _ => .inl⟩

theorem grows_trans (first : Grows s next) (second : Grows next last) : Grows s last := by
  have same : next.conn.RemoteAuthed → s.conn.RemoteAuthed := fun authed => first.conn ▸ authed
  refine ⟨second.conn.trans first.conn, ?_, ?_, ?_, ?_, ?_, ?_⟩
  · intro follows
    rcases second.follows follows with earlier | authed
    · exact first.follows earlier
    · exact .inr (same authed)
  · intro subed
    rcases second.subed subed with earlier | authed
    · exact first.subed earlier
    · exact .inr (same authed)
  · intro called
    rcases second.called called with earlier | authorized
    · exact first.called earlier
    · exact .inr (first.conn ▸ authorized)
  · exact fun service known => second.kept service (first.kept service known)
  · intro service known
    rcases second.added service known with earlier | video
    · exact first.added service earlier
    · exact .inr video
  · intro service subscribed
    rcases second.known service subscribed with earlier | known
    · exact (first.known service earlier).imp_right (second.kept service)
    · exact .inr known

theorem widens_trans (first : Widens s next) (second : Widens next last) : Widens s last := by
  refine ⟨grows_trans s next last first.toGrows second.toGrows, second.voice.trans first.voice, ?_⟩
  intro service subscribed
  rcases second.opens service subscribed with earlier | entitled
  · exact first.opens service earlier
  · rw [first.conn, first.voice] at entitled
    exact .inr entitled

theorem widens_safe (widens : Widens s next) (safe : Safe s) : Safe next := by
  intro service subscribed
  rw [widens.conn, widens.voice]
  exact (widens.opens service subscribed).elim (safe service) id

section
variable (server : Server)

theorem subscribe_subscribed (service other : Service) (sub : Bool) : (server.subscribe service sub).subscribed other =
      if other = service ∧ service ∈ server.registered then sub else server.subscribed other := by
  unfold Server.subscribe
  by_cases known : service ∈ server.registered
  · by_cases same : other = service
    · simp [known, same]
    · simp [known, same]
  · simp [known]

theorem subscribe_registered (service : Service) (sub : Bool) : (server.subscribe service sub).registered = server.registered := by
  unfold Server.subscribe
  split
  · rfl
  · rfl

theorem add_service_subscribed (service : Service) : (server.addService service).subscribed = server.subscribed := by
  unfold Server.addService
  split
  · rfl
  · rfl

theorem add_service_registered (service other : Service) :
    other ∈ (server.addService service).registered ↔ other ∈ server.registered ∨ other = service := by
  unfold Server.addService
  split
  · rename_i known
    exact ⟨.inl, fun either => either.elim id (fun same => same ▸ known)⟩
  · simp only [List.mem_append, List.mem_singleton]

end

-- The shape of every branch: flags are set, then some services are told.
theorem perms_grows (perms : Permissions) (follows : perms.followRemoteWindow = s.perms.followRemoteWindow) :
    Grows s { s with perms := perms } :=
  ⟨rfl, fun set => .inl (follows ▸ set), .inl, .inl, fun _ => id, fun _ => .inl, fun _ => .inl⟩

theorem perms_widens (perms : Permissions) (follows : perms.followRemoteWindow = s.perms.followRemoteWindow) :
    Widens s { s with perms := perms } := ⟨perms_grows s perms follows, rfl, fun _ => .inl⟩

theorem server_grows (server : Server) (kept : ∀ service, service ∈ s.server.registered → service ∈ server.registered)
    (added : ∀ service, service ∈ server.registered → service ∈ s.server.registered ∨ service.isVideo = true)
    (known : ∀ service, server.subscribed service = true → s.server.subscribed service = true ∨ service ∈ server.registered) :
    Grows s { s with server := server } := ⟨rfl, .inl, .inl, .inl, kept, added, known⟩

theorem subscribe_grows (service : Service) (sub : Bool) : Grows s (s.subscribe service sub) := by
  apply server_grows
  · intro other known
    rw [subscribe_registered]
    exact known
  · intro other known
    rw [subscribe_registered] at known
    exact .inl known
  · intro other subscribed
    rw [subscribe_subscribed] at subscribed
    rw [subscribe_registered]
    split at subscribed
    · rename_i here
      exact .inr (here.1 ▸ here.2)
    · exact .inl subscribed

theorem subscribe_widens (service : Service) (sub : Bool)
    (entitled : service ∈ s.server.registered → sub = true → Entitled s.conn s.voiceCalling service) :
    Widens s (s.subscribe service sub) := by
  refine ⟨subscribe_grows s service sub, rfl, ?_⟩
  intro other subscribed
  rw [ServedConn.subscribe, subscribe_subscribed] at subscribed
  split at subscribed
  · rename_i here
    right
    rw [here.1]
    exact entitled here.2 subscribed
  · exact .inl subscribed

theorem add_service_grows (source : VideoSource) (index : Nat) :
    Grows s { s with server := s.server.addService (getServiceName source index) } := by
  apply server_grows
  · intro service known
    exact (add_service_registered s.server _ service).mpr (.inl known)
  · intro service known
    rcases (add_service_registered s.server _ service).mp known with earlier | new
    · exact .inl earlier
    · right
      rw [new]
      cases source <;> rfl
  · intro service subscribed
    rw [add_service_subscribed] at subscribed
    exact .inl subscribed

theorem add_service_widens (source : VideoSource) (index : Nat) :
    Widens s { s with server := s.server.addService (getServiceName source index) } := by
  refine ⟨add_service_grows s source index, rfl, ?_⟩
  intro service subscribed
  rw [add_service_subscribed] at subscribed
  exact .inl subscribed

theorem remote_entitled (remote : s.conn.RemoteAuthed) (service : Service) (notCamera : ∀ index, service ≠ .camera index) :
    Entitled s.conn s.voiceCalling service := by
  cases service with
  | clipboard | fileClipboard | cursor | position | windowFocus | monitor => exact remote
  | audio => exact .inl remote
  | camera index => exact (notCamera index rfl).elim
  | display | printer => trivial

end

end GotechDesk.Connection
