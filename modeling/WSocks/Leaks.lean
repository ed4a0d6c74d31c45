import WSocks.Shared

/-!
# Entries that stay

What is left in the two maps. Connections take their own entries with them when they
are closed; queries do not, a query is remembered before it is sent, and `stop` forgets
only connections.
-/

namespace WSocks.Leaks
open WSocks.Runs WSocks.Effects WSocks.Text WSocks.Buffers WSocks.Libraries WSocks.Messages WSocks.Client WSocks.Handlers
  WSocks.Proxy WSocks.Traffic WSocks.Ownership WSocks.Names

/-- Every socket that was told to close has been closed. -/
def Quiescent (world : World) : Prop :=
  ∀ s socket, world.sockets s = some socket → socket.closing = true → socket.closed = true

/-- The socket is open and will not be closed for anything done so far. -/
def IsOpen (world : World) (s : SocketId) : Prop :=
  ∃ socket, world.sockets s = some socket ∧ socket.closing = false ∧ socket.closed = false

/-- A DNS message with the uuid was sent for a query of the socket. -/
def Sent (env : Env) (past : Past) (uuid : String) (s : SocketId) (query : Buffer) : Prop :=
  ∃ t ∈ past, ∃ draw w m host, t.event = .data s query draw ∧ .send w m ∈ t.reaction.outputs ∧
    upstream? env.platform env.userInfo m = some (.dns (some host) (some uuid))

/-- The maps have entries only for open sockets, those for queries stand for messages
    that were sent, and after `stop` there are none. -/
structure Hygienic (env : Env) (past : Past) (world : World) : Prop where
  connected : Quiescent world → ∀ uuid s, world.connectMap uuid = some s → IsOpen world s
  queried : Quiescent world → ∀ uuid s query, world.dnsQueryMap uuid = some (s,query) → IsOpen world s
  sent : ∀ uuid s query, world.dnsQueryMap uuid = some (s,query) → Sent env past uuid s query
  stopped : ∀ t ∈ past, t.event = .stop → ∀ uuid, t.after.connectMap uuid = none ∧ t.after.dnsQueryMap uuid = none

/-- Queries come while the client can send, a socket is closed when no query of it waits
    for an answer, and the client is stopped when no query waits at all and the websocket,
    if any connection is entered, can be closed. -/
def Clean (env : Env) (world : World) : Event → Prop
  | .data s buffer _ => Reads world s .handleQuery → (∃ name, getName buffer 14 "" = .ok name) →
    Able env ∧ ∃ w, Online world w
  | .closed s => ∀ uuid query, world.dnsQueryMap uuid ≠ some (s,query)
  | .stop => (∀ uuid, world.dnsQueryMap uuid = none) ∧ ((∀ uuid, world.connectMap uuid = none) ∨
    ∃ w, world.ws = some w ∧ (world.webSockets w = some true ∨ env.platform.closeAgain = .ok ()))
  | _ => True

/-! ### Sockets of entries -/

/-- Every query in the map has a socket that is not closed. -/
def Held (world : World) : Prop :=
  ∀ uuid s query, world.dnsQueryMap uuid = some (s,query) → ∃ socket, world.sockets s = some socket ∧ socket.closed = false

/-- Nothing but its close event closes a socket. -/
private theorem unclosed_move {env : Env} {world next : World} {event : Event} {outputs : List Output} {s : SocketId}
    {socket : Socket} (move : Move env world event next outputs) (known : world.sockets s = some socket)
    (still : socket.closed = false) (other : event ≠ .closed s) :
    ∃ socket, next.sockets s = some socket ∧ socket.closed = false := by
  rcases socket_move move s with same | ⟨free,-⟩ | ⟨f,changes,same⟩
  · exact ⟨socket,same.trans known,still⟩
  · simp [known] at free
  · refine ⟨f socket,by simp [same,known],?_⟩
    cases changes with
    | gone => exact absurd rfl other
    | _ => exact still

theorem held_move {env : Env} {world next : World} {event : Event} {outputs : List Output}
    (move : Move env world event next outputs) (held : Held world) (clean : Clean env world event) : Held next := by
  intro uuid s query entry
  rcases query_move move entry with before | ⟨draw,name,rfl,-,⟨socket,known,still,-⟩,-⟩
  · obtain ⟨socket,known,still⟩ := held uuid s query before
    refine unclosed_move move known still ?_
    rintro rfl
    exact clean uuid query before
  · exact unclosed_move move known still (by simp)

/-- A socket of an entry is open as soon as no close event is outstanding. -/
private theorem isOpen_of_unclosed {world : World} {s : SocketId} {socket : Socket} (quiescent : Quiescent world)
    (known : world.sockets s = some socket) (still : socket.closed = false) : IsOpen world s := by
  refine ⟨socket,known,?_,still⟩
  cases closing : socket.closing with
  | false => rfl
  | true => simp [quiescent s socket known closing] at still

/-! ### Messages of entries -/

theorem Sent.append {env : Env} {past later : Past} {uuid : String} {s : SocketId} {query : Buffer}
    (sent : Sent env past uuid s query) : Sent env (past ++ later) uuid s query := by
  obtain ⟨t,member,rest⟩ := sent
  exact ⟨t,List.mem_append_left _ member,rest⟩

/-- A query that is remembered is sent at once. -/
theorem sent_move {env : Env} {world next : World} {s : SocketId} {query : Buffer} {draw : Draw} {outputs : List Output}
    {name : Int × String} (move : Move env world (.data s query draw) next outputs) (reads : Reads world s .handleQuery)
    (named : getName query 14 "" = .ok name) (able : Able env) (online : ∃ w, Online world w) :
    ∃ w m host, .send w m ∈ outputs ∧
      upstream? env.platform env.userInfo m = some (.dns (some host) (some draw.uuid)) := by
  obtain ⟨w,online⟩ := online
  cases move with
  | served reads' => cases reads.unique reads'
  | relayed reads' => cases reads.unique reads'
  | unnamed _ unnamed => simp [named] at unnamed
  | asked _ _ made =>
    obtain ⟨m,sent,read⟩ := (dnsQuery_carries draw world made).sends able online
    exact ⟨w,m,_,by simp [sent],read⟩

/-! ### Stopping -/

/-- `stop` forgets the connections once it has closed the websocket. -/
theorem stop_clears {env : Env} {world next : World} {reaction : Reaction} {w : WebSocketId}
    (taken : step env world .stop = some (next,reaction)) (connected : world.ws = some w)
    (closes : world.webSockets w = some true ∨ env.platform.closeAgain = .ok ()) (uuid : String) :
    next.connectMap uuid = none := by
  by_cases isOpen : world.webSockets w = some true
  · simp [step,react,stop,readWs,connected,closeWebSocket,isOpen] at taken
    rw [← taken.1]
    rfl
  · have again := closes.resolve_left isOpen
    simp [step,react,stop,readWs,connected,closeWebSocket,isOpen,again] at taken
    rw [← taken.1]
    rfl

theorem stopped_clean {env : Env} {world next : World} {reaction : Reaction}
    (taken : step env world .stop = some (next,reaction)) (clean : Clean env world .stop) (uuid : String) :
    next.connectMap uuid = none ∧ next.dnsQueryMap uuid = none := by
  obtain ⟨unasked,settled⟩ := clean
  obtain ⟨result,⟨kept,-⟩,-⟩ := step_ensures taken rfl (stop_ensures env world)
  constructor
  · rcases settled with unconnected | ⟨w,connected,closes⟩
    · rcases kept with kept | kept
      · rw [kept.2.1,unconnected]
      · rw [kept.2.1]
        rfl
    · exact stop_clears taken connected closes uuid
  · rcases kept with kept | kept
    · rw [kept.2.2,unasked]
    · rw [kept.2.2]
      exact unasked uuid

/-- No entry stays in a run whose steps are clean. -/
theorem hygienic_of_clean (env : Env) {past : Past} {world : World} (trace : Trace env past world)
    (clean : Obeys (fun _ => Clean env) past) : Hygienic env past world := by
  have reached := trace.history (I := fun earlier world => Held world ∧
    ∀ uuid s query, world.dnsQueryMap uuid = some (s,query) → Sent env earlier uuid s query)
    ⟨by simp [Held,started],by simp [started]⟩ (by
      intro earlier t later whole before
      have move := step_move (trace.taken whole)
      have here := clean earlier t later whole
      refine ⟨held_move move before.1 here,?_⟩
      intro uuid s query entry
      rcases query_move move entry with old | ⟨draw,name,event,rfl,reads,named⟩
      · exact (before.2 uuid s query old).append
      · rw [event] at here move
        obtain ⟨able,online⟩ := here reads ⟨name,named⟩
        obtain ⟨w,m,host,sent,read⟩ := sent_move move reads named able online
        exact ⟨t,List.mem_append_right _ (List.mem_singleton_self t),draw,w,m,host,event,sent,read⟩)
  obtain ⟨held,sent⟩ := reached.2
  refine ⟨?_,?_,sent,?_⟩
  · intro quiescent uuid s entry
    obtain ⟨socket,known,-,still⟩ := (sound_trace trace).mapped uuid s entry
    exact isOpen_of_unclosed quiescent known still
  · intro quiescent uuid s query entry
    obtain ⟨socket,known,still⟩ := held uuid s query entry
    exact isOpen_of_unclosed quiescent known still
  · intro t member event uuid
    obtain ⟨earlier,later,whole⟩ := List.append_of_mem member
    have taken := trace.taken whole
    have here := clean earlier t later whole
    rw [event] at taken here
    exact stopped_clean taken here uuid

theorem hygienic_exchange : ∃ reply past world,
    execute (step Platforms.env) started
      [.loggedIn 0,.queryAccepted 0,.data 0 exampleQuery.buffer Platforms.draw,.frame 0 reply] = some (past,world) ∧
    Hygienic Platforms.env past world := by
  obtain ⟨reply,data,m,-,-,-,-,executed⟩ := execute_example
  refine ⟨reply,_,_,executed,hygienic_of_clean Platforms.env (run_of_execute executed) ?_⟩
  simp only [exchange,obeys_cons,obeys_nil,Clean,and_true,true_and]
  intro _ _
  exact ⟨Sessions.able_env,0,asking_online⟩

/-- A client closes its connection before the answer comes: its query stays in the map. -/
theorem query_left : ∃ past world,
    execute (step Platforms.env) started
      [.loggedIn 0,.queryAccepted 0,.data 0 exampleQuery.buffer Platforms.draw,.closed 0] = some (past,world) ∧
    ¬ Hygienic Platforms.env past world := by
  obtain ⟨offset,name⟩ := exampleQuery.named
  obtain ⟨m,sent,-⟩ := Sessions.step_asked Platforms.env asking_reads Platforms.draw Sessions.able_env asking_online name
  have closed : step Platforms.env (asking.ask Platforms.uuid 0 exampleQuery.buffer) (.closed 0) =
      some ((asking.ask Platforms.uuid 0 exampleQuery.buffer).updateSocket 0 Socket.gone,⟨[],none⟩) := by
    simp [step,react,asking,Socket.fresh,Socket.handle,closeHandler,raised]
  refine ⟨_,_,execute_of_step (Sessions.step_loggedIn Platforms.env (by simp [started]) rfl) <|
    execute_of_step (Sessions.step_queryAccepted Platforms.env rfl) <| execute_of_step sent <|
    execute_of_step closed (execute.eq_1 _ _),?_⟩
  intro hygienic
  have entry := asking_entry Platforms.uuid exampleQuery.buffer
  have quiescent : Quiescent ((asking.ask Platforms.uuid 0 exampleQuery.buffer).updateSocket 0 Socket.gone) := by
    intro s socket known closing
    by_cases zero : s = 0
    · subst zero
      simp [asking,Socket.fresh] at known
      simp [← known] at closing
    · simp [asking,Sessions.online,started,zero] at known
  obtain ⟨socket,known,-,still⟩ := hygienic.queried quiescent Platforms.uuid 0 exampleQuery.buffer entry
  simp [asking,Socket.fresh] at known
  simp [← known] at still

end WSocks.Leaks
