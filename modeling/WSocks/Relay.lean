import WSocks.Sessions
import WSocks.Ownership

/-!
# The relay

Any number of SOCKS connections share one websocket. While it stays up, the
connections do not mix: what the server sends for a uuid goes to the socket that
the uuid was generated for, what a socket sends goes out under its own uuid, and
nothing reaches a socket that has been given up.
-/

namespace WSocks.Relay
open WSocks.Runs WSocks.Effects WSocks.Text WSocks.Buffers WSocks.Libraries WSocks.Messages WSocks.Client
  WSocks.Handlers WSocks.Proxy WSocks.Traffic WSocks.Ownership WSocks.Socks
open WSocks.Sessions (opening relayed execute_session able_env)

/-! ### While the websocket stays up -/

/-- An event that takes no websocket down. -/
def Steady : Event → Prop
  | .failed _ | .disconnected _ | .stop => False
  | _ => True

/-- The current websocket is open, and there is one as soon as a connection was accepted. -/
structure Connected (world : World) : Prop where
  isOpen : ∀ w, world.ws = some w → world.webSockets w = some true
  present : ∀ uuid s, Owns world uuid s → world.ws ≠ none

theorem Connected.online {world : World} (connected : Connected world) {uuid : String} {s : SocketId}
    (owns : Owns world uuid s) : ∃ w, Online world w := by
  obtain ⟨w,current⟩ := Option.ne_none_iff_exists'.mp (connected.present uuid s owns)
  exact ⟨w,current,connected.isOpen w current⟩

theorem connected_move {env : Env} {world next : World} {event : Event} {outputs : List Output}
    (connected : Connected world) (steady : Steady event) (move : Move env world event next outputs) :
    Connected next := by
  rcases line_move move with ⟨same,same'⟩ | ⟨w,rfl⟩ | ⟨w,rfl⟩ | ⟨w,rfl⟩ | rfl
  · refine ⟨by rw [same,same']; exact connected.isOpen,?_⟩
    intro uuid s owns
    rw [same]
    rcases owns_move move owns with owns | rfl
    · exact connected.present uuid s owns
    · cases move with
      | refused free unconnected =>
        obtain ⟨socket,known,owner⟩ := owns
        obtain rfl : Socket.fresh.shut = socket := by simpa using known
        simp [Socket.fresh] at owner
      | accepted _ present => exact present
  · cases move
    refine ⟨?_,by simp⟩
    rintro w' ⟨⟩
    simp
  all_goals exact steady.elim

theorem connected_trace {env : Env} {past : Past} {world : World} (trace : Trace env past world)
    (steady : ∀ t ∈ past, Steady t.event) : (∀ t ∈ past, Connected t.before) ∧ Connected world := by
  refine trace.carries ⟨by simp [started],by simp [Owns,started]⟩ ?_
  intro t member connected
  exact connected_move connected (steady t member) (trace_moment trace member).move

/-! ### From the server to the sockets -/

/-- The bytes that a RAW frame wrote to a socket. -/
def deliveredTo (env : Env) (s : SocketId) (t : Transition World Event Reaction) : Buffer :=
  match t.event with
  | .frame _ m =>
    match received? env m with
    | some (.raw _) => t.reaction.outputs.flatMap (writtenTo s)
    | _ => []
  | _ => []

/-- The payload of a RAW frame for a uuid that was known when it came. -/
def arrivedFor (env : Env) (uuid : String) (t : Transition World Event Reaction) : Buffer :=
  match t.event with
  | .frame _ m =>
    match received? env m with
    | some (.raw data) => if data.uuid = uuid ∧ t.before.connectMap uuid ≠ none then data.data else []
    | _ => []
  | _ => []

/-- One RAW frame is written to the socket of its uuid, or nowhere. -/
theorem raw_frame {env : Env} {world next : World} {outputs : List Output} {w : WebSocketId} {m : Buffer} {data : RawData}
    (move : Move env world (.frame w m) next outputs) (read : received? env m = some (.raw data)) :
    next = world ∧ outputs = (world.connectMap data.uuid).toList.map (fun s => .write s data.data) := by
  cases move with
  | unread unread => simp [read] at unread
  | handled read' handled =>
    cases read.symm.trans read'
    cases handled with
    | unknown unknown =>
      have absent : world.connectMap data.uuid = none := by simpa [Known] using unknown
      simp [absent]
    | raw entry => simp [entry]

/-- At every moment RAW frames deliver to a socket what arrived for its uuid. -/
theorem delivered_eq_arrived {env : Env} {past : Past} {t : Transition World Event Reaction} {uuid : String} {s : SocketId}
    (moment : Moment env past t) (distinct : DistinctUuids past) (accepted : Accepted past uuid s) :
    deliveredTo env s t = arrivedFor env uuid t := by
  obtain ⟨before,event,reaction,after⟩ := t
  cases event with
  | frame w m =>
    simp only [deliveredTo,arrivedFor]
    split
    · rename_i data read
      obtain ⟨-,same⟩ := raw_frame moment.move read
      simp only at same
      rw [same]
      cases entry : before.connectMap data.uuid with
      | none =>
        have unknown : ¬ (data.uuid = uuid ∧ before.connectMap uuid ≠ none) := by
          rintro ⟨rfl,present⟩
          exact present entry
        simp [unknown]
      | some s' =>
        have owns := moment.sound.entry entry
        by_cases mine : data.uuid = uuid
        · subst mine
          obtain rfl := distinct _ _ _ (moment.accepted _ _ owns) accepted
          simp [entry,writtenTo]
        · have other : s' ≠ s := by
            rintro rfl
            exact mine (moment.own _ _ _ owns accepted)
          simp [mine,writtenTo,other]
    · rfl
  | _ => rfl

/-! ### From the sockets to the server -/

/-- A RAW message is made of a chunk of the socket that its uuid was generated for. -/
theorem raw_sent {env : Env} {past : Past} {t : Transition World Event Reaction} {w : WebSocketId} {m payload : Buffer}
    {uuid : String} (moment : Moment env past t) (canonical : ∀ uuid s, Accepted past uuid s → CanonicalUuid uuid)
    (member : .send w m ∈ t.reaction.outputs)
    (read : upstream? env.platform env.userInfo m = some (.raw uuid payload)) :
    ∃ s draw, t.event = .data s payload draw ∧ Reads t.before s (.relay uuid) ∧ Accepted past uuid s := by
  obtain ⟨before,event,reaction,after⟩ := t
  obtain ⟨-,sends⟩ := send_move moment.move member
  cases sends with
  | connect _ _ read' => simp [read] at read'
  | raw reads read' =>
    have accepted := moment.accepted _ _ (moment.sound.owns reads rfl)
    have same := read.symm.trans (read' (canonical _ _ accepted))
    simp only [Option.some.injEq,Upstream.raw.injEq] at same
    obtain ⟨rfl,rfl⟩ := same
    exact ⟨_,_,rfl,reads,accepted⟩
  | dns _ _ read' => simp [read] at read'

/-- The socket of the uuid relays what it reads. -/
def Relaying (world : World) (uuid : String) (s : SocketId) : Prop :=
  ∃ socket, world.sockets s = some socket ∧ socket.handler = some (.relay uuid)

theorem Relaying.owns {world : World} {uuid : String} {s : SocketId} (relaying : Relaying world uuid s)
    (sound : Sound world) : Owns world uuid s := by
  obtain ⟨socket,known,handled⟩ := relaying
  exact ⟨socket,known,(sound.handlers s socket _ known handled).symm⟩

/-- A socket that relays does not read requests any more. -/
theorem Relaying.not_reads {world : World} {uuid uuid' : String} {s : SocketId} (relaying : Relaying world uuid s) :
    ¬ Reads world s (.bufferHandler uuid') := by
  rintro ⟨socket,known,-,handled⟩
  obtain ⟨socket',known',handled'⟩ := relaying
  cases known.symm.trans known'
  simp [handled'] at handled

/-- A socket that relays never does anything else. -/
theorem relaying_move {env : Env} {world next : World} {event : Event} {outputs : List Output} {uuid : String}
    {s : SocketId} (relaying : Relaying world uuid s) (sound : Sound world)
    (move : Move env world event next outputs) : Relaying next uuid s := by
  have owns := relaying.owns sound
  obtain ⟨socket,known,handled⟩ := relaying
  rcases socket_move move s with same | ⟨free,-⟩ | ⟨f,changes,same⟩
  · exact ⟨socket,same.trans known,handled⟩
  · simp [known] at free
  · refine ⟨f socket,by simp [same,known],?_⟩
    cases changes with
    | relays read entry => rw [Socket.handle_handler,(sound.entry entry).same owns]
    | _ => exact handled

/-- And it began with CONNECT_SUCCESS. -/
theorem relaying_origin {env : Env} {world next : World} {event : Event} {outputs : List Output} {uuid : String}
    {s : SocketId} (relaying : Relaying next uuid s) (move : Move env world event next outputs) :
    Relaying world uuid s ∨ ∃ w m, event = .frame w m ∧ received? env m = some (.connected ⟨uuid⟩) ∧
      world.connectMap uuid = some s := by
  obtain ⟨socket,known,handled⟩ := relaying
  rcases socket_move move s with same | ⟨-,socket',opens,same⟩ | ⟨f,changes,same⟩
  · exact .inl ⟨socket,same ▸ known,handled⟩
  · cases same.symm.trans known
    cases opens <;> simp [Socket.fresh] at handled
  · obtain ⟨socket',before,rfl⟩ := Option.map_eq_some_iff.mp (same.symm.trans known)
    cases changes with
    | relays read entry =>
      cases handled
      exact .inr ⟨_,_,rfl,read,entry⟩
    | _ => exact .inl ⟨socket',before,handled⟩

/-- CONNECT_SUCCESS makes the socket relay. -/
theorem relaying_connected {env : Env} {past : Past} {t : Transition World Event Reaction} {w : WebSocketId} {m : Buffer}
    {uuid : String} {s : SocketId} (moment : Moment env past t) (event : t.event = .frame w m)
    (read : received? env m = some (.connected ⟨uuid⟩)) (entry : t.before.connectMap uuid = some s) :
    Relaying t.after uuid s := by
  have move := moment.move
  obtain ⟨socket,known,-⟩ := moment.sound.entry entry
  rw [event] at move
  generalize t.reaction.outputs = outputs at move
  generalize t.after = after at move
  cases move with
  | unread unread => simp [read] at unread
  | handled read' handled =>
    cases read.symm.trans read'
    cases handled with
    | unknown unknown => simp [Known,entry] at unknown
    | connected entry' =>
      cases entry.symm.trans entry'
      exact ⟨socket.handle (.relay uuid),by simp [known],rfl⟩

/-- No RAW message for a uuid is made but of a chunk of its socket. -/
theorem raw_elsewhere {env : Env} {past : Past} {t : Transition World Event Reaction} {uuid : String} {s : SocketId}
    (moment : Moment env past t) (distinct : DistinctUuids past)
    (canonical : ∀ uuid s, Accepted past uuid s → CanonicalUuid uuid) (accepted : Accepted past uuid s)
    (idle : ∀ buffer draw, t.event = .data s buffer draw → ¬ Reads t.before s (.relay uuid)) :
    t.reaction.outputs.flatMap (rawFor env uuid) = [] := by
  rw [List.flatMap_eq_nil_iff]
  intro o member
  cases o with
  | send w m =>
    cases read : upstream? env.platform env.userInfo m with
    | none => simp [rawFor,read]
    | some received =>
      cases received with
      | raw uuid' data =>
        by_cases same : uuid' = uuid
        · subst same
          obtain ⟨s',draw,event,reads,accepted'⟩ := raw_sent moment canonical member read
          obtain rfl := distinct _ _ _ accepted' accepted
          exact absurd reads (idle _ _ event)
        · simp [rawFor,read,same]
      | _ => simp [rawFor,read]
  | _ => rfl

/-- What a socket that relays reads is sent, as long as the websocket is open. -/
theorem relayed_move {env : Env} {world next : World} {s : SocketId} {uuid : String} {buffer : Buffer} {draw : Draw}
    {outputs : List Output} (move : Move env world (.data s buffer draw) next outputs)
    (relaying : Relaying world uuid s) (canonical : CanonicalUuid uuid) :
    ∃ message, Carries env draw world (.raw uuid buffer) message ∧ outputs = (transmission env draw world message).2 := by
  obtain ⟨socket,known,handled⟩ := relaying
  have other : ∀ {h}, Reads world s h → h = .relay uuid := by
    rintro h ⟨_,known',-,handled'⟩
    cases known.symm.trans known'
    exact Option.some.inj (handled'.symm.trans handled)
  cases move with
  | served reads => cases other reads
  | relayed reads made =>
    cases other reads
    exact ⟨_,rawData_carries draw world canonical made,rfl⟩
  | unnamed reads => cases other reads
  | asked reads => cases other reads

/-- Once a socket relays, RAW messages for its uuid carry what is read from it. -/
theorem raw_eq_read {env : Env} {past : Past} {t : Transition World Event Reaction} {uuid : String} {s : SocketId}
    (able : Able env) (moment : Moment env past t) (distinct : DistinctUuids past)
    (canonical : ∀ uuid s, Accepted past uuid s → CanonicalUuid uuid) (relaying : Relaying t.before uuid s)
    (online : ∀ buffer draw, t.event = .data s buffer draw → ∃ w, Online t.before w) :
    t.reaction.outputs.flatMap (rawFor env uuid) = readFrom s t.event := by
  have accepted := moment.accepted _ _ (relaying.owns moment.sound)
  by_cases mine : ∃ buffer draw, t.event = .data s buffer draw
  · obtain ⟨buffer,draw,event⟩ := mine
    obtain ⟨w,online⟩ := online buffer draw event
    have move := moment.move
    rw [event] at move ⊢
    obtain ⟨message,carries,same⟩ := relayed_move move relaying (canonical _ _ accepted)
    obtain ⟨m,sent,read⟩ := carries.sends able online
    simp [same,sent,rawFor,read,readFrom]
  · have nothing : readFrom s t.event = [] := by
      cases event : t.event with
      | data s' buffer draw =>
        have other : s' ≠ s := by rintro rfl; exact mine ⟨buffer,draw,event⟩
        simp [readFrom,other]
      | _ => rfl
    rw [nothing]
    exact raw_elsewhere moment distinct canonical accepted (fun buffer draw event => absurd ⟨buffer,draw,event⟩ mine)

/-! ### Connections that have been given up -/

/-- The server gives up the connection of a socket, or the socket is closed. -/
def GivenUp (env : Env) (t : Transition World Event Reaction) (uuid : String) (s : SocketId) : Prop :=
  (∃ w m e, t.event = .frame w m ∧ received? env m = some (.exception e) ∧ e.uuid = .ok (some uuid) ∧
    t.before.connectMap uuid = some s) ∨
  Owns t.before uuid s ∧ t.event = .closed s

/-- No data is read from a socket after `close()` or `end()` was called on it. -/
def Quieted (past : Past) : Prop :=
  ∀ t ∈ past, ∀ s buffer draw socket, t.event = .data s buffer draw → t.before.sockets s = some socket →
    socket.closing = false

/-- A socket that reads no more and that no entry leads to. -/
structure Over (world : World) (uuid : String) (s : SocketId) : Prop where
  owns : Owns world uuid s
  unmapped : world.connectMap uuid = none
  ended : ∃ socket, world.sockets s = some socket ∧ (socket.closing = true ∨ socket.closed = true)

theorem over_givenUp {env : Env} {past : Past} {t : Transition World Event Reaction} {uuid : String} {s : SocketId}
    (moment : Moment env past t) (givenUp : GivenUp env t uuid s) : Over t.after uuid s := by
  have move := moment.move
  have keeps := keeps_move move
  rcases givenUp with ⟨w,m,e,event,read,named,entry⟩ | ⟨owns,event⟩
  · rw [event] at move
    have owns := moment.sound.entry entry
    obtain ⟨socket,known,-⟩ := owns
    generalize t.reaction.outputs = outputs at move
    generalize t.after = after at move keeps
    cases move with
    | unread unread => simp [read] at unread
    | handled read' handled =>
      cases read.symm.trans read'
      cases handled with
      | unknown unknown => simp [Known,named,entry] at unknown
      | exception named' entry' =>
        cases named.symm.trans named'
        cases entry.symm.trans entry'
        exact ⟨(moment.sound.entry entry).keeps keeps,by simp,socket.shut,by simp [known],.inl rfl⟩
  · rw [event] at move
    obtain ⟨socket,known,owner⟩ := owns
    generalize t.reaction.outputs = outputs at move
    generalize t.after = after at move keeps
    cases move with
    | closed known' _ unowned =>
      cases known.symm.trans known'
      simp [owner] at unowned
    | unmapped known' _ owner' =>
      cases known.symm.trans known'
      cases owner.symm.trans owner'
      exact ⟨Owns.keeps ⟨socket,known,owner⟩ keeps,by simp,socket.gone,by simp [known],.inr rfl⟩

theorem over_move {env : Env} {past : Past} {t : Transition World Event Reaction} {uuid : String} {s : SocketId}
    (moment : Moment env past t) (member : t ∈ past) (distinct : DistinctUuids past) (quieted : Quieted past)
    (lost : Over t.before uuid s) : Over t.after uuid s := by
  have keeps := keeps_move moment.move
  obtain ⟨owns,unmapped,socket,known,ended⟩ := lost
  refine ⟨owns.keeps keeps,?_,?_⟩
  · by_contra present
    obtain ⟨s',entry⟩ := Option.ne_none_iff_exists'.mp present
    rcases entry_move moment.move entry with before | ⟨buffer,draw,-,-,event,reads,-⟩
    · simp [unmapped] at before
    · obtain rfl := moment.unique distinct (moment.sound.owns reads rfl) owns
      obtain ⟨socket',known',still,-⟩ := reads
      cases known.symm.trans known'
      have quiet := quieted t member _ _ _ socket event known
      simp [quiet,still] at ended
  · obtain ⟨socket',after,-,closing,closed⟩ := keeps s socket known
    exact ⟨socket',after,ended.imp closing closed⟩

/-- No frame writes to such a socket. -/
theorem over_frame {env : Env} {past : Past} {t : Transition World Event Reaction} {uuid : String} {s : SocketId}
    {w : WebSocketId} {m bytes : Buffer} (moment : Moment env past t) (lost : Over t.before uuid s)
    (event : t.event = .frame w m) : .write s bytes ∉ t.reaction.outputs := by
  intro member
  have move := moment.move
  rw [event] at move
  rcases frame_write move member with ⟨uuid',entry⟩ | ⟨uuid',query,entry⟩
  · obtain rfl := (moment.sound.entry entry).same lost.owns
    simp [lost.unmapped] at entry
  · obtain ⟨socket,known,unowned⟩ := moment.sound.queried _ _ _ entry
    obtain ⟨socket',known',owner⟩ := lost.owns
    cases known.symm.trans known'
    simp [unowned] at owner

/-! ### Isolation -/

/-- The connections of a run are kept apart: an entry of the map leads to the socket of
    its uuid; a RAW frame writes its payload to that socket or nowhere, so that a socket
    gets what arrived for its uuid in that order; a frame for an unknown uuid changes
    nothing; a RAW message carries the uuid of the socket its bytes were read from, and
    from CONNECT_SUCCESS on all bytes of the socket are sent, in that order; after a
    connection has been given up no frame writes to its socket. -/
structure Isolated (env : Env) (past : Past) (world : World) : Prop where
  mapped : ∀ uuid s, world.connectMap uuid = some s → Accepted past uuid s
  raw : ∀ t ∈ past, ∀ w m data, t.event = .frame w m → received? env m = some (.raw data) → t.after = t.before ∧
    t.reaction.outputs = (t.before.connectMap data.uuid).toList.map (fun s => .write s data.data)
  delivered : ∀ uuid s, Accepted past uuid s → past.flatMap (deliveredTo env s) = past.flatMap (arrivedFor env uuid)
  unknown : ∀ t ∈ past, ∀ w m r, t.event = .frame w m → received? env m = some r → ¬ Known t.before r →
    t.after = t.before ∧ t.reaction.outputs = []
  attributed : ∀ t ∈ past, ∀ w m uuid payload, .send w m ∈ t.reaction.outputs →
    upstream? env.platform env.userInfo m = some (.raw uuid payload) →
    ∃ s draw, t.event = .data s payload draw ∧ Accepted past uuid s
  complete : ∀ earlier t later w m uuid s, past = earlier ++ t :: later → t.event = .frame w m →
    received? env m = some (.connected ⟨uuid⟩) → t.before.connectMap uuid = some s →
    collect (rawFor env uuid) later = received s later
  silent : ∀ earlier t later uuid s, past = earlier ++ t :: later → GivenUp env t uuid s →
    ∀ t' ∈ later, ∀ w m bytes, t'.event = .frame w m → .write s bytes ∉ t'.reaction.outputs

/-- As long as the websocket stays up, every run keeps the connections apart. -/
theorem connections_isolated (env : Env) {past : Past} {world : World} (trace : Trace env past world)
    (steady : ∀ t ∈ past, Steady t.event) (distinct : DistinctUuids past) (quieted : Quieted past)
    (canonical : ∀ uuid s, Accepted past uuid s → CanonicalUuid uuid) : Isolated env past world := by
  refine ⟨?_,?_,?_,?_,?_,?_,?_⟩
  · intro uuid s entry
    exact owns_accepted trace ((sound_trace trace).entry entry)
  · intro t member w m data event read
    have move := (trace_moment trace member).move
    rw [event] at move
    exact raw_frame move read
  · intro uuid s accepted
    exact List.flatMap_congr (fun t member => delivered_eq_arrived (trace_moment trace member) distinct accepted)
  · intro t member w m r event read unknown
    have move := (trace_moment trace member).move
    rw [event] at move
    exact unknown_frame move read unknown
  · intro t member w m uuid payload sent read
    obtain ⟨s,draw,event,-,accepted⟩ := raw_sent (trace_moment trace member) canonical sent read
    exact ⟨s,draw,event,accepted⟩
  · rintro earlier t later w m uuid s rfl event read entry
    obtain ⟨-,-,rest⟩ := (trace.split rfl).choose_spec.2.head
    have moment := fun u (member : u ∈ earlier ++ t :: later) => trace_moment trace member
    have inside : ∀ u ∈ later, u ∈ earlier ++ t :: later := by simp +contextual
    have relays := (Run.carries rest (I := fun world => Relaying world uuid s)
      (relaying_connected (moment t (by simp)) event read entry)
      (fun u member relaying =>
        relaying_move relaying (moment u (inside u member)).sound (moment u (inside u member)).move)).1
    refine List.flatMap_congr (fun u member => raw_eq_read (able_of_connected read) (moment u (inside u member)) distinct
      canonical (relays u member) ?_)
    exact fun _ _ _ => ((connected_trace trace steady).1 u (inside u member)).online
      ((relays u member).owns (moment u (inside u member)).sound)
  · rintro earlier t later uuid s rfl givenUp t' member w m bytes event
    obtain ⟨-,-,rest⟩ := (trace.split rfl).choose_spec.2.head
    have moment := fun u (member : u ∈ earlier ++ t :: later) => trace_moment trace member
    have inside : ∀ u ∈ later, u ∈ earlier ++ t :: later := by simp +contextual
    have stays := (Run.carries rest (I := fun world => Over world uuid s) (over_givenUp (moment t (by simp)) givenUp)
      (fun u member => over_move (moment u (inside u member)) (inside u member) distinct quieted)).1
    exact over_frame (moment t' (inside t' member)) (stays t' member) event

/-! ### A session -/

section Session
variable {uuid : String} {methods : Methods} {d : Destination} {port : UInt16} {draw : Draw}
  {m m' success raw data back : Buffer}

/-- The transitions of a session. -/
def session (uuid : String) (methods : Methods) (d : Destination) (port : UInt16) (draw : Draw)
    (m success raw data back m' : Buffer) : Past :=
  opening uuid methods d port draw m ++ relayed uuid draw success raw data back m'

theorem session_accepted {uuid' : String} {s : SocketId}
    (accepted : Accepted (session uuid methods d port draw m success raw data back m') uuid' s) :
    s = 0 ∧ uuid' = uuid := by
  obtain ⟨t,member,event⟩ := accepted
  simp only [session,opening,relayed,List.cons_append,List.nil_append,List.mem_cons,List.not_mem_nil,or_false] at member
  rcases member with rfl | rfl | rfl | rfl | rfl | rfl | rfl <;> simp_all

theorem session_distinct : DistinctUuids (session uuid methods d port draw m success raw data back m') := by
  intro uuid' s s' left right
  rw [(session_accepted left).1,(session_accepted right).1]

theorem session_canonical (canonical : CanonicalUuid uuid) (uuid' : String) (s : SocketId)
    (accepted : Accepted (session uuid methods d port draw m success raw data back m') uuid' s) : CanonicalUuid uuid' := by
  rw [(session_accepted accepted).2]
  exact canonical

theorem session_quieted : Quieted (session uuid methods d port draw m success raw data back m') := by
  intro t member s buffer draw' socket event known
  simp only [session,opening,relayed,List.cons_append,List.nil_append,List.mem_cons,List.not_mem_nil,or_false] at member
  rcases member with rfl | rfl | rfl | rfl | rfl | rfl | rfl <;>
    simp_all [Sessions.accepted,Sessions.relaying,Sessions.online,Socket.fresh]
  all_goals (subst known; rfl)

end Session

theorem connections_isolated_session : ∃ success raw past world,
    ConnectSuccess.create Platforms.env.platform Platforms.env.userInfo Platforms.uuid = pure success ∧
    RawData.create Platforms.env.platform Platforms.env.userInfo Platforms.uuid [4,5] = pure raw ∧
    execute (step Platforms.env) started
      [.loggedIn 0,.accepted 0 Platforms.uuid,.data 0 [0x05,0x01,0x00] Platforms.draw,
        .data 0 (request (.address ⟨10,0,0,1⟩) 80) Platforms.draw,.frame 0 success,.data 0 [1,2,3] Platforms.draw,
        .frame 0 raw] = some (past,world) ∧
    Isolated Platforms.env past world := by
  obtain ⟨success,raw,m,m',created,created',-,executed⟩ := execute_session able_env Platforms.draw Platforms.canonical_uuid
    ⟨[0x00],by decide⟩ (d := .address ⟨10,0,0,1⟩) trivial 80 [1,2,3] [4,5]
  refine ⟨success,raw,_,_,created,created',executed,?_⟩
  refine connections_isolated Platforms.env (run_of_execute executed) ?_ session_distinct session_quieted
    (session_canonical Platforms.canonical_uuid)
  simp [opening,relayed,Steady]

end WSocks.Relay
