import WSocks.Relay

/-!
# Sessions and reconnects

The map of connections survives a reconnect and the relays read the field `ws`
when they send. So a session keeps the websocket that it began on only if no
session is under way when a websocket goes down or is replaced.
-/

namespace WSocks.Affinity
open WSocks.Runs WSocks.Effects WSocks.Text WSocks.Buffers WSocks.Libraries WSocks.Messages WSocks.Client
  WSocks.Handlers WSocks.Proxy WSocks.Traffic WSocks.Ownership WSocks.Relay WSocks.Socks WSocks.Wire
open WSocks.Sessions

/-- A CONNECT message for the uuid went out on the websocket. -/
def ConnectSent (env : Env) (past : Past) (uuid : String) (w : WebSocketId) : Prop :=
  ∃ t ∈ past, ∃ m host port, .send w m ∈ t.reaction.outputs ∧
    upstream? env.platform env.userInfo m = some (.connect host port (some uuid))

/-- A RAW message for the uuid went out on the websocket. -/
def RawSent (env : Env) (past : Past) (uuid : String) (w : WebSocketId) : Prop :=
  ∃ t ∈ past, ∃ m payload, .send w m ∈ t.reaction.outputs ∧
    upstream? env.platform env.userInfo m = some (.raw uuid payload)

/-- RAW messages go the way of the CONNECT message of their session, and no session of
    a lost websocket is left in the map. -/
def Affine (env : Env) (past : Past) (world : World) : Prop :=
  (∀ uuid w w', RawSent env past uuid w → ConnectSent env past uuid w' → w = w') ∧
  ∀ uuid s w, world.connectMap uuid = some s → ConnectSent env past uuid w → Online world w

/-- The event takes the websocket down, or another one takes its place. -/
def Hits (w : WebSocketId) : Event → Prop
  | .disconnected w' => w' = w
  | .failed _ | .loggedIn _ | .stop => True
  | _ => False

/-- No session in the map began on a websocket that the event hits. -/
def Unharmed (env : Env) (past : Past) (world : World) (event : Event) : Prop :=
  ∀ uuid s w, world.connectMap uuid = some s → ConnectSent env past uuid w → ¬ Hits w event

/-! ### A message that was sent before or just now -/

theorem connectSent_snoc {env : Env} {past : Past} {t : Transition World Event Reaction} {uuid : String}
    {w : WebSocketId} (sent : ConnectSent env (past ++ [t]) uuid w) :
    ConnectSent env past uuid w ∨ ∃ m host port, .send w m ∈ t.reaction.outputs ∧
      upstream? env.platform env.userInfo m = some (.connect host port (some uuid)) := by
  obtain ⟨u,member,told⟩ := sent
  rcases List.mem_append.mp member with before | now
  · exact .inl ⟨u,before,told⟩
  · exact .inr (List.mem_singleton.mp now ▸ told)

theorem rawSent_snoc {env : Env} {past : Past} {t : Transition World Event Reaction} {uuid : String}
    {w : WebSocketId} (sent : RawSent env (past ++ [t]) uuid w) :
    RawSent env past uuid w ∨ ∃ m payload, .send w m ∈ t.reaction.outputs ∧
      upstream? env.platform env.userInfo m = some (.raw uuid payload) := by
  obtain ⟨u,member,told⟩ := sent
  rcases List.mem_append.mp member with before | now
  · exact .inl ⟨u,before,told⟩
  · exact .inr (List.mem_singleton.mp now ▸ told)

theorem online_unique {world : World} {w w' : WebSocketId} (left : Online world w) (right : Online world w') : w = w' :=
  Option.some.inj (left.1.symm.trans right.1)

/-- A CONNECT message is made of a chunk of the socket that its uuid was generated for,
    which is then in the map. -/
theorem connect_sent {env : Env} {past : Past} {t : Transition World Event Reaction} {w : WebSocketId} {m : Buffer}
    {uuid : String} {host : Option String} {port : Option Int32} (moment : Moment env past t)
    (canonical : ∀ uuid s, Accepted past uuid s → CanonicalUuid uuid) (member : .send w m ∈ t.reaction.outputs)
    (read : upstream? env.platform env.userInfo m = some (.connect host port (some uuid))) :
    Online t.before w ∧ Online t.after w ∧ ∃ s buffer draw, t.event = .data s buffer draw ∧
      Reads t.before s (.bufferHandler uuid) ∧ t.after.connectMap uuid = some s := by
  obtain ⟨before,event,reaction,after⟩ := t
  obtain ⟨online,sends⟩ := send_move moment.move member
  cases sends with
  | connect reads parsed read' =>
    have same := read.symm.trans read'
    simp only [Option.some.injEq,Upstream.connect.injEq] at same
    obtain ⟨-,-,rfl⟩ := same
    refine ⟨online,?_,_,_,_,rfl,reads,connect_move moment.move reads parsed⟩
    rcases line_move moment.move with ⟨ws,webSockets⟩ | ⟨_,other⟩ | ⟨_,other⟩ | ⟨_,other⟩ | other
    · exact ⟨ws.trans online.1,(congrFun webSockets w).trans online.2⟩
    all_goals exact Event.noConfusion other
  | raw reads read' =>
    have accepted := moment.accepted _ _ (moment.sound.owns reads rfl)
    simp [read' (canonical _ _ accepted)] at read
  | dns _ _ read' => simp [read'] at read

/-! ### A session while it lives -/

/-- A session that began on a websocket is in the map and the websocket is up, or it is
    over. -/
def Placed (world : World) (uuid : String) (w : WebSocketId) : Prop :=
  ∃ s, Owns world uuid s ∧ (world.connectMap uuid = some s ∧ Online world w ∨ Over world uuid s)

/-- What may happen to an entry of the map while the client runs. -/
private theorem entry_fate {env : Env} {world next : World} {event : Event} {outputs : List Output} {uuid : String}
    {s : SocketId} (move : Move env world event next outputs) (entry : world.connectMap uuid = some s)
    (running : event ≠ .stop) :
    next.connectMap uuid = some s ∨
    (∃ w m e, event = .frame w m ∧ received? env m = some (.exception e) ∧ e.uuid = .ok (some uuid)) ∨
    (∃ s', event = .closed s' ∧ Owns world uuid s') ∨
    ∃ s', Reads world s' (.bufferHandler uuid) ∧ next.connectMap uuid = some s' := by
  cases move with
  | failed kept => exact .inl ((congrFun kept.2.1 uuid).trans entry)
  | stop => exact absurd rfl running
  | @handled w m r _ _ read handled =>
    cases handled with
    | @exception e uuid' s' named entry' =>
      by_cases same : uuid = uuid'
      · subst same
        exact .inr (.inl ⟨w,m,e,rfl,read,named⟩)
      · exact .inl (by simpa [same] using entry)
    | _ => exact .inl entry
  | @served s' uuid' buffer _ _ _ reads served =>
    have kept : (screened world s' buffer).1.connectMap uuid = some s := by
      rw [screened]
      split <;> exact entry
    cases served with
    | connected =>
      by_cases same : uuid = uuid'
      · subst same
        exact .inr (.inr (.inr ⟨s',reads,by simp⟩))
      · exact .inl (by simpa [same] using kept)
    | _ => exact .inl kept
  | @unmapped s' socket uuid' known _ owner =>
    by_cases same : uuid = uuid'
    · subst same
      exact .inr (.inr (.inl ⟨s',rfl,socket,known,owner⟩))
    · exact .inl (by simpa [same] using entry)
  | _ => exact .inl entry

/-- Entries leave the map only with their session. -/
theorem entry_kept {env : Env} {past : Past} {t : Transition World Event Reaction} {uuid : String} {s : SocketId}
    (moment : Moment env past t) (distinct : DistinctUuids past) (entry : t.before.connectMap uuid = some s)
    (running : t.event ≠ .stop) : t.after.connectMap uuid = some s ∨ Over t.after uuid s := by
  have owns := moment.sound.entry entry
  rcases entry_fate moment.move entry running with kept | ⟨w,m,e,event,read,named⟩ | ⟨s',event,owns'⟩ | ⟨s',reads,kept⟩
  · exact .inl kept
  · exact .inr (over_givenUp moment (.inl ⟨w,m,e,event,read,named,entry⟩))
  · obtain rfl := moment.unique distinct owns owns'
    exact .inr (over_givenUp moment (.inr ⟨owns,event⟩))
  · obtain rfl := moment.unique distinct owns (moment.sound.owns reads rfl)
    exact .inl kept

/-- A session stays where it is through every step that does not hit its websocket. -/
theorem placed_move {env : Env} {past : Past} {t : Transition World Event Reaction} {uuid : String} {w : WebSocketId}
    (moment : Moment env past t) (member : t ∈ past) (distinct : DistinctUuids past) (quieted : Quieted past)
    (spared : ∀ s, t.before.connectMap uuid = some s → ¬ Hits w t.event) (placed : Placed t.before uuid w) :
    Placed t.after uuid w := by
  obtain ⟨s,owns,⟨entry,online⟩ | lost⟩ := placed
  · have unhit := spared s entry
    have running : t.event ≠ .stop := by
      intro stops
      rw [stops] at unhit
      exact unhit trivial
    refine ⟨s,owns.keeps (keeps_move moment.move),?_⟩
    refine (entry_kept moment distinct entry running).imp (fun kept => ⟨kept,?_⟩) id
    rcases line_move moment.move with ⟨ws,webSockets⟩ | ⟨_,event⟩ | ⟨_,event⟩ | ⟨w',event⟩ | event
    · exact ⟨ws.trans online.1,(congrFun webSockets w).trans online.2⟩
    · rw [event] at unhit; exact (unhit trivial).elim
    · rw [event] at unhit; exact (unhit trivial).elim
    · have move := moment.move
      rw [event] at move unhit
      generalize t.reaction.outputs = outputs at move
      generalize t.after = after at move ⊢
      cases move
      exact ⟨online.1,by simpa [Ne.symm unhit] using online.2⟩
    · exact absurd event running
  · exact ⟨s,owns.keeps (keeps_move moment.move),.inr (over_move moment member distinct quieted lost)⟩

/-- A session that still reads is in the map, and its websocket is the current one. -/
theorem Placed.reads {past : Past} {t : Transition World Event Reaction} {env : Env} {uuid : String} {w : WebSocketId} {s : SocketId}
    {h : DataHandler} {buffer : Buffer} {draw : Draw} (placed : Placed t.before uuid w) (moment : Moment env past t)
    (member : t ∈ past) (distinct : DistinctUuids past) (quieted : Quieted past) (reads : Reads t.before s h)
    (made : DataHandler.uuid h = some uuid) (event : t.event = .data s buffer draw) : Online t.before w := by
  obtain ⟨s',owns,⟨-,online⟩ | lost⟩ := placed
  · exact online
  · obtain rfl := moment.unique distinct owns (moment.sound.owns reads made)
    obtain ⟨socket,known,still,-⟩ := reads
    obtain ⟨socket',known',ended⟩ := lost.ended
    cases known.symm.trans known'
    have quiet := quieted t member _ _ _ socket event known
    simp [quiet,still] at ended

/-! ### A run that no reconnect harms -/

/-- What such a run keeps: every session is in its place, those that sent RAW messages
    relay, and the messages of a session go the same way. -/
structure Settled (env : Env) (past : Past) (world : World) : Prop where
  placed : ∀ uuid w, ConnectSent env past uuid w → Placed world uuid w
  relaying : ∀ uuid w, RawSent env past uuid w → ∃ s, Relaying world uuid s
  together : ∀ uuid w w', RawSent env past uuid w → ConnectSent env past uuid w' → w = w'

theorem settled_move {env : Env} {past earlier : Past} {t : Transition World Event Reaction}
    (settled : Settled env earlier t.before) (moment : Moment env past t) (member : t ∈ past)
    (distinct : DistinctUuids past) (quieted : Quieted past)
    (canonical : ∀ uuid s, Accepted past uuid s → CanonicalUuid uuid)
    (unharmed : Unharmed env earlier t.before t.event) : Settled env (earlier ++ [t]) t.after := by
  have keeps := keeps_move moment.move
  refine ⟨?_,?_,?_⟩
  · intro uuid w sent
    rcases connectSent_snoc sent with old | ⟨m,host,port,now,read⟩
    · exact placed_move moment member distinct quieted (fun s entry => unharmed uuid s w entry old)
        (settled.placed uuid w old)
    · obtain ⟨-,online,s,_,_,-,reads,entry⟩ := connect_sent moment canonical now read
      exact ⟨s,(moment.sound.owns reads rfl).keeps keeps,.inl ⟨entry,online⟩⟩
  · intro uuid w sent
    rcases rawSent_snoc sent with old | ⟨m,payload,now,read⟩
    · obtain ⟨s,relaying⟩ := settled.relaying uuid w old
      exact ⟨s,relaying_move relaying moment.sound moment.move⟩
    · obtain ⟨s,_,-,⟨socket,known,-,handled⟩,-⟩ := raw_sent moment canonical now read
      exact ⟨s,relaying_move ⟨socket,known,handled⟩ moment.sound moment.move⟩
  · intro uuid w w' rawSent connectSent
    rcases rawSent_snoc rawSent with oldRaw | ⟨m,payload,now,read⟩
    · rcases connectSent_snoc connectSent with old | ⟨m,host,port,now,read⟩
      · exact settled.together uuid w w' oldRaw old
      · -- the socket of the uuid relays already
        obtain ⟨s,relaying⟩ := settled.relaying uuid w oldRaw
        obtain ⟨-,-,s',_,_,-,reads,-⟩ := connect_sent moment canonical now read
        obtain rfl := moment.unique distinct (relaying.owns moment.sound) (moment.sound.owns reads rfl)
        exact absurd reads relaying.not_reads
    · obtain ⟨s,draw,event,reads,-⟩ := raw_sent moment canonical now read
      rcases connectSent_snoc connectSent with old | ⟨m',host,port,now',read'⟩
      · have online := (settled.placed uuid w' old).reads moment member distinct quieted reads rfl event
        exact online_unique (send_move moment.move now).1 online
      · obtain ⟨-,-,s',_,_,event',reads',-⟩ := connect_sent moment canonical now' read'
        cases event.symm.trans event'
        cases reads.unique reads'

/-- In a run in which no websocket goes down and none is replaced while a session that
    began on it is in the map, every session keeps its websocket. -/
theorem sessions_affine (env : Env) {past : Past} {world : World} (trace : Trace env past world)
    (distinct : DistinctUuids past) (quieted : Quieted past)
    (canonical : ∀ uuid s, Accepted past uuid s → CanonicalUuid uuid)
    (unharmed : Obeys (Unharmed env) past) : Affine env past world := by
  have settled : Settled env past world := by
    refine (trace.history (I := Settled env) ⟨by simp [ConnectSent],by simp [RawSent],by simp [RawSent]⟩ ?_).2
    intro earlier t later whole settled
    have member : t ∈ past := by simp [whole]
    exact settled_move settled (trace_moment trace member) member distinct quieted canonical
      (unharmed earlier t later whole)
  refine ⟨settled.together,?_⟩
  intro uuid s w entry sent
  obtain ⟨s',-,⟨-,online⟩ | lost⟩ := settled.placed uuid w sent
  · exact online
  · simp [lost.unmapped] at entry

theorem sessions_affine_session : ∃ success raw past world,
    ConnectSuccess.create Platforms.env.platform Platforms.env.userInfo Platforms.uuid = pure success ∧
    RawData.create Platforms.env.platform Platforms.env.userInfo Platforms.uuid [4,5] = pure raw ∧
    execute (step Platforms.env) started
      [.loggedIn 0,.accepted 0 Platforms.uuid,.data 0 [0x05,0x01,0x00] Platforms.draw,
        .data 0 (request (.address ⟨10,0,0,1⟩) 80) Platforms.draw,.frame 0 success,.data 0 [1,2,3] Platforms.draw,
        .frame 0 raw] = some (past,world) ∧
    Affine Platforms.env past world := by
  obtain ⟨success,raw,m,m',created,created',-,executed⟩ := execute_session able_env Platforms.draw Platforms.canonical_uuid
    ⟨[0x00],by decide⟩ (d := .address ⟨10,0,0,1⟩) trivial 80 [1,2,3] [4,5]
  refine ⟨success,raw,_,_,created,created',executed,?_⟩
  refine sessions_affine Platforms.env (run_of_execute executed) session_distinct session_quieted
    (session_canonical Platforms.canonical_uuid) ?_
  simp [opening,relayed,Unharmed,Hits,started]

/-- After the second login. -/
private def moved (uuid : String) : World :=
  ((relaying uuid).setWebSocket 0 false).callLogin.setWebSocket 1 true |>.answerLogin.setWs 1

/-- The websocket fails while a session is under way: the next data goes out on the new
    websocket, whose server knows nothing of the session. -/
theorem session_moves : ∃ success past world,
    ConnectSuccess.create Platforms.env.platform Platforms.env.userInfo Platforms.uuid = pure success ∧
    execute (step Platforms.env) started
      [.loggedIn 0,.accepted 0 Platforms.uuid,.data 0 [0x05,0x01,0x00] Platforms.draw,
        .data 0 (request (.address ⟨10,0,0,1⟩) 80) Platforms.draw,.frame 0 success,.failed 0,.loggedIn 1,
        .data 0 [1,2,3] Platforms.draw] = some (past,world) ∧
    ¬ Affine Platforms.env past world := by
  obtain ⟨success,created,readable⟩ := connectSuccess_readable Platforms.aesKey_key Platforms.uuid
  have confirms : received? Platforms.env success = some (.connected ⟨Platforms.uuid⟩) :=
    received?_prefixed ⟨[],rfl,rfl⟩ readable
  obtain ⟨m,opens,asked⟩ := execute_opening able_env Platforms.draw Platforms.uuid ⟨[0x00],by decide⟩
    (d := .address ⟨10,0,0,1⟩) trivial 80
  have reads : Reads (moved Platforms.uuid) 0 (.relay Platforms.uuid) := by
    simp [Reads,moved,relaying,accepted,online,Socket.fresh]
  have isOnline : Online (moved Platforms.uuid) 1 := by simp [Online,moved]
  obtain ⟨m',sent,told⟩ := step_relayed Platforms.env reads Platforms.draw able_env isOnline Platforms.canonical_uuid [1,2,3]
  refine ⟨success,_,_,created,execute_append opens <|
    execute_of_step (step_connected Platforms.env (by simp [accepted,online]) confirms (by simp)) <|
    execute_of_step (step_failed Platforms.env (relaying_online Platforms.uuid)) <|
    execute_of_step (step_loggedIn Platforms.env (by simp) (by simp [accepted,online,started])) <|
    execute_of_step sent (execute.eq_1 _ _),?_⟩
  rintro ⟨together,-⟩
  have same := together Platforms.uuid 1 0
    ⟨_,List.mem_append_right _ (.tail _ (.tail _ (.tail _ (.head _)))),m',_,List.mem_singleton_self _,told⟩
    ⟨_,List.mem_append_left _ (.tail _ (.tail _ (.tail _ (.head _)))),m,_,_,List.mem_singleton_self _,asked⟩
  simp at same

end WSocks.Affinity
