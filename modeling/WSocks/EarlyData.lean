import WSocks.Chunks
import WSocks.Relay

/-!
# Early data

Until CONNECT_SUCCESS comes, the handler of a socket takes every chunk for a SOCKS
message. So bytes of the application are safe only behind it, and only in chunks
of their own.
-/

namespace WSocks.EarlyData
open WSocks.Runs WSocks.Effects WSocks.Text WSocks.Buffers WSocks.Libraries WSocks.Messages WSocks.Client
  WSocks.Handlers WSocks.Proxy WSocks.Traffic WSocks.Ownership WSocks.Relay WSocks.Socks
open WSocks.Sessions

/-- What a client sends before the bytes of its application. -/
def handshake (methods : Methods) (d : Destination) (port : UInt16) : Buffer := methods.greeting ++ request d port

/-- What the proxy should do for a connection whose first bytes are the handshake: one
    CONNECT message at most, no chunk with bytes of the application taken for a SOCKS
    message or answered, and all these bytes sent in their order. -/
structure Transparent (env : Env) (past : Past) (uuid : String) (s : SocketId) (hello application : Buffer) : Prop where
  once : (collect (connectFor env uuid) past).length ≤ 1
  untouched : ∀ earlier t later buffer draw, past = earlier ++ t :: later → t.event = .data s buffer draw →
    hello.length < (received s earlier ++ buffer).length →
    (∀ uuid', ¬ Reads t.before s (.bufferHandler uuid')) ∧ t.reaction.outputs.flatMap (writtenTo s) = []
  complete : collect (rawFor env uuid) past = (received s past).drop hello.length
  inOrder : collect (rawFor env uuid) past <+: application

/-- CONNECT_SUCCESS has come for the connection. -/
def Confirmed (env : Env) (past : Past) (uuid : String) (s : SocketId) : Prop :=
  ∃ t ∈ past, ∃ w m, t.event = .frame w m ∧ received? env m = some (.connected ⟨uuid⟩) ∧
    t.before.connectMap uuid = some s

/-- A chunk of the socket is a piece of the handshake that is not taken for a request to
    connect, or the rest of the handshake, or it comes after CONNECT_SUCCESS while the
    websocket is open. -/
def Orderly (env : Env) (uuid : String) (s : SocketId) (hello : Buffer) (past : Past) (world : World) : Event → Prop
  | .data s' buffer _ => s' = s →
    ((received s past ++ buffer).length < hello.length ∧ ∀ host port, SocksRequest.parse buffer ≠ .ok (.connect host port)) ∨
    ((received s past).length < hello.length ∧ (received s past ++ buffer).length = hello.length) ∨
    (hello.length ≤ (received s past).length ∧ Confirmed env past uuid s ∧ ∃ w, Online world w)
  | _ => True

/-! ### CONNECT messages -/

/-- No CONNECT message for a uuid is made but of a request of its socket. -/
theorem connect_elsewhere {env : Env} {past : Past} {t : Transition World Event Reaction} {uuid : String} {s : SocketId}
    (moment : Moment env past t) (distinct : DistinctUuids past) (accepted : Accepted past uuid s)
    (canonical : ∀ uuid s, Accepted past uuid s → CanonicalUuid uuid)
    (idle : ∀ buffer draw host port, t.event = .data s buffer draw → Reads t.before s (.bufferHandler uuid) →
      SocksRequest.parse buffer ≠ .ok (.connect host port)) :
    t.reaction.outputs.flatMap (connectFor env uuid) = [] := by
  rw [List.flatMap_eq_nil_iff]
  intro o member
  obtain ⟨before,event,reaction,after⟩ := t
  cases o with
  | send w m =>
    obtain ⟨-,sends⟩ := send_move moment.move member
    cases sends with
    | @connect s' uuid' _ _ _ _ reads parsed read =>
      by_cases same : uuid' = uuid
      · subst same
        have owns := moment.sound.owns reads rfl
        obtain rfl := distinct _ _ _ (moment.accepted _ _ owns) accepted
        exact absurd parsed (idle _ _ _ _ rfl reads)
      · simp [connectFor,read,same]
    | raw reads read =>
      have accepted' := moment.accepted _ _ (moment.sound.owns reads rfl)
      simp [connectFor,read (canonical _ _ accepted')]
    | dns _ _ read => simp [connectFor,read]
  | _ => rfl

/-- One step makes one CONNECT message at most. -/
theorem connect_once {env : Env} {world next : World} {event : Event} {outputs : List Output} {uuid : String}
    (move : Move env world event next outputs) : (outputs.flatMap (connectFor env uuid)).length ≤ 1 := by
  have silent : ∀ {outputs : List Output}, (∀ w m, .send w m ∉ outputs) → outputs.flatMap (connectFor env uuid) = [] := by
    intro outputs none
    rw [List.flatMap_eq_nil_iff]
    intro o member
    cases o with
    | send w m => exact absurd member (none w m)
    | _ => rfl
  have sent : ∀ (draw : Draw) message,
      ((transmission env draw world message).2.flatMap (connectFor env uuid)).length ≤ 1 := by
    intro draw message
    rcases transmission_single env draw world message with none | ⟨w,m,one⟩
    · simp [none]
    · simp only [one,List.flatMap_cons,List.flatMap_nil,List.append_nil,connectFor]
      split
      · split <;> simp
      · simp
  cases move with
  | failed _ quiet => rw [silent (fun w m member => quiet _ member)]; simp
  | periodic quiet => rw [silent (fun w m member => quiet _ member)]; simp
  | stop _ quiet => rw [silent (fun w m member => quiet _ member)]; simp
  | handled _ handled => cases handled <;> simp [connectFor]
  | @served s uuid' buffer _ _ _ _ served =>
    have screenedSilent : (screened world s buffer).2.flatMap (connectFor env uuid) = [] := by
      rw [screened]
      split <;> simp [connectFor]
    cases served with
    | unparsed => rw [screenedSilent]; simp
    | replied => rw [List.flatMap_append,screenedSilent]; simp [connectFor]
    | connected =>
      rw [List.flatMap_append,screenedSilent,List.nil_append]
      exact sent _ _
  | relayed => exact sent _ _
  | asked => exact sent _ _
  | _ => simp [connectFor]

/-! ### Before and after the handshake -/

/-- The chunk of the socket that an event reads, if any, is no request. -/
def Idle (t : Transition World Event Reaction) (uuid : String) (s : SocketId) : Prop :=
  ∀ buffer draw host port, t.event = .data s buffer draw → Reads t.before s (.bufferHandler uuid) →
    SocksRequest.parse buffer ≠ .ok (.connect host port)

/-- Nothing has been done for the connection yet. -/
def Unstarted (world : World) (uuid : String) (s : SocketId) : Prop :=
  world.connectMap uuid = none ∧ ¬ Relaying world uuid s

theorem unstarted_move {env : Env} {past : Past} {t : Transition World Event Reaction} {uuid : String} {s : SocketId}
    (moment : Moment env past t) (distinct : DistinctUuids past) (accepted : Accepted past uuid s)
    (unstarted : Unstarted t.before uuid s) (idle : Idle t uuid s) : Unstarted t.after uuid s := by
  refine ⟨?_,?_⟩
  · by_contra present
    obtain ⟨s',entry⟩ := Option.ne_none_iff_exists'.mp present
    rcases entry_move moment.move entry with before | ⟨buffer,draw,host,port,event,reads,parsed⟩
    · simp [unstarted.1] at before
    · obtain rfl := distinct _ _ _ (moment.accepted _ _ (moment.sound.owns reads rfl)) accepted
      exact idle _ _ _ _ event reads parsed
  · intro relaying
    rcases relaying_origin relaying moment.move with before | ⟨_,_,-,-,entry⟩
    · exact unstarted.2 before
    · simp [unstarted.1] at entry

theorem confirmed_move {env : Env} {past earlier : Past} {t : Transition World Event Reaction} {uuid : String}
    {s : SocketId} (moment : Moment env past t)
    (before : Confirmed env earlier uuid s → Relaying t.before uuid s)
    (confirmed : Confirmed env (earlier ++ [t]) uuid s) : Relaying t.after uuid s := by
  obtain ⟨u,member,w,m,event,read,entry⟩ := confirmed
  rcases List.mem_append.mp member with old | now
  · exact relaying_move (before ⟨u,old,w,m,event,read,entry⟩) moment.sound moment.move
  · obtain rfl := List.mem_singleton.mp now
    exact relaying_connected moment event read entry

/-- CONNECT_SUCCESS is read only by a client that can send. -/
theorem Confirmed.able {env : Env} {past : Past} {uuid : String} {s : SocketId} (confirmed : Confirmed env past uuid s) :
    Able env := by
  obtain ⟨t,-,w,m,-,read,-⟩ := confirmed
  exact able_of_connected read

/-- What an orderly run keeps: before the end of the handshake nothing is sent for the
    connection, behind it everything read is sent. -/
structure Settled (env : Env) (uuid : String) (s : SocketId) (hello : Buffer) (past : Past) (world : World) : Prop where
  once : (collect (connectFor env uuid) past).length ≤ 1
  complete : collect (rawFor env uuid) past = (received s past).drop hello.length
  unstarted : (received s past).length < hello.length →
    collect (connectFor env uuid) past = [] ∧ Unstarted world uuid s
  confirmed : Confirmed env past uuid s → Relaying world uuid s

section Orderly
variable {env : Env} {past earlier : Past} {t : Transition World Event Reaction} {uuid : String} {s : SocketId}
  {hello buffer : Buffer} {draw : Draw} (moment : Moment env past t) (distinct : DistinctUuids past)
  (canonical : ∀ uuid s, Accepted past uuid s → CanonicalUuid uuid) (accepted : Accepted past uuid s)
  (settled : Settled env uuid s hello earlier t.before)
include moment distinct canonical accepted settled

/-- Events that read nothing from the socket. -/
private theorem settled_elsewhere (elsewhere : ∀ buffer draw, t.event ≠ .data s buffer draw) :
    Settled env uuid s hello (earlier ++ [t]) t.after := by
  have idle : Idle t uuid s := fun _ _ _ _ event => absurd event (elsewhere _ _)
  have noConnect := connect_elsewhere moment distinct accepted canonical idle
  have noRaw := raw_elsewhere moment distinct canonical accepted (fun _ _ event => absurd event (elsewhere _ _))
  have nothing : readFrom s t.event = [] := by
    cases event : t.event with
    | data s' buffer draw =>
      have other : s' ≠ s := by rintro rfl; exact elsewhere _ _ event
      simp [readFrom,other]
    | _ => rfl
  refine ⟨by simpa [noConnect] using settled.once,by simpa [noRaw,nothing] using settled.complete,?_,
    confirmed_move moment settled.confirmed⟩
  intro short
  obtain ⟨none,unstarted⟩ := settled.unstarted (by simpa [nothing] using short)
  exact ⟨by simpa [noConnect] using none,unstarted_move moment distinct accepted unstarted idle⟩

/-- A piece of the handshake that is no request. -/
private theorem settled_piece (event : t.event = .data s buffer draw)
    (inside : (received s earlier ++ buffer).length < hello.length)
    (other : ∀ host port, SocksRequest.parse buffer ≠ .ok (.connect host port)) :
    Settled env uuid s hello (earlier ++ [t]) t.after := by
  have idle : Idle t uuid s := by
    intro buffer' draw' host port event' _
    cases event.symm.trans event'
    exact other host port
  have read : readFrom s t.event = buffer := by simp [event,readFrom]
  rw [List.length_append] at inside
  obtain ⟨none,unstarted⟩ := settled.unstarted (by omega)
  have noConnect := connect_elsewhere moment distinct accepted canonical idle
  have noRaw := raw_elsewhere moment distinct canonical accepted (by
    rintro _ _ _ ⟨socket,known,_,handled⟩
    exact unstarted.2 ⟨socket,known,handled⟩)
  have before := settled.complete
  rw [List.drop_eq_nil_of_le (by omega)] at before
  refine ⟨by simp [none,noConnect],?_,?_,confirmed_move moment settled.confirmed⟩
  · rw [List.drop_eq_nil_of_le (by simp [read]; omega)]
    simp [before,noRaw]
  · exact fun _ => ⟨by simp [none,noConnect],unstarted_move moment distinct accepted unstarted idle⟩

/-- The rest of the handshake. -/
private theorem settled_rest (event : t.event = .data s buffer draw)
    (begun : (received s earlier).length < hello.length)
    (whole : (received s earlier ++ buffer).length = hello.length) :
    Settled env uuid s hello (earlier ++ [t]) t.after := by
  have read : readFrom s t.event = buffer := by simp [event,readFrom]
  rw [List.length_append] at whole
  obtain ⟨none,unstarted⟩ := settled.unstarted begun
  have noRaw := raw_elsewhere moment distinct canonical accepted (by
    rintro _ _ _ ⟨socket,known,_,handled⟩
    exact unstarted.2 ⟨socket,known,handled⟩)
  have before := settled.complete
  rw [List.drop_eq_nil_of_le (by omega)] at before
  refine ⟨by simpa [none] using connect_once moment.move,?_,?_,confirmed_move moment settled.confirmed⟩
  · rw [List.drop_eq_nil_of_le (by simp [read]; omega)]
    simp [before,noRaw]
  · intro short
    simp [read] at short
    omega

/-- Bytes of the application. -/
private theorem settled_application (behind : hello.length ≤ (received s earlier).length) (confirmed : Confirmed env earlier uuid s)
    (online : ∃ w, Online t.before w) : Settled env uuid s hello (earlier ++ [t]) t.after := by
  have relaying := settled.confirmed confirmed
  have noConnect := connect_elsewhere moment distinct accepted canonical
    (fun _ _ _ _ _ reads => absurd reads relaying.not_reads)
  have raw := raw_eq_read confirmed.able moment distinct canonical relaying (fun _ _ _ => online)
  refine ⟨by simpa [noConnect] using settled.once,?_,?_,confirmed_move moment settled.confirmed⟩
  · simp [settled.complete,raw,List.drop_append_of_le_length behind]
  · intro short
    simp at short
    omega

end Orderly

/-- In a run in which the chunks of a connection are orderly, the proxy is transparent
    to it. -/
theorem early_data_transparent (env : Env) {past : Past} {world : World} (trace : Trace env past world)
    (distinct : DistinctUuids past) (canonical : ∀ uuid s, Accepted past uuid s → CanonicalUuid uuid) {uuid : String}
    {s : SocketId} (accepted : Accepted past uuid s) (methods : Methods) (d : Destination) (port : UInt16)
    {application : Buffer} (stream : received s past <+: handshake methods d port ++ application)
    (orderly : Obeys (Orderly env uuid s (handshake methods d port)) past) :
    Transparent env past uuid s (handshake methods d port) application := by
  generalize handshake methods d port = hello at stream orderly ⊢
  have settled : (∀ earlier t later, past = earlier ++ t :: later → Settled env uuid s hello earlier t.before) ∧
      Settled env uuid s hello past world := by
    refine trace.history (I := Settled env uuid s hello) ?_ ?_
    · exact ⟨by simp,by simp,fun _ => ⟨by simp,by simp [started],by simp [Relaying,started]⟩,by simp [Confirmed]⟩
    · intro earlier t later whole settled
      have moment := trace_moment (t := t) trace (by simp [whole])
      have here := orderly earlier t later whole
      by_cases mine : ∃ buffer draw, t.event = .data s buffer draw
      · obtain ⟨buffer,draw,event⟩ := mine
        rw [event] at here
        rcases here rfl with ⟨inside,other⟩ | ⟨begun,whole⟩ | ⟨behind,confirmed,online⟩
        · exact settled_piece moment distinct canonical accepted settled event inside other
        · exact settled_rest moment distinct canonical accepted settled event begun whole
        · exact settled_application moment distinct canonical accepted settled behind confirmed online
      · exact settled_elsewhere moment distinct canonical accepted settled
          (fun buffer draw event => mine ⟨buffer,draw,event⟩)
  refine ⟨settled.2.once,?_,settled.2.complete,?_⟩
  · intro earlier t later buffer draw whole event behind
    have here := orderly earlier t later whole
    rw [event] at here
    rcases here rfl with ⟨inside,-⟩ | ⟨-,exact⟩ | ⟨-,confirmed,-⟩
    · omega
    · omega
    · have relaying := (settled.1 earlier t later whole).confirmed confirmed
      refine ⟨fun _ => relaying.not_reads,?_⟩
      have moment := trace_moment (t := t) trace (by simp [whole])
      have move := moment.move
      rw [event] at move
      obtain ⟨message,-,same⟩ := relayed_move move relaying (canonical _ _ accepted)
      rcases transmission_single env draw t.before message with none | ⟨w,m,one⟩
      · simp [same,none]
      · simp [same,one,writtenTo]
  · rw [settled.2.complete]
    obtain ⟨rest,whole⟩ := stream
    have split := congrArg (List.drop hello.length) whole
    rw [List.drop_left] at split
    rw [← split]
    exact List.IsPrefix.drop (List.prefix_append _ _) _

/-! ### Data behind the handshake and before its end -/

private theorem one_method : [(0x00 : UInt8)].length < 128 := by decide
private def methods : Methods := ⟨[0x00],one_method⟩
private def destination : Destination := .address ⟨10,0,0,1⟩

private theorem session_orderly {m m' success raw back : Buffer} {draw : Draw} {uuid : String}
    (confirms : received? Platforms.env success = some (.connected ⟨uuid⟩)) :
    Obeys (Orderly Platforms.env uuid 0 (handshake methods destination 80))
      (session uuid methods destination 80 draw m success raw [1,2,3] back m') := by
  have greeting : ∀ host port, SocksRequest.parse methods.greeting ≠ .ok (.connect host port) := by
    simp [parse_greeting]
  simp only [session,opening,relayed,List.cons_append,List.nil_append,obeys_cons,obeys_nil,Orderly,true_and,and_true,
    forall_const]
  refine ⟨.inl ⟨?_,greeting⟩,.inr (.inl ⟨?_,?_⟩),.inr (.inr ⟨?_,?_,0,relaying_online uuid⟩)⟩
  · exact (by decide : 3 < 13)
  · exact (by decide : 3 < 13)
  · exact (rfl : 13 = 13)
  · exact (le_refl 13)
  · exact ⟨_,.tail _ (.tail _ (.tail _ (.tail _ (.head _)))),0,success,rfl,confirms,by simp⟩

theorem early_data_transparent_session : ∃ success raw past world,
    ConnectSuccess.create Platforms.env.platform Platforms.env.userInfo Platforms.uuid = pure success ∧
    RawData.create Platforms.env.platform Platforms.env.userInfo Platforms.uuid [4,5] = pure raw ∧
    execute (step Platforms.env) started
      [.loggedIn 0,.accepted 0 Platforms.uuid,.data 0 methods.greeting Platforms.draw,
        .data 0 (request destination 80) Platforms.draw,.frame 0 success,.data 0 [1,2,3] Platforms.draw,
        .frame 0 raw] = some (past,world) ∧
    Transparent Platforms.env past Platforms.uuid 0 (handshake methods destination 80) [1,2,3] := by
  obtain ⟨success,raw,m,m',created,created',confirms,executed⟩ := execute_session able_env Platforms.draw
    Platforms.canonical_uuid methods (d := destination) trivial 80 [1,2,3] [4,5]
  refine ⟨success,raw,_,_,created,created',executed,?_⟩
  refine early_data_transparent Platforms.env (run_of_execute executed) session_distinct
    (session_canonical Platforms.canonical_uuid) ⟨_,.tail _ (.head _),rfl⟩ methods destination 80 ?_
    (session_orderly confirms)
  exact ⟨[],rfl⟩

/-- A client sends the first bytes of its application, which look like a greeting, behind
    the request at once: they are answered and never reach the server. -/
theorem early_greeting_answered : ∃ past world,
    execute (step Platforms.env) started
      [.loggedIn 0,.accepted 0 Platforms.uuid,.data 0 methods.greeting Platforms.draw,
        .data 0 (request destination 80) Platforms.draw,.data 0 [0x05,0x01,0x00] Platforms.draw] = some (past,world) ∧
    ¬ Transparent Platforms.env past Platforms.uuid 0 (handshake methods destination 80) [0x05,0x01,0x00] := by
  obtain ⟨m,opens,-⟩ := execute_opening able_env Platforms.draw Platforms.uuid methods (d := destination) trivial 80
  have reads : Reads ((accepted Platforms.uuid).connect Platforms.uuid 0) 0 (.bufferHandler Platforms.uuid) :=
    accepted_reads Platforms.uuid
  refine ⟨_,_,execute_append opens <| execute_of_step (step_greeting Platforms.env reads Platforms.draw methods)
    (execute.eq_1 _ _),?_⟩
  rintro ⟨-,untouched,-,-⟩
  have answered := (untouched _ _ [] _ _ rfl rfl (by decide : 13 < 16)).2
  simp [writtenTo] at answered

end WSocks.EarlyData
