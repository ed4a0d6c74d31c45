import WSocks.Proxy

/-!
# Traffic

What a past says about the bytes and the messages that went in and out: the bytes
read from a socket and written to it, and the messages sent to the server, read
the way the server reads them.
-/

namespace WSocks.Traffic
open WSocks.Runs WSocks.Effects WSocks.Text WSocks.Buffers WSocks.Libraries WSocks.Messages WSocks.Client
  WSocks.Handlers WSocks.Proxy

/-- What a past makes of its outputs, one after another. -/
def collect {β : Type} (f : Output → List β) (past : Past) : List β :=
  past.flatMap (fun t => t.reaction.outputs.flatMap f)

@[simp] theorem collect_nil {β : Type} (f : Output → List β) : collect f [] = [] := rfl
@[simp] theorem collect_append {β : Type} (f : Output → List β) (past later : Past) :
    collect f (past ++ later) = collect f past ++ collect f later := List.flatMap_append
@[simp] theorem collect_cons {β : Type} (f : Output → List β) (t : Transition World Event Reaction) (past : Past) :
    collect f (t :: past) = t.reaction.outputs.flatMap f ++ collect f past := by simp [collect]

/-- The bytes that an output writes to a socket. -/
def writtenTo (s : SocketId) : Output → Buffer
  | .write s' bytes => if s' = s then bytes else []
  | _ => []

/-- The message that an output sends, as the server reads it. -/
def message (env : Env) : Output → List (Option Upstream)
  | .send _ m => [upstream? env.platform env.userInfo m]
  | _ => []

/-- The payload of a RAW message for a uuid. -/
def rawFor (env : Env) (uuid : String) : Output → Buffer
  | .send _ m =>
    match upstream? env.platform env.userInfo m with
    | some (.raw uuid' data) => if uuid' = uuid then data else []
    | _ => []
  | _ => []

/-- The destination in a CONNECT message for a uuid. -/
def connectFor (env : Env) (uuid : String) : Output → List (Option String × Option Int32)
  | .send _ m =>
    match upstream? env.platform env.userInfo m with
    | some (.connect host port (some uuid')) => if uuid' = uuid then [(host,port)] else []
    | _ => []
  | _ => []

/-- The bytes that an event reads from a socket. -/
def readFrom (s : SocketId) : Event → Buffer
  | .data s' buffer _ => if s' = s then buffer else []
  | _ => []

/-- All bytes read from a socket. -/
def received (s : SocketId) (past : Past) : Buffer := past.flatMap (fun t => readFrom s t.event)

@[simp] theorem received_nil (s : SocketId) : received s [] = [] := rfl
@[simp] theorem received_append (s : SocketId) (past later : Past) :
    received s (past ++ later) = received s past ++ received s later := List.flatMap_append
@[simp] theorem received_cons (s : SocketId) (t : Transition World Event Reaction) (past : Past) :
    received s (t :: past) = readFrom s t.event ++ received s past := by simp [received]

/-- No step of the past ended with an exception. -/
def Calm (past : Past) : Prop := ∀ t ∈ past, t.reaction.raised = none

@[simp] theorem calm_nil : Calm [] := by simp [Calm]
@[simp] theorem calm_cons (t : Transition World Event Reaction) (past : Past) :
    Calm (t :: past) ↔ t.reaction.raised = none ∧ Calm past := by simp [Calm]

/-! ### Who sends and who writes -/

/-- The kinds of messages that a chunk of a local client can cause. -/
inductive Sends (env : Env) (world : World) (m : Buffer) : Event → Prop
  | connect {s : SocketId} {uuid host : String} {port : Int32} {buffer : Buffer} {draw : Draw} :
      Reads world s (.bufferHandler uuid) → SocksRequest.parse buffer = .ok (.connect host port) →
      upstream? env.platform env.userInfo m = some (.connect (some host) (some port) (some uuid)) →
      Sends env world m (.data s buffer draw)
  | raw {s : SocketId} {uuid : String} {buffer : Buffer} {draw : Draw} : Reads world s (.relay uuid) →
      (CanonicalUuid uuid → upstream? env.platform env.userInfo m = some (.raw uuid buffer)) →
      Sends env world m (.data s buffer draw)
  | dns {s : SocketId} {offset : Int} {sb : String} {buffer : Buffer} {draw : Draw} : Reads world s .handleQuery →
      getName buffer 14 "" = .ok (offset,sb) →
      upstream? env.platform env.userInfo m = some (.dns (some (removeDot sb)) (some draw.uuid)) →
      Sends env world m (.data s buffer draw)

private theorem quiet_send {outputs : List Output} {w : WebSocketId} {m : Buffer} (quiet : ∀ o ∈ outputs, Quiet o)
    (member : .send w m ∈ outputs) : False := quiet _ member

/-- A message goes out on the current websocket, and only for a chunk of a local client. -/
theorem send_move {env : Env} {world next : World} {event : Event} {outputs : List Output} {w : WebSocketId} {m : Buffer}
    (move : Move env world event next outputs) (member : .send w m ∈ outputs) :
    Online world w ∧ Sends env world m event := by
  cases move with
  | failed _ quiet => exact (quiet_send quiet member).elim
  | periodic quiet => exact (quiet_send quiet member).elim
  | stop _ quiet => exact (quiet_send quiet member).elim
  | handled _ handled => cases handled <;> simp at member
  | @served s uuid buffer draw _ _ reads served =>
    have screenedSilent : .send w m ∉ (screened world s buffer).2 := by
      rw [screened]
      split <;> simp
    cases served with
    | unparsed => exact absurd member screenedSilent
    | replied => simp [screenedSilent] at member
    | connected parsed made =>
      have sent := (List.mem_append.mp member).resolve_left screenedSilent
      obtain ⟨w',frame,online,-,-,same,-⟩ := mem_transmission sent
      cases same
      exact ⟨online,.connect reads parsed ((clientConnect_carries draw world made).2 w _ sent)⟩
  | relayed reads made =>
    obtain ⟨w',frame,online,-,-,same,-⟩ := mem_transmission member
    cases same
    exact ⟨online,.raw reads (fun canonical => (rawData_carries _ world canonical made).2 w _ member)⟩
  | asked reads named made =>
    obtain ⟨w',frame,online,-,-,same,-⟩ := mem_transmission member
    cases same
    exact ⟨online,.dns reads named ((dnsQuery_carries _ world made).2 w _ member)⟩
  | _ => simp at member

/-- A request to connect enters the socket into the map. -/
theorem connect_move {env : Env} {world next : World} {s : SocketId} {uuid host : String} {port : Int32}
    {buffer : Buffer} {draw : Draw} {outputs : List Output} (move : Move env world (.data s buffer draw) next outputs)
    (reads : Reads world s (.bufferHandler uuid)) (parsed : SocksRequest.parse buffer = .ok (.connect host port)) :
    next.connectMap uuid = some s := by
  cases move with
  | served reads' served =>
    cases reads.unique reads'
    cases served with
    | unparsed unparsed => simp [parsed] at unparsed
    | replied parsed' other =>
      cases parsed.symm.trans parsed'
      exact absurd rfl (other _ _)
    | connected => simp
  | relayed reads' => cases reads.unique reads'
  | unnamed reads' => cases reads.unique reads'
  | asked reads' => cases reads.unique reads'

/-- A frame writes only to sockets that the maps know. -/
theorem frame_write {env : Env} {world next : World} {outputs : List Output} {w : WebSocketId} {m bytes : Buffer}
    {s : SocketId} (move : Move env world (.frame w m) next outputs) (member : .write s bytes ∈ outputs) :
    (∃ uuid, world.connectMap uuid = some s) ∨ ∃ uuid query, world.dnsQueryMap uuid = some (s,query) := by
  cases move with
  | unread => simp at member
  | handled _ handled =>
    cases handled with
    | connected entry =>
      obtain ⟨rfl,-⟩ : s = _ ∧ _ := by simpa using member
      exact .inl ⟨_,entry⟩
    | raw entry =>
      obtain ⟨rfl,-⟩ : s = _ ∧ _ := by simpa using member
      exact .inl ⟨_,entry⟩
    | answered _ entry _ =>
      obtain ⟨rfl,-⟩ : s = _ ∧ _ := by simpa using member
      exact .inr ⟨_,_,entry⟩
    | _ => simp at member

/-- A frame for a uuid that is not known changes nothing. -/
theorem unknown_frame {env : Env} {world next : World} {outputs : List Output} {w : WebSocketId} {m : Buffer}
    {r : Received} (move : Move env world (.frame w m) next outputs) (read : received? env m = some r)
    (unknown : ¬ Known world r) : next = world ∧ outputs = [] := by
  cases move with
  | unread unread => simp [read] at unread
  | handled read' handled =>
    cases read.symm.trans read'
    cases handled with
    | unknown => exact ⟨rfl,rfl⟩
    | connected entry => simp [Known,entry] at unknown
    | exception named entry => simp [Known,named,entry] at unknown
    | raw entry => simp [Known,entry] at unknown
    | answered named entry => simp [Known,named,entry] at unknown
    | unanswered named entry => simp [Known,named,entry] at unknown

/-- Only the websocket's own events change which websocket is current or open. -/
theorem line_move {env : Env} {world next : World} {event : Event} {outputs : List Output}
    (move : Move env world event next outputs) :
    (next.ws = world.ws ∧ next.webSockets = world.webSockets) ∨ (∃ w, event = .loggedIn w) ∨
      (∃ w, event = .failed w) ∨ (∃ w, event = .disconnected w) ∨ event = .stop := by
  cases move with
  | loggedIn => exact .inr (.inl ⟨_,rfl⟩)
  | failed => exact .inr (.inr (.inl ⟨_,rfl⟩))
  | disconnected => exact .inr (.inr (.inr (.inl ⟨_,rfl⟩)))
  | stop => exact .inr (.inr (.inr (.inr rfl)))
  | handled _ handled => cases handled <;> exact .inl ⟨rfl,rfl⟩
  | served _ served =>
    refine .inl ?_
    cases served <;> (simp only [screened]; split <;> exact ⟨rfl,rfl⟩)
  | _ => exact .inl ⟨rfl,rfl⟩

end WSocks.Traffic
