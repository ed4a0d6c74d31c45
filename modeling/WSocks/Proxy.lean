import WSocks.Runs
import WSocks.Handlers

/-!
# The proxy

The client as a transition system: Vert.x delivers one event at a time, in any
order that its sockets and websockets allow, and every event runs one handler to
its end. An exception that leaves a handler is logged and nothing else.
-/

namespace WSocks.Proxy
open WSocks.Runs WSocks.Effects WSocks.Text WSocks.Buffers WSocks.Libraries WSocks.Messages WSocks.Client
  WSocks.Handlers

/-- What can happen to the client. -/
inductive Event
  | loggedIn (w : WebSocketId)
  | loginFailed
  | failed (w : WebSocketId)
  | disconnected (w : WebSocketId)
  | frame (w : WebSocketId) (message : Buffer)
  | accepted (s : SocketId) (uuid : String)
  | queryAccepted (s : SocketId)
  | data (s : SocketId) (buffer : Buffer) (draw : Draw)
  | closed (s : SocketId)
  | periodic
  | stop

/-- What the client answers: its outputs, and the exception that ended its handler. -/
structure Reaction where
  outputs : List Output
  raised : Option Failure

/-- The handler that an event runs, with the change that Vert.x makes first;
    `none` when the event cannot happen. -/
def react (env : Env) (world : World) : Event → Option (Handler Unit)
  | .loggedIn w =>
    if world.logins = 0 ∨ world.webSockets w ≠ none then none
    else some (do
      Action.modify (fun world => (world.setWebSocket w true).answerLogin)
      webSocketConnected w)
  | .loginFailed =>
    if world.logins = 0 then none else some (Action.modify (fun world => world.answerLogin))
  | .failed w => if world.webSockets w = none then none else some (exceptionHandler env)
  | .disconnected w =>
    if world.webSockets w = none then none else some (Action.modify (fun world => world.setWebSocket w false))
  | .frame w message => if world.webSockets w = none then none else some (binaryMessageHandler env message)
  | .accepted s uuid =>
    if world.sockets s ≠ none then none
    else some (do
      Action.modify (fun world => world.openSocket s Socket.fresh)
      socksConnectHandler s uuid)
  | .queryAccepted s =>
    if world.sockets s ≠ none then none
    else some (do
      Action.modify (fun world => world.openSocket s Socket.fresh)
      dnsConnectHandler s)
  | .data s buffer draw =>
    match world.sockets s with
    | some ⟨some h,_,_,false⟩ => some (dataHandler env draw s buffer h)
    | _ => none
  | .closed s =>
    match world.sockets s with
    | some ⟨_,onClose,_,false⟩ => some (do
      Action.modify (fun world => world.updateSocket s Socket.gone)
      closeHandler onClose)
    | _ => none
  | .periodic => some periodic
  | .stop => some (stop env)

/-- The exception that a handler ended with. -/
def raised : Except Failure Unit → Option Failure
  | .ok _ => none
  | .error failure => some failure

/-- One event. A handler that never ends stops the event loop: then there is no step. -/
def step (env : Env) (world : World) (event : Event) : Option (World × Reaction) := do
  let h ← react env world event
  let (result,next,outputs) ← h.run world
  return (next,⟨outputs,raised result⟩)

/-- The state after `start`, which has called `login`. -/
def started : World := ⟨fun _ => none,fun _ => none,fun _ => none,none,fun _ => none,1⟩

abbrev Past := List (Transition World Event Reaction)

/-- The transitions that lead from the start of the client to a state. -/
abbrev Trace (env : Env) (past : Past) (world : World) : Prop := Run (step env) started past world

/-- A step runs the handler of its event. -/
theorem step_ran {env : Env} {world next : World} {event : Event} {reaction : Reaction}
    (taken : step env world event = some (next,reaction)) :
    ∃ h result, react env world event = some h ∧ h.run world = some (result,next,reaction.outputs) ∧
      reaction.raised = raised result := by
  simp only [step,Option.bind_eq_bind,Option.bind_eq_some_iff,Option.pure_def,Option.some.injEq,Prod.mk.injEq] at taken
  obtain ⟨h,handled,⟨result,next',outputs⟩,ran,rfl,rfl⟩ := taken
  exact ⟨h,result,handled,ran,rfl⟩

/-- So a step satisfies whatever its handler ensures. -/
theorem step_ensures {env : Env} {world next : World} {event : Event} {reaction : Reaction} {h : Handler Unit}
    {Q : Except Failure Unit → World → List Output → Prop} (taken : step env world event = some (next,reaction))
    (handled : react env world event = some h) (ensures : h.Ensures world Q) :
    ∃ result, Q result next reaction.outputs ∧ reaction.raised = raised result := by
  obtain ⟨h',result,handled',ran,raises⟩ := step_ran taken
  obtain rfl : h = h' := Option.some.inj (handled.symm.trans handled')
  exact ⟨result,ensures _ _ _ ran,raises⟩

/-! ### What a step can do -/

/-- A socket that may still read. -/
def Reads (world : World) (s : SocketId) (h : DataHandler) : Prop :=
  ∃ socket, world.sockets s = some socket ∧ socket.closed = false ∧ socket.handler = some h

/-- A socket has one handler. -/
theorem Reads.unique {world : World} {s : SocketId} {h h' : DataHandler} (left : Reads world s h)
    (right : Reads world s h') : h = h' := by
  obtain ⟨socket,known,-,handled⟩ := left
  obtain ⟨socket',known',-,handled'⟩ := right
  cases known.symm.trans known'
  exact Option.some.inj (handled.symm.trans handled')

/-- A socket that reads runs its handler. -/
theorem react_reads {env : Env} {world : World} {s : SocketId} {h : DataHandler} (reads : Reads world s h)
    (buffer : Buffer) (draw : Draw) : react env world (.data s buffer draw) = some (dataHandler env draw s buffer h) := by
  obtain ⟨⟨_,_,_,_⟩,known,rfl,rfl⟩ := reads
  simp [react,known]

/-- Every step, by the event and the part of the state that decides it. -/
inductive Move (env : Env) (world : World) : Event → World → List Output → Prop
  | loggedIn {w : WebSocketId} : world.webSockets w = none →
      Move env world (.loggedIn w) ((world.setWebSocket w true).answerLogin.setWs w) [.ping w]
  | loginFailed : Move env world .loginFailed world.answerLogin []
  | failed {w : WebSocketId} {next : World} {outputs : List Output} : MapsKept world next →
      (∀ o ∈ outputs, Quiet o) → Move env world (.failed w) next outputs
  | disconnected {w : WebSocketId} : Move env world (.disconnected w) (world.setWebSocket w false) []
  | unread {w : WebSocketId} {message : Buffer} : received? env message = none →
      Move env world (.frame w message) world []
  | handled {w : WebSocketId} {message : Buffer} {received : Received} {next : World} {outputs : List Output} :
      received? env message = some received → Handled env world received next outputs →
      Move env world (.frame w message) next outputs
  | refused {s : SocketId} {uuid : String} : world.sockets s = none → world.ws = none →
      Move env world (.accepted s uuid) (world.openSocket s Socket.fresh.shut) [.close s]
  | accepted {s : SocketId} {uuid : String} : world.sockets s = none → world.ws ≠ none →
      Move env world (.accepted s uuid)
        (world.openSocket s ((Socket.fresh.handle (.bufferHandler uuid)).onClose uuid)) []
  | queryAccepted {s : SocketId} : world.sockets s = none →
      Move env world (.queryAccepted s) (world.openSocket s (Socket.fresh.handle .handleQuery)) []
  | served {s : SocketId} {uuid : String} {buffer : Buffer} {draw : Draw} {next : World} {outputs : List Output} :
      Reads world s (.bufferHandler uuid) → Served env draw world uuid s buffer next outputs →
      Move env world (.data s buffer draw) next outputs
  | relayed {s : SocketId} {uuid : String} {buffer : Buffer} {draw : Draw} {message : Except Failure Buffer} :
      Reads world s (.relay uuid) → (RawData.create env.platform env.userInfo uuid buffer).run = some message →
      Move env world (.data s buffer draw) world (transmission env draw world message).2
  | unnamed {s : SocketId} {buffer : Buffer} {draw : Draw} {failure : Failure} : Reads world s .handleQuery →
      getName buffer 14 "" = .error failure → Move env world (.data s buffer draw) world []
  | asked {s : SocketId} {buffer : Buffer} {draw : Draw} {offset : Int} {sb : String}
      {message : Except Failure Buffer} : Reads world s .handleQuery → getName buffer 14 "" = .ok (offset,sb) →
      (DnsQuery.create env.platform env.userInfo draw.uuid (removeDot sb)).run = some message →
      Move env world (.data s buffer draw) (world.ask draw.uuid s buffer) (transmission env draw world message).2
  | closed {s : SocketId} {socket : Socket} : world.sockets s = some socket → socket.closed = false →
      socket.closeHandler = none → Move env world (.closed s) (world.updateSocket s Socket.gone) []
  | unmapped {s : SocketId} {socket : Socket} {uuid : String} : world.sockets s = some socket →
      socket.closed = false → socket.closeHandler = some uuid →
      Move env world (.closed s) ((world.updateSocket s Socket.gone).disconnect uuid) []
  | periodic {outputs : List Output} : (∀ o ∈ outputs, Quiet o) → Move env world .periodic world outputs
  | stop {next : World} {outputs : List Output} : MapsKept world next ∨ MapsKept world.clear next →
      (∀ o ∈ outputs, Quiet o) → Move env world .stop next outputs

variable {env : Env} {world next : World} {reaction : Reaction}

/-- An action whose run is known makes that step. -/
theorem step_eq_of_run {env : Env} {world next : World} {event : Event} {h : Handler Unit}
    {result : Except Failure Unit} {outputs : List Output} (handled : react env world event = some h)
    (ran : h.run world = some (result,next,outputs)) :
    step env world event = some (next,⟨outputs,raised result⟩) := by
  simp [step,handled,ran]

/-- And no other. -/
private theorem step_of_run {event : Event} {h : Handler Unit} {result : Except Failure Unit} {next' : World}
    {outputs : List Output} (taken : step env world event = some (next,reaction))
    (handled : react env world event = some h) (ran : h.run world = some (result,next',outputs)) :
    next = next' ∧ reaction = ⟨outputs,raised result⟩ := by
  simpa [step,handled,ran,eq_comm] using taken

private theorem data_move {s : SocketId} {buffer : Buffer} {draw : Draw}
    (taken : step env world (.data s buffer draw) = some (next,reaction)) :
    Move env world (.data s buffer draw) next reaction.outputs := by
  obtain ⟨h,result,handled,ran,-⟩ := step_ran taken
  have given := handled
  simp only [react] at handled
  split at handled
  · rename_i handler _ _ known
    obtain rfl := Option.some.inj handled
    have reads : Reads world s handler := ⟨_,known,rfl,rfl⟩
    cases handler with
    | bufferHandler uuid =>
      exact .served reads (bufferHandler_served env draw world uuid s buffer _ _ _ ran)
    | relay uuid =>
      obtain ⟨message,made⟩ := rawData_run env uuid buffer
      obtain ⟨rfl,rfl⟩ := step_of_run taken given (relay_run env draw uuid buffer world made)
      exact .relayed reads made
    | handleQuery =>
      rcases handleQuery_run env draw s buffer world with ⟨failure,unnamed,ran'⟩ | ⟨offset,sb,message,named,made,ran'⟩
      · obtain ⟨rfl,rfl⟩ := step_of_run taken given ran'
        exact .unnamed reads unnamed
      · obtain ⟨rfl,rfl⟩ := step_of_run taken given ran'
        exact .asked reads named made
  · simp at handled

private theorem accepted_move {s : SocketId} {uuid : String}
    (taken : step env world (.accepted s uuid) = some (next,reaction)) :
    Move env world (.accepted s uuid) next reaction.outputs := by
  by_cases free : world.sockets s = none
  · by_cases unconnected : world.ws = none
    · simp [step,react,free,socksConnectHandler,close,unconnected] at taken
      obtain ⟨rfl,rfl⟩ := taken
      exact .refused free unconnected
    · simp [step,react,free,socksConnectHandler,setHandler,unconnected] at taken
      obtain ⟨rfl,rfl⟩ := taken
      exact .accepted free unconnected
  · simp [step,react,free] at taken

private theorem closed_move {s : SocketId} (taken : step env world (.closed s) = some (next,reaction)) :
    Move env world (.closed s) next reaction.outputs := by
  simp only [step,react] at taken
  split at taken
  · rename_i handler onClose closing known
    cases onClose with
    | none =>
      simp [closeHandler] at taken
      obtain ⟨rfl,rfl⟩ := taken
      exact .closed known rfl rfl
    | some uuid =>
      simp [closeHandler] at taken
      obtain ⟨rfl,rfl⟩ := taken
      exact .unmapped known rfl rfl
  · simp at taken

/-- Every step is a move. -/
theorem step_move {event : Event} (taken : step env world event = some (next,reaction)) :
    Move env world event next reaction.outputs := by
  cases event with
  | loggedIn w =>
    by_cases possible : world.logins = 0 ∨ world.webSockets w ≠ none
    · simp [step,react,possible] at taken
    · simp [step,react,possible,webSocketConnected,writePing] at taken
      obtain ⟨rfl,rfl⟩ := taken
      push Not at possible
      exact .loggedIn possible.2
  | loginFailed =>
    by_cases possible : world.logins = 0
    · simp [step,react,possible] at taken
    · simp [step,react,possible] at taken
      obtain ⟨rfl,rfl⟩ := taken
      exact .loginFailed
  | failed w =>
    obtain ⟨h,result,handled,ran,-⟩ := step_ran taken
    simp only [react,Option.ite_none_left_eq_some,Option.some.injEq] at handled
    obtain ⟨-,rfl⟩ := handled
    obtain ⟨kept,quiet⟩ := exceptionHandler_ensures env world _ _ _ ran
    exact .failed kept quiet
  | disconnected w =>
    by_cases possible : world.webSockets w = none
    · simp [step,react,possible] at taken
    · simp [step,react,possible] at taken
      obtain ⟨rfl,rfl⟩ := taken
      exact .disconnected
  | frame w message =>
    obtain ⟨h,result,handled,ran,-⟩ := step_ran taken
    simp only [react,Option.ite_none_left_eq_some,Option.some.injEq] at handled
    obtain ⟨-,rfl⟩ := handled
    have ensured := binaryMessageHandler_handled env message world _ _ _ ran
    rcases read : received? env message with _ | received
    · simp only [read] at ensured
      obtain ⟨rfl,same⟩ := ensured
      exact same ▸ .unread read
    · simp only [read] at ensured
      exact .handled read ensured
  | accepted s uuid => exact accepted_move taken
  | queryAccepted s =>
    by_cases free : world.sockets s = none
    · simp [step,react,free,dnsConnectHandler,setHandler] at taken
      obtain ⟨rfl,rfl⟩ := taken
      exact .queryAccepted free
    · simp [step,react,free] at taken
  | data s buffer draw => exact data_move taken
  | closed s => exact closed_move taken
  | periodic =>
    obtain ⟨result,⟨rfl,quiet⟩,-⟩ := step_ensures taken rfl (periodic_ensures world)
    exact .periodic quiet
  | stop =>
    obtain ⟨result,⟨kept,quiet⟩,-⟩ := step_ensures taken rfl (stop_ensures env world)
    exact .stop kept quiet

/-! ### What a step does to a socket -/

/-- A new socket, by the event that brings it. -/
inductive Opens : Event → SocketId → Socket → Prop
  | refused {s : SocketId} {uuid : String} : Opens (.accepted s uuid) s Socket.fresh.shut
  | accepted {s : SocketId} {uuid : String} :
      Opens (.accepted s uuid) s ((Socket.fresh.handle (.bufferHandler uuid)).onClose uuid)
  | queryAccepted {s : SocketId} : Opens (.queryAccepted s) s (Socket.fresh.handle .handleQuery)

/-- The change that an event makes to a socket. -/
inductive Changes (env : Env) (world : World) : Event → SocketId → (Socket → Socket) → Prop
  | shut {event : Event} {s : SocketId} : Changes env world event s Socket.shut
  | gone {s : SocketId} : Changes env world (.closed s) s Socket.gone
  | relays {w : WebSocketId} {m : Buffer} {uuid : String} {s : SocketId} :
      received? env m = some (.connected ⟨uuid⟩) → world.connectMap uuid = some s →
      Changes env world (.frame w m) s (fun socket => socket.handle (.relay uuid))

/-- What a step may make of a socket: it opens it, changes it, or leaves it alone. -/
def Moves (env : Env) (world next : World) (event : Event) (s : SocketId) : Prop :=
  next.sockets s = world.sockets s ∨
  (world.sockets s = none ∧ ∃ socket, Opens event s socket ∧ next.sockets s = some socket) ∨
  ∃ f, Changes env world event s f ∧ next.sockets s = (world.sockets s).map f

private theorem moves_updated {event : Event} {s : SocketId} {f : Socket → Socket}
    (changes : Changes env world event s f) (same : next.sockets = (world.updateSocket s f).sockets) (s' : SocketId) :
    Moves env world next event s' := by
  by_cases other : s' = s
  · subst other
    exact .inr (.inr ⟨f,changes,by simp [same]⟩)
  · exact .inl (by simp [same,other])

private theorem moves_opened {event : Event} {s : SocketId} {socket : Socket} (free : world.sockets s = none)
    (opens : Opens event s socket) (same : next.sockets = (world.openSocket s socket).sockets) (s' : SocketId) :
    Moves env world next event s' := by
  by_cases other : s' = s
  · subst other
    exact .inr (.inl ⟨free,socket,opens,by simp [same]⟩)
  · exact .inl (by simp [same,other])

private theorem moves_screened {event : Event} {s : SocketId} {buffer : Buffer}
    (same : next.sockets = (screened world s buffer).1.sockets) (s' : SocketId) : Moves env world next event s' := by
  rw [screened] at same
  split at same
  · exact moves_updated .shut same s'
  · exact .inl (congrFun same s')

theorem socket_move {event : Event} {outputs : List Output} (move : Move env world event next outputs) (s : SocketId) :
    Moves env world next event s := by
  cases move with
  | failed kept => exact .inl (congrFun kept.1 s)
  | stop kept => exact .inl (kept.elim (fun kept => congrFun kept.1 s) (fun kept => congrFun kept.1 s))
  | refused free => exact moves_opened free .refused rfl s
  | accepted free => exact moves_opened free .accepted rfl s
  | queryAccepted free => exact moves_opened free .queryAccepted rfl s
  | handled read handled =>
    cases handled with
    | connected entry => exact moves_updated (.relays read entry) rfl s
    | exception => exact @moves_updated env world _ _ _ _ .shut rfl s
    | answered => exact @moves_updated env world _ _ _ _ .shut rfl s
    | _ => exact .inl rfl
  | served _ served => cases served <;> exact moves_screened rfl s
  | closed => exact moves_updated .gone rfl s
  | unmapped => exact @moves_updated env world _ _ _ _ .gone rfl s
  | _ => exact .inl rfl

end WSocks.Proxy
