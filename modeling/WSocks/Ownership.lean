import WSocks.Traffic

/-!
# Ownership

A uuid is generated for one socket, and the socket keeps it: its handlers and the
entries of the two maps agree on it in every state that the client can reach.
-/

namespace WSocks.Ownership
open WSocks.Runs WSocks.Effects WSocks.Text WSocks.Buffers WSocks.Libraries WSocks.Messages WSocks.Client
  WSocks.Handlers WSocks.Proxy WSocks.Traffic

/-- The uuid that a handler was made with. -/
def DataHandler.uuid : DataHandler → Option String
  | .bufferHandler uuid => some uuid
  | .relay uuid => some uuid
  | .handleQuery => none

/-- The socket whose close handler removes the uuid. -/
def Owns (world : World) (uuid : String) (s : SocketId) : Prop :=
  ∃ socket, world.sockets s = some socket ∧ socket.closeHandler = some uuid

/-- The sockets and the maps agree. -/
structure Sound (world : World) : Prop where
  handlers : ∀ s socket h, world.sockets s = some socket → socket.handler = some h →
    DataHandler.uuid h = socket.closeHandler
  mapped : ∀ uuid s, world.connectMap uuid = some s →
    ∃ socket, world.sockets s = some socket ∧ socket.closeHandler = some uuid ∧ socket.closed = false
  queried : ∀ uuid s query, world.dnsQueryMap uuid = some (s,query) →
    ∃ socket, world.sockets s = some socket ∧ socket.closeHandler = none

/-! ### Entries of the maps after a change -/

section Entries
variable {world : World} {uuid uuid' : String} {s s' : SocketId} {query query' : Buffer}

theorem connect_entry (entry : (world.connect uuid s).connectMap uuid' = some s') :
    uuid' = uuid ∧ s' = s ∨ uuid' ≠ uuid ∧ world.connectMap uuid' = some s' := by
  by_cases same : uuid' = uuid
  · subst same
    exact .inl ⟨rfl,by simpa [eq_comm] using entry⟩
  · exact .inr ⟨same,by simpa [same] using entry⟩

theorem disconnect_entry (entry : (world.disconnect uuid).connectMap uuid' = some s') :
    uuid' ≠ uuid ∧ world.connectMap uuid' = some s' := by
  by_cases same : uuid' = uuid
  · subst same
    simp at entry
  · exact ⟨same,by simpa [same] using entry⟩

theorem ask_entry (entry : (world.ask uuid s query).dnsQueryMap uuid' = some (s',query')) :
    uuid' = uuid ∧ s' = s ∧ query' = query ∨ uuid' ≠ uuid ∧ world.dnsQueryMap uuid' = some (s',query') := by
  by_cases same : uuid' = uuid
  · subst same
    exact .inl ⟨rfl,by simpa [eq_comm] using entry⟩
  · exact .inr ⟨same,by simpa [same] using entry⟩

theorem unask_entry (entry : (world.unask uuid).dnsQueryMap uuid' = some (s',query')) :
    uuid' ≠ uuid ∧ world.dnsQueryMap uuid' = some (s',query') := by
  by_cases same : uuid' = uuid
  · subst same
    simp at entry
  · exact ⟨same,by simpa [same] using entry⟩

end Entries

/-- Only a request in a chunk of the socket itself enters it into the map. -/
theorem entry_move {env : Env} {world next : World} {event : Event} {outputs : List Output} {uuid : String} {s : SocketId}
    (move : Move env world event next outputs) (entry : next.connectMap uuid = some s) :
    world.connectMap uuid = some s ∨ ∃ buffer draw host port, event = .data s buffer draw ∧
      Reads world s (.bufferHandler uuid) ∧ SocksRequest.parse buffer = .ok (.connect host port) := by
  cases move with
  | failed kept => exact .inl (kept.2.1 ▸ entry)
  | stop kept =>
    rcases kept with kept | kept
    · exact .inl (kept.2.1 ▸ entry)
    · simp [kept.2.1] at entry
  | handled _ handled =>
    cases handled with
    | exception => exact .inl (disconnect_entry entry).2
    | _ => exact .inl entry
  | @served s' _ buffer draw _ _ reads served =>
    have kept : (screened world s' buffer).1.connectMap = world.connectMap := by
      rw [screened]
      split <;> rfl
    cases served with
    | connected parsed =>
      rcases connect_entry entry with ⟨rfl,rfl⟩ | ⟨-,entry⟩
      · exact .inr ⟨_,_,_,_,rfl,reads,parsed⟩
      · exact .inl (kept ▸ entry)
    | _ => exact .inl (kept ▸ entry)
  | unmapped => exact .inl (disconnect_entry entry).2
  | _ => exact .inl entry

/-- Only a chunk of the socket itself is remembered as its query. -/
theorem query_move {env : Env} {world next : World} {event : Event} {outputs : List Output} {uuid : String} {s : SocketId}
    {query : Buffer} (move : Move env world event next outputs) (entry : next.dnsQueryMap uuid = some (s,query)) :
    world.dnsQueryMap uuid = some (s,query) ∨ ∃ draw name, event = .data s query draw ∧ draw.uuid = uuid ∧
      Reads world s .handleQuery ∧ getName query 14 "" = .ok name := by
  cases move with
  | failed kept => exact .inl (kept.2.2 ▸ entry)
  | stop kept => exact .inl (kept.elim (fun kept => kept.2.2 ▸ entry) (fun kept => kept.2.2 ▸ entry))
  | handled _ handled =>
    cases handled with
    | answered => exact .inl (unask_entry entry).2
    | unanswered => exact .inl (unask_entry entry).2
    | _ => exact .inl entry
  | @served s' _ buffer _ _ _ _ served =>
    have kept : (screened world s' buffer).1.dnsQueryMap = world.dnsQueryMap := by
      rw [screened]
      split <;> rfl
    cases served <;> exact .inl (kept ▸ entry)
  | asked reads named =>
    rcases ask_entry entry with ⟨rfl,rfl,rfl⟩ | ⟨-,entry⟩
    · exact .inr ⟨_,_,rfl,rfl,reads,named⟩
    · exact .inl entry
  | _ => exact .inl entry

/-! ### Sockets keep their uuids -/

/-- What a step may do to a socket: it keeps its uuid, and what is closing or closed
    stays so. -/
def Keeps (world next : World) : Prop :=
  ∀ s socket, world.sockets s = some socket → ∃ socket', next.sockets s = some socket' ∧
    socket'.closeHandler = socket.closeHandler ∧ (socket.closing = true → socket'.closing = true) ∧
    (socket.closed = true → socket'.closed = true)

theorem keeps_move {env : Env} {world next : World} {event : Event} {outputs : List Output}
    (move : Move env world event next outputs) : Keeps world next := by
  intro s socket known
  rcases socket_move move s with same | ⟨free,-⟩ | ⟨f,changes,same⟩
  · exact ⟨socket,same.trans known,rfl,id,id⟩
  · simp [known] at free
  · refine ⟨f socket,by simp [same,known],?_⟩
    cases changes <;> simp

/-- Only an accepted connection gets a socket and a uuid. -/
private theorem opened_move {env : Env} {world next : World} {event : Event} {outputs : List Output} {s : SocketId}
    (move : Move env world event next outputs) (before : world.sockets s = none) {socket : Socket}
    (after : next.sockets s = some socket) {uuid : String} (owner : socket.closeHandler = some uuid) :
    event = .accepted s uuid := by
  rcases socket_move move s with same | ⟨-,socket',opens,same⟩ | ⟨f,-,same⟩
  · simp [same,before] at after
  · cases same.symm.trans after
    cases opens with
    | refused => simp [Socket.fresh] at owner
    | accepted => rw [Option.some.inj owner]
    | queryAccepted => simp [Socket.fresh] at owner
  · simp [same,before] at after

theorem owns_move {env : Env} {world next : World} {event : Event} {outputs : List Output} {uuid : String} {s : SocketId}
    (move : Move env world event next outputs) (owns : Owns next uuid s) :
    Owns world uuid s ∨ event = .accepted s uuid := by
  obtain ⟨socket',after,owner⟩ := owns
  cases before : world.sockets s with
  | some socket =>
    obtain ⟨socket'',after',same,-⟩ := keeps_move move s socket before
    cases after.symm.trans after'
    exact .inl ⟨socket,before,same ▸ owner⟩
  | none => exact .inr (opened_move move before after owner)

theorem Owns.keeps {world next : World} {s : SocketId} {uuid : String} (owns : Owns world uuid s)
    (keeps : Keeps world next) : Owns next uuid s := by
  obtain ⟨socket,known,owner⟩ := owns
  obtain ⟨socket',after,same,-⟩ := keeps s socket known
  exact ⟨socket',after,same.trans owner⟩

/-- A socket has at most one uuid. -/
theorem Owns.same {world : World} {s : SocketId} {uuid uuid' : String} (left : Owns world uuid s)
    (right : Owns world uuid' s) : uuid = uuid' := by
  obtain ⟨socket,known,owner⟩ := left
  obtain ⟨socket',known',owner'⟩ := right
  cases known.symm.trans known'
  exact Option.some.inj (owner.symm.trans owner')

/-- A socket that reads with a handler for a uuid owns it. -/
theorem Sound.owns {world : World} (sound : Sound world) {s : SocketId} {h : DataHandler} {uuid : String}
    (reads : Reads world s h) (made : DataHandler.uuid h = some uuid) : Owns world uuid s := by
  obtain ⟨socket,known,-,handled⟩ := reads
  exact ⟨socket,known,(sound.handlers s socket h known handled).symm.trans made⟩

/-- So does a socket that an entry of the map leads to. -/
theorem Sound.entry {world : World} (sound : Sound world) {s : SocketId} {uuid : String}
    (entry : world.connectMap uuid = some s) : Owns world uuid s := by
  obtain ⟨socket,known,owner,-⟩ := sound.mapped uuid s entry
  exact ⟨socket,known,owner⟩

/-! ### Every step keeps the agreement -/

section Sound
variable {env : Env} {world next : World} {event : Event} {outputs : List Output} (sound : Sound world)
  (move : Move env world event next outputs)
include sound move

private theorem handlers_move {s : SocketId} {socket : Socket} {h : DataHandler} (after : next.sockets s = some socket)
    (handled : socket.handler = some h) : DataHandler.uuid h = socket.closeHandler := by
  rcases socket_move move s with same | ⟨-,socket',opens,same⟩ | ⟨f,changes,same⟩
  · exact sound.handlers s socket h (same ▸ after) handled
  · cases same.symm.trans after
    cases opens with
    | refused => simp [Socket.fresh] at handled
    | accepted => cases handled; rfl
    | queryAccepted => cases handled; rfl
  · obtain ⟨socket',before,rfl⟩ := Option.map_eq_some_iff.mp (same.symm.trans after)
    cases changes with
    | relays read entry =>
      obtain ⟨_,known,owner,-⟩ := sound.mapped _ _ entry
      cases known.symm.trans before
      cases handled
      exact owner.symm
    | _ => exact sound.handlers s socket' h before handled

/-- When a socket is closed its own entry goes. -/
private theorem closed_entry {s : SocketId} {uuid : String} (closes : event = .closed s) :
    next.connectMap uuid ≠ some s := by
  subst closes
  intro entry
  cases move with
  | closed known _ unowned =>
    obtain ⟨socket,known',owner,-⟩ := sound.mapped uuid s entry
    cases known.symm.trans known'
    simp [unowned] at owner
  | unmapped known _ owner =>
    obtain ⟨different,entry⟩ := disconnect_entry entry
    obtain ⟨socket,known',owner',-⟩ := sound.mapped uuid s entry
    cases known.symm.trans known'
    exact different (Option.some.inj (owner'.symm.trans owner))

private theorem mapped_move {uuid : String} {s : SocketId} (entry : next.connectMap uuid = some s) :
    ∃ socket, next.sockets s = some socket ∧ socket.closeHandler = some uuid ∧ socket.closed = false := by
  have before : ∃ socket, world.sockets s = some socket ∧ socket.closeHandler = some uuid ∧ socket.closed = false := by
    rcases entry_move move entry with entry | ⟨_,_,_,_,-,⟨socket,known,still,handled⟩,-⟩
    · exact sound.mapped uuid s entry
    · exact ⟨socket,known,(sound.handlers s socket _ known handled).symm,still⟩
  obtain ⟨socket,known,owner,still⟩ := before
  rcases socket_move move s with same | ⟨free,-⟩ | ⟨f,changes,same⟩
  · exact ⟨socket,same.trans known,owner,still⟩
  · simp [known] at free
  · refine ⟨f socket,by simp [same,known],?_⟩
    cases changes with
    | gone => exact absurd entry (closed_entry sound move rfl)
    | _ => exact ⟨owner,still⟩

private theorem queried_move {uuid : String} {s : SocketId} {query : Buffer}
    (entry : next.dnsQueryMap uuid = some (s,query)) :
    ∃ socket, next.sockets s = some socket ∧ socket.closeHandler = none := by
  have before : ∃ socket, world.sockets s = some socket ∧ socket.closeHandler = none := by
    rcases query_move move entry with entry | ⟨_,_,-,-,⟨socket,known,-,handled⟩,-⟩
    · exact sound.queried uuid s query entry
    · exact ⟨socket,known,(sound.handlers s socket _ known handled).symm⟩
  obtain ⟨socket,known,unowned⟩ := before
  obtain ⟨socket',after,same,-⟩ := keeps_move move s socket known
  exact ⟨socket',after,same.trans unowned⟩

theorem sound_move : Sound next :=
  ⟨fun _ _ _ => handlers_move sound move,fun _ _ => mapped_move sound move,fun _ _ _ => queried_move sound move⟩

end Sound

theorem sound_started : Sound started := ⟨by simp [started],by simp [started],by simp [started]⟩

/-- In every state that the client can reach the sockets and the maps agree. -/
theorem sound_trace {env : Env} {past : Past} {world : World} (trace : Trace env past world) : Sound world :=
  trace.invariant sound_started (fun sound taken => sound_move sound (step_move taken))

/-! ### Accepted connections -/

/-- The socket that a connection was accepted on, with the uuid generated for it. -/
def Accepted (past : Past) (uuid : String) (s : SocketId) : Prop := ∃ t ∈ past, t.event = .accepted s uuid

/-- No uuid is generated for two connections. -/
def DistinctUuids (past : Past) : Prop := ∀ uuid s s', Accepted past uuid s → Accepted past uuid s' → s = s'

theorem Accepted.append {past later : Past} {uuid : String} {s : SocketId} (accepted : Accepted past uuid s) :
    Accepted (past ++ later) uuid s := by
  obtain ⟨t,member,event⟩ := accepted
  exact ⟨t,List.mem_append_left _ member,event⟩

theorem DistinctUuids.before {past later : Past} (distinct : DistinctUuids (past ++ later)) : DistinctUuids past :=
  fun uuid s s' left right => distinct uuid s s' left.append right.append

/-- A socket has the uuid that was generated for it. -/
theorem owns_accepted {env : Env} {past : Past} {world : World} {uuid : String} {s : SocketId}
    (trace : Trace env past world) (owns : Owns world uuid s) : Accepted past uuid s := by
  induction trace with
  | nil => simp [Owns,started] at owns
  | snoc _ taken ih =>
    rcases owns_move (step_move taken) owns with before | accepted
    · exact (ih before).append
    · exact ⟨_,List.mem_append_right _ (List.mem_singleton_self _),accepted⟩

/-- So when no uuid is generated twice, no two sockets have the same. -/
theorem owns_unique {env : Env} {past : Past} {world : World} {uuid : String} {s s' : SocketId}
    (trace : Trace env past world) (distinct : DistinctUuids past) (left : Owns world uuid s)
    (right : Owns world uuid s') : s = s' :=
  distinct uuid s s' (owns_accepted trace left) (owns_accepted trace right)

/-- A socket that was accepted never gets another uuid than the one it came with. -/
theorem accepted_socket {env : Env} {past : Past} {world : World} {uuid : String} {s : SocketId}
    (trace : Trace env past world) (accepted : Accepted past uuid s) :
    ∃ socket, world.sockets s = some socket ∧ (socket.closeHandler = none ∨ socket.closeHandler = some uuid) := by
  induction trace with
  | nil => simp [Accepted] at accepted
  | @snoc _ _ _ _ reaction _ taken ih =>
    have move := step_move taken
    obtain ⟨t,member,same⟩ := accepted
    rcases List.mem_append.mp member with before | last
    · obtain ⟨socket,known,owner⟩ := ih ⟨t,before,same⟩
      obtain ⟨socket',after,kept,-⟩ := keeps_move move s socket known
      exact ⟨socket',after,kept ▸ owner⟩
    · obtain rfl := List.mem_singleton.mp last
      obtain rfl : _ = Event.accepted s uuid := same
      generalize reaction.outputs = outputs at move
      cases move with
      | refused => exact ⟨_,Function.update_self ..,.inl rfl⟩
      | accepted => exact ⟨_,Function.update_self ..,.inr rfl⟩

theorem owns_of_accepted {env : Env} {past : Past} {world : World} {uuid uuid' : String} {s : SocketId}
    (trace : Trace env past world) (accepted : Accepted past uuid s) (owns : Owns world uuid' s) : uuid' = uuid := by
  obtain ⟨socket,known,owner⟩ := accepted_socket trace accepted
  obtain ⟨socket',known',owner'⟩ := owns
  cases known.symm.trans known'
  simpa [owner'] using owner

/-- What is known of every transition of a trace. -/
structure Moment (env : Env) (past : Past) (t : Transition World Event Reaction) : Prop where
  move : Move env t.before t.event t.after t.reaction.outputs
  sound : Sound t.before
  accepted : ∀ uuid s, Owns t.before uuid s → Accepted past uuid s
  own : ∀ uuid uuid' s, Owns t.before uuid s → Accepted past uuid' s → uuid = uuid'

theorem trace_moment {env : Env} {past : Past} {world : World} {t : Transition World Event Reaction}
    (trace : Trace env past world) (member : t ∈ past) : Moment env past t := by
  obtain ⟨earlier,later,rfl,before,taken,rest⟩ := trace.mem member
  refine ⟨step_move taken,sound_trace before,fun _ _ owns => (owns_accepted before owns).append,?_⟩
  intro uuid uuid' s owns accepted
  have kept : ∀ u ∈ later, Owns u.before uuid s → Owns u.after uuid s := by
    intro u member owns
    obtain ⟨_,_,-,-,taken,-⟩ := rest.mem member
    exact owns.keeps (keeps_move (step_move taken))
  have start : Owns t.after uuid s := owns.keeps (keeps_move (step_move taken))
  exact owns_of_accepted trace accepted (Run.carries rest (I := fun world => Owns world uuid s) start kept).2

theorem Moment.unique {env : Env} {past : Past} {t : Transition World Event Reaction} {uuid : String} {s s' : SocketId}
    (moment : Moment env past t) (distinct : DistinctUuids past) (left : Owns t.before uuid s)
    (right : Owns t.before uuid s') : s = s' :=
  distinct uuid s s' (moment.accepted _ _ left) (moment.accepted _ _ right)

end WSocks.Ownership
