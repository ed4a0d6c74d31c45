import WSocks.Negotiation

/-!
# Buffers that should be refused

What is no SOCKS5 message should have no effect. The front end goes on after it has
closed a connection for its version, and it reads where a buffer may have ended, so only
few buffers are refused.
-/

namespace WSocks.Refusal
open WSocks.Effects WSocks.Buffers WSocks.Libraries WSocks.Messages WSocks.Client WSocks.Handlers WSocks.Proxy WSocks.Traffic
  WSocks.Sessions WSocks.Parsing WSocks.Negotiation

/-- A greeting or a request, with any methods or any command, address and port. -/
def WellFormed (b : Buffer) : Prop :=
  (∃ greeting : Greeting, greeting.buffer = b) ∨ ∃ request : Request, request.buffer = b

/-- Every message begins with the version. -/
theorem WellFormed.version {v : UInt8} {rest : Buffer} (wellFormed : WellFormed (v :: rest)) : v = 0x05 := by
  rcases wellFormed with ⟨greeting,whole⟩ | ⟨request,whole⟩
  · exact (List.cons.inj whole).1.symm
  · exact (List.cons.inj whole).1.symm

/-- The shortest message is a greeting with one method. -/
theorem WellFormed.length {b : Buffer} (wellFormed : WellFormed b) : 3 ≤ b.length := by
  rcases wellFormed with ⟨greeting,rfl⟩ | ⟨request,rfl⟩
  · have nonempty := greeting.nonempty
    simp only [Greeting.buffer,List.length_cons]
    omega
  · simp only [Request.buffer,List.length_append,List.length_cons]
    omega

/-- Bytes that select a method or report success. -/
def Grants (bytes : Buffer) : Prop := bytes[1]? = some 0x00

/-- Bytes that report an error. -/
def Refuses (bytes : Buffer) : Prop := ∃ rep rest, bytes = 0x05 :: rep :: rest ∧ rep ≠ 0x00

/-- The buffer has no effect but that the connection is closed or refused, and the handler
    comes to its end. -/
structure Refused (env : Env) (draw : Draw) (uuid : String) (s : SocketId) (world : World) (b : Buffer)
    (next : World) (outputs : List Output) : Prop where
  ran : (bufferHandler env draw uuid s b).run world = some (.ok (),next,outputs)
  unsent : ∀ w m, .send w m ∉ outputs
  entries : next.connectMap = world.connectMap
  ungranted : ∀ s' bytes, .write s' bytes ∈ outputs → ¬ Grants bytes
  ended : .close s ∈ outputs ∨ ∃ bytes, .write s bytes ∈ outputs ∧ Refuses bytes

/-- The buffer is no greeting by its length, it has a type of address, and that is unknown,
    or all of the address and the port is there and the command is unknown. -/
def Refusable : Buffer → Prop
  | v :: m :: r :: a :: rest => ¬ Greets (v :: m :: r :: a :: rest) ∧
    (a ≠ 0x01 ∧ a ≠ 0x03 ∨ Addressed (a :: rest) ∧ m ≠ 0x01 ∧ m ≠ 0x03)
  | _ => False

variable (env : Env) (draw : Draw) (uuid : String) (s : SocketId) (world : World) {b : Buffer}

theorem screened_connectMap : (screened world s b).1.connectMap = world.connectMap := by
  unfold screened
  split <;> rfl

theorem screened_outputs : (screened world s b).2 = [.close s] ∨ (screened world s b).2 = [] := by
  unfold screened
  split
  · exact .inl rfl
  · exact .inr rfl

/-! ### Buffers that are not refused -/

theorem unread_not_refused {failure : Failure} (read : SocksRequest.parse b = .error failure) :
    ¬ ∃ next outputs, Refused env draw uuid s world b next outputs := by
  rintro ⟨next,outputs,refused⟩
  have ran := refused.ran
  rw [run_unparsed env draw uuid s world read] at ran
  cases ran

/-- What grants something is written even after the connection was closed. -/
theorem granted_not_refused {request : SocksRequest} (read : SocksRequest.parse b = .ok request)
    (other : ∀ host port, request ≠ .connect host port) (grants : Grants request.reply) :
    ¬ ∃ next outputs, Refused env draw uuid s world b next outputs := by
  rintro ⟨next,outputs,refused⟩
  have ran := refused.ran
  rw [run_replied env draw uuid s world read other] at ran
  cases ran
  exact refused.ungranted s request.reply (by simp) grants

/-- A request for a connection either sends a message or raises an exception. -/
theorem connect_not_refused {host : String} {port : Int32} (read : SocksRequest.parse b = .ok (.connect host port)) :
    ¬ ∃ next outputs, Refused env draw uuid s world b next outputs := by
  rintro ⟨next,outputs,refused⟩
  obtain ⟨message,ran⟩ := run_connected env draw uuid s world read
  have same := ran.symm.trans refused.ran
  simp only [Option.some.injEq,Prod.mk.injEq] at same
  obtain ⟨ended,-,rfl⟩ := same
  have sends : ∃ w m, .send w m ∈ (transmission env draw world message).2 := by
    unfold transmission at ended ⊢
    split at ended
    · cases ended
    · cases ended
    · rename_i w frame connected
      split_ifs at ended ⊢ with negative isOpen
      · exact ⟨w,_,List.mem_singleton_self _⟩
  obtain ⟨w,m,member⟩ := sends
  exact refused.unsent w m (List.mem_append_right _ member)

/-! ### Buffers that are refused -/

theorem refused_of_reply {request : SocksRequest} {rep : UInt8} (read : SocksRequest.parse b = .ok request)
    (other : ∀ host port, request ≠ .connect host port) (reply : request.reply = [0x05,rep]) (error : rep ≠ 0x00) :
    ∃ next outputs, Refused env draw uuid s world b next outputs := by
  refine ⟨_,_,run_replied env draw uuid s world read other,?_,screened_connectMap s world,?_,?_⟩
  · intro w m member
    rcases screened_outputs s world (b := b) with closed | nothing
    · simp [closed] at member
    · simp [nothing] at member
  · intro s' bytes member
    have same : bytes = [0x05,rep] := by
      rw [reply] at member
      rcases screened_outputs s world (b := b) with closed | nothing
      · rw [closed] at member
        simp at member
        exact member.2
      · rw [nothing] at member
        simp at member
        exact member.2
    rw [same]
    simpa [Grants] using error
  · exact .inr ⟨request.reply,by simp,rep,[],reply,error⟩

/-- A buffer, whatever it is, is refused exactly when it is refusable. -/
theorem refused_iff : (∃ next outputs, Refused env draw uuid s world b next outputs) ↔ Refusable b := by
  have read := parsed b
  generalize result : SocksRequest.parse b = parse at read
  cases read with
  | greeting greets =>
    refine iff_of_false (granted_not_refused env draw uuid s world result (by simp) rfl) ?_
    unfold Refusable
    split
    · rintro ⟨request,-⟩
      exact request greets
    · exact id
  | unknown request one three =>
    refine iff_of_true (refused_of_reply env draw uuid s world result (by simp) rfl (by decide)) ?_
    exact ⟨request,.inl ⟨one,three⟩⟩
  | @request v m r a rest target request addressed =>
    have typed : ¬ (a ≠ 0x01 ∧ a ≠ 0x03) := by
      rintro ⟨one,three⟩
      exact addressed.known.elim one three
    rw [ofCommand_eq] at result
    split_ifs at result with one three
    · refine iff_of_false (connect_not_refused env draw uuid s world result) ?_
      rintro ⟨-,unknown | ⟨-,other,-⟩⟩
      · exact typed unknown
      · exact other one
    · refine iff_of_false (granted_not_refused env draw uuid s world result (by simp) rfl) ?_
      rintro ⟨-,unknown | ⟨-,-,other⟩⟩
      · exact typed unknown
      · exact other three
    · refine iff_of_true (refused_of_reply env draw uuid s world result (by simp) rfl (by decide)) ?_
      exact ⟨request,.inr ⟨addressed,one,three⟩⟩
  | short request short =>
    refine iff_of_false (unread_not_refused env draw uuid s world result) ?_
    unfold Refusable
    split
    · simp only [List.length_cons] at short
      omega
    · exact id
  | unread request typed missing =>
    refine iff_of_false (unread_not_refused env draw uuid s world result) ?_
    rintro ⟨-,⟨one,three⟩ | ⟨addressed,-⟩⟩
    · exact typed.elim one three
    · exact missing addressed

/-- A request of SOCKS4 to connect closes the connection and is carried out; a request that
    breaks off after its command is read beyond its end. -/
theorem wrong_version_not_refused :
    (¬ WellFormed [0x04,0x01,0x00,0x01,10,0,0,1,0x00,0x50] ∧
      ¬ ∃ next outputs, Refused Platforms.env Platforms.draw Platforms.uuid 0 (accepted Platforms.uuid)
        [0x04,0x01,0x00,0x01,10,0,0,1,0x00,0x50] next outputs) ∧
    ¬ WellFormed [0x05,0x01] ∧
      ¬ ∃ next outputs, Refused Platforms.env Platforms.draw Platforms.uuid 0 (accepted Platforms.uuid) [0x05,0x01]
        next outputs := by
  constructor
  · constructor
    · intro wellFormed
      exact absurd wellFormed.version (by decide)
    · have read : SocksRequest.parse [0x04,0x01,0x00,0x01,10,0,0,1,0x00,0x50] =
          .ok (.connect (hostAddress ⟨10,0,0,1⟩) 80) := rfl
      exact connect_not_refused _ _ _ _ _ read
  · constructor
    · intro wellFormed
      exact absurd wellFormed.length (by decide)
    · have read : SocksRequest.parse [0x05,0x01] = .error .indexOutOfBounds := rfl
      exact unread_not_refused _ _ _ _ _ read

end WSocks.Refusal
