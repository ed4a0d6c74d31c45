import WSocks.Response

/-!
# Queries on one connection

Every chunk on a connection to the DNS server is taken for one query, and the
first answer ends the connection. So several queries on one connection are safe
neither in one chunk nor in several.
-/

namespace WSocks.Shared
open WSocks.Runs WSocks.Effects WSocks.Calls WSocks.DnsFormat WSocks.Text WSocks.Buffers WSocks.Libraries WSocks.Messages
  WSocks.Client WSocks.Handlers WSocks.Proxy WSocks.Traffic WSocks.Ownership WSocks.Names WSocks.Queries WSocks.Response

/-- The bytes of several queries. -/
def stream (qs : List Query) : Buffer := qs.flatMap Query.buffer

/-- The queries that are wholly among the first bytes of a connection. -/
def wholly : List Query → Buffer → List Query
  | [],_ => []
  | q :: qs,bytes => if q.buffer.length ≤ bytes.length then q :: wholly qs (bytes.drop q.buffer.length) else []

/-- The host in a DNS message. -/
def dnsHost (env : Env) : Output → List String
  | .send _ m =>
    match upstream? env.platform env.userInfo m with
    | some (.dns (some host) _) => [host]
    | _ => []
  | _ => []

/-- The hosts that the server is asked for because of a chunk of a socket. -/
def forwards (env : Env) (s : SocketId) (t : Transition World Event Reaction) : List String :=
  match t.event with
  | .data s' _ _ => if s' = s then t.reaction.outputs.flatMap (dnsHost env) else []
  | _ => []

/-- The query that a call remembers for a socket. -/
def askOf (s : SocketId) : Call String (SocketId × Buffer) → Option (String × Buffer)
  | .ask uuid (s',query) => if s' = s then some (uuid,query) else none
  | .answer _ => none

/-- The queries that were remembered for a socket. -/
def asks (env : Env) (s : SocketId) (past : Past) : List (String × Buffer) := (calls env past).filterMap (askOf s)

theorem buffer_nonempty (q : Query) : 0 < q.buffer.length := by
  rw [q.buffer_eq,List.length_append,q.header_length]
  omega

/-- Nothing is cut off behind whole queries. -/
theorem wholly_stream (before after : List Query) : wholly (before ++ after) (stream before) = before := by
  induction before with
  | nil =>
    cases after with
    | nil => rfl
    | cons q after =>
      have := buffer_nonempty q
      simp [wholly,stream,List.ne_nil_of_length_pos this]
  | cons q before ih =>
    have split : stream (q :: before) = q.buffer ++ stream before := rfl
    simp [wholly,split,ih]

/-! ### Connections to the DNS server -/

/-- If the socket is open it has the handler of the DNS server. -/
def Listens (world : World) (s : SocketId) : Prop :=
  ∀ socket, world.sockets s = some socket → socket.handler = some .handleQuery ∧ socket.closeHandler = none

theorem Listens.reads {world : World} {s : SocketId} {h : DataHandler} (listens : Listens world s)
    (reads : Reads world s h) : h = .handleQuery := by
  obtain ⟨socket,known,-,handled⟩ := reads
  exact Option.some.inj (handled.symm.trans (listens socket known).1)

/-- How far a connection with whole queries has come. -/
def Progress (env : Env) (s : SocketId) (qs : List Query) (past : Past) : Prop :=
  ∃ before after, qs = before ++ after ∧ received s past = stream before ∧
    past.flatMap (forwards env s) = before.map Query.host ∧ (asks env s past).length = before.length

theorem Progress.wholly {env : Env} {s : SocketId} {qs : List Query} {past : Past} (progress : Progress env s qs past) :
    past.flatMap (forwards env s) = (wholly qs (received s past)).map Query.host ∧
      (asks env s past).length = (wholly qs (received s past)).length ∧ wholly qs (received s past) <+: qs := by
  obtain ⟨before,after,rfl,read,forwarded,asked⟩ := progress
  rw [read,wholly_stream]
  exact ⟨forwarded,asked,List.prefix_append _ _⟩

end WSocks.Shared
