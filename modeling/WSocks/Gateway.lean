import WSocks.Datagrams
import WSocks.Runs
import WSocks.Tallies

/-!
# The DNS gateway

tun2socks sends the DNS queries of the device to one gateway and gives the replies
the addresses that the queries had. The table that remembers them has one entry
for each source port: two queries from one port that differ otherwise, while both
are unanswered, get one address between them.
-/

namespace WSocks.Gateway
open WSocks.Text WSocks.Datagrams WSocks.Tallies WSocks.Runs

/-! ### Connections -/

/-- `Connection`: what is kept for a source port. -/
structure Connection where
  local_addr : Endpoint
  remote_addr : Endpoint
  port : UInt16
  count : Int32
  deriving DecidableEq

/-- `connections_tree` as a map, and whether it has been initialised. -/
structure State where
  init : Bool
  connections_tree : UInt16 → Option Connection

def start : State := ⟨false,fun _ => none⟩

def find_connection (s : State) (port : UInt16) : Option Connection := s.connections_tree port

def remove_connection (s : State) (con : Connection) : State :=
  let con := { con with count := con.count - 1 }
  if con.count ≤ 0 then { s with connections_tree := Function.update s.connections_tree con.port none }
  else { s with connections_tree := Function.update s.connections_tree con.port (some con) }

def insert_connection (s : State) (local_addr remote_addr : Endpoint) (port : UInt16) : State :=
  match find_connection s port with
  | some con =>
    { s with connections_tree := Function.update s.connections_tree port (some { con with count := con.count + 1 }) }
  | none =>
    { s with connections_tree := Function.update s.connections_tree port (some ⟨local_addr,remote_addr,port,1⟩) }

/-! ### Packets from the device -/

/-- `--dnsgw`, which has to be an IPv4 address, and `--netif-ipaddr`. -/
structure Options where
  dnsgw : Option Endpoint
  netif_ipaddr : Ipv4

/-- The new state and the packet that is sent; `none` where the function returns 0. -/
def process_device_dns_packet (options : Options) (s : State) (data : List UInt8) : State × Option (List UInt8) :=
  match options.dnsgw with
  | none => (s,none)
  | some dnsgw =>
    match parse data with
    | none => (s,none)
    | some d =>
      if ¬ d.Verified then (s,none)
      else if d.udp.dest_port = 53 then
        let s := if s.init then s else ⟨true,fun _ => none⟩
        let s := insert_connection s d.source d.destination d.udp.source_port
        (s,some (d.readdressed ⟨options.netif_ipaddr,d.udp.source_port⟩ dnsgw).packet)
      else if d.udp.source_port = dnsgw.port then
        if ¬ s.init then (s,none)
        else
          match find_connection s d.udp.dest_port with
          | none => (s,none)
          | some con =>
            (remove_connection s con,
              some (d.readdressed con.remote_addr ⟨con.local_addr.ip,d.udp.dest_port⟩).packet)
      else (s,none)

/-! ### Queries and replies -/

/-- A query: where it comes from and the server that it is for. -/
structure Query where
  local_addr : Endpoint
  remote_addr : Endpoint
  deriving DecidableEq

def Query.port (q : Query) : UInt16 := q.local_addr.port

/-- The query that is forwarded when a packet comes. -/
def query? (data : List UInt8) : Option Query :=
  match parse data with
  | none => none
  | some d => if d.Verified ∧ d.udp.dest_port = 53 then some ⟨d.source,d.destination⟩ else none

/-- A packet from the device; for a reply of the gateway, the query that it answers. -/
structure Event where
  packet : List UInt8
  answers : Option Query

def step (options : Options) (s : State) (event : Event) : Option (State × Option (List UInt8)) :=
  some (process_device_dns_packet options s event.packet)

abbrev Past := List (Transition State Event (Option (List UInt8)))

/-- The queries without an answer after one more packet. -/
def waiting (bag : List Query) (event : Event) : List Query :=
  match event.answers with
  | some q => bag.erase q
  | none => bag ++ (query? event.packet).toList

/-- The queries that have been forwarded and not been answered. -/
def outstanding (past : Past) : List Query := past.foldl (fun bag t => waiting bag t.event) []

/-- A reply of the gateway answers a query that has been forwarded and not been answered:
    it comes from the gateway and goes to the port of the query. -/
def Answering (gateway : Endpoint) (netif : Ipv4) (past : Past) (event : Event) : Prop :=
  ∀ q ∈ event.answers, q ∈ outstanding past ∧
    ∃ d ∈ parse event.packet, d.source = gateway ∧ d.destination = ⟨netif,q.port⟩

instance (gateway : Endpoint) (netif : Ipv4) (past : Past) (event : Event) :
    Decidable (Answering gateway netif past event) :=
  inferInstanceAs (Decidable (∀ q ∈ event.answers, q ∈ outstanding past ∧ ∃ d ∈ parse event.packet, _))

/-- Every reply to a query from `L:p` to `R:53` has been sent as a packet from `R:53` to `L:p`. -/
def Faithful (past : Past) : Prop :=
  ∀ t ∈ past, ∀ q ∈ t.event.answers,
    ∃ packet ∈ t.reaction, endpoints packet = some (q.remote_addr,q.local_addr)

instance (past : Past) : Decidable (Faithful past) :=
  inferInstanceAs (Decidable (∀ t ∈ past, ∀ q ∈ t.event.answers, ∃ packet ∈ t.reaction, _))

/-! ### The table of connections -/

/-- The entry for some equal queries. -/
def entry (port : UInt16) (kept : Query × Nat) : Connection :=
  ⟨kept.1.local_addr,kept.1.remote_addr,port,Int32.ofNat kept.2⟩

/-- The connections for a table with reference counts. -/
def connections (table : UInt16 → Option (Query × Nat)) (port : UInt16) : Option Connection :=
  (table port).map (entry port)

private theorem update_connections (table : UInt16 → Option (Query × Nat)) (port : UInt16)
    (kept : Option (Query × Nat)) :
    Function.update (connections table) port (kept.map (entry port)) =
      connections (Function.update table port kept) := by
  funext other
  by_cases same : other = port
  · subst same
    simp [connections]
  · simp [connections,same]

/-- A query is counted under its port; the addresses of the first one are kept. -/
theorem insert_connections (init : Bool) (table : UInt16 → Option (Query × Nat)) (q : Query) :
    insert_connection ⟨init,connections table⟩ q.local_addr q.remote_addr q.port =
      ⟨init,connections (add Query.port table q)⟩ := by
  unfold insert_connection find_connection add
  rw [← update_connections]
  rcases kept : table q.port with _ | ⟨first,n⟩
  · simp [connections,kept,entry]
  · simp [connections,kept,entry]

/-- An answer is taken off the count; with the last one the entry goes. -/
theorem remove_connections (init : Bool) {table : UInt16 → Option (Query × Nat)} {port : UInt16} {q : Query} {n : Nat}
    (kept : table port = some (q,n + 1)) (small : n + 1 < 2 ^ 31) :
    remove_connection ⟨init,connections table⟩ (entry port (q,n + 1)) = ⟨init,connections (release table port)⟩ := by
  have less : Int32.ofNat (n + 1) - 1 = Int32.ofNat n := by
    rw [Int32.ofNat_add]
    simp
  have last : Int32.ofNat n ≤ 0 ↔ n = 0 := by
    rw [Int32.le_iff_toInt_le,Int32.toInt_ofNat_of_lt (by omega)]
    simp
  unfold remove_connection release
  rw [← update_connections,kept]
  simp only [entry,less,last]
  rcases n with _ | n
  · simp
  · simp [entry]

/-- The table counts the queries that wait for an answer. -/
structure Tracks (s : State) (bag : List Query) : Prop where
  uniform : Uniform Query.port bag
  small : ∀ port, count Query.port bag port < 2 ^ 31
  table : s.connections_tree = connections (tally Query.port bag)
  fresh : s.init = false → bag = []

theorem tracks_start : Tracks start [] where
  uniform := uniform_nil
  small := by simp [count]
  table := by rw [tally_nil]; rfl
  fresh := by simp

/-! ### Steps -/

/-- The other queries that wait for an answer at the same port, fewer than 2^31 - 1, came
    from the same address and are for the same server. -/
def Alone (bag : List Query) (q : Query) : Prop :=
  (∀ x ∈ bag, x.port = q.port → x = q) ∧ count Query.port bag q.port + 1 < 2 ^ 31

/-- A reply that reaches the table and whose header has the length that is written: its
    UDP checksum is the computed one, it has no IPv4 options, and it does not look like a query. -/
def Plain (d : Datagram) : Prop := d.Verified ∧ d.ip.header_len = 20 ∧ d.udp.dest_port ≠ 53

/-- Replies are plain, a query comes while those that wait at its port agree with it, and
    nothing else comes from the port of the gateway to a port with a query that waits. -/
def Clear (gateway : Endpoint) (past : Past) (event : Event) : Prop :=
  ∀ d ∈ parse event.packet,
    (event.answers.isSome → Plain d) ∧
    (event.answers.isNone → d.Verified →
      (d.udp.dest_port = 53 → Alone (outstanding past) ⟨d.source,d.destination⟩) ∧
      (d.udp.dest_port ≠ 53 → d.udp.source_port = gateway.port →
        ∀ q ∈ outstanding past, q.port ≠ d.udp.dest_port))

instance (bag : List Query) (q : Query) : Decidable (Alone bag q) := inferInstanceAs (Decidable (_ ∧ _))
instance (d : Datagram) : Decidable (Plain d) := inferInstanceAs (Decidable (_ ∧ _))
instance (gateway : Endpoint) (past : Past) (event : Event) : Decidable (Clear gateway past event) :=
  inferInstanceAs (Decidable (∀ d ∈ parse event.packet, _))

section
variable {gateway : Endpoint} {netif : Ipv4} {s : State} {bag : List Query} {data : List UInt8} {d : Datagram}

/-- A query is entered in the table, initialised with the first one. -/
theorem process_query (parsed : parse data = some d) (verified : d.Verified) (isQuery : d.udp.dest_port = 53) :
    (process_device_dns_packet ⟨some gateway,netif⟩ s data).1 =
      insert_connection (if s.init then s else ⟨true,fun _ => none⟩) d.source d.destination d.udp.source_port := by
  simp [process_device_dns_packet,parsed,verified,isQuery]

/-- A reply gets the addresses of its entry. -/
theorem process_reply {con : Connection} (parsed : parse data = some d) (verified : d.Verified)
    (notQuery : d.udp.dest_port ≠ 53) (isReply : d.udp.source_port = gateway.port) (init : s.init = true)
    (found : find_connection s d.udp.dest_port = some con) :
    process_device_dns_packet ⟨some gateway,netif⟩ s data =
      (remove_connection s con,some (d.readdressed con.remote_addr ⟨con.local_addr.ip,d.udp.dest_port⟩).packet) := by
  simp [process_device_dns_packet,parsed,verified,notQuery,isReply,init,found]

/-- Anything else changes nothing. -/
theorem process_other
    (other : ∀ d ∈ parse data, d.Verified → d.udp.dest_port ≠ 53 ∧
      (d.udp.source_port = gateway.port → find_connection s d.udp.dest_port = none)) :
    process_device_dns_packet ⟨some gateway,netif⟩ s data = (s,none) := by
  unfold process_device_dns_packet
  rcases parsed : parse data with _ | d
  · rfl
  · by_cases verified : d.Verified
    · obtain ⟨notQuery,unknown⟩ := other d parsed verified
      by_cases isReply : d.udp.source_port = gateway.port
      · simp [verified,notQuery,isReply,unknown isReply]
      · simp [verified,notQuery,isReply]
    · simp [verified]

/-- The state after a query. -/
theorem Tracks.query (tracks : Tracks s bag) (parsed : parse data = some d) (verified : d.Verified)
    (isQuery : d.udp.dest_port = 53) :
    (process_device_dns_packet ⟨some gateway,netif⟩ s data).1 =
      ⟨true,connections (tally Query.port (bag ++ [⟨d.source,d.destination⟩]))⟩ := by
  have ready : (if s.init then s else ⟨true,fun _ => none⟩) = ⟨true,connections (tally Query.port bag)⟩ := by
    split_ifs with init
    · rw [← tracks.table,← init]
    · rw [tracks.fresh (by simpa using init),tally_nil]
      rfl
  rw [process_query parsed verified isQuery,ready,tally_append]
  exact insert_connections true (tally Query.port bag) ⟨d.source,d.destination⟩

theorem tracks_query (tracks : Tracks s bag) (parsed : parse data = some d) (verified : d.Verified)
    (isQuery : d.udp.dest_port = 53) (alone : Alone bag ⟨d.source,d.destination⟩) :
    Tracks (process_device_dns_packet ⟨some gateway,netif⟩ s data).1 (bag ++ [⟨d.source,d.destination⟩]) := by
  obtain ⟨alike,room⟩ := alone
  rw [tracks.query parsed verified isQuery]
  refine ⟨tracks.uniform.append alike,?_,rfl,by simp⟩
  intro port
  have before := tracks.small port
  unfold count at before room ⊢
  rw [List.countP_append,List.countP_singleton]
  by_cases same : Query.port ⟨d.source,d.destination⟩ = port
  · subst same
    simpa using room
  · simpa [same] using before

/-- A reply that comes while a query has the entry of its port gets the addresses of this query. -/
theorem reply_readdressed {q : Query} {n : Nat} (parsed : parse data = some d) (plain : Plain d)
    (source : d.source = gateway) (destination : d.destination = ⟨netif,q.port⟩) (init : s.init = true)
    (found : find_connection s q.port = some (entry q.port (q,n))) :
    process_device_dns_packet ⟨some gateway,netif⟩ s data =
      (remove_connection s (entry q.port (q,n)),some (d.readdressed q.remote_addr q.local_addr).packet) := by
  obtain ⟨verified,-,notQuery⟩ := plain
  have port : d.udp.dest_port = q.port := congrArg Endpoint.port destination
  have isReply : d.udp.source_port = gateway.port := congrArg Endpoint.port source
  rw [← port] at found
  rw [process_reply parsed verified notQuery isReply init found,port]
  rfl

theorem tracks_reply {q : Query} (tracks : Tracks s bag) (member : q ∈ bag) (parsed : parse data = some d)
    (plain : Plain d) (source : d.source = gateway) (destination : d.destination = ⟨netif,q.port⟩) :
    Tracks (process_device_dns_packet ⟨some gateway,netif⟩ s data).1 (bag.erase q) ∧
    ∃ packet ∈ (process_device_dns_packet ⟨some gateway,netif⟩ s data).2,
      endpoints packet = some (q.remote_addr,q.local_addr) := by
  have init : s.init = true := by
    by_contra unready
    rw [tracks.fresh (by simpa using unready)] at member
    simp at member
  have waits : 0 < count Query.port bag q.port := count_pos member
  obtain ⟨n,some_wait⟩ := Nat.exists_eq_succ_of_ne_zero waits.ne'
  have kept := tally_eq_some tracks.uniform member
  have small := tracks.small q.port
  rw [some_wait] at kept small
  have found : find_connection s q.port = some (entry q.port (q,n + 1)) := by
    rw [find_connection,tracks.table,connections,kept]
    rfl
  rw [reply_readdressed parsed plain source destination init found]
  refine ⟨?_,_,rfl,endpoints_readdressed plain.2.1 _ _⟩
  have removed := remove_connections true kept small
  rw [← tally_erase tracks.uniform member,← tracks.table,← init] at removed
  rw [removed]
  refine ⟨tracks.uniform.erase,?_,rfl,?_⟩
  · intro port
    have before := tracks.small port
    have counted : count Query.port bag port = _ := count_erase member port
    omega
  · intro unready
    simp [init] at unready

/-- Agreement at a port is needed: after a query from the port of one that waits, for another
    server or from another address, a reply to it gets the addresses of the one that waits. -/
theorem reply_misdirected {q : Query} (tracks : Tracks s bag) (member : q ∈ bag) (parsed : parse data = some d)
    (verified : d.Verified) (isQuery : d.udp.dest_port = 53) (shared : q.port = d.udp.source_port)
    (differs : q ≠ ⟨d.source,d.destination⟩) {reply : List UInt8} {r : Datagram} (parsed' : parse reply = some r)
    (plain : Plain r) (source : r.source = gateway) (destination : r.destination = ⟨netif,d.udp.source_port⟩) :
    ∃ packet, (process_device_dns_packet ⟨some gateway,netif⟩
        (process_device_dns_packet ⟨some gateway,netif⟩ s data).1 reply).2 = some packet ∧
      endpoints packet ≠ some (d.destination,d.source) := by
  rw [tracks.query parsed verified isQuery]
  obtain ⟨n,kept⟩ := tally_append_kept tracks.uniform member ⟨d.source,d.destination⟩
  have found : find_connection ⟨true,connections (tally Query.port (bag ++ [⟨d.source,d.destination⟩]))⟩ q.port =
      some (entry q.port (q,n)) := by
    show (tally Query.port _ q.port).map (entry q.port) = _
    rw [kept]
    rfl
  rw [← shared] at destination
  rw [reply_readdressed parsed' plain source destination rfl found]
  refine ⟨_,rfl,?_⟩
  rw [endpoints_readdressed plain.2.1]
  intro same
  obtain ⟨remote,locals⟩ := Prod.mk.inj (Option.some.inj same)
  apply differs
  rw [← remote,← locals]

/-- One packet of a sequence in which replies answer queries. -/
theorem tracks_step {past : Past} {event : Event} (tracks : Tracks s (outstanding past))
    (answering : Answering gateway netif past event) (clear : Clear gateway past event) :
    Tracks (process_device_dns_packet ⟨some gateway,netif⟩ s event.packet).1 (waiting (outstanding past) event) ∧
    ∀ q ∈ event.answers, ∃ packet ∈ (process_device_dns_packet ⟨some gateway,netif⟩ s event.packet).2,
      endpoints packet = some (q.remote_addr,q.local_addr) := by
  obtain ⟨packet,answers⟩ := event
  rcases answers with _ | q
  · refine ⟨?_,by simp⟩
    unfold waiting
    by_cases asks : ∃ d ∈ parse packet, d.Verified ∧ d.udp.dest_port = 53
    · obtain ⟨d,parsed,verified,isQuery⟩ := asks
      have query : query? packet = some ⟨d.source,d.destination⟩ := by
        have parsed' : parse packet = some d := parsed
        simp [query?,parsed',verified,isQuery]
      have alone := ((clear d parsed).2 rfl verified).1 isQuery
      simp only [query,Option.toList_some]
      exact tracks_query tracks parsed verified isQuery alone
    · have noQuery : query? packet = none := by
        unfold query?
        rcases parsed : parse packet with _ | d
        · rfl
        · exact if_neg (fun isQuery => asks ⟨d,parsed,isQuery⟩)
      rw [process_other]
      · simpa [noQuery] using tracks
      · intro d parsed verified
        have notQuery : d.udp.dest_port ≠ 53 := fun isQuery => asks ⟨d,parsed,verified,isQuery⟩
        refine ⟨notQuery,?_⟩
        intro isReply
        have nobody := ((clear d parsed).2 rfl verified).2 notQuery isReply
        rw [find_connection,tracks.table,connections,tally_eq_none.mpr nobody]
        rfl
  · obtain ⟨member,d,parsed,source,destination⟩ := answering q rfl
    have plain := (clear d parsed).1 (by simp)
    obtain ⟨tracks',rewritten⟩ := tracks_reply tracks member parsed plain source destination
    refine ⟨tracks',?_⟩
    rintro q' ⟨⟩
    exact rewritten

end

/-! ### Runs -/

theorem outstanding_append (past : Past) (t : Transition State Event (Option (List UInt8))) :
    outstanding (past ++ [t]) = waiting (outstanding past) t.event := by
  simp [outstanding]

/-- Replies that answer queries get the addresses of their queries, in every sequence in
    which they are plain, queries that wait at one port agree, and nothing else comes from
    the port of the gateway. -/
theorem faithful_of_clear (gateway : Endpoint) (netif : Ipv4) {past : Past} {s : State}
    (run : Run (step ⟨some gateway,netif⟩) start past s)
    (answering : Obeys (fun earlier _ => Answering gateway netif earlier) past)
    (clear : Obeys (fun earlier _ => Clear gateway earlier) past) : Faithful past := by
  have tracked := run.history (I := fun earlier s => Tracks s (outstanding earlier)) tracks_start (by
    intro earlier t later whole tracks
    have taken := run.taken whole
    obtain ⟨tracks',-⟩ := tracks_step tracks (answering earlier t later whole) (clear earlier t later whole)
    rw [outstanding_append]
    simp only [step,Option.some.injEq] at taken
    rwa [taken] at tracks')
  intro t member q answers
  obtain ⟨earlier,later,whole⟩ := List.append_of_mem member
  have taken := run.taken whole
  obtain ⟨-,rewritten⟩ := tracks_step (tracked.1 earlier t later whole) (answering earlier t later whole)
    (clear earlier t later whole)
  simp only [step,Option.some.injEq] at taken
  rw [taken] at rewritten
  exact rewritten q answers

/-! ### Two servers -/

private def gateway : Endpoint := ⟨⟨26,26,26,1⟩,8091⟩
private def netif : Ipv4 := ⟨26,26,26,2⟩
/-- Queries from one port to two servers. -/
private def first : Query := ⟨⟨⟨26,26,26,1⟩,40000⟩,⟨⟨8,8,8,8⟩,53⟩⟩
private def second : Query := ⟨⟨⟨26,26,26,1⟩,40000⟩,⟨⟨1,1,1,1⟩,53⟩⟩

private def firstPacket : List UInt8 :=
  [69,0,0,28,0,0,0,0,64,17,54,167,26,26,26,1,8,8,8,8,156,64,0,53,0,8,31,62]
private def secondPacket : List UInt8 :=
  [69,0,0,28,0,0,0,0,64,17,68,181,26,26,26,1,1,1,1,1,156,64,0,53,0,8,45,76]
/-- A reply of the gateway to that port. -/
private def replyPacket : List UInt8 :=
  [69,0,0,28,0,0,0,0,64,17,18,155,26,26,26,1,26,26,26,2,31,155,156,64,0,8,219,203]

private theorem step_eq (options : Options) (s : State) (event : Event) : step options s event =
    some ((process_device_dns_packet options s event.packet).1,(process_device_dns_packet options s event.packet).2) :=
  rfl

theorem faithful_exchange : ∃ past s,
    execute (step ⟨some gateway,netif⟩) start [⟨firstPacket,none⟩,⟨replyPacket,some first⟩] = some (past,s) ∧
    Faithful past := by
  have executed := execute_of_step (step_eq ⟨some gateway,netif⟩ start ⟨firstPacket,none⟩) <|
    execute_of_step (step_eq _ _ ⟨replyPacket,some first⟩) (execute.eq_1 _ _)
  refine ⟨_,_,executed,?_⟩
  apply faithful_of_clear gateway netif (run_of_execute executed)
  · simp only [obeys_cons,obeys_nil,and_true]
    decide +kernel
  · simp only [obeys_cons,obeys_nil,and_true]
    decide +kernel

/-- Two queries from one port are for two servers: the reply to the second comes from the
    server of the first. -/
theorem second_misdirected : ∃ past s,
    execute (step ⟨some gateway,netif⟩) start
      [⟨firstPacket,none⟩,⟨secondPacket,none⟩,⟨replyPacket,some second⟩] = some (past,s) ∧
    Obeys (fun earlier _ => Answering gateway netif earlier) past ∧ ¬ Faithful past := by
  refine ⟨_,_,execute_of_step (step_eq ⟨some gateway,netif⟩ start ⟨firstPacket,none⟩) <|
    execute_of_step (step_eq _ _ ⟨secondPacket,none⟩) <|
    execute_of_step (step_eq _ _ ⟨replyPacket,some second⟩) (execute.eq_1 _ _),?_,?_⟩
  · simp only [obeys_cons,obeys_nil,and_true]
    decide +kernel
  · decide +kernel

end WSocks.Gateway
