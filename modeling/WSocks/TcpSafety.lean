import WSocks.TcpOutcomes

/-!
# Clients between lwIP and SOCKS

Whatever lwIP and the SOCKS clients do, in any order, no assertion about a TCP client fails,
no client is used after its memory was freed, and nothing is asked of a connection or a
SOCKS client that was given up. The bytes pass in their order, and a client that is
still there waits for something that will come.
-/

namespace WSocks.TcpSafety
open WSocks.Effects WSocks.Effects.Action WSocks.TcpClients WSocks.TcpOutcomes WSocks.Runs

/-- The bytes from the SOCKS client that are not written yet. -/
def unsent (c : tcp_client) : Bytes :=
  match c.socks_recv_buf with
  | none => []
  | some data => data.drop c.socks_recv_buf_sent

/-- Bytes pass in their order, and no more is acknowledged than was written. -/
structure Ordered (pcb : Pcb) (socks : Socks) : Prop where
  upstream : socks.taken <+: pcb.received
  downstream : pcb.written <+: socks.given
  acked : pcb.acked ≤ pcb.written.length

/-- What a client waits for when it passes bytes to the SOCKS client. -/
structure Sending (pcb : Pcb) (socks : Socks) (c : tcp_client) : Prop where
  buffered : pcb.received = socks.taken ++ c.buf
  window : c.client_closed = false → pcb.received.length = pcb.recved + c.buf.length
  registered : c.client_closed = false → pcb.recv
  idle : socks.up = false ∨ c.buf = [] → socks.sending = none
  busy : socks.up → c.buf ≠ [] → ∃ data, socks.sending = some data ∧ data ≠ [] ∧ data <+: c.buf
  room : c.buf.length ≤ TCP_WND

/-- What a client waits for when it passes bytes to the connection. -/
structure Writing (pcb : Pcb) (socks : Socks) (c : tcp_client) : Prop where
  buffered : socks.given = pcb.written ++ unsent c
  pending : pcb.written.length = pcb.acked + c.socks_recv_tcp_pending
  registered : pcb.sent
  waiting : ∀ data, c.socks_recv_buf = some data → c.socks_recv_waiting ∧ c.socks_recv_buf_sent < data.length ∧
    data.length ≤ CLIENT_SOCKS_RECV_BUF_SIZE ∧ 0 < c.socks_recv_tcp_pending
  receiving : c.socks_closed = false → c.socks_recv_buf = none → socks.receiving = some CLIENT_SOCKS_RECV_BUF_SIZE

/-- A client that is still there agrees with both sides. -/
structure Fits (pcb : Pcb) (socks : Socks) (c : tcp_client) : Prop where
  closed : c.client_closed = pcb.ended.isSome
  freed : c.socks_closed = socks.freed
  up : c.socks_up = socks.up
  err : c.client_closed = false → pcb.err
  early : c.socks_up = false → socks.given = [] ∧ pcb.written = [] ∧ socks.receiving = none ∧ c.socks_closed = false
  quiet : c.socks_up = false → pcb.sent = false
  sending : c.socks_closed = false → Sending pcb socks c
  writing : c.socks_up → c.client_closed = false → Writing pcb socks c
  receiving : ∀ len, socks.receiving = some len → len = CLIENT_SOCKS_RECV_BUF_SIZE ∧ c.socks_recv_buf = none
  released : c.socks_closed → c.client_closed = false ∧ pcb.recv = false ∧
    (c.socks_recv_buf.isSome ∨ 0 < c.socks_recv_tcp_pending)
  lingers : c.client_closed → c.buf ≠ []

/-- The invariant of a connection. -/
structure Kept (s : Slot) : Prop where
  ordered : Ordered s.pcb s.socks
  killed : ∀ dead, s.dead_client = some dead → dead = s.pcb.ended.isSome
  gone : s.client = none → s.pcb.ended.isSome ∧ s.socks.freed
  fits : ∀ c, s.client = some c → Fits s.pcb s.socks c
  unfailed : ∀ c, s.client = some c → c.socks_closed = false → s.socks.failed = false

/-! ### Giving up keeps the invariant -/

/-- The connection is gone, and the SOCKS client may still be there. -/
structure Halfway (pcb : Pcb) (socks : Socks) (c : tcp_client) : Prop where
  ordered : Ordered pcb socks
  ended : pcb.ended.isSome
  freed : c.socks_closed = socks.freed
  up : c.socks_up = socks.up
  early : c.socks_up = false → socks.given = [] ∧ pcb.written = [] ∧ socks.receiving = none
  quiet : c.socks_up = false → pcb.sent = false
  buffered : c.socks_closed = false → pcb.received = socks.taken ++ c.buf
  idle : c.socks_closed = false → socks.up = false ∨ c.buf = [] → socks.sending = none
  busy : c.socks_closed = false → socks.up → c.buf ≠ [] →
    ∃ data, socks.sending = some data ∧ data ≠ [] ∧ data <+: c.buf
  room : c.socks_closed = false → c.buf.length ≤ TCP_WND
  receiving : ∀ len, socks.receiving = some len → len = CLIENT_SOCKS_RECV_BUF_SIZE ∧ c.socks_recv_buf = none

/-- A callback does not change what lwIP and the SOCKS client have delivered and taken. -/
def Steady (s : Slot) (w : World) : Prop :=
  w.pcb.received = s.pcb.received ∧ w.socks.taken = s.socks.taken ∧ w.socks.given = s.socks.given

/-- What a step does to the counter of the clients. -/
def Counted (s : Slot) (n : Nat) (w : World) : Prop :=
  w.num_clients + (if s.client.isSome then 1 else 0) = n + (if w.client.isSome then 1 else 0)

section
variable {w : World} {c : tcp_client} {s : Slot}

/-- Nothing is left of a client that both sides have left. -/
theorem gone_kept (ordered : Ordered s.pcb s.socks) (ended : s.pcb.ended.isSome) (freed : s.socks.freed)
    (none' : s.client = none) (killed : ∀ dead, s.dead_client = some dead → dead) : Kept s := by
  refine ⟨ordered,?_,fun _ => ⟨ended,freed⟩,by simp [none'],by simp [none']⟩
  intro dead registered
  rw [killed dead registered,ended]

theorem kill_killed : ∀ dead, (kill w).dead_client = some dead → dead := by
  intro dead registered
  obtain ⟨_,_,rfl⟩ := Option.map_eq_some_iff.mp registered
  rfl

theorem counted_finish (present : w.client = some c) (counted : 0 < w.num_clients) {w' : World}
    (same : w'.num_clients = w.num_clients) : Counted w.toSlot w.num_clients (finish w') := by
  rw [Counted,present,finish,same]
  simp only [Option.isSome_some,Option.isSome_none,if_true,Bool.false_eq_true,if_false]
  omega

theorem counted_some (present : w.client = some c) {w' : World} (present' : w'.client.isSome)
    (same : w'.num_clients = w.num_clients) : Counted w.toSlot w.num_clients w' := by
  rw [Counted,present,present',same]
  rfl

theorem Ordered.free {pcb : Pcb} {socks : Socks} (ordered : Ordered pcb socks) :
    Ordered pcb {socks with freed := true,sending := none,receiving := none} :=
  ⟨ordered.upstream,ordered.downstream,ordered.acked⟩

theorem handled_steady : (handled w c).socks.taken = w.socks.taken ∧ (handled w c).socks.given = w.socks.given := by
  rw [handled]
  split_ifs <;> exact ⟨rfl,rfl⟩

theorem handled_kept (half : Halfway w.pcb w.socks c) (unfailed : c.socks_closed = false → w.socks.failed = false)
    (present : w.client = some c) (counted : 0 < w.num_clients) :
    Kept (handled w c).toSlot ∧ Counted w.toSlot w.num_clients (handled w c) ∧ (handled w c).pcb = w.pcb ∧
      (w.socks.freed = false → (handled w c).socks.freed → (handled w c).socks.taken = w.pcb.received) := by
  rw [handled]
  by_cases closed : c.socks_closed
  · rw [if_pos closed]
    refine ⟨gone_kept half.ordered half.ended (half.freed.symm.trans closed) rfl kill_killed,
      counted_finish present counted rfl,rfl,?_⟩
    intro there _
    rw [half.freed,there] at closed
    cases closed
  rw [if_neg closed]
  have there : c.socks_closed = false := by simpa using closed
  by_cases empty : c.buf = []
  · rw [if_pos empty]
    refine ⟨gone_kept half.ordered.free half.ended rfl rfl kill_killed,counted_finish present counted rfl,rfl,?_⟩
    intro _ _
    have whole := half.buffered there
    rw [empty,List.append_nil] at whole
    exact whole.symm
  · rw [if_neg empty]
    refine ⟨⟨half.ordered,?_,by simp,?_,?_⟩,counted_some present rfl rfl,rfl,?_⟩
    · intro dead registered
      rw [kill_killed dead registered]
      exact half.ended.symm
    · rintro c' same
      cases same
      exact {
        closed := half.ended.symm
        freed := half.freed
        up := half.up
        err := by simp
        early := fun down => ⟨(half.early down).1,(half.early down).2.1,(half.early down).2.2,there⟩
        quiet := half.quiet
        sending := fun _ => ⟨half.buffered there,by simp,by simp,half.idle there,half.busy there,
          half.room there⟩
        writing := by simp
        receiving := half.receiving
        released := fun freed => absurd freed closed
        lingers := fun _ => empty}
    · rintro c' same
      cases same
      exact unfailed
    · intro there' freed
      rw [show (kill w).socks.freed = w.socks.freed from rfl,there'] at freed
      cases freed

theorem Fits.halfway {pcb pcb' : Pcb} {socks : Socks} (fits : Fits pcb socks c) (ordered : Ordered pcb' socks)
    (ended : pcb'.ended.isSome) (received : pcb'.received = pcb.received) (quiet : pcb'.sent → pcb.sent)
    (written : c.socks_up = false → pcb'.written = pcb.written) : Halfway pcb' socks c where
  ordered := ordered
  ended := ended
  freed := fits.freed
  up := fits.up
  early down := ⟨(fits.early down).1,(written down).trans (fits.early down).2.1,(fits.early down).2.2.1⟩
  quiet down := by
    by_contra registered
    simp [fits.quiet down] at quiet
    exact registered quiet
  buffered there := received.trans (fits.sending there).buffered
  idle there := (fits.sending there).idle
  busy there := (fits.sending there).busy
  room there := (fits.sending there).room
  receiving := fits.receiving

theorem released_ended {close : err_t} (ended : w.pcb.ended.isSome) : (released close w c).pcb.ended.isSome := by
  rw [released]
  split_ifs
  · exact ended
  · exact ended
  · rfl

/-- The SOCKS client is given up while the connection is there, or as the last. -/
theorem released_kept (close : err_t) (fits : Fits w.pcb w.socks c) (ordered : Ordered w.pcb w.socks)
    (killed : ∀ dead, w.dead_client = some dead → dead = w.pcb.ended.isSome) (present : w.client = some c)
    (counted : 0 < w.num_clients) :
    Kept (released close w c).toSlot ∧ Counted w.toSlot w.num_clients (released close w c) ∧
      Steady w.toSlot (released close w c) ∧
      (w.pcb.ended = none → (released close w c).pcb.ended = some .closed →
        (released close w c).pcb.written = (released close w c).socks.given ∧
          (released close w c).pcb.acked = (released close w c).pcb.written.length) := by
  rw [released]
  by_cases down : c.client_closed
  · rw [if_pos down]
    have ended : w.pcb.ended.isSome := fits.closed.symm.trans down
    refine ⟨gone_kept ordered.free ended rfl rfl ?_,counted_finish present counted rfl,⟨rfl,rfl,rfl⟩,?_⟩
    · intro dead registered
      exact (killed dead registered).trans ended
    · intro usable
      rw [usable] at ended
      cases ended
  rw [if_neg down]
  have up : c.client_closed = false := by simpa using down
  by_cases data : c.socks_up ∧ (c.socks_recv_buf.isSome ∨ 0 < c.socks_recv_tcp_pending)
  · rw [if_pos data]
    have writing := fits.writing data.1 up
    refine ⟨⟨⟨ordered.upstream,ordered.downstream,ordered.acked⟩,killed,by simp,?_,?_⟩,counted_some present rfl rfl,
      ⟨rfl,rfl,rfl⟩,?_⟩
    · rintro c' same
      cases same
      exact {
        closed := fits.closed
        freed := rfl
        up := fits.up
        err := fits.err
        early := by simp [data.1]
        quiet := fits.quiet
        sending := by simp
        writing := fun _ _ => ⟨writing.buffered,writing.pending,writing.registered,writing.waiting,by simp⟩
        receiving := by simp [freeSocks]
        released := fun _ => ⟨up,rfl,data.2⟩
        lingers := fun closed => absurd closed down}
    · rintro c' same
      cases same
      simp
    · intro usable closed
      have same : (some Ending.closed) = none := closed.symm.trans usable
      cases same
  · rw [if_neg data]
    have ordered' : Ordered (endPcb w (endingOf close)).pcb w.socks :=
      ⟨ordered.upstream,ordered.downstream,ordered.acked⟩
    refine ⟨gone_kept ordered'.free rfl rfl rfl kill_killed,counted_finish present counted rfl,⟨rfl,rfl,rfl⟩,?_⟩
    intro _ _
    change w.pcb.written = w.socks.given ∧ w.pcb.acked = w.pcb.written.length
    by_cases ready : c.socks_up
    · have writing := fits.writing ready up
      obtain ⟨empty,none'⟩ : c.socks_recv_buf = none ∧ c.socks_recv_tcp_pending = 0 := by
        simpa [ready] using data
      have pending := writing.pending
      have buffered := writing.buffered
      rw [unsent,empty,List.append_nil] at buffered
      exact ⟨buffered.symm,by omega⟩
    · obtain ⟨given,written,-⟩ := fits.early (by simpa using ready)
      have acked := ordered.acked
      rw [written] at acked ⊢
      exact ⟨given.symm,Nat.le_zero.mp acked⟩

end

/-! ### One callback -/

/-- What one callback does to a connection. -/
structure Outcome (s : Slot) (n : Nat) (event : Event) (r : Returned) (w : World) : Prop where
  kept : Kept w.toSlot
  counted : Counted s n w
  returned : ∀ err, r = some err → err = .ERR_ABRT ∧ w.pcb.ended.isSome ∨ err = .ERR_OK ∧ w.pcb.ended = none
  drained : event ≠ .socks_error → event ≠ .socks_closed → event ≠ .murder → s.socks.freed = false → w.socks.freed →
    w.socks.taken = w.pcb.received
  closed : event ≠ .fin → s.pcb.ended = none → w.pcb.ended = some .closed →
    w.pcb.written = w.socks.given ∧ w.pcb.acked = w.pcb.written.length
  ended : s.pcb.ended.isSome → w.pcb.ended.isSome
  steady : Steady (s.notes event) w

/-- The callback ends without a fault, unless lwIP gives fewer answers than it is asked for. -/
def Fine (lwip : Answers) (s : Slot) (n : Nat) (event : Event) : Prop :=
  (handler lwip event).run ⟨s.notes event,n⟩ = none ∧ lwip.writes.length ≤ CLIENT_SOCKS_RECV_BUF_SIZE ∨
    ∃ r w, (handler lwip event).run ⟨s.notes event,n⟩ = some (.ok r,w,[]) ∧ Outcome s n event r w

section
variable {s : Slot} {n : Nat} {lwip : Answers}

theorem Kept.present (kept : Kept s) (usable : s.pcb.ended = none) :
    ∃ c, s.client = some c ∧ c.client_closed = false ∧ Fits s.pcb s.socks c := by
  rcases found : s.client with _ | c
  · have ended := (kept.gone found).1
    simp [usable] at ended
  · refine ⟨c,rfl,?_,kept.fits c found⟩
    rw [(kept.fits c found).closed,usable]
    rfl

theorem Kept.there (kept : Kept s) (there : s.socks.freed = false) :
    ∃ c, s.client = some c ∧ c.socks_closed = false ∧ Fits s.pcb s.socks c := by
  rcases found : s.client with _ | c
  · have freed := (kept.gone found).2
    simp [there] at freed
  · exact ⟨c,rfl,(kept.fits c found).freed.trans there,kept.fits c found⟩

/-- The callback gave up the connection. -/
theorem handled_outcome {w : World} {c : tcp_client} {event : Event} {r : Returned}
    (half : Halfway w.pcb w.socks c) (unfailed : c.socks_closed = false → w.socks.failed = false)
    (present : w.client = some c) (counted : 0 < w.num_clients) (found : s.client = some c) (same : w.num_clients = n)
    (freed : w.socks.freed = s.socks.freed) (returned : ∀ err, r = some err → err = .ERR_ABRT)
    (unclosed : event = .fin ∨ w.pcb.ended ≠ some .closed) (steady : Steady (s.notes event) w) :
    Outcome s n event r (handled w c) := by
  obtain ⟨kept,counted',pcb,drained⟩ := handled_kept half unfailed present counted
  obtain ⟨received,taken,given⟩ := steady
  obtain ⟨taken',given'⟩ := handled_steady (w := w) (c := c)
  refine ⟨kept,?_,?_,?_,?_,fun _ => by rw [pcb]; exact half.ended,by rw [pcb,received],taken'.trans taken,given'.trans given⟩
  · rw [Counted,present,same] at counted'
    rw [Counted,found]
    exact counted'
  · intro err same'
    rw [pcb]
    exact .inl ⟨returned err same',half.ended⟩
  · intro _ _ _ there gone
    rw [pcb]
    exact drained (freed.trans there) gone
  · intro other _ closed
    rw [pcb] at closed
    rcases unclosed with fin | unclosed
    · exact absurd fin other
    · exact absurd closed unclosed

theorem err_fine (kept : Kept s) (counted : s.client.isSome → 0 < n) (allowed : s.allows .err) : Fine lwip s n .err := by
  obtain ⟨free,usable,-⟩ := allowed
  obtain ⟨c,found,up,fits⟩ := kept.present usable
  have positive : 0 < n := counted (by simp [found])
  right
  refine ⟨none,handled ⟨s.notes .err,n⟩ c,?_,?_⟩
  · change (do client_err_func lwip; return none : Act Returned).run _ = _
    have ran : (client_err_func lwip).run ⟨s.notes .err,n⟩ = some (.ok (),handled ⟨s.notes .err,n⟩ c,[]) := by
      rw [client_err_func,run_seq (run_deref (by exact found)),run_seq (run_ASSERT (by simp [up]))]
      exact run_handle_freed lwip.close 2 found up fits.freed positive
    rw [run_seq ran]
    rfl
  · have ordered : Ordered (s.notes .err).pcb s.socks :=
      ⟨kept.ordered.upstream,kept.ordered.downstream,kept.ordered.acked⟩
    refine handled_outcome (fits.halfway ordered rfl rfl id (fun _ => rfl)) (kept.unfailed c found) found positive found
      rfl rfl (by simp) (.inr ?_) ⟨rfl,rfl,rfl⟩
    intro same
    cases same

theorem fin_fine (kept : Kept s) (counted : s.client.isSome → 0 < n) (allowed : s.allows .fin) : Fine lwip s n .fin := by
  obtain ⟨free,usable,-,-⟩ := allowed
  obtain ⟨c,found,up,fits⟩ := kept.present usable
  have positive : 0 < n := counted (by simp [found])
  right
  refine ⟨some .ERR_ABRT,handled (endPcb ⟨s.notes .fin,n⟩ (endingOf lwip.close)) c,?_,?_⟩
  · change (client_recv_func lwip none).run _ = _
    have ran : (client_free_client lwip.close deep).run ⟨s.notes .fin,n⟩ =
        some (.ok (),handled (endPcb ⟨s.notes .fin,n⟩ (endingOf lwip.close)) c,[]) := by
      rw [deep,run_free_client lwip.close 3 (by exact found) up (by exact usable)]
      exact run_handle_freed lwip.close 1 found up fits.freed positive
    rw [client_recv_func,run_seq (run_deref (by exact found)),run_seq (run_ASSERT (by simp [up])),run_seq ran]
    rfl
  · have ordered : Ordered (endPcb ⟨s.notes .fin,n⟩ (endingOf lwip.close)).pcb s.socks :=
      ⟨kept.ordered.upstream,kept.ordered.downstream,kept.ordered.acked⟩
    refine handled_outcome (fits.halfway ordered rfl rfl ?_ (fun _ => rfl)) (kept.unfailed c found) found positive found
      rfl rfl (by simp) (.inl rfl) ⟨rfl,rfl,rfl⟩
    intro impossible
    cases impossible

private theorem clash {b : Bool} {P : Prop} (holds : b = true) (fails : b = false) : P := by
  rw [holds] at fails
  cases fails

/-- The connection and the SOCKS client are still there. -/
private theorem alive_outcome {w : World} {c : tcp_client} {event : Event} {r : Returned} (ordered : Ordered w.pcb w.socks)
    (fits : Fits w.pcb w.socks c) (present : w.client = some c) (unfailed : c.socks_closed = false → w.socks.failed = false)
    (killed : ∀ dead, w.dead_client = some dead → dead = w.pcb.ended.isSome) (some' : s.client.isSome)
    (same : w.num_clients = n) (freed : w.socks.freed = s.socks.freed) (ended : w.pcb.ended = s.pcb.ended)
    (steady : Steady (s.notes event) w) (returned : ∀ err, r = some err → err = .ERR_OK ∧ w.pcb.ended = none) :
    Outcome s n event r w := by
  refine ⟨⟨ordered,killed,by simp [present],?_,?_⟩,?_,fun err same' => .inr (returned err same'),?_,?_,?_,steady⟩
  · intro c' present'
    obtain rfl := Option.some.inj (present.symm.trans present')
    exact fits
  · intro c' present'
    obtain rfl := Option.some.inj (present.symm.trans present')
    exact unfailed
  · rw [Counted,some',present,same]
    rfl
  · intro _ _ _ there gone
    exact clash gone (freed.trans there)
  · intro _ usable closed
    rw [ended,usable] at closed
    cases closed
  · rw [ended]
    exact id

/-- What happens upstream leaves everything else as it is. -/
theorem Fits.upstream {pcb : Pcb} {socks : Socks} {c : tcp_client} (fits : Fits pcb socks c) {received taken buf : Bytes}
    {recved : Nat} {next : Option Bytes} (lingers : c.client_closed → buf ≠ [])
    (sending : c.socks_closed = false → Sending {pcb with received := received,recved := recved}
      {socks with sending := next,taken := taken} {c with buf := buf}) :
    Fits {pcb with received := received,recved := recved} {socks with sending := next,taken := taken}
      {c with buf := buf} where
  closed := fits.closed
  freed := fits.freed
  up := fits.up
  err := fits.err
  early := fits.early
  quiet := fits.quiet
  sending := sending
  writing ready up := by
    obtain ⟨buffered,pending,registered,waiting,receiving⟩ := fits.writing ready up
    exact ⟨buffered,pending,registered,waiting,receiving⟩
  receiving := fits.receiving
  released := fits.released
  lingers := lingers

theorem recv_fine {p : Bytes} (kept : Kept s) (allowed : s.allows (.recv p)) : Fine lwip s n (.recv p) := by
  obtain ⟨free,usable,registered,-,nonempty,window⟩ := allowed
  obtain ⟨c,found,up,fits⟩ := kept.present usable
  have there : c.socks_closed = false := by
    by_contra closed
    exact clash registered (fits.released (by simpa using closed)).2.1
  obtain ⟨buffered,room,-,idle,busy,-⟩ := fits.sending there
  have room' := room up
  set c' : tcp_client := {c with buf := c.buf ++ p}
  set pcb : Pcb := {s.pcb with received := s.pcb.received ++ p}
  set w : World := ⟨⟨some c',s.dead_client,pcb,s.socks⟩,n⟩
  have some' : c'.buf ≠ [] := List.append_ne_nil_of_right_ne_nil _ (List.ne_nil_of_length_pos nonempty)
  have ordered : Ordered pcb s.socks :=
    ⟨kept.ordered.upstream.trans (List.prefix_append _ _),kept.ordered.downstream,kept.ordered.acked⟩
  have buffered' : pcb.received = s.socks.taken ++ c'.buf := by
    simp only [pcb,c',buffered,List.append_assoc]
  have window' : pcb.received.length = pcb.recved + c'.buf.length := by
    simp only [pcb,c',List.length_append,room']
    omega
  have fits' : ¬ TCP_WND - c.buf.length < p.length := by omega
  have small : c'.buf.length ≤ TCP_WND := by
    simp only [c',List.length_append]
    omega
  have begins : (handler lwip (.recv p)).run ⟨s.notes (.recv p),n⟩ =
      (if c'.buf.length = p.length ∧ c'.socks_up then do
        ASSERT (¬ c.socks_closed); client_send_to_socks; deadEnter; return none
      else return some .ERR_OK : Act Returned).run w := by
    change (client_recv_func lwip (some p)).run _ = _
    rw [client_recv_func,run_seq (run_deref (by exact found)),run_seq (run_ASSERT (by simp [up])),
      run_seq (run_ASSERT nonempty),if_neg fits',run_seq (run_assign (by exact found) _),run_seq (run_deref rfl)]
    rfl
  right
  by_cases sends : c'.buf.length = p.length ∧ c'.socks_up
  · have empty : c.buf = [] := by
      have lengths := sends.1
      simp only [c',List.length_append] at lengths
      exact List.eq_nil_of_length_eq_zero (by omega)
    have ready : s.socks.up = true := fits.up.symm.trans sends.2
    have sent := run_send_to_socks (w := w) (c := c') rfl there sends.2 (fits.freed.symm.trans there) ready
      (idle (.inr empty)) some'
    have sending : Sending pcb {s.socks with sending := some c'.buf} c' := by
      refine ⟨buffered',fun _ => window',fun _ => registered,?_,fun _ _ => ⟨c'.buf,rfl,some',List.prefix_rfl⟩,small⟩
      rintro (unready | none')
      · exact clash ready unready
      · exact absurd none' some'
    refine ⟨none,⟨⟨some c',some false,pcb,{s.socks with sending := some c'.buf}⟩,n⟩,?_,?_⟩
    · rw [begins,if_pos sends,run_seq (run_ASSERT (by simp [there])),run_seq sent]
      rfl
    · refine alive_outcome ⟨ordered.upstream,ordered.downstream,ordered.acked⟩
        (fits.upstream (fun _ => some') (fun _ => sending)) rfl (kept.unfailed c found) ?_ (by simp [found]) rfl rfl rfl ⟨rfl,rfl,rfl⟩
        (by simp)
      intro dead same
      rw [← Option.some.inj same]
      exact (congrArg Option.isSome usable).symm
  · have sending : Sending pcb s.socks c' := by
      refine ⟨buffered',fun _ => window',fun _ => registered,?_,?_,small⟩
      · rintro (unready | none')
        · exact idle (.inl unready)
        · exact absurd none' some'
      · intro ready _
        have nonempty' : c.buf ≠ [] := fun empty => sends ⟨by simp [c',empty],fits.up.trans ready⟩
        obtain ⟨data,sent,some'',inside⟩ := busy ready nonempty'
        exact ⟨data,sent,some'',inside.trans (List.prefix_append _ _)⟩
    refine ⟨some .ERR_OK,w,?_,alive_outcome ordered (fits.upstream (fun _ => some') (fun _ => sending)) rfl
      (kept.unfailed c found) kept.killed (by simp [found]) rfl rfl rfl ⟨rfl,rfl,rfl⟩ ?_⟩
    · rw [begins,if_neg sends]
      rfl
    · intro err same
      exact ⟨(Option.some.inj same).symm,usable⟩

/-- The callback gave up the SOCKS client. -/
theorem released_outcome {w : World} {c : tcp_client} {event : Event} (close : err_t)
    (fits : Fits w.pcb w.socks c) (ordered : Ordered w.pcb w.socks)
    (killed : ∀ dead, w.dead_client = some dead → dead = w.pcb.ended.isSome) (present : w.client = some c)
    (counted : 0 < w.num_clients) (found : s.client = some c) (same : w.num_clients = n) (ended : w.pcb.ended = s.pcb.ended)
    (drained : event ≠ .socks_error → event ≠ .socks_closed → w.socks.taken = w.pcb.received)
    (steady : Steady (s.notes event) w) : Outcome s n event none (released close w c) := by
  obtain ⟨kept,counted',⟨received,taken,given⟩,closed⟩ := released_kept close fits ordered killed present counted
  refine ⟨kept,?_,by simp,?_,?_,fun gone => released_ended (ended ▸ gone),received.trans steady.1,
    taken.trans steady.2.1,given.trans steady.2.2⟩
  · rw [Counted,present,same] at counted'
    rw [Counted,found]
    exact counted'
  · intro unfailed unclosed _ _ _
    rw [taken,received]
    exact drained unfailed unclosed
  · intro _ usable
    exact closed (ended.trans usable)

theorem Sending.fail {pcb : Pcb} {socks : Socks} {c : tcp_client} (sending : Sending pcb socks c) :
    Sending pcb {socks with failed := true} c :=
  ⟨sending.buffered,sending.window,sending.registered,sending.idle,sending.busy,sending.room⟩

theorem Writing.fail {pcb : Pcb} {socks : Socks} {c : tcp_client} (writing : Writing pcb socks c) :
    Writing pcb {socks with failed := true} c :=
  ⟨writing.buffered,writing.pending,writing.registered,writing.waiting,writing.receiving⟩

/-- The SOCKS client reports that it is gone. -/
theorem Fits.fail {pcb : Pcb} {socks : Socks} {c : tcp_client} (fits : Fits pcb socks c) :
    Fits pcb {socks with failed := true} c where
  closed := fits.closed
  freed := fits.freed
  up := fits.up
  err := fits.err
  early := fits.early
  quiet := fits.quiet
  sending open' := (fits.sending open').fail
  writing ready up := (fits.writing ready up).fail
  receiving := fits.receiving
  released := fits.released
  lingers := fits.lingers

theorem run_socks_gone (lwip : Answers) {w : World} {c : tcp_client} (found : w.client = some c)
    (there : c.socks_closed = false) (fits : Fits w.pcb w.socks c) (positive : 0 < w.num_clients) :
    (client_free_socks lwip.close deep).run w = some (.ok (),released lwip.close w c,[]) :=
  run_free_socks lwip.close 1 found there (fits.freed.symm.trans there) fits.closed positive

theorem socks_error_fine (kept : Kept s) (counted : s.client.isSome → 0 < n) (allowed : s.allows .socks_error) :
    Fine lwip s n .socks_error := by
  obtain ⟨unfreed,-⟩ := allowed
  obtain ⟨c,found,there,fits⟩ := kept.there (by simpa using unfreed)
  have positive : 0 < n := counted (by simp [found])
  have ordered : Ordered s.pcb (s.notes .socks_error).socks :=
    ⟨kept.ordered.upstream,kept.ordered.downstream,kept.ordered.acked⟩
  right
  refine ⟨none,released lwip.close ⟨s.notes .socks_error,n⟩ c,?_,?_⟩
  · change (do client_socks_error lwip; return none : Act Returned).run _ = _
    have ran : (client_socks_error lwip).run ⟨s.notes .socks_error,n⟩ =
        some (.ok (),released lwip.close ⟨s.notes .socks_error,n⟩ c,[]) := by
      rw [client_socks_error,run_seq (run_deref (by exact found)),run_seq (run_ASSERT (by simp [there]))]
      exact run_socks_gone lwip found there fits.fail positive
    rw [run_seq ran]
    rfl
  · exact released_outcome lwip.close fits.fail ordered kept.killed found positive found rfl rfl (by simp) ⟨rfl,rfl,rfl⟩

theorem socks_closed_fine (kept : Kept s) (counted : s.client.isSome → 0 < n) (allowed : s.allows .socks_closed) :
    Fine lwip s n .socks_closed := by
  obtain ⟨unfreed,-,ready⟩ := allowed
  obtain ⟨c,found,there,fits⟩ := kept.there (by simpa using unfreed)
  have positive : 0 < n := counted (by simp [found])
  have ordered : Ordered s.pcb (s.notes .socks_closed).socks :=
    ⟨kept.ordered.upstream,kept.ordered.downstream,kept.ordered.acked⟩
  right
  refine ⟨none,released lwip.close ⟨s.notes .socks_closed,n⟩ c,?_,?_⟩
  · change (do client_socks_closed lwip; return none : Act Returned).run _ = _
    have ran : (client_socks_closed lwip).run ⟨s.notes .socks_closed,n⟩ =
        some (.ok (),released lwip.close ⟨s.notes .socks_closed,n⟩ c,[]) := by
      rw [client_socks_closed,run_seq (run_deref (by exact found)),run_seq (run_ASSERT (by simp [there])),
        run_seq (run_ASSERT (fits.up.trans ready))]
      exact run_socks_gone lwip found there fits.fail positive
    rw [run_seq ran]
    rfl
  · exact released_outcome lwip.close fits.fail ordered kept.killed found positive found rfl rfl (by simp) ⟨rfl,rfl,rfl⟩

/-- The callback that was in progress learns whether the client was killed. -/
theorem returns_fine (kept : Kept s) (allowed : s.allows .returns) : Fine lwip s n .returns := by
  obtain ⟨dead,registered⟩ := Option.isSome_iff_exists.mp allowed
  right
  refine ⟨some (if dead then .ERR_ABRT else .ERR_OK),⟨{s with dead_client := none},n⟩,?_,?_⟩
  · change deadLeave.run ⟨s,n⟩ = _
    rw [deadLeave,run_seq (run_get _),run_seq (run_modify _ _)]
    dsimp only
    rw [registered]
    cases dead <;> rfl
  · refine ⟨⟨kept.ordered,by simp,kept.gone,kept.fits,kept.unfailed⟩,rfl,?_,?_,?_,id,rfl,rfl,rfl⟩
    · intro err same
      have killed := kept.killed dead registered
      obtain rfl := Option.some.inj same
      cases dead with
      | true => exact .inl ⟨rfl,killed.symm⟩
      | false => exact .inr ⟨rfl,by simpa using killed.symm⟩
    · intro _ _ _ there freed
      rw [show s.socks.freed = true from freed] at there
      cases there
    · intro _ usable closed
      rw [show s.pcb.ended = some .closed from closed] at usable
      cases usable

theorem murder_fine (kept : Kept s) (counted : s.client.isSome → 0 < n) (allowed : s.allows .murder) :
    Fine lwip s n .murder := by
  obtain ⟨free,some'⟩ := allowed
  obtain ⟨c,found⟩ := Option.isSome_iff_exists.mp some'
  have fits := kept.fits c found
  have positive : 0 < n := counted some'
  -- first the connection, then the SOCKS client, each if it is still there
  have first : ∃ w c', w.client = some c' ∧ c'.client_closed ∧ c'.socks_closed = c.socks_closed ∧ w.num_clients = n ∧
      w.socks = s.socks ∧ w.pcb.received = s.pcb.received ∧ Ordered w.pcb s.socks ∧ w.pcb.ended.isSome ∧
      w.dead_client = none ∧ (s.pcb.ended = none → w.pcb.ended ≠ some .closed) ∧ ∀ m : Act Unit,
        (if ¬ c.client_closed then do
          tcp_err false; tcp_recv false; tcp_sent false; tcp_abort; killClient
          assign (fun client => {client with client_closed := true})
          m else m : Act Unit).run ⟨s,n⟩ = m.run w := by
    by_cases down : c.client_closed
    · refine ⟨⟨s,n⟩,c,found,down,rfl,rfl,rfl,rfl,kept.ordered,fits.closed.symm.trans down,free,?_,?_⟩
      · intro usable
        simp [usable]
      · intro m
        rw [if_neg (by simp [down])]
    · have up : c.client_closed = false := by simpa using down
      have usable : s.pcb.ended = none := by simpa [up] using fits.closed
      refine ⟨{kill (endPcb ⟨s,n⟩ .aborted) with client := some {c with client_closed := true}},_,rfl,rfl,rfl,rfl,rfl,rfl,
        ⟨kept.ordered.upstream,kept.ordered.downstream,kept.ordered.acked⟩,rfl,?_,?_,?_⟩
      · simp [kill,endPcb,free]
      · intro _ closed
        cases closed
      · intro m
        have aborted : tcp_abort.run (silence ⟨s,n⟩) = some (.ok (),endPcb ⟨s,n⟩ .aborted,[]) := by
          rw [tcp_abort,run_onPcb (by exact found) (by exact usable)]
          rfl
        rw [if_pos down,run_silence (by exact found) (by exact usable),run_seq aborted,run_seq run_killClient,
          run_seq (run_assign (by exact found) _)]
  obtain ⟨w,c',found',down,agree,same,socks,received,ordered,ended,free',unclosed,begins⟩ := first
  have ran : ∃ w', client_murder.run ⟨s,n⟩ = some (.ok (),finish w',[]) ∧ w'.pcb = w.pcb ∧ w'.dead_client = none ∧
      w'.num_clients = n ∧ w'.socks.freed ∧ Ordered w'.pcb w'.socks ∧ w'.socks.taken = s.socks.taken ∧
      w'.socks.given = s.socks.given := by
    rw [client_murder,run_seq (run_deref (by exact found))]
    dsimp only
    rw [begins]
    by_cases freed : c.socks_closed
    · refine ⟨w,?_,rfl,free',same,by rw [socks,← fits.freed,freed],by rwa [socks],by rw [socks],by rw [socks]⟩
      rw [if_neg (by simp [freed])]
      exact run_client_dealloc found' down (agree.trans freed) (by omega)
    · refine ⟨freeSocks w,?_,rfl,free',same,rfl,by rw [← socks] at ordered; exact ordered.free,
        show w.socks.taken = _ by rw [socks],show w.socks.given = _ by rw [socks]⟩
      have there : w.socks.freed = false := by
        rw [socks,← fits.freed]
        simpa using freed
      rw [if_pos freed,run_seq (run_BSocksClient_Free found' there),run_seq (run_assign (by exact found') _)]
      exact run_client_dealloc rfl down rfl (same ▸ positive)
  obtain ⟨w',murdered,pcb,free'',same',freed,ordered',taken,given⟩ := ran
  right
  refine ⟨none,finish w',?_,?_⟩
  · change (do client_murder; return none : Act Returned).run ⟨s,n⟩ = _
    rw [run_seq murdered]
    rfl
  · refine ⟨gone_kept ordered' (pcb ▸ ended) freed rfl ?_,?_,by simp,by simp,?_,fun _ => pcb ▸ ended,
      (congrArg Pcb.received pcb).trans received,taken,given⟩
    · intro dead registered
      rw [show w'.dead_client = some dead from registered] at free''
      cases free''
    · simp only [Counted,found,finish,same',Option.isSome_some,Option.isSome_none,if_true,Bool.false_eq_true,if_false]
      omega
    · intro _ usable closed
      exact absurd ((congrArg Pcb.ended pcb).symm.trans closed) (unclosed usable)

/-- The bytes that the SOCKS client has taken are confirmed, unless the connection is gone. -/
private def confirmed (pcb : Pcb) (closed : Bool) (k : Nat) : Pcb :=
  {pcb with recved := if closed then pcb.recved else pcb.recved + k}

theorem send_done_fine {k : Nat} (kept : Kept s) (counted : s.client.isSome → 0 < n)
    (allowed : s.allows (.send_done k)) : Fine lwip s n (.send_done k) := by
  obtain ⟨unfreed,-,some',within⟩ := allowed
  obtain ⟨data,outstanding,bounded⟩ := (Option.any_eq_true _ _).mp within
  have less : k ≤ data.length := by simpa using bounded
  obtain ⟨c,found,there,fits⟩ := kept.there (by simpa using unfreed)
  have positive : 0 < n := counted (by simp [found])
  have sending := fits.sending there
  have active : ¬ (s.socks.up = false ∨ c.buf = []) := fun idle => by
    have nothing := sending.idle idle
    rw [outstanding] at nothing
    cases nothing
  have ready : s.socks.up = true := by
    by_contra down
    exact active (.inl (by simpa using down))
  have nonempty : c.buf ≠ [] := fun empty => active (.inr empty)
  obtain ⟨data',outstanding',-,inside⟩ := sending.busy ready nonempty
  obtain rfl := Option.some.inj (outstanding.symm.trans outstanding')
  have bounded : k ≤ c.buf.length := less.trans inside.length_le
  have taken : data.take k = c.buf.take k := by
    obtain ⟨rest,whole⟩ := inside
    rw [← whole,List.take_append_of_le_length less]
  set c' : tcp_client := {c with buf := c.buf.drop k}
  set pcb := confirmed s.pcb c.client_closed k
  set socks : Socks := {s.socks with sending := none,taken := s.socks.taken ++ c.buf.take k}
  have noted : (s.notes (.send_done k)).socks = socks := by simp [Slot.notes,socks,outstanding,taken]
  have noted' : socks.taken = (s.notes (.send_done k)).socks.taken := congrArg Socks.taken noted.symm
  have buffered : pcb.received = socks.taken ++ c'.buf := by
    simp only [pcb,confirmed,sending.buffered,socks,c',List.append_assoc,List.take_append_drop]
  have ordered : Ordered pcb socks := ⟨buffered ▸ List.prefix_append _ _,kept.ordered.downstream,kept.ordered.acked⟩
  set w : World := ⟨⟨some c',s.dead_client,pcb,socks⟩,n⟩
  -- up to the point where the rest of the buffer is looked at
  have begins : (client_socks_send_handler_done lwip k).run ⟨s.notes (.send_done k),n⟩ =
      (if c'.buf ≠ [] then StreamPassInterface_Sender_Send c'.buf
      else if c'.client_closed then client_free_socks lwip.close deep else pure () : Act Unit).run w := by
    rw [client_socks_send_handler_done,run_seq (run_deref (by exact found)),run_seq (run_ASSERT (by simp [there])),
      run_seq (run_ASSERT (fits.up.trans ready)),run_seq (run_ASSERT nonempty),run_seq (run_ASSERT some'),
      run_seq (run_ASSERT bounded),run_seq (run_assign (by exact found) _)]
    dsimp only
    by_cases down : c.client_closed
    · rw [if_neg (by simp [down]),run_seq (run_deref (by rfl))]
      have same' : w = ⟨⟨some c',s.dead_client,s.pcb,(s.notes (.send_done k)).socks⟩,n⟩ := by
        simp only [w,pcb,confirmed,if_pos down,noted]
      rw [same']
      rfl
    · have usable : s.pcb.ended = none := by simpa [down] using fits.closed
      have confirms : (tcp_recved k).run ⟨⟨some c',s.dead_client,s.pcb,(s.notes (.send_done k)).socks⟩,n⟩ =
          some (.ok (),w,[]) := by
        rw [tcp_recved,run_onPcb (by rfl) (by exact usable)]
        simp only [w,pcb,confirmed,if_neg down,noted]
      rw [if_pos down]
      exact (run_seq confirms).trans (run_seq (run_deref rfl))
  have window : c.client_closed = false → pcb.received.length = pcb.recved + c'.buf.length := by
    intro up
    have before := sending.window up
    simp only [pcb,confirmed,up,Bool.false_eq_true,if_false,c',List.length_drop]
    omega
  have still : ∀ next : Option Bytes, (c'.buf = [] → next = none ∧ c.client_closed = false) →
      (c'.buf ≠ [] → next = some c'.buf) →
      Outcome s n (.send_done k) none {w with socks := {socks with sending := next}} := by
    intro next idle busy
    refine alive_outcome ⟨ordered.upstream,ordered.downstream,ordered.acked⟩ (fits.upstream ?_ (fun _ => ?_)) rfl
      (kept.unfailed c found) kept.killed (by simp [found]) rfl rfl rfl ⟨rfl,noted',rfl⟩ (by simp)
    · intro down empty
      exact clash down (idle empty).2
    · refine ⟨buffered,window,sending.registered,?_,fun _ some'' => ⟨c'.buf,busy some'',some'',List.prefix_rfl⟩,?_⟩
      · rintro (down | empty)
        · exact clash ready down
        · exact (idle empty).1
      · exact (List.length_drop ▸ Nat.sub_le _ _).trans sending.room
  right
  by_cases empty : c'.buf = []
  · rw [if_neg (not_not.mpr empty)] at begins
    by_cases down : c.client_closed
    · have ended' : pcb.ended.isSome := fits.closed.symm.trans down
      rw [if_pos (show c'.client_closed = true from down),
        show client_free_socks lwip.close deep = client_free_socks lwip.close (3 + 1) from rfl,
        run_free_socks_last (w := w) (c := c') lwip.close 3 rfl down there (fits.freed.symm.trans there) positive] at begins
      refine ⟨none,finish (freeSocks w),run_seq begins,gone_kept ordered.free ended' rfl rfl ?_,?_,by simp,?_,?_,
        fun _ => ended',rfl,noted',rfl⟩
      · intro dead registered
        rw [kept.killed dead registered,← fits.closed]
        exact down
      · simp only [Counted,found,finish,freeSocks,w,Option.isSome_some,Option.isSome_none,if_true,Bool.false_eq_true,
          if_false]
        omega
      · intro _ _ _ _ _
        rw [empty,List.append_nil] at buffered
        exact buffered.symm
      · intro _ usable
        rw [show pcb.ended = none from usable] at ended'
        cases ended'
    · rw [if_neg (show ¬ c'.client_closed = true from down)] at begins
      refine ⟨none,_,run_seq begins,still none (fun _ => ⟨rfl,by simpa using down⟩) (fun some'' => absurd empty some'')⟩
  · have sends := run_Sender_Send (w := w) (c := c') rfl (fits.freed.symm.trans there) ready rfl empty
    rw [if_pos empty,sends] at begins
    exact ⟨none,_,run_seq begins,still (some c'.buf) (fun none' => absurd none' empty) (fun _ => rfl)⟩

theorem socks_up_fine (kept : Kept s) (allowed : s.allows .socks_up) : Fine lwip s n .socks_up := by
  obtain ⟨unfreed,-,unready⟩ := allowed
  have there' : s.socks.freed = false := by simpa using unfreed
  obtain ⟨c,found,there,fits⟩ := kept.there there'
  have down : c.socks_up = false := fits.up.trans (by simpa using unready)
  obtain ⟨given,written,receiving,-⟩ := fits.early down
  have sending := fits.sending there
  have idle : s.socks.sending = none := sending.idle (.inl (fits.up.symm.trans down))
  set c' : tcp_client := {c with socks_recv_buf := none,socks_recv_tcp_pending := 0,socks_up := true}
  set pcb : Pcb := if c.client_closed then s.pcb else {s.pcb with sent := true}
  set socks : Socks := {s.socks with
    up := true
    sending := if c.buf = [] then none else some c.buf
    receiving := if c.client_closed then none else some CLIENT_SOCKS_RECV_BUF_SIZE}
  have ran : client_socks_up.run ⟨s.notes .socks_up,n⟩ = some (.ok (),⟨⟨some c',s.dead_client,pcb,socks⟩,n⟩,[]) := by
    rw [client_socks_up,run_seq (run_deref (by exact found)),run_seq (run_ASSERT (by simp [there])),
      run_seq (run_ASSERT (by simp [down])),run_seq (run_assign (by exact found) _)]
    dsimp only
    by_cases closed : c.client_closed
    · have nonempty := fits.lingers closed
      rw [if_neg (by simp [closed]),run_seq (run_assign (by rfl) _),if_pos nonempty,
        run_seq (run_send_to_socks (c := c') rfl there rfl there' rfl idle nonempty),if_neg (by simp [closed])]
      rw [show pcb = s.pcb from if_pos closed,show socks = {s.socks with up := true,sending := some c.buf} by
        simp [socks,closed,nonempty,receiving]]
      rfl
    · have up : c.client_closed = false := by simpa using closed
      have usable : s.pcb.ended = none := by simpa [closed] using fits.closed
      rw [if_pos closed,tcp_sent,run_seq (run_onPcb (by rfl) (by exact usable) _),run_seq (run_assign (by rfl) _)]
      by_cases empty : c.buf = []
      · rw [if_neg (not_not.mpr empty),if_pos closed,
          run_recv_initiate (c := c') rfl up there rfl rfl there' rfl receiving]
        rw [show pcb = {s.pcb with sent := true} from if_neg closed,show socks = {s.socks with
          up := true,receiving := some CLIENT_SOCKS_RECV_BUF_SIZE} by simp [socks,closed,empty,idle]]
        rfl
      · rw [if_pos empty,run_seq (run_send_to_socks (c := c') rfl there rfl there' rfl idle empty),if_pos closed,
          run_recv_initiate (c := c') rfl up there rfl rfl there' rfl receiving]
        rw [show pcb = {s.pcb with sent := true} from if_neg closed,show socks = {s.socks with
          up := true,sending := some c.buf,receiving := some CLIENT_SOCKS_RECV_BUF_SIZE} by simp [socks,closed,empty]]
        rfl
  have same : pcb.ended = s.pcb.ended ∧ pcb.received = s.pcb.received ∧ pcb.recved = s.pcb.recved ∧ pcb.written = [] ∧
      pcb.acked = s.pcb.acked ∧ pcb.err = s.pcb.err ∧ pcb.recv = s.pcb.recv ∧ (c.client_closed = false → pcb.sent) := by
    simp only [pcb]
    split_ifs with closed <;> simp [written,closed]
  obtain ⟨ended,received,recved,written',acked,err,recv,sent⟩ := same
  have none' : s.pcb.acked = 0 := by
    have most := kept.ordered.acked
    rw [written] at most
    exact Nat.le_zero.mp most
  have ordered : Ordered pcb socks := by
    refine ⟨?_,?_,?_⟩
    · rw [received]
      exact kept.ordered.upstream
    · rw [written']
      exact List.nil_prefix
    · rw [acked,none']
      exact Nat.zero_le _
  have fits' : Fits pcb socks c' := {
    closed := fits.closed.trans (congrArg Option.isSome ended.symm)
    freed := fits.freed
    up := rfl
    err := fun up => err.trans (fits.err up)
    early := fun impossible => by cases impossible
    quiet := fun impossible => by cases impossible
    sending := fun _ => {
      buffered := received.trans sending.buffered
      window := fun up => by rw [received,recved]; exact sending.window up
      registered := fun up => recv.trans (sending.registered up)
      idle := fun none' => by
        rcases none' with impossible | empty
        · cases impossible
        · exact if_pos empty
      busy := fun _ some'' => ⟨c.buf,if_neg some'',some'',List.prefix_rfl⟩
      room := sending.room}
    writing := fun _ up => {
      buffered := by rw [written']; exact given
      pending := by rw [written',acked,none']; rfl
      registered := sent up
      waiting := fun data holds => by cases holds
      receiving := fun _ _ => if_neg (by simpa using up)}
    receiving := fun len holds => by
      simp only [socks] at holds
      split_ifs at holds
      exact ⟨(Option.some.inj holds).symm,rfl⟩
    released := fun closed => by simp [c',there] at closed
    lingers := fits.lingers}
  right
  refine ⟨none,_,run_seq ran,alive_outcome ordered fits' rfl (kept.unfailed c found) ?_ (by simp [found]) rfl rfl ended
    ⟨received,rfl,rfl⟩ (by simp)⟩
  intro dead registered
  rw [kept.killed dead registered]
  exact congrArg Option.isSome ended.symm

/-- A client that is about to write what the SOCKS client gave. -/
structure Ready (pcb : Pcb) (socks : Socks) (c : tcp_client) (data : Bytes) : Prop where
  ordered : Ordered pcb socks
  usable : pcb.ended = none
  closed : c.client_closed = false
  freed : c.socks_closed = socks.freed
  up : c.socks_up
  up' : socks.up
  err : pcb.err
  sending : c.socks_closed = false → Sending pcb socks c
  buffered : socks.given = pcb.written ++ data.drop c.socks_recv_buf_sent
  pending : pcb.written.length = pcb.acked + c.socks_recv_tcp_pending
  registered : pcb.sent
  holds : c.socks_recv_buf = some data
  within : c.socks_recv_buf_sent < data.length
  small : data.length ≤ CLIENT_SOCKS_RECV_BUF_SIZE
  idle : c.socks_recv_waiting = false
  receiving : socks.receiving = none
  removed : c.socks_closed → pcb.recv = false

/-- A connection to which more was written. -/
private def writes (pcb : Pcb) (c : tcp_client) (data : Bytes) (m : Nat) : Pcb :=
  {pcb with written := pcb.written ++ (data.drop c.socks_recv_buf_sent).take m}

section
variable {pcb : Pcb} {socks : Socks} {c : tcp_client} {data : Bytes} {m : Nat}

/-- Sending upstream does not depend on what happens downstream. -/
private theorem Ready.sending' (ready : Ready pcb socks c data) (there : c.socks_closed = false)
    (receiving : Option Nat) {c' : tcp_client} (buf : c'.buf = c.buf) (closed : c'.client_closed = c.client_closed) :
    Sending (writes pcb c data m) {socks with receiving := receiving} c' := by
  obtain ⟨buffered,window,registered,idle,busy,room⟩ := ready.sending there
  refine ⟨?_,?_,?_,?_,?_,by rwa [buf]⟩
  · rw [buf]
    exact buffered
  · rw [buf,closed]
    exact window
  · rw [closed]
    exact registered
  · rw [buf]
    exact idle
  · rw [buf]
    exact busy

private theorem Ready.ordered' (ready : Ready pcb socks c data) (receiving : Option Nat) :
    Ordered (writes pcb c data m) {socks with receiving := receiving} := by
  refine ⟨ready.ordered.upstream,?_,?_⟩
  · change pcb.written ++ (data.drop c.socks_recv_buf_sent).take m <+: socks.given
    rw [ready.buffered,List.prefix_append_right_inj]
    exact List.take_prefix _ _
  · change pcb.acked ≤ (pcb.written ++ _).length
    rw [List.length_append]
    exact ready.ordered.acked.trans (Nat.le_add_right _ _)

private theorem Ready.length (ready : Ready pcb socks c data) (fits : c.socks_recv_buf_sent + m ≤ data.length) :
    (writes pcb c data m).written.length = pcb.acked + (c.socks_recv_tcp_pending + m) := by
  simp only [writes,List.length_append,List.length_take,List.length_drop,ready.pending]
  omega

private theorem Ready.left (ready : Ready pcb socks c data) :
    socks.given = (writes pcb c data m).written ++ data.drop (c.socks_recv_buf_sent + m) := by
  rw [writes,ready.buffered,List.append_assoc,← List.drop_drop,List.take_append_drop]

private theorem Ready.waits (ready : Ready pcb socks c data) (more : c.socks_recv_buf_sent + m < data.length)
    (pending : 0 < c.socks_recv_tcp_pending + m) :
    Fits (writes pcb c data m) {socks with receiving := none} {wrote c m with socks_recv_waiting := true} where
  closed := ready.closed.trans (congrArg Option.isSome ready.usable).symm
  freed := ready.freed
  up := ready.up.trans ready.up'.symm
  err _ := ready.err
  early down := clash ready.up down
  quiet down := clash ready.up down
  sending there := ready.sending' there none rfl rfl
  writing _ _ := {
    buffered := by
      simp only [unsent,wrote,ready.holds]
      exact ready.left
    pending := ready.length more.le
    registered := ready.registered
    waiting := fun data' same => by
      obtain rfl : data' = data := Option.some.inj (same.symm.trans ready.holds)
      exact ⟨rfl,more,ready.small,pending⟩
    receiving := fun _ none' => absurd (ready.holds.symm.trans none') (by simp)}
  receiving len impossible := by cases impossible
  released freed := ⟨ready.closed,ready.removed freed,.inr pending⟩
  lingers down := clash down ready.closed

private theorem Ready.whole (ready : Ready pcb socks c data) (all : c.socks_recv_buf_sent + m = data.length) :
    Fits (writes pcb c data m) {socks with receiving := if c.socks_closed then none else some CLIENT_SOCKS_RECV_BUF_SIZE}
      {wrote c m with socks_recv_buf := none} where
  closed := ready.closed.trans (congrArg Option.isSome ready.usable).symm
  freed := ready.freed
  up := ready.up.trans ready.up'.symm
  err _ := ready.err
  early down := clash ready.up down
  quiet down := clash ready.up down
  sending there := ready.sending' there _ rfl rfl
  writing _ _ := {
    buffered := by
      have left := ready.left (m := m)
      rw [all,List.drop_length] at left
      exact left
    pending := ready.length all.le
    registered := ready.registered
    waiting := fun data' impossible => by cases impossible
    receiving := fun there _ => if_neg (fun closed => clash closed there)}
  receiving len same := by
    dsimp only at same
    split_ifs at same
    exact ⟨(Option.some.inj same).symm,rfl⟩
  released freed := by
    have some' := ready.within
    exact ⟨ready.closed,ready.removed freed,.inr (by simp only [wrote]; omega)⟩
  lingers down := clash down ready.closed

private theorem Ready.aborts (ready : Ready pcb socks c data) :
    Halfway {writes pcb c data m with err := false,recv := false,sent := false,ended := some .aborted} socks (wrote c m) where
  ordered := by
    obtain ⟨upstream,downstream,acked⟩ := ready.ordered' (m := m) socks.receiving
    exact ⟨upstream,downstream,acked⟩
  ended := rfl
  freed := ready.freed
  up := ready.up.trans ready.up'.symm
  early down := clash ready.up down
  quiet _ := rfl
  buffered there := (ready.sending there).buffered
  idle there := (ready.sending there).idle
  busy there := (ready.sending there).busy
  room there := (ready.sending there).room
  receiving len same := by
    rw [ready.receiving] at same
    cases same

end

/-- Writing ended with the connection aborted. -/
private theorem aborted_outcome {w : World} {c : tcp_client} {data : Bytes} {m : Nat} {event : Event} {r : Returned}
    (ready : Ready w.pcb w.socks c data) (unfailed : c.socks_closed = false → w.socks.failed = false)
    (counted : 0 < w.num_clients) (some' : s.client.isSome) (same : w.num_clients = n)
    (freed : w.socks.freed = s.socks.freed) (steady : Steady (s.notes event) w)
    (returned : ∀ err, r = some err → err = .ERR_ABRT) :
    Outcome s n event r (handled (endPcb (queued w c data m) .aborted) (wrote c m)) := by
  obtain ⟨kept,counted',pcb,drained⟩ := handled_kept (w := endPcb (queued w c data m) .aborted)
    (ready.aborts (m := m)) unfailed rfl counted
  obtain ⟨taken,given⟩ := handled_steady (w := endPcb (queued w c data m) .aborted) (c := wrote c m)
  refine ⟨kept,?_,?_,?_,?_,fun _ => by rw [pcb]; rfl,by rw [pcb]; exact steady.1,taken.trans steady.2.1,
    given.trans steady.2.2⟩
  · rw [Counted] at counted' ⊢
    rw [some']
    simpa [endPcb,queued,same] using counted'
  · intro err same'
    rw [pcb]
    exact .inl ⟨returned err same',rfl⟩
  · intro _ _ _ there gone
    rw [pcb]
    exact drained (freed.trans there) gone
  · intro _ _ closed
    rw [pcb] at closed
    cases closed

theorem recv_done_fine {data : Bytes} (kept : Kept s) (counted : s.client.isSome → 0 < n)
    (allowed : s.allows (.recv_done data)) : Fine lwip s n (.recv_done data) := by
  obtain ⟨unfreed,-,some',within⟩ := allowed
  obtain ⟨len,outstanding,bounded⟩ := (Option.any_eq_true _ _).mp within
  obtain ⟨c,found,there,fits⟩ := kept.there (by simpa using unfreed)
  have positive : 0 < n := counted (by simp [found])
  obtain ⟨rfl,empty⟩ := fits.receiving len outstanding
  have up : c.socks_up := by
    by_contra down
    have nothing := (fits.early (by simpa using down)).2.2.1
    rw [outstanding] at nothing
    cases nothing
  have sending := fits.sending there
  set socks : Socks := {s.socks with receiving := none,given := s.socks.given ++ data}
  have ordered : Ordered s.pcb socks :=
    ⟨kept.ordered.upstream,kept.ordered.downstream.trans (List.prefix_append _ _),kept.ordered.acked⟩
  have asserted : ∀ m : Act Unit, (do
      let client ← deref
      ASSERT (0 < data.length)
      ASSERT (data.length ≤ CLIENT_SOCKS_RECV_BUF_SIZE)
      ASSERT (¬ client.socks_closed)
      ASSERT (client.socks_up)
      ASSERT (client.socks_recv_buf = none)
      if client.client_closed then return else m : Act Unit).run ⟨s.notes (.recv_done data),n⟩ =
        (if c.client_closed then pure () else m : Act Unit).run ⟨s.notes (.recv_done data),n⟩ := by
    intro m
    rw [run_seq (run_deref (by exact found)),run_seq (run_ASSERT some'),run_seq (run_ASSERT (by simpa using bounded)),
      run_seq (run_ASSERT (by simp [there])),run_seq (run_ASSERT up),run_seq (run_ASSERT empty)]
  by_cases closed : c.client_closed
  · right
    have ran : (client_socks_recv_handler_done lwip data).run ⟨s.notes (.recv_done data),n⟩ =
        some (.ok (),⟨s.notes (.recv_done data),n⟩,[]) := by
      rw [client_socks_recv_handler_done,asserted,if_pos closed]
      rfl
    refine ⟨none,⟨s.notes (.recv_done data),n⟩,run_seq ran,?_⟩
    refine alive_outcome (w := ⟨s.notes (.recv_done data),n⟩) ordered ?_ found (kept.unfailed c found) kept.killed
      (by simp [found]) rfl rfl rfl ⟨rfl,rfl,rfl⟩ (by simp)
    exact {
      closed := fits.closed
      freed := fits.freed
      up := fits.up
      err := fits.err
      early := clash up
      quiet := fits.quiet
      sending := fun _ => ⟨sending.buffered,sending.window,sending.registered,sending.idle,sending.busy,
        sending.room⟩
      writing := fun _ open' => clash closed open'
      receiving := fun len impossible => by cases impossible
      released := fits.released
      lingers := fits.lingers}
  have up' : c.client_closed = false := by simpa using closed
  have usable : s.pcb.ended = none := by simpa [up'] using fits.closed
  have writing := fits.writing up up'
  have buffered := writing.buffered
  rw [unsent,empty,List.append_nil] at buffered
  set c' : tcp_client := {c with socks_recv_buf := some data,socks_recv_buf_sent := 0,socks_recv_waiting := false}
  set w : World := ⟨{s.notes (.recv_done data) with client := some c'},n⟩
  have ready : Ready s.pcb socks c' data := {
    ordered := ordered
    usable := usable
    closed := up'
    freed := fits.freed
    up := up
    up' := fits.up.symm.trans up
    err := fits.err up'
    sending := fun _ => ⟨sending.buffered,sending.window,sending.registered,sending.idle,sending.busy,
        sending.room⟩
    buffered := by simp only [socks,c',List.drop_zero,buffered]
    pending := writing.pending
    registered := writing.registered
    holds := rfl
    within := some'
    small := by simpa using bounded
    idle := rfl
    receiving := rfl
    removed := fun freed => clash freed there}
  have begins : (client_socks_recv_handler_done lwip data).run ⟨s.notes (.recv_done data),n⟩ = (do
      let up ← client_socks_recv_send_out lwip
      if ¬ up then return else do
        let client ← deref
        if client.socks_recv_buf = none then client_socks_recv_initiate : Act Unit).run w := by
    rw [client_socks_recv_handler_done,asserted,if_neg closed,run_seq (run_assign (by exact found) _)]
  rcases run_send_out lwip (w := w) (c := c') rfl up' usable fits.freed positive up rfl some' rfl with
    ⟨stuck,few⟩ | ⟨good,w',sent,out⟩
  · left
    refine ⟨?_,few.trans ready.small⟩
    change (client_socks_recv_handler_done lwip data >>= fun _ => pure none).run _ = none
    rw [run_bind,begins,run_bind,stuck]
    rfl
  right
  rw [run_seq sent] at begins
  cases out with
  | aborted m fits' =>
    rw [if_pos (by simp)] at begins
    exact ⟨none,_,run_seq begins,aborted_outcome (w := w) ready (kept.unfailed c found) positive (by simp [found]) rfl rfl
      ⟨rfl,rfl,rfl⟩ (by simp)⟩
  | waiting m more pending =>
    rw [if_neg (by simp),run_seq (run_deref (by rfl)),if_neg (by simp [wrote,c'])] at begins
    refine ⟨none,_,run_seq begins,alive_outcome ((ready.ordered' none)) (ready.waits more pending) rfl
      (kept.unfailed c found) ?_ (by simp [found]) rfl rfl rfl ⟨rfl,rfl,rfl⟩ (by simp)⟩
    exact kept.killed
  | whole m all =>
    have fits' := ready.whole all
    rw [if_neg (show ¬ c'.socks_closed = true by simp [c',there])] at fits'
    have initiated := run_recv_initiate (w := {queued w c' data m with client := some {wrote c' m with socks_recv_buf := none}})
      (c := {wrote c' m with socks_recv_buf := none}) rfl up' there up rfl (fits.freed.symm.trans there)
      (fits.up.symm.trans up) rfl
    rw [if_neg (by simp),run_seq (run_deref (by rfl)),if_pos rfl,initiated] at begins
    refine ⟨none,_,run_seq begins,alive_outcome (ready.ordered' _) fits' rfl (kept.unfailed c found) ?_
      (by simp [found]) rfl rfl rfl ⟨rfl,rfl,rfl⟩ (by simp)⟩
    exact kept.killed

theorem sent_fine {len : Nat} (kept : Kept s) (counted : s.client.isSome → 0 < n) (allowed : s.allows (.sent len)) :
    Fine lwip s n (.sent len) := by
  obtain ⟨free,usable,registered,some',fewer⟩ := allowed
  obtain ⟨c,found,up,fits⟩ := kept.present usable
  have positive : 0 < n := counted (by simp [found])
  have ready' : c.socks_up := by
    by_contra down
    exact clash registered (fits.quiet (by simpa using down))
  have writing := fits.writing ready' up
  have pending := writing.pending
  have less : len ≤ c.socks_recv_tcp_pending := by omega
  set c' : tcp_client := {c with socks_recv_tcp_pending := c.socks_recv_tcp_pending - len}
  set pcb : Pcb := {s.pcb with acked := s.pcb.acked + len}
  set w : World := ⟨{s.notes (.sent len) with client := some c'},n⟩
  have ordered : Ordered pcb s.socks := ⟨kept.ordered.upstream,kept.ordered.downstream,fewer⟩
  have pending' : pcb.written.length = pcb.acked + c'.socks_recv_tcp_pending := by
    simp only [pcb,c']
    omega
  have asserted : ∀ m : tcp_client → Act Returned, (do
      let client ← deref
      ASSERT (¬ client.client_closed)
      ASSERT (client.socks_up)
      ASSERT (0 < len)
      ASSERT (len ≤ client.socks_recv_tcp_pending)
      assign (fun client => {client with socks_recv_tcp_pending := client.socks_recv_tcp_pending - len})
      m client : Act Returned).run ⟨s.notes (.sent len),n⟩ = (m c).run w := by
    intro m
    rw [run_seq (run_deref (by exact found)),run_seq (run_ASSERT (by simp [up])),run_seq (run_ASSERT ready'),
      run_seq (run_ASSERT some'),run_seq (run_ASSERT less),run_seq (run_assign (by exact found) _)]
  rcases holds : c.socks_recv_buf with _ | data
  · -- nothing is left to be written
    have buffered := writing.buffered
    rw [unsent,holds,List.append_nil] at buffered
    right
    by_cases last : c'.socks_closed ∧ c'.socks_recv_tcp_pending = 0
    · have gone := run_handle_last (w := endPcb w (endingOf lwip.close)) (c := c') lwip.close 2 rfl up last.1 positive
      refine ⟨some .ERR_ABRT,finish (kill (endPcb w (endingOf lwip.close))),?_,?_,?_,?_,?_,?_,fun _ => rfl,rfl,rfl,rfl⟩
      · change (client_sent_func lwip len).run _ = _
        rw [client_sent_func,asserted,if_neg (by simp [holds]),run_seq (run_deref (w := w) (c := c') rfl),if_pos last]
        have freed : (client_free_client lwip.close deep).run w =
            some (.ok (),finish (kill (endPcb w (endingOf lwip.close))),[]) :=
          (run_free_client (w := w) (c := c') lwip.close 3 rfl up usable).trans gone
        rw [run_seq freed]
        rfl
      · have ordered' : Ordered (endPcb w (endingOf lwip.close)).pcb s.socks :=
          ⟨ordered.upstream,ordered.downstream,ordered.acked⟩
        exact gone_kept ordered' rfl (fits.freed.symm.trans last.1) rfl kill_killed
      · simp only [Counted,found,finish,kill,endPcb,w,Option.isSome_some,Option.isSome_none,if_true,Bool.false_eq_true,
          if_false]
        omega
      · intro err same
        exact .inl ⟨(Option.some.inj same).symm,rfl⟩
      · intro _ _ _ there _
        exact clash last.1 (fits.freed.trans there)
      · intro _ _ _
        refine ⟨buffered.symm,?_⟩
        rw [last.2] at pending'
        exact pending'.symm
    · refine ⟨some .ERR_OK,w,?_,?_⟩
      · change (client_sent_func lwip len).run _ = _
        rw [client_sent_func,asserted,if_neg (by simp [holds]),run_seq (run_deref (w := w) (c := c') rfl),if_neg last]
        rfl
      · refine alive_outcome (c := c') ordered ?_ rfl (kept.unfailed c found) kept.killed (by simp [found]) rfl rfl rfl
          ⟨rfl,rfl,rfl⟩ ?_
        · exact {
            closed := fits.closed
            freed := fits.freed
            up := fits.up
            err := fits.err
            early := clash ready'
            quiet := fits.quiet
            sending := fun there => by
              obtain ⟨buffered,window,registered,idle,busy,room⟩ := fits.sending there
              exact ⟨buffered,window,registered,idle,busy,room⟩
            writing := fun _ _ => ⟨writing.buffered,pending',registered,fun data' same => by simp [c',holds] at same,
              writing.receiving⟩
            receiving := fits.receiving
            released := fun freed => by
              refine ⟨up,(fits.released freed).2.1,.inr (Nat.pos_of_ne_zero (fun zero => last ⟨freed,zero⟩))⟩
            lingers := fits.lingers}
        · intro err same
          exact ⟨(Option.some.inj same).symm,usable⟩
  · obtain ⟨waiting,within,small,-⟩ := writing.waiting data holds
    have buffered := writing.buffered
    rw [unsent,holds] at buffered
    dsimp only at buffered
    set c'' : tcp_client := {c' with socks_recv_waiting := false}
    set w' : World := {w with client := some c''}
    have ready : Ready pcb s.socks c'' data := {
      ordered := ordered
      usable := usable
      closed := up
      freed := fits.freed
      up := ready'
      up' := fits.up.symm.trans ready'
      err := fits.err up
      sending := fun there => by
        obtain ⟨buffered,window,registered,idle,busy,room⟩ := fits.sending there
        exact ⟨buffered,window,registered,idle,busy,room⟩
      buffered := buffered
      pending := pending'
      registered := registered
      holds := holds
      within := within
      small := small
      idle := rfl
      receiving := by
        rcases outstanding : s.socks.receiving with _ | size
        · rfl
        · have empty := (fits.receiving size outstanding).2
          rw [holds] at empty
          cases empty
      removed := fun freed => (fits.released freed).2.1}
    have begins : (handler lwip (.sent len)).run ⟨s.notes (.sent len),n⟩ = (do
        let up ← client_socks_recv_send_out lwip
        if ¬ up then return some .ERR_ABRT
        else do
          let client ← deref
          ASSERT (0 < client.socks_recv_tcp_pending)
          if client.socks_recv_buf = none ∧ ¬ client.socks_closed then do
            client_socks_recv_initiate
            deadEnter
            return none
          else return some .ERR_OK : Act Returned).run w' := by
      change (client_sent_func lwip len).run _ = _
      have length : (c.socks_recv_buf.getD []).length = data.length := by rw [holds]; rfl
      rw [client_sent_func,asserted,length,if_pos (by omega),run_seq (run_ASSERT waiting),run_seq (run_ASSERT within),
        run_seq (run_assign (w := w) (c := c') rfl _)]
    rcases run_send_out lwip (w := w') (c := c'') rfl up usable fits.freed positive ready' holds within rfl with
      ⟨stuck,few⟩ | ⟨good,w'',sent,out⟩
    · left
      refine ⟨?_,few.trans small⟩
      rw [begins,run_bind,stuck]
      rfl
    right
    rw [run_seq sent] at begins
    cases out with
    | aborted m fits' =>
      rw [if_pos (by simp)] at begins
      refine ⟨_,_,begins,aborted_outcome (w := w') ready (kept.unfailed c found) positive (by simp [found]) rfl rfl
        ⟨rfl,rfl,rfl⟩ ?_⟩
      intro err same
      exact (Option.some.inj same).symm
    | waiting m more pending'' =>
      rw [if_neg (by simp),run_seq (run_deref (by rfl)),run_seq (run_ASSERT (by exact pending'')),
        if_neg (by simp [wrote,c'',c',holds])] at begins
      have fits' := ready.waits more pending''
      have none' : {s.socks with receiving := none} = s.socks := by
        rw [← ready.receiving]
      rw [none'] at fits'
      refine ⟨_,_,begins,alive_outcome (none' ▸ ready.ordered' none) fits' rfl (kept.unfailed c found) kept.killed
        (by simp [found]) rfl rfl rfl ⟨rfl,rfl,rfl⟩ ?_⟩
      intro err same
      exact ⟨(Option.some.inj same).symm,usable⟩
    | whole m all =>
      have fits' := ready.whole all
      have positive' : 0 < (wrote c'' m).socks_recv_tcp_pending := by
        have place : c''.socks_recv_buf_sent = c.socks_recv_buf_sent := rfl
        simp only [wrote]
        omega
      rw [if_neg (by simp),run_seq (run_deref (by rfl)),run_seq (run_ASSERT (by exact positive'))] at begins
      by_cases freed : c.socks_closed
      · rw [if_neg (by simp [wrote,c'',c',freed])] at begins
        have none' : {s.socks with receiving := none} = s.socks := by
          rw [← ready.receiving]
        rw [if_pos (show c''.socks_closed = true from freed),none'] at fits'
        refine ⟨_,_,begins,alive_outcome (none' ▸ ready.ordered' none) fits' rfl (kept.unfailed c found) kept.killed
          (by simp [found]) rfl rfl rfl ⟨rfl,rfl,rfl⟩ ?_⟩
        intro err same
        exact ⟨(Option.some.inj same).symm,usable⟩
      · have there : c.socks_closed = false := by simpa using freed
        rw [if_neg (show ¬ c''.socks_closed = true from freed)] at fits'
        have initiated := run_recv_initiate
          (w := {queued w' c'' data m with client := some {wrote c'' m with socks_recv_buf := none}})
          (c := {wrote c'' m with socks_recv_buf := none}) rfl up there ready' rfl (fits.freed.symm.trans there)
          (fits.up.symm.trans ready') ready.receiving
        rw [if_pos ⟨rfl,freed⟩,run_seq initiated] at begins
        refine ⟨none,_,begins.trans ?_,alive_outcome (w := ⟨⟨some {wrote c'' m with socks_recv_buf := none},some false,
          writes pcb c'' data m,{s.socks with receiving := some CLIENT_SOCKS_RECV_BUF_SIZE}⟩,n⟩) (ready.ordered' _) fits'
          rfl (kept.unfailed c found) ?_ (by simp [found]) rfl rfl rfl ⟨rfl,rfl,rfl⟩ (by simp)⟩
        · rfl
        · intro dead same
          rw [← Option.some.inj same]
          exact (congrArg Option.isSome usable).symm

end

end WSocks.TcpSafety
