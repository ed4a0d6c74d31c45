import WSocks.Vpn
import WSocks.Effects
import WSocks.Runs

/-!
# The VPN service

The service sets up a tunnel, starts the daemons and hands the descriptor of the
tunnel over to tun2socks. It remembers that it runs, but no stop makes it forget.
-/

namespace WSocks.Service
open WSocks.Runs WSocks.Effects WSocks.Effects.Action WSocks.Vpn

def DIR : String := "/data/data/net.typeblog.socks/files"

/-- `ParcelFileDescriptor`. -/
structure ParcelFileDescriptor where
  fd : Int32
  closed : Bool

def ParcelFileDescriptor.getFd (descriptor : ParcelFileDescriptor) : Except Thrown Int32 :=
  if descriptor.closed then .error .illegalState else .ok descriptor.fd

/-- The fields of `SocksVpnService`. -/
structure State where
  mInterface : Option ParcelFileDescriptor
  mRunning : Bool

/-- What the service does to the system and the rest of the application. -/
inductive Output
  | startForeground (name : Option String)
  | establish (builder : Builder)
  | launcherStart (server : Option String) (port : Int32) (user pass : Option String) (offset : Int32) (doZip : Bool)
  | makePdnsdConf (dns : Option String) (port : Int32)
  | exec (command : String)
  | sendfd (fd result : Int32)
  | stopForeground
  | killPidFile (file : String)
  | jniclose (fd : Int32)
  | close (fd : Int32)
  | launcherStop
  | stopSelf

/-- How the calls that `onStartCommand` makes end; `sendfd` gives -1 when it fails. -/
structure Outcomes where
  establish : Except Thrown (Option Int32)
  launcherStart : Except Thrown Unit
  makePdnsdConf : Except Thrown Unit
  tun2socks : Int32
  sendfd : Nat → Int32
  launcherStop : Except Thrown Unit

/-- What a method does. An exception keeps the changes made before it. -/
abbrev Act (α : Type) := Action Thrown State Output α

/-- The `try` block of `stopMe`: nothing is closed without an open descriptor. -/
def closeInterface : Act Unit := do
  match (← get).mInterface with
  | none => pure ()
  | some descriptor =>
    match descriptor.getFd with
    | .error _ => pure ()
    | .ok fd =>
      emit (.jniclose fd)
      emit (.close fd)
      modify (fun state => {state with mInterface := some {descriptor with closed := true}})

def stopMe (launcherStop : Except Thrown Unit) : Act Unit := do
  emit .stopForeground
  emit (.killPidFile (DIR ++ "/tun2socks.pid"))
  emit (.killPidFile (DIR ++ "/pdnsd.pid"))
  closeInterface
  emit .launcherStop
  launcherStop
  emit .stopSelf

/-- The command line of tun2socks; joining the lines leaves the tabs. -/
def command (fd : Int32) : String :=
  DIR ++ "/tun2socks --netif-ipaddr 26.26.26.2\t\t\t--netif-netmask 255.255.255.0\t\t\t--socks-server-addr 127.0.0.1:1080" ++
    "\t\t\t--tunfd " ++ toString fd ++ "\t\t\t--tunmtu 1500\t\t\t--loglevel 3\t\t\t--pid " ++ DIR ++
    "/tun2socks.pid\t\t\t--dnsgw 26.26.26.1:8091\t\t\t"

/-- `while (i-- > 0)`: whether the descriptor was sent. -/
def sendLoop (fd : Int32) (sendfd : Nat → Int32) : Nat → Act Bool
  | 0 => pure false
  | i + 1 => do
    emit (.sendfd fd (sendfd i))
    if sendfd i ≠ -1 then
      modify (fun state => {state with mRunning := true})
      pure true
    else sendLoop fd sendfd i

def start (fd : Int32) (dns : Option String) (dnsPort : Int32) (outcomes : Outcomes) : Act Unit := do
  emit (.makePdnsdConf dns dnsPort)
  outcomes.makePdnsdConf
  emit (.exec (DIR ++ "/pdnsd -c " ++ DIR ++ "/pdnsd.conf"))
  emit (.exec (command fd))
  if outcomes.tun2socks ≠ 0 then stopMe outcomes.launcherStop
  else if ← sendLoop fd outcomes.sendfd 5 then pure ()
  else stopMe outcomes.launcherStop

section
variable (android : Android) (debug : Bool)

/-- `configure`, with the extras of the intent. -/
def configure (intent : Intent) (outcomes : Outcomes) : Act Unit := do
  let builder ← Vpn.configure android intent.name intent.route (intent.perApp.getD false) (intent.appBypass.getD false)
    (intent.appList.getD []) false
  emit (.establish builder)
  let fd ← outcomes.establish
  modify (fun state => {state with mInterface := fd.map (fun fd => ⟨fd,false⟩)})

/-- What follows `configure`; the log of a debug build wants a descriptor. -/
def launch (intent : Intent) (outcomes : Outcomes) : Act Int32 := do
  match (← get).mInterface with
  | none => if debug then throw .nullPointer else pure 1
  | some descriptor =>
    emit (.launcherStart intent.server (intent.port.getD 1080) intent.username intent.passwd (intent.offset.getD 0)
      (intent.doZip.getD false))
    outcomes.launcherStart
    let fd ← descriptor.getFd
    start fd intent.dns (intent.dnsPort.getD 53) outcomes
    pure 1

def onStartCommand (intent : Option Intent) (outcomes : Outcomes) : Act Int32 :=
  match intent with
  | none => pure 0
  | some intent => do
    if (← get).mRunning then pure 0
    else
      emit (.startForeground intent.name)
      configure android intent outcomes
      launch debug intent outcomes

end

/-! ### Runs of the service -/

/-- A callback or a call through the binder, and how the calls made in it end. -/
inductive Event
  | onStartCommand (intent : Option Intent) (outcomes : Outcomes)
  | stop (launcherStop : Except Thrown Unit)
  | onRevoke (launcherStop : Except Thrown Unit)
  | onDestroy (launcherStop : Except Thrown Unit)

/-- How a method ends, and what it did. -/
structure Reaction where
  result : Except Thrown (Option Int32)
  outputs : List Output

/-- The method for an event; `super.onRevoke()` stops the service. -/
def Event.call (android : Android) (debug : Bool) : Event → Act (Option Int32)
  | .onStartCommand intent outcomes => some <$> Service.onStartCommand android debug intent outcomes
  | .stop launcherStop => do
    stopMe launcherStop
    pure none
  | .onRevoke launcherStop => do
    emit .stopSelf
    stopMe launcherStop
    pure none
  | .onDestroy launcherStop => do
    stopMe launcherStop
    pure none

/-- An event as a step. Android ends the process after an exception that no method
    catches, so some of these runs are longer than real ones. -/
def step (android : Android) (debug : Bool) (state : State) (event : Event) : Option (State × Reaction) :=
  ((event.call android debug).run state).map (fun ran => (ran.2.1,⟨ran.1,ran.2.2⟩))

def initial : State := ⟨none,false⟩

def isRunning (state : State) : Bool := state.mRunning

abbrev Past := List (Transition State Event Reaction)

abbrev Trace (android : Android) (debug : Bool) (past : Past) (state : State) : Prop :=
  Run (step android debug) initial past state

/-! ### Handing over and stopping -/

/-- The descriptor arrives at tun2socks. -/
def Handed : Output → Prop
  | .sendfd _ result => result ≠ -1
  | _ => False

theorem handed_iff {o : Output} : Handed o ↔ ∃ fd result, o = .sendfd fd result ∧ result ≠ -1 := by
  cases o <;> simp [Handed]

/-- Every stop begins with leaving the foreground. -/
def Stopped : Output → Prop
  | .stopForeground => True
  | _ => False

theorem stopped_iff {o : Output} : Stopped o ↔ o = .stopForeground := by
  cases o <;> simp [Stopped]

/-- All that the service has done. -/
def log (past : Past) : List Output := past.flatMap (·.reaction.outputs)

/-- What `isRunning` promises: it is true exactly while a descriptor that was handed over
    is in use, and a start while none is has the effect of a start of a new service. -/
structure Sound (android : Android) (debug : Bool) (past : Past) : Prop where
  running : ∀ earlier t later, past = earlier ++ t :: later →
    (isRunning t.after = true ↔ Since Handed Stopped (log (earlier ++ [t])))
  starts : ∀ earlier t later, past = earlier ++ t :: later → ¬ Since Handed Stopped (log earlier) →
    ∀ intent outcomes, t.event = .onStartCommand intent outcomes →
      (step android debug initial t.event).map Prod.snd = some t.reaction

def Stops : Event → Prop
  | .onStartCommand _ _ => False
  | _ => True

/-! ### What the methods do -/

/-- A start either runs and has handed over the descriptor, or changes nothing about that. -/
private def Started (state next : State) (outputs : List Output) : Prop :=
  (next.mRunning = true ∧ (∃ o ∈ outputs, Handed o) ∧ ∀ o ∈ outputs, ¬ Stopped o) ∨
    (next.mRunning = state.mRunning ∧ ∀ o ∈ outputs, ¬ Handed o)

private theorem Started.unchanged (state : State) : Started state state [] := .inr ⟨rfl,by simp⟩

/-- What neither hands over nor stops does not matter before. -/
private theorem Started.append {state middle next : State} {before outputs : List Output}
    (same : middle.mRunning = state.mRunning) (quiet : ∀ o ∈ before, ¬ Handed o ∧ ¬ Stopped o)
    (started : Started middle next outputs) : Started state next (before ++ outputs) := by
  rcases started with ⟨running,⟨o,member,handed⟩,kept⟩ | ⟨unchanged,silent⟩
  · refine .inl ⟨running,⟨o,List.mem_append_right _ member,handed⟩,?_⟩
    rw [List.forall_mem_append]
    exact ⟨fun o inside => (quiet o inside).2,kept⟩
  · refine .inr ⟨unchanged.trans same,?_⟩
    rw [List.forall_mem_append]
    exact ⟨fun o inside => (quiet o inside).1,silent⟩

private theorem Started.cons {state next : State} {o : Output} {outputs : List Output} (unhanded : ¬ Handed o)
    (unstopped : ¬ Stopped o) (started : Started state next outputs) : Started state next (o :: outputs) :=
  started.append rfl (List.forall_mem_singleton.mpr ⟨unhanded,unstopped⟩)

private theorem closeInterface_ensures (state : State) :
    closeInterface.Ensures state (fun result next outputs =>
      result = .ok () ∧ next.mRunning = state.mRunning ∧ ∀ o ∈ outputs, ¬ Handed o) := by
  unfold closeInterface
  rcases held : state.mInterface with _ | ⟨fd,_ | _⟩ <;> simp [held,ParcelFileDescriptor.getFd,handed_iff]

private theorem stopMe_ensures (launcherStop : Except Thrown Unit) (state : State) :
    (stopMe launcherStop).Ensures state (fun _ next outputs =>
      next.mRunning = state.mRunning ∧ (∀ o ∈ outputs, ¬ Handed o) ∧ .stopForeground ∈ outputs) := by
  unfold stopMe
  simp only [ensures_bind,ensures_emit]
  refine (closeInterface_ensures state).mono ?_
  rintro _ next outputs ⟨rfl,same,silent⟩
  cases launcherStop with
  | error thrown => simpa [same,handed_iff,or_imp,forall_and] using silent
  | ok => simpa [same,handed_iff,or_imp,forall_and] using silent

private theorem sendLoop_ensures (fd : Int32) (sendfd : Nat → Int32) (i : Nat) (state : State) :
    (sendLoop fd sendfd i).Ensures state (fun result next outputs => (∀ o ∈ outputs, ¬ Stopped o) ∧
      ((result = .ok true ∧ next.mRunning = true ∧ ∃ o ∈ outputs, Handed o) ∨
        (result = .ok false ∧ next = state ∧ ∀ o ∈ outputs, ¬ Handed o))) := by
  induction i with
  | zero => simp [sendLoop]
  | succ i ih =>
    by_cases failed : sendfd i = -1
    · simp only [sendLoop,failed,ensures_bind,ensures_emit,ne_eq,not_true_eq_false,if_false]
      refine ih.mono ?_
      rintro result next outputs ⟨kept,sent | unsent⟩
      · obtain ⟨rfl,running,o,member,handed⟩ := sent
        refine ⟨by simpa [stopped_iff] using kept,.inl ⟨rfl,running,o,by simp [member],handed⟩⟩
      · obtain ⟨rfl,rfl,silent⟩ := unsent
        exact ⟨by simpa [stopped_iff] using kept,.inr ⟨rfl,rfl,by simpa [handed_iff,failed] using silent⟩⟩
    · simp [sendLoop,failed,handed_iff,stopped_iff,Except.map]

private theorem start_ensures (fd : Int32) (dns : Option String) (dnsPort : Int32) (outcomes : Outcomes)
    (state : State) :
    (start fd dns dnsPort outcomes).Ensures state (fun _ next outputs => Started state next outputs) := by
  unfold start
  simp only [ensures_bind,ensures_emit]
  cases outcomes.makePdnsdConf with
  | error thrown =>
    rw [ensures_lift]
    exact .cons id id (.unchanged state)
  | ok =>
    simp only [ensures_lift]
    by_cases failed : outcomes.tun2socks ≠ 0
    · rw [if_pos failed]
      refine (stopMe_ensures outcomes.launcherStop state).mono ?_
      rintro result next outputs ⟨same,silent,-⟩
      exact .cons id id (.cons id id (.cons id id (.inr ⟨same,silent⟩)))
    · rw [if_neg failed]
      simp only [ensures_bind]
      refine (sendLoop_ensures fd outcomes.sendfd 5 state).mono ?_
      rintro result next outputs ⟨kept,⟨rfl,running,sent⟩ | ⟨rfl,rfl,silent⟩⟩
      · simp only [if_true,ensures_pure,List.append_nil]
        exact .cons id id (.cons id id (.cons id id (.inl ⟨running,sent,kept⟩)))
      · simp only [Bool.false_eq_true,if_false]
        refine (stopMe_ensures outcomes.launcherStop next).mono ?_
        rintro result' next' outputs' ⟨same,silent',-⟩
        have quiet : ∀ o ∈ outputs, ¬ Handed o ∧ ¬ Stopped o := fun o member => ⟨silent o member,kept o member⟩
        have started : Started next next' (outputs ++ outputs') := Started.append rfl quiet (.inr ⟨same,silent'⟩)
        exact .cons id id (.cons id id (.cons id id started))

variable {android : Android} {debug : Bool} {state next : State} {event : Event} {reaction : Reaction} {past : Past}

private theorem launch_ensures (intent : Intent) (outcomes : Outcomes) (state : State) :
    (launch debug intent outcomes).Ensures state (fun _ next outputs => Started state next outputs) := by
  unfold launch
  simp only [ensures_bind,ensures_get]
  cases state.mInterface with
  | none => cases debug <;> simp [Started]
  | some descriptor =>
    simp only [ensures_bind,ensures_emit]
    cases outcomes.launcherStart with
    | error thrown =>
      rw [ensures_lift]
      exact .cons id id (.unchanged state)
    | ok =>
      simp only [ensures_lift]
      cases descriptor.getFd with
      | error thrown => exact .cons id id (.unchanged state)
      | ok fd =>
        refine (start_ensures fd intent.dns (intent.dnsPort.getD 53) outcomes state).mono ?_
        intro result next outputs started
        cases result with
        | error thrown => exact .cons id id started
        | ok =>
          simp only [ensures_pure,List.append_nil]
          exact .cons id id started

/-- What a service that does not run makes of an intent: the old descriptor plays no part in it. -/
private theorem onStartCommand_idle (android : Android) (debug : Bool) (intent : Intent) (outcomes : Outcomes) :
    (∃ thrown outputs, (∀ o ∈ outputs, ¬ Handed o) ∧ ∀ state : State, state.mRunning = false →
      (onStartCommand android debug (some intent) outcomes).run state = some (.error thrown,state,outputs)) ∨
    ∃ configured outputs, configured.mRunning = false ∧ (∀ o ∈ outputs, ¬ Handed o ∧ ¬ Stopped o) ∧
      ∀ state : State, state.mRunning = false → (onStartCommand android debug (some intent) outcomes).run state =
        ((launch debug intent outcomes).run configured).map (after outputs) := by
  rcases built : Vpn.configure android intent.name intent.route (intent.perApp.getD false)
    (intent.appBypass.getD false) (intent.appList.getD []) false with thrown | builder
  · refine .inl ⟨thrown,[.startForeground intent.name],by simp [Handed],?_⟩
    intro state idle
    simp [onStartCommand,configure,idle,built]
  · rcases established : outcomes.establish with thrown | fd
    · refine .inl ⟨thrown,[.startForeground intent.name,.establish builder],by simp [Handed],?_⟩
      intro state idle
      simp [onStartCommand,configure,idle,built,established]
    · refine .inr ⟨⟨fd.map (fun fd => ⟨fd,false⟩),false⟩,[.startForeground intent.name,.establish builder],rfl,
        by simp [Handed,Stopped],?_⟩
      intro state idle
      simp only [onStartCommand,configure,run_bind,run_get,sequel_ok,idle,Bool.false_eq_true,if_false,run_emit,run_lift,
        built,established,run_modify,Option.map_some,after_mk,Option.map_map]
      rfl

private theorem onStartCommand_ensures {intent : Intent} (outcomes : Outcomes) (idle : state.mRunning = false) :
    (onStartCommand android debug (some intent) outcomes).Ensures state
      (fun _ next outputs => Started state next outputs) := by
  rcases onStartCommand_idle android debug intent outcomes with
    ⟨thrown,outputs,silent,ran⟩ | ⟨configured,outputs,quiet,silent,ran⟩
  · exact (ensures_of_run (ran state idle)).mpr (.inr ⟨rfl,silent⟩)
  · intro result next outputs' executed
    rw [ran state idle,Option.map_eq_some_iff] at executed
    obtain ⟨⟨result',next',later⟩,launched,same⟩ := executed
    cases same
    exact (launch_ensures intent outcomes configured _ _ _ launched).append (quiet.trans idle.symm) silent

/-! ### Every step -/

private theorem stops_ensures (stops : Stops event) (state : State) :
    (event.call android debug).Ensures state (fun _ next outputs =>
      next.mRunning = state.mRunning ∧ (∀ o ∈ outputs, ¬ Handed o) ∧ .stopForeground ∈ outputs) := by
  cases event with
  | onStartCommand => exact absurd stops id
  | stop launcherStop | onDestroy launcherStop =>
    simp only [Event.call,ensures_bind,ensures_pure]
    refine (stopMe_ensures launcherStop state).mono ?_
    rintro result next outputs ensured
    cases result <;> simpa using ensured
  | onRevoke launcherStop =>
    simp only [Event.call,ensures_bind,ensures_emit,ensures_pure]
    refine (stopMe_ensures launcherStop state).mono ?_
    rintro result next outputs ensured
    cases result <;> simpa [Handed] using ensured

/-- A start takes the step that its method runs. -/
theorem start_run {intent : Option Intent} {outcomes : Outcomes}
    (taken : step android debug state (.onStartCommand intent outcomes) = some (next,reaction)) :
    ∃ result, (onStartCommand android debug intent outcomes).run state = some (result,next,reaction.outputs) := by
  obtain ⟨⟨result,next',outputs⟩,ran,same⟩ := Option.map_eq_some_iff.mp taken
  cases same
  rw [Event.call,run_map,Option.map_eq_some_iff] at ran
  obtain ⟨⟨code,next,outputs⟩,ran,same⟩ := ran
  cases same
  exact ⟨code,ran⟩

/-- What one event can do: a stop, which leaves `mRunning` as it is; nothing at all; or a
    start of a service that does not run. -/
private theorem step_cases (taken : step android debug state event = some (next,reaction)) :
    (Stops event ∧ next.mRunning = state.mRunning ∧ (∀ o ∈ reaction.outputs, ¬ Handed o) ∧
      .stopForeground ∈ reaction.outputs) ∨
    (¬ Stops event ∧ next.mRunning = state.mRunning ∧ reaction.outputs = []) ∨
    (¬ Stops event ∧ state.mRunning = false ∧ Started state next reaction.outputs) := by
  by_cases stops : Stops event
  · obtain ⟨⟨result,next',outputs⟩,ran,same⟩ := Option.map_eq_some_iff.mp taken
    cases same
    exact .inl ⟨stops,stops_ensures stops state _ _ _ ran⟩
  refine .inr ?_
  cases event with
  | onStartCommand intent outcomes =>
    obtain ⟨result,ran⟩ := start_run taken
    cases intent with
    | none =>
      simp only [onStartCommand,run_pure,Option.some.injEq,Prod.mk.injEq] at ran
      obtain ⟨-,rfl,empty⟩ := ran
      exact .inl ⟨id,rfl,empty.symm⟩
    | some intent =>
      cases running : state.mRunning with
      | false => exact .inr ⟨id,rfl,onStartCommand_ensures outcomes running _ _ _ ran⟩
      | true =>
        simp only [onStartCommand,run_bind,run_get,sequel_ok,running,if_true,run_pure,Option.map_some,after_nil,id_eq,
          Option.some.injEq,Prod.mk.injEq] at ran
        obtain ⟨-,rfl,empty⟩ := ran
        exact .inl ⟨id,running,empty.symm⟩
  | stop | onRevoke | onDestroy => exact absurd trivial stops

/-- `mRunning` says whether a descriptor was ever handed over. -/
private theorem running_iff (trace : Trace android debug past state) :
    state.mRunning = true ↔ ∃ o ∈ log past, Handed o := by
  induction trace with
  | nil => simp [initial,log]
  | @snoc s s' past event reaction _ taken ih =>
    have whole : log (past ++ [⟨s,event,reaction,s'⟩]) = log past ++ reaction.outputs := by simp [log]
    rw [whole]
    have split : (∃ o ∈ log past ++ reaction.outputs, Handed o) ↔
        (∃ o ∈ log past, Handed o) ∨ ∃ o ∈ reaction.outputs, Handed o := by
      simp only [List.mem_append,or_and_right,exists_or]
    have none (silent : ∀ o ∈ reaction.outputs, ¬ Handed o) : ¬ ∃ o ∈ reaction.outputs, Handed o := by
      rintro ⟨o,member,handed⟩
      exact silent o member handed
    rw [split,← ih]
    rcases step_cases taken with ⟨-,same,silent,-⟩ | ⟨-,same,empty⟩ | ⟨-,idle,⟨running,handed,-⟩ | ⟨same,silent⟩⟩
    · simp [same,none silent]
    · simp [same,empty]
    · simp [running,handed]
    · simp [same,none silent]

/-- An idle service starts as a new one does. -/
private theorem start_fresh {intent : Option Intent} {outcomes : Outcomes} (idle : state.mRunning = false)
    (taken : step android debug state (.onStartCommand intent outcomes) = some (next,reaction)) :
    (step android debug initial (.onStartCommand intent outcomes)).map Prod.snd = some reaction := by
  have both : (step android debug state (.onStartCommand intent outcomes)).map Prod.snd =
      (step android debug initial (.onStartCommand intent outcomes)).map Prod.snd := by
    unfold step
    rw [Event.call,run_map,run_map]
    cases intent with
    | none => rfl
    | some intent =>
      rcases onStartCommand_idle android debug intent outcomes with ⟨thrown,outputs,-,ran⟩ | ⟨configured,outputs,-,-,ran⟩
      · rw [ran state idle,ran initial rfl]
        rfl
      · rw [ran state idle,ran initial rfl]
  rw [← both,taken]
  rfl

private theorem log_snoc (earlier : Past) (t : Transition State Event Reaction) :
    log (earlier ++ [t]) = log earlier ++ t.reaction.outputs := by
  simp [log]

/-- After a stop no descriptor is in use. -/
private theorem not_since_of_stop {outputs : List Output} (earlier : List Output) (silent : ∀ o ∈ outputs, ¬ Handed o)
    (stopped : Output.stopForeground ∈ outputs) : ¬ Since Handed Stopped (earlier ++ outputs) := by
  rw [since_append]
  rintro (handed | ⟨-,kept⟩)
  · exact not_since silent handed
  · exact kept _ stopped trivial

/-- A step keeps `mRunning` right, unless it stops a service that runs. -/
private theorem since_step {t : Transition State Event Reaction} {earlier : Past}
    (taken : step android debug t.before t.event = some (t.after,t.reaction))
    (right : t.before.mRunning = true ↔ Since Handed Stopped (log earlier))
    (allowed : Stops t.event → t.before.mRunning = false) :
    t.after.mRunning = true ↔ Since Handed Stopped (log (earlier ++ [t])) := by
  rw [log_snoc]
  rcases step_cases taken with ⟨stops,same,silent,stopped⟩ | ⟨-,same,empty⟩ |
    ⟨-,idle,⟨running,⟨o,member,handed⟩,kept⟩ | ⟨same,silent⟩⟩
  · have ended := not_since_of_stop (log earlier) silent stopped
    simp [same,allowed stops,ended]
  · rw [same,empty,List.append_nil]
    exact right
  · have since := since_append.mpr (.inl (since_of_mem member handed kept) :
      Since Handed Stopped t.reaction.outputs ∨ Since Handed Stopped (log earlier) ∧ _)
    simp [running,since]
  · have never : ¬ Since Handed Stopped (log earlier ++ t.reaction.outputs) := by
      rw [since_append]
      rintro (handed | ⟨before,-⟩)
      · exact not_since silent handed
      · exact absurd (right.mpr before) (by simp [idle])
    simp [same,idle,never]

/-- The service keeps its promise in a run exactly when no stop comes after a descriptor
    was handed over. -/
theorem sound_iff (trace : Trace android debug past state) :
    Sound android debug past ↔ Obeys (fun earlier _ event => Stops event → ∀ o ∈ log earlier, ¬ Handed o) past := by
  constructor
  · intro sound earlier t later whole stops o member handed
    obtain ⟨middle,first,rest⟩ := trace.split whole
    obtain ⟨rfl,taken,-⟩ := rest.head
    have running : t.before.mRunning = true := (running_iff first).mpr ⟨o,member,handed⟩
    rcases step_cases taken with ⟨-,same,silent,stopped⟩ | ⟨start,-⟩ | ⟨start,-⟩
    · have since := (sound.running earlier t later whole).mp (same.trans running)
      rw [log_snoc] at since
      exact not_since_of_stop _ silent stopped since
    · exact start stops
    · exact start stops
  · intro obeys
    have idle : ∀ earlier t later, past = earlier ++ t :: later → Stops t.event → t.before.mRunning = false := by
      intro earlier t later whole stops
      obtain ⟨middle,first,rest⟩ := trace.split whole
      obtain ⟨rfl,-,-⟩ := rest.head
      rw [Bool.eq_false_iff]
      intro running
      obtain ⟨o,member,handed⟩ := (running_iff first).mp running
      exact obeys earlier t later whole stops o member handed
    -- The induction carries that `mRunning` is right at every moment.
    obtain ⟨along,-⟩ := trace.history (I := fun past state => state.mRunning = true ↔ Since Handed Stopped (log past))
      (by simp [initial,log,not_since])
      (fun earlier t later whole right => since_step (trace.taken whole) right (idle earlier t later whole))
    constructor
    · intro earlier t later whole
      exact since_step (trace.taken whole) (along earlier t later whole) (idle earlier t later whole)
    · intro earlier t later whole unused intent outcomes start
      have free : t.before.mRunning = false := by
        rw [Bool.eq_false_iff]
        exact fun running => unused ((along earlier t later whole).mp running)
      have taken := trace.taken whole
      rw [start] at taken ⊢
      exact start_fresh free taken

/-! ### A stop that is forgotten -/

/-- An intent, and calls that all succeed but for the exit code of tun2socks. -/
def exampleIntent : Intent :=
  ⟨some "Default",some "10.0.0.1",some 1080,some "user",some "pass",some false,some 0,some "all",some "127.0.0.1",some 5553,
    some false,none,none⟩
def exampleOutcomes (code : Int32) : Outcomes := ⟨.ok (some 42),.ok (),.ok (),code,fun _ => 0,.ok ()⟩

/-- A start that fails may be followed by a stop and by a start that succeeds. -/
theorem sound_after_failure : ∃ past state, Trace (device "org.browser") false past state ∧
    isRunning state = true ∧ Sound (device "org.browser") false past := by
  obtain ⟨past,state,executed,running,obeys⟩ : ∃ past state, execute (step (device "org.browser") false) initial
      [.onStartCommand (some exampleIntent) (exampleOutcomes 1),.stop (.ok ()),
        .onStartCommand (some exampleIntent) (exampleOutcomes 0)] = some (past,state) ∧ isRunning state = true ∧
      Obeys (fun earlier _ event => Stops event → ∀ o ∈ log earlier, ¬ Handed o) past := by
    refine ⟨_,_,rfl,rfl,?_⟩
    simp [Stops,log,Handed]
  have trace := run_of_execute executed
  exact ⟨past,state,trace,running,(sound_iff trace).mpr obeys⟩

/-- After a start that succeeds and a stop the service still claims to run. -/
theorem stop_forgotten : ∃ past state, execute (step (device "org.browser") false) initial
    [.onStartCommand (some exampleIntent) (exampleOutcomes 0),.stop (.ok ())] = some (past,state) ∧
    isRunning state = true ∧ ¬ Sound (device "org.browser") false past := by
  refine ⟨_,_,rfl,rfl,?_⟩
  intro sound
  have since := (sound.running [_] _ [] rfl).mp rfl
  rw [log_snoc] at since
  refine not_since_of_stop _ ?_ ?_ since
  · simp [Handed]
  · simp

end WSocks.Service
