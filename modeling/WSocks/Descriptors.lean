import WSocks.Service

/-!
# Closing the tunnel

Two calls close the descriptor of a tunnel: one closes its number, the other what the
`ParcelFileDescriptor` owns. Every stop makes both or none of them, so that no stop
closes a descriptor once.
-/

namespace WSocks.Descriptors
open WSocks.Runs WSocks.Effects WSocks.Effects.Action WSocks.Vpn WSocks.Service

/-- What happens to descriptors: `establish` gives one, a stop begins, one is closed. -/
inductive Mark
  | opened (fd : Int32)
  | stopped
  | closed (fd : Int32)
  deriving DecidableEq

/-- The descriptor that `establish` gives. -/
def given : Event → Option Int32
  | .onStartCommand _ outcomes =>
    match outcomes.establish with
    | .ok fd => fd
    | .error _ => none
  | _ => none

/-- Both `jniclose` and `close` close the number. -/
def mark (event : Event) : Output → List Mark
  | .establish _ => (given event).toList.map .opened
  | .stopForeground => [.stopped]
  | .jniclose fd | .close fd => [.closed fd]
  | _ => []

def marks (t : Transition State Event Reaction) : List Mark := t.reaction.outputs.flatMap (mark t.event)

/-- All that happened to descriptors. -/
def record (past : Past) : List Mark := past.flatMap marks

/-- The descriptors that are closed before anything else happens. -/
def closings : List Mark → List Int32
  | .closed fd :: rest => fd :: closings rest
  | _ => []

/-- A descriptor is closed at most once until `establish` gives its number again, and
    once in the first stop after it was given. -/
structure ClosedOnce (record : List Mark) : Prop where
  atMost : ∀ before fd later, record = before ++ .opened fd :: later →
    (later.takeWhile (· ≠ .opened fd)).count (.closed fd) ≤ 1
  first : ∀ before fd between later, record = before ++ .opened fd :: (between ++ .stopped :: later) →
    .stopped ∉ between → (closings later).count fd = 1

/-- The descriptor that an event obtains: the service does not run, the builder can be
    configured, and `establish` gives one. -/
def obtained (android : Android) (state : State) : Event → Option Int32
  | .onStartCommand (some intent) outcomes =>
    if state.mRunning then none
    else
      match Vpn.configure android intent.name intent.route (intent.perApp.getD false) (intent.appBypass.getD false)
        (intent.appList.getD []) false with
      | .error _ => none
      | .ok _ => given (.onStartCommand (some intent) outcomes)
  | _ => none

/-- A start gives up: tun2socks fails, or all five attempts to send the descriptor do. -/
def GivesUp (outcomes : Outcomes) : Prop :=
  outcomes.launcherStart = .ok () ∧ outcomes.makePdnsdConf = .ok () ∧
    (outcomes.tun2socks ≠ 0 ∨ ∀ i < 5, outcomes.sendfd i = -1)

/-- No stop once a descriptor was obtained, neither by a callback nor by a start that gives up. -/
def Unstopped (android : Android) (earlier : Past) (state : State) (event : Event) : Prop :=
  (Stops event → ∀ t ∈ earlier, obtained android t.before t.event = none) ∧
    ∀ intent outcomes, event = .onStartCommand intent outcomes → GivesUp outcomes →
      obtained android state event = none

variable {android : Android} {debug : Bool} {state next : State} {event : Event} {reaction : Reaction} {past : Past}

/-! ### What the methods close -/

/-- What a stop closes: an open descriptor twice. -/
def shut (state : State) : List Mark :=
  match state.mInterface with
  | some ⟨fd,false⟩ => [.closed fd,.closed fd]
  | _ => []

private theorem closeInterface_marks (event : Event) (state : State) :
    closeInterface.Ensures state (fun result _ outputs => result = .ok () ∧ outputs.flatMap (mark event) = shut state) := by
  unfold closeInterface shut
  rcases held : state.mInterface with _ | ⟨fd,_ | _⟩ <;> simp [held,ParcelFileDescriptor.getFd,mark]

private theorem stopMe_marks (event : Event) (launcherStop : Except Thrown Unit) (state : State) :
    (stopMe launcherStop).Ensures state (fun _ _ outputs => outputs.flatMap (mark event) = .stopped :: shut state) := by
  unfold stopMe
  simp only [ensures_bind,ensures_emit]
  refine (closeInterface_marks event state).mono ?_
  rintro _ next outputs ⟨rfl,closes⟩
  cases launcherStop with
  | error thrown => simp [mark,closes]
  | ok => simp [mark,closes]

private theorem sendLoop_marks (event : Event) (fd : Int32) (sendfd : Nat → Int32) (n : Nat) (state : State) :
    (sendLoop fd sendfd n).Ensures state (fun result next outputs => outputs.flatMap (mark event) = [] ∧
      next.mInterface = state.mInterface ∧
      ((result = .ok true ∧ ∃ i < n, sendfd i ≠ -1) ∨ (result = .ok false ∧ ∀ i < n, sendfd i = -1))) := by
  induction n with
  | zero => simp [sendLoop]
  | succ n ih =>
    by_cases failed : sendfd n = -1
    · simp only [sendLoop,failed,ensures_bind,ensures_emit,ne_eq,not_true_eq_false,if_false]
      refine ih.mono ?_
      rintro result next outputs ⟨quiet,same,⟨rfl,i,inside,sent⟩ | ⟨rfl,unsent⟩⟩
      · exact ⟨by simp [mark,quiet],same,.inl ⟨rfl,i,by omega,sent⟩⟩
      · refine ⟨by simp [mark,quiet],same,.inr ⟨rfl,?_⟩⟩
        intro i inside
        rcases Nat.lt_succ_iff_lt_or_eq.mp inside with earlier | rfl
        · exact unsent i earlier
        · exact failed
    · simp only [sendLoop,failed,ensures_bind,ensures_emit,ne_eq,not_false_eq_true,if_true,ensures_modify,ensures_pure]
      exact ⟨by simp [mark],trivial,.inl ⟨trivial,n,by omega,failed⟩⟩

/-- A start closes something exactly when it gives up. -/
private theorem start_marks (event : Event) (fd : Int32) (dns : Option String) (dnsPort : Int32) (outcomes : Outcomes)
    (launched : outcomes.launcherStart = .ok ()) (state : State) :
    (start fd dns dnsPort outcomes).Ensures state (fun _ _ outputs =>
      (GivesUp outcomes ∧ outputs.flatMap (mark event) = .stopped :: shut state) ∨
        (¬ GivesUp outcomes ∧ outputs.flatMap (mark event) = [])) := by
  unfold start
  simp only [ensures_bind,ensures_emit]
  cases conf : outcomes.makePdnsdConf with
  | error thrown =>
    rw [ensures_lift]
    exact .inr ⟨by simp [GivesUp,conf],by simp [mark]⟩
  | ok =>
    simp only [ensures_lift]
    by_cases failed : outcomes.tun2socks ≠ 0
    · rw [if_pos failed]
      refine (stopMe_marks event outcomes.launcherStop state).mono ?_
      intro result next outputs stops
      exact .inl ⟨⟨launched,conf,.inl failed⟩,by simp [mark,stops]⟩
    · rw [if_neg failed]
      simp only [ensures_bind]
      refine (sendLoop_marks event fd outcomes.sendfd 5 state).mono ?_
      rintro result next outputs ⟨quiet,same,⟨rfl,i,inside,sent⟩ | ⟨rfl,unsent⟩⟩
      · simp only [if_true,ensures_pure]
        refine .inr ⟨?_,by simp [mark,quiet]⟩
        rintro ⟨-,-,exits | unsent⟩
        · exact failed exits
        · exact sent (unsent i inside)
      · simp only [Bool.false_eq_true,if_false]
        refine (stopMe_marks event outcomes.launcherStop next).mono ?_
        intro result' next' outputs' stops
        have kept : shut next = shut state := by rw [shut,shut,same]
        exact .inl ⟨⟨launched,conf,.inr unsent⟩,by simp [mark,quiet,stops,kept]⟩

/-- What follows `configure`, with a fresh descriptor or none. -/
private theorem launch_marks (event : Event) (intent : Intent) (outcomes : Outcomes) (fd : Option Int32) (running : Bool) :
    (launch debug intent outcomes).Ensures ⟨fd.map (fun fd => ⟨fd,false⟩),running⟩ (fun _ _ outputs =>
      match fd with
      | none => outputs.flatMap (mark event) = []
      | some fd =>
        (GivesUp outcomes ∧ outputs.flatMap (mark event) = [.stopped,.closed fd,.closed fd]) ∨
          (¬ GivesUp outcomes ∧ outputs.flatMap (mark event) = [])) := by
  unfold launch
  simp only [ensures_bind,ensures_get]
  cases fd with
  | none => cases debug <;> simp
  | some fd =>
    simp only [Option.map_some,ensures_bind,ensures_emit]
    cases launched : outcomes.launcherStart with
    | error thrown =>
      rw [ensures_lift]
      exact .inr ⟨by simp [GivesUp,launched],by simp [mark]⟩
    | ok =>
      simp only [ensures_lift,ParcelFileDescriptor.getFd,Bool.false_eq_true,if_false]
      refine (start_marks event fd intent.dns (intent.dnsPort.getD 53) outcomes launched _).mono ?_
      intro result next outputs marked
      cases result with
      | error thrown => simpa [mark,shut] using marked
      | ok => simpa [mark,shut] using marked

/-- What a start does: nothing to descriptors, or what it obtains is closed twice when it gives up. -/
private theorem onStartCommand_marks (intent : Option Intent) (outcomes : Outcomes) (state : State) :
    (onStartCommand android debug intent outcomes).Ensures state (fun _ _ outputs =>
      match obtained android state (.onStartCommand intent outcomes) with
      | none => outputs.flatMap (mark (.onStartCommand intent outcomes)) = []
      | some fd =>
        (GivesUp outcomes ∧
          outputs.flatMap (mark (.onStartCommand intent outcomes)) = [.opened fd,.stopped,.closed fd,.closed fd]) ∨
          (¬ GivesUp outcomes ∧ outputs.flatMap (mark (.onStartCommand intent outcomes)) = [.opened fd])) := by
  cases intent with
  | none => simp [onStartCommand,obtained]
  | some intent =>
    unfold onStartCommand obtained
    simp only [ensures_bind,ensures_get]
    by_cases running : state.mRunning = true
    · simp [running]
    · rw [if_neg running,if_neg running]
      simp only [Service.configure,ensures_bind,ensures_emit]
      rcases Vpn.configure android intent.name intent.route (intent.perApp.getD false) (intent.appBypass.getD false)
        (intent.appList.getD []) false with thrown | builder
      · simp [mark]
      · simp only [ensures_lift]
        rcases established : outcomes.establish with thrown | fd
        · simp [mark,given,established]
        · simp only [ensures_modify,given,established]
          refine (launch_marks (.onStartCommand (some intent) outcomes) intent outcomes fd state.mRunning).mono ?_
          intro result next outputs marked
          cases fd with
          | none => simpa [mark,given,established] using marked
          | some fd => simpa [mark,given,established] using marked

/-- A stop ends without a value. -/
private theorem stopped_marks (event : Event) (launcherStop : Except Thrown Unit) (state : State) :
    (stopMe launcherStop >>= fun _ => pure none : Act (Option Int32)).Ensures state (fun _ _ outputs =>
      outputs.flatMap (mark event) = .stopped :: shut state) := by
  simp only [ensures_bind,ensures_pure]
  refine (stopMe_marks event launcherStop state).mono ?_
  intro result next outputs marked
  cases result with
  | error thrown => exact marked
  | ok => rwa [List.append_nil]

private theorem stops_marks (stops : Stops event) (state : State) :
    (event.call android debug).Ensures state (fun _ _ outputs =>
      outputs.flatMap (mark event) = .stopped :: shut state) := by
  cases event with
  | onStartCommand => exact absurd stops id
  | stop launcherStop => exact stopped_marks (.stop launcherStop) launcherStop state
  | onDestroy launcherStop => exact stopped_marks (.onDestroy launcherStop) launcherStop state
  | onRevoke launcherStop =>
    rw [Event.call,ensures_bind,ensures_emit]
    exact stopped_marks (.onRevoke launcherStop) launcherStop state

variable {t : Transition State Event Reaction}

/-- What an event does to descriptors. -/
private theorem step_marks (taken : step android debug t.before t.event = some (t.after,t.reaction)) :
    (Stops t.event ∧ marks t = .stopped :: shut t.before) ∨
    (¬ Stops t.event ∧ obtained android t.before t.event = none ∧ marks t = []) ∨
    ∃ intent outcomes fd, t.event = .onStartCommand intent outcomes ∧ obtained android t.before t.event = some fd ∧
      ((GivesUp outcomes ∧ marks t = [.opened fd,.stopped,.closed fd,.closed fd]) ∨
        (¬ GivesUp outcomes ∧ marks t = [.opened fd])) := by
  obtain ⟨state,event,reaction,next⟩ := t
  by_cases stops : Stops event
  · obtain ⟨⟨result,next',outputs⟩,ran,same⟩ := Option.map_eq_some_iff.mp taken
    cases same
    exact .inl ⟨stops,stops_marks stops state _ _ _ ran⟩
  refine .inr ?_
  cases event with
  | onStartCommand intent outcomes =>
    obtain ⟨result,ran⟩ := start_run taken
    have marked := onStartCommand_marks intent outcomes state _ _ _ ran
    rcases obtains : obtained android state (.onStartCommand intent outcomes) with _ | fd
    · rw [obtains] at marked
      exact .inl ⟨id,rfl,marked⟩
    · rw [obtains] at marked
      exact .inr ⟨intent,outcomes,fd,rfl,rfl,marked⟩
  | stop | onRevoke | onDestroy => exact absurd trivial stops

private theorem obtained_none (stops : Stops event) (state : State) : obtained android state event = none := by
  cases event with
  | onStartCommand => exact absurd stops id
  | stop | onRevoke | onDestroy => rfl

private theorem opened_iff {fd : Int32} (taken : step android debug t.before t.event = some (t.after,t.reaction)) :
    .opened fd ∈ marks t ↔ obtained android t.before t.event = some fd := by
  rcases step_marks taken with ⟨stops,marked⟩ | ⟨-,none,marked⟩ | ⟨intent,outcomes,fd',started,some,⟨-,marked⟩ | ⟨-,marked⟩⟩
  · rw [obtained_none stops,marked]
    rcases held : t.before.mInterface with _ | ⟨fd',_ | _⟩ <;> simp [shut,held]
  · simp [marked,none]
  · simp [marked,some,eq_comm]
  · simp [marked,some,eq_comm]

/-! ### No stop closes once -/

/-- No stop closes a descriptor exactly once. -/
private def Paired (record : List Mark) : Prop :=
  ∀ before later fd, record = before ++ .stopped :: later → (closings later).count fd ≠ 1

private theorem closings_append {log more : List Mark} (other : ∀ fd, more.head? ≠ some (.closed fd)) :
    closings (log ++ more) = closings log := by
  induction log with
  | nil =>
    cases more with
    | nil => rfl
    | cons m rest =>
      cases m with
      | closed fd => exact absurd rfl (other fd)
      | opened | stopped => rfl
  | cons m rest ih =>
    cases m with
    | closed fd => exact congrArg (fd :: ·) ih
    | opened | stopped => rfl

private theorem Paired.append {log more : List Mark} (paired : Paired log) (paired' : Paired more)
    (other : ∀ fd, more.head? ≠ some (.closed fd)) : Paired (log ++ more) := by
  intro before later fd whole
  rcases List.append_eq_append_iff.mp whole with ⟨middle,rfl,rest⟩ | ⟨middle,rfl,rest⟩
  · exact paired' middle later fd rest
  · rcases middle with _ | ⟨m,middle⟩
    · exact paired' [] later fd (by simpa using rest.symm)
    · obtain ⟨rfl,rfl⟩ := List.cons.inj rest
      show (closings (middle ++ more)).count fd ≠ 1
      rw [closings_append other]
      exact paired before middle fd rfl

private theorem paired_of_free {log : List Mark} (free : .stopped ∉ log) : Paired log := by
  rintro before later fd rfl
  exact absurd (by simp) free

private theorem paired_stopped (state : State) : Paired (.stopped :: shut state) := by
  intro before later fd whole
  rcases before with _ | ⟨m,before⟩
  · obtain ⟨-,rfl⟩ := List.cons.inj whole
    rcases held : state.mInterface with _ | ⟨fd',_ | _⟩
    · simp [shut,held,closings]
    · by_cases same : fd' = fd <;> simp [shut,held,closings,same]
    · simp [shut,held,closings]
  · obtain ⟨-,inside⟩ := List.cons.inj whole
    have member : Mark.stopped ∈ shut state := by simp [inside]
    rcases held : state.mInterface with _ | ⟨fd',_ | _⟩ <;> simp [shut,held] at member

private theorem record_snoc (earlier : Past) (t : Transition State Event Reaction) :
    record (earlier ++ [t]) = record earlier ++ marks t := by
  simp [record]

private theorem record_paired (trace : Trace android debug past state) : Paired (record past) := by
  induction trace with
  | nil => exact paired_of_free (by simp [record])
  | @snoc s s' past event reaction _ taken ih =>
    rw [record_snoc]
    rcases step_marks (t := ⟨s,event,reaction,s'⟩) taken with ⟨-,marked⟩ | ⟨-,-,marked⟩ | ⟨intent,outcomes,fd,-,-,⟨-,marked⟩ | ⟨-,marked⟩⟩
    · rw [marked]
      exact ih.append (paired_stopped s) (by simp)
    · rwa [marked,List.append_nil]
    · rw [marked]
      have opens : Paired [.opened fd] := paired_of_free (by simp)
      exact ih.append (opens.append (paired_stopped ⟨some ⟨fd,false⟩,false⟩) (by simp)) (by simp)
    · rw [marked]
      exact ih.append (paired_of_free (by simp)) (by simp)

/-! ### Runs that stop nothing -/

private theorem opened_record {fd : Int32} (opened : .opened fd ∈ record past) (trace : Trace android debug past state) :
    ∃ t ∈ past, obtained android t.before t.event = some fd := by
  obtain ⟨t,member,inside⟩ := List.mem_flatMap.mp opened
  obtain ⟨earlier,later,whole⟩ := List.append_of_mem member
  exact ⟨t,member,(opened_iff (trace.taken whole)).mp inside⟩

/-- Where nothing is stopped, nothing but further descriptors follows a descriptor. -/
private theorem opened_after (trace : Trace android debug past state) (obeys : Obeys (Unstopped android) past) :
    (record past).Pairwise (fun x y => ∀ fd, x = .opened fd → ∃ fd', y = .opened fd') := by
  induction trace with
  | nil => simp [record]
  | @snoc s s' past event reaction trace taken ih =>
    obtain ⟨before,stops,starts⟩ := obeys_snoc.mp obeys
    rw [record_snoc,List.pairwise_append]
    rcases step_marks (t := ⟨s,event,reaction,s'⟩) taken with ⟨stop,marked⟩ | ⟨-,-,marked⟩ |
      ⟨intent,outcomes,fd,started,obtains,⟨givesUp,-⟩ | ⟨-,marked⟩⟩
    · refine ⟨ih before,?_,?_⟩
      · rw [marked]
        rcases held : s.mInterface with _ | ⟨fd,_ | _⟩ <;> simp [shut,held]
      · rintro x member y - fd rfl
        obtain ⟨t,inside,obtains⟩ := opened_record member trace
        exact absurd (stops stop t inside) (by simp [obtains])
    · simp [marked,ih before]
    · exact absurd (starts intent outcomes started givesUp) (by simp [obtains])
    · simp [marked,ih before]

/-- Where no stop follows a descriptor, nothing is stopped. -/
private theorem unstopped_of_pairwise (trace : Trace android debug past state)
    (unstopped : (record past).Pairwise (fun x y => ∀ fd, x = .opened fd → y ≠ .stopped)) :
    Obeys (Unstopped android) past := by
  induction trace with
  | nil => simp
  | @snoc s s' past event reaction trace taken ih =>
    rw [record_snoc,List.pairwise_append] at unstopped
    obtain ⟨before,within,across⟩ := unstopped
    refine obeys_snoc.mpr ⟨ih before,?_,?_⟩
    · intro stop t member
      rw [Option.eq_none_iff_forall_ne_some]
      intro fd obtains
      obtain ⟨earlier,later,whole⟩ := List.append_of_mem member
      have opened : .opened fd ∈ record past :=
        List.mem_flatMap.mpr ⟨t,member,(opened_iff (trace.taken whole)).mpr obtains⟩
      rcases step_marks (t := ⟨s,event,reaction,s'⟩) taken with ⟨-,marked⟩ | ⟨start,-⟩ | ⟨intent,outcomes,fd',rfl,-⟩
      · exact across _ opened .stopped (by simp [marked]) fd rfl rfl
      · exact start stop
      · exact stop
    · rintro intent outcomes rfl givesUp
      rcases step_marks (t := ⟨s,_,reaction,s'⟩) taken with
        ⟨stop,-⟩ | ⟨-,nothing,-⟩ | ⟨intent',outcomes',fd,same,-,⟨-,marked⟩ | ⟨kept,-⟩⟩
      · exact absurd stop id
      · exact nothing
      · rw [marked] at within
        simp at within
      · cases same
        exact absurd givesUp kept

/-- A run closes every descriptor once exactly when nothing is stopped after one was obtained. -/
theorem closedOnce_iff (trace : Trace android debug past state) :
    ClosedOnce (record past) ↔ Obeys (Unstopped android) past := by
  constructor
  · intro closedOnce
    refine unstopped_of_pairwise trace (pairwise_iff_split.mpr ?_)
    rintro before x middle y later whole fd rfl rfl
    -- The first stop after the descriptor closes it twice or not at all.
    have member : Mark.stopped ∈ middle ++ .stopped :: later := by simp
    obtain ⟨between,rest,split,first⟩ := List.eq_append_cons_of_mem member
    rw [split] at whole
    refine record_paired trace (before ++ .opened fd :: between) rest fd (by simp [whole]) ?_
    exact closedOnce.first before fd between rest whole first
  · intro obeys
    have ordered := opened_after trace obeys
    have after : ∀ before fd later, record past = before ++ .opened fd :: later →
        ∀ m ∈ later, ∃ fd', m = .opened fd' := by
      intro before fd later whole m member
      rw [whole,List.pairwise_append,List.pairwise_cons] at ordered
      exact ordered.2.1.1 m member fd rfl
    constructor
    · intro before fd later whole
      have never : Mark.closed fd ∉ later.takeWhile (· ≠ .opened fd) := by
        intro member
        obtain ⟨fd',same⟩ := after before fd later whole _ ((List.takeWhile_sublist _).subset member)
        cases same
      rw [List.count_eq_zero_of_not_mem never]
      omega
    · intro before fd between later whole _
      obtain ⟨fd',same⟩ := after before fd _ whole .stopped (by simp)
      cases same

/-! ### A tunnel that is stopped -/

/-- A stop before the first tunnel does no harm, and a tunnel may stay open. -/
theorem closedOnce_kept : ∃ past state, Trace (device "org.browser") false past state ∧
    record past = [.stopped,.opened 42] ∧ ClosedOnce (record past) := by
  obtain ⟨past,state,executed,seen,obeys⟩ : ∃ past state, execute (step (device "org.browser") false) initial
      [.stop (.ok ()),.onStartCommand (some exampleIntent) (exampleOutcomes 0),
        .onStartCommand (some exampleIntent) (exampleOutcomes 1)] = some (past,state) ∧
      record past = [.stopped,.opened 42] ∧ Obeys (Unstopped (device "org.browser")) past := by
    refine ⟨_,_,rfl,rfl,?_⟩
    have sent : ¬ GivesUp (exampleOutcomes 0) := by
      rintro ⟨-,-,exits | unsent⟩
      · exact exits rfl
      · exact absurd (unsent 0 (by omega)) (by decide)
    simp [Unstopped,Stops,sent,obtained]
  have trace := run_of_execute executed
  exact ⟨past,state,trace,seen,(closedOnce_iff trace).mpr obeys⟩

/-- A stop closes the descriptor of the tunnel twice. -/
theorem closed_twice : ∃ past state, execute (step (device "org.browser") false) initial
    [.onStartCommand (some exampleIntent) (exampleOutcomes 0),.stop (.ok ())] = some (past,state) ∧
    record past = [.opened 42,.stopped,.closed 42,.closed 42] ∧ ¬ ClosedOnce (record past) := by
  refine ⟨_,_,rfl,rfl,?_⟩
  intro closedOnce
  have most := closedOnce.atMost [] 42 [.stopped,.closed 42,.closed 42] rfl
  revert most
  decide

end WSocks.Descriptors
