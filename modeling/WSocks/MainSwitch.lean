import WSocks.Service

/-!
# The main switch

The fragment switches the service on and off and shows whether it runs. Once a second
it reads that from the binder, and it enables the switch again when a start or a stop
has been seen to succeed.
-/

namespace WSocks.MainSwitch
open WSocks.Runs WSocks.Effects WSocks.Effects.Action

/-- A binder to the service, or to one that is gone: then a call gives what that one
    still answers, or throws with its process dead. -/
inductive Binder
  | live
  | stale (answer : Option Bool)
  deriving DecidableEq

/-- The switch and the fields of `ProfileFragment`, whether `mConnection` is bound, the
    service, the start commands that it has not finished, and the permission dialogs
    that are open. -/
structure World where
  enabled : Bool
  checked : Bool
  onCheckedChangeListener : Bool
  mRunning : Bool
  mStarting : Bool
  mStopping : Bool
  mBinder : Option Binder
  bound : Bool
  service : Option Service.State
  commands : Nat
  dialogs : Nat

/-- The calls of the fragment, and what it takes for the state of the service when it
    updates its flags. -/
inductive Output
  | prepare
  | startActivityForResult
  | startService
  | bindService
  | unbindService
  | stop
  | update (running : Bool)
  deriving DecidableEq

/-- What a callback does; nothing in it throws. -/
abbrev Act (α : Type) := Action Empty World Output α

/-! ### The service -/

section
variable (android : Vpn.Android) (debug : Bool)

/-- The process of the service ends. -/
def World.die (world : World) : World :=
  { world with service := none, mBinder := world.mBinder.map (fun _ => .stale none) }

/-- The service has stopped itself; commands that it has not seen are dropped. -/
def World.gone (world : World) (state : Service.State) : World :=
  { world with
    service := none
    commands := 0
    mBinder := world.mBinder.map (fun binder =>
      if binder = .live then .stale (some (Service.isRunning state)) else binder) }

def stopsSelf : Service.Output → Bool
  | .stopSelf => true
  | _ => false

/-- A method of the service runs; without a service nothing happens. -/
def World.serve (world : World) (event : Service.Event) : World :=
  match world.service with
  | none => world
  | some state =>
    match Service.step android debug state event with
    | none => world
    | some (next,reaction) =>
      match reaction.result with
      | .error _ => world.die
      | .ok _ => if reaction.outputs.any stopsSelf then world.gone next else { world with service := some next }

/-- Whether the service runs. -/
def World.runs (world : World) : Bool :=
  match world.service with
  | none => false
  | some state => Service.isRunning state

/-- `binder.isRunning()`, unless it throws. -/
def World.isRunning (world : World) : Binder → Option Bool
  | .live => some world.runs
  | .stale answer => answer

/-- What `updateState` makes of the binder. -/
def World.answer (world : World) : Bool :=
  match world.mBinder with
  | none => false
  | some binder => (world.isRunning binder).getD false

/-! ### The callbacks -/

/-- `checkState`. -/
def checkState : Act Unit := do
  modify (fun world => {world with mRunning := false})
  modify (fun world => {world with enabled := false})
  modify (fun world => {world with onCheckedChangeListener := false})
  if (← get).mBinder = none then
    emit .bindService
    modify (fun world => {world with bound := true})

/-- `onActivityResult`, with RESULT_OK or not. -/
def onActivityResult (ok : Bool) : Act Unit := do
  if ok then
    emit .startService
    modify (fun world => {world with commands := world.commands + 1})
    checkState

/-- `startVpn`; `prepared` says whether `VpnService.prepare` returns null. -/
def startVpn (prepared : Bool) : Act Unit := do
  modify (fun world => {world with mStarting := true})
  emit .prepare
  if prepared then onActivityResult true
  else
    emit .startActivityForResult
    modify (fun world => {world with dialogs := world.dialogs + 1})

/-- `mBinder.stop()`, whose exceptions are swallowed. A service that is gone has nothing to stop. -/
def World.stop (world : World) : Binder → World
  | .live => world.serve android debug (.stop (.ok ()))
  | .stale _ => world

/-- `stopVpn`. -/
def stopVpn : Act Unit := do
  match (← get).mBinder with
  | none => return
  | some binder =>
    modify (fun world => {world with mStopping := true})
    emit .stop
    modify (fun world => world.stop android debug binder)
    modify (fun world => {world with mBinder := none})
    emit .unbindService
    modify (fun world => {world with bound := false})
    checkState

def checkedChanged (prepared checked : Bool) : Act Unit :=
  if checked then startVpn prepared else stopVpn android debug

/-- `mSwitch.checked = value`, which calls the listener when the value changes. -/
def setChecked (prepared value : Bool) : Act Unit := do
  if (← get).checked ≠ value then
    modify (fun world => {world with checked := value})
    if (← get).onCheckedChangeListener then checkedChanged android debug prepared value

/-- `updateState`. -/
def updateState (prepared : Bool) : Act Unit := do
  modify (fun world => {world with mRunning := world.answer})
  setChecked android debug prepared (← get).mRunning
  let world ← get
  emit (.update world.mRunning)
  if (!world.mStarting && !world.mStopping) || (world.mStarting && world.mRunning) ||
      (world.mStopping && !world.mRunning) then
    modify (fun world => {world with enabled := true})
  if world.mStarting && world.mRunning then modify (fun world => {world with mStarting := false})
  if world.mStopping && !world.mRunning then modify (fun world => {world with mStopping := false})
  modify (fun world => {world with onCheckedChangeListener := true})

/-- `onServiceConnected`; when `isRunning()` throws, `mRunning` stays. -/
def onServiceConnected (prepared : Bool) (binder : Binder) : Act Unit := do
  modify (fun world => {world with mBinder := some binder})
  modify (fun world => {world with mRunning := (world.isRunning binder).getD world.mRunning})
  if (← get).mRunning then updateState android debug prepared

def onServiceDisconnected : Act Unit := modify (fun world => {world with mBinder := none})

/-! ### Runs of the fragment -/

/-- What happens to the fragment and to the service. Where `startVpn` may be called, the
    event says what `VpnService.prepare` would return; a start command comes with its
    intent and with how the calls in it end. -/
inductive Event
  | toggle (prepared : Bool)
  | activityResult (ok : Bool)
  | created
  | onStartCommand (intent : Vpn.Intent) (outcomes : Service.Outcomes)
  | onRevoke
  | killed
  | connected (prepared : Bool)
  | disconnected
  | tick (prepared : Bool)

/-- The callback for an event; `none` when it cannot happen. Only a switch that is enabled
    can be toggled, and connections come while the service is there. -/
def react (world : World) : Event → Option (Act Unit)
  | .toggle prepared => if world.enabled then some (setChecked android debug prepared (!world.checked)) else none
  | .activityResult ok =>
    if world.dialogs = 0 then none
    else some (do
      modify (fun world => {world with dialogs := world.dialogs - 1})
      onActivityResult ok)
  | .created =>
    if world.service.isSome then none else some (modify (fun world => {world with service := some Service.initial}))
  | .onStartCommand intent outcomes =>
    if world.service = none ∨ world.commands = 0 then none
    else some (do
      modify (fun world => {world with commands := world.commands - 1})
      modify (fun world => world.serve android debug (.onStartCommand (some intent) outcomes)))
  | .onRevoke =>
    if world.service = none then none else some (modify (fun world => world.serve android debug (.onRevoke (.ok ()))))
  | .killed => some (modify World.die)
  | .connected prepared =>
    if world.bound ∧ world.mBinder = none ∧ world.service ≠ none then
      some (onServiceConnected android debug prepared .live)
    else none
  | .disconnected =>
    match world.mBinder with
    | some (.stale _) => some onServiceDisconnected
    | _ => none
  | .tick prepared => some (updateState android debug prepared)

def step (world : World) (event : Event) : Option (World × List Output) := do
  let callback ← react android debug world event
  let (_,next,outputs) ← callback.run world
  return (next,outputs)

end

/-! ### What is claimed of the switch -/

abbrev Past := List (Transition World Event (List Output))

/-- The switch when it has been created, beside a service that may run already: nothing
    has happened yet but `checkState`. -/
def initial (service : Option Service.State) : World :=
  ⟨false,false,false,false,false,false,none,true,service,0,0⟩

abbrev Trace (android : Vpn.Android) (debug : Bool) (service : Option Service.State) (past : Past) (world : World) :
    Prop :=
  Run (step android debug) (initial service) past world

/-- Nothing is pending: every permission was granted or denied, and every start command
    has ended. -/
def Settled (world : World) : Prop := world.dialogs = 0 ∧ world.commands = 0

/-- The switch is enabled and shows whether the service runs, and both flags are off. -/
structure Right (world : World) : Prop where
  enabled : world.enabled = true
  checked : world.checked = world.runs
  starting : world.mStarting = false
  stopping : world.mStopping = false

/-- The switch is right after every tick at which nothing is pending. -/
def NeverStuck (past : Past) : Prop :=
  ∀ earlier t later, past = earlier ++ t :: later →
    ∀ prepared, t.event = .tick prepared → Settled t.before → Right t.after

def Starts : Output → Prop
  | .prepare => True
  | _ => False
def Stops : Output → Prop
  | .stop => True
  | _ => False
def SeenRunning : Output → Prop
  | .update true => True
  | _ => False
def SeenIdle : Output → Prop
  | .update false => True
  | _ => False

/-- All calls of the fragment. -/
def log (past : Past) : List Output := past.flatMap (·.reaction)

/-- What a tick must find. The binder must tell the truth. When the service does not run,
    no start may have begun since the fragment last saw it run. When it runs, no stop may
    have begun since the fragment last saw it not run, and the tick must not switch it on
    itself, by changing the switch with the listener attached. -/
structure Clear (earlier : Past) (world : World) (prepared : Bool) : Prop where
  answer : world.answer = world.runs
  idle : world.runs = false → ¬ Since Starts SeenRunning (log earlier)
  running : world.runs = true → ¬ Since Stops SeenIdle (log earlier) ∧
    ¬ (world.checked = false ∧ world.onCheckedChangeListener = true ∧ prepared = true)

variable {android : Vpn.Android} {debug : Bool} {service : Option Service.State} {world next : World} {event : Event}
  {outputs : List Output} {past : Past} {α β : Type}

/-! ### The flags -/

/-- `mStarting` and `mStopping` remember a start and a stop until the fragment has seen it succeed. -/
def Tracks (world : World) (log : List Output) : Prop :=
  (world.mStarting = true ↔ Since Starts SeenRunning log) ∧ (world.mStopping = true ↔ Since Stops SeenIdle log)

/-- The action keeps the flags so. -/
def Follows (m : Act α) : Prop :=
  ∀ world log, Tracks world log → m.Ensures world (fun _ next outputs => Tracks next (log ++ outputs))

private theorem Follows.bind {m : Act α} {f : α → Act β} (first : Follows m) (rest : ∀ a, Follows (f a)) :
    Follows (m >>= f) := by
  intro world log tracks
  rw [ensures_bind]
  refine (first world log tracks).mono ?_
  rintro (fault | a) next outputs kept
  · exact kept
  · simpa only [List.append_assoc] using rest a next (log ++ outputs) kept

private theorem follows_pure (a : α) : Follows (pure a) := by
  intro world log tracks
  simpa using tracks

private theorem follows_get : Follows get := by
  intro world log tracks
  simpa using tracks

/-- Whatever leaves the flags alone. -/
private theorem follows_modify {change : World → World}
    (kept : ∀ world, (change world).mStarting = world.mStarting ∧ (change world).mStopping = world.mStopping) :
    Follows (modify change) := by
  intro world log tracks
  simpa [Tracks,kept] using tracks

/-- A call that neither starts nor stops. -/
private theorem follows_emit {o : Output} (quiet : ¬ Starts o ∧ ¬ Stops o ∧ ¬ SeenRunning o ∧ ¬ SeenIdle o) :
    Follows (emit o) := by
  intro world log tracks
  simpa [Tracks,since_concat,quiet] using tracks

private theorem follows_checkState : Follows checkState := by
  refine .bind (follows_modify (fun _ => ⟨rfl,rfl⟩)) (fun _ => .bind (follows_modify (fun _ => ⟨rfl,rfl⟩)) (fun _ =>
    .bind (follows_modify (fun _ => ⟨rfl,rfl⟩)) (fun _ => .bind follows_get ?_)))
  intro world
  split
  · exact .bind (follows_emit (by simp [Starts,Stops,SeenRunning,SeenIdle]))
      (fun _ => follows_modify (fun _ => ⟨rfl,rfl⟩))
  · exact follows_pure ()

private theorem follows_onActivityResult (ok : Bool) : Follows (onActivityResult ok) := by
  unfold onActivityResult
  split
  · exact .bind (follows_emit (by simp [Starts,Stops,SeenRunning,SeenIdle]))
      (fun _ => .bind (follows_modify (fun _ => ⟨rfl,rfl⟩)) (fun _ => follows_checkState))
  · exact follows_pure ()

private theorem follows_startVpn (prepared : Bool) : Follows (startVpn prepared) := by
  have rest : Follows (if prepared then onActivityResult true else do
      emit .startActivityForResult
      modify (fun world => {world with dialogs := world.dialogs + 1})) := by
    split
    · exact follows_onActivityResult true
    · exact .bind (follows_emit (by simp [Starts,Stops,SeenRunning,SeenIdle]))
        (fun _ => follows_modify (fun _ => ⟨rfl,rfl⟩))
  intro world log tracks
  have started : Tracks {world with mStarting := true} (log ++ [.prepare]) := by
    simpa [Tracks,since_concat,Starts,Stops,SeenIdle] using tracks.2
  unfold startVpn
  simp only [ensures_bind,ensures_modify,ensures_emit]
  simpa using rest _ _ started

/-- The service touches neither the switch nor the flags. -/
private theorem serve_kept (world : World) (event : Service.Event) :
    (world.serve android debug event).checked = world.checked ∧
      (world.serve android debug event).mStarting = world.mStarting ∧
      (world.serve android debug event).mStopping = world.mStopping := by
  unfold World.serve
  split
  · exact ⟨rfl,rfl,rfl⟩
  · split
    · exact ⟨rfl,rfl,rfl⟩
    · split
      · exact ⟨rfl,rfl,rfl⟩
      · split
        · exact ⟨rfl,rfl,rfl⟩
        · exact ⟨rfl,rfl,rfl⟩

private theorem stop_kept (android : Vpn.Android) (debug : Bool) (world : World) (binder : Binder) :
    (world.stop android debug binder).checked = world.checked ∧
      (world.stop android debug binder).mStarting = world.mStarting ∧
      (world.stop android debug binder).mStopping = world.mStopping := by
  cases binder with
  | live => exact serve_kept world _
  | stale answer => exact ⟨rfl,rfl,rfl⟩

private theorem follows_stopVpn : Follows (stopVpn android debug) := by
  refine .bind follows_get ?_
  intro world
  cases world.mBinder with
  | none => exact follows_pure ()
  | some binder =>
    have rest : Follows (do
        modify (fun world => world.stop android debug binder)
        modify (fun world => {world with mBinder := none})
        emit .unbindService
        modify (fun world => {world with bound := false})
        checkState) :=
      .bind (follows_modify (fun world => (stop_kept android debug world binder).2)) (fun _ =>
        .bind (follows_modify (fun _ => ⟨rfl,rfl⟩)) (fun _ =>
        .bind (follows_emit (by simp [Starts,Stops,SeenRunning,SeenIdle])) (fun _ =>
        .bind (follows_modify (fun _ => ⟨rfl,rfl⟩)) (fun _ => follows_checkState))))
    intro world log tracks
    have stopped : Tracks {world with mStopping := true} (log ++ [.stop]) := by
      simpa [Tracks,since_concat,Starts,Stops,SeenRunning] using tracks.1
    simp only [ensures_bind,ensures_modify,ensures_emit]
    simpa using rest _ _ stopped

private theorem follows_setChecked (prepared value : Bool) : Follows (setChecked android debug prepared value) := by
  have listener : Follows (checkedChanged android debug prepared value) := by
    unfold checkedChanged
    split
    · exact follows_startVpn prepared
    · exact follows_stopVpn
  refine .bind follows_get ?_
  intro world
  split
  · refine .bind (follows_modify (fun _ => ⟨rfl,rfl⟩)) (fun _ => .bind follows_get ?_)
    intro world
    split
    · exact listener
    · exact follows_pure ()
  · exact follows_pure ()

/-- The flags as `updateState` leaves them. -/
def World.settle (world : World) : World :=
  { world with
    enabled := world.enabled || (!world.mStarting && !world.mStopping) || (world.mStarting && world.mRunning) ||
      (world.mStopping && !world.mRunning)
    mStarting := world.mStarting && !world.mRunning
    mStopping := world.mStopping && world.mRunning
    onCheckedChangeListener := true }

/-- What `updateState` does behind `mSwitch.checked = mRunning`. -/
def updateFlags : Act Unit := do
  let world ← get
  emit (.update world.mRunning)
  if (!world.mStarting && !world.mStopping) || (world.mStarting && world.mRunning) ||
      (world.mStopping && !world.mRunning) then
    modify (fun world => {world with enabled := true})
  if world.mStarting && world.mRunning then modify (fun world => {world with mStarting := false})
  if world.mStopping && !world.mRunning then modify (fun world => {world with mStopping := false})
  modify (fun world => {world with onCheckedChangeListener := true})

private theorem updateFlags_run (world : World) :
    updateFlags.run world = some (.ok (),world.settle,[.update world.mRunning]) := by
  obtain ⟨enabled,checked,listener,running,starting,stopping,binder,bound,service,commands,dialogs⟩ := world
  cases enabled <;> cases running <;> cases starting <;> cases stopping <;> rfl

private theorem updateState_eq (prepared : Bool) : updateState android debug prepared = (do
    modify (fun world => {world with mRunning := world.answer})
    setChecked android debug prepared (← get).mRunning
    updateFlags) := rfl

/-- `updateState` reads the binder, sets the switch and settles the flags. -/
private theorem updateState_ensures {prepared : Bool} {Q : Except Empty Unit → World → List Output → Prop}
    (ensures : (setChecked android debug prepared world.answer).Ensures {world with mRunning := world.answer}
      (fun _ middle outputs => Q (.ok ()) middle.settle (outputs ++ [.update middle.mRunning]))) :
    (updateState android debug prepared).Ensures world Q := by
  rw [updateState_eq]
  simp only [ensures_bind,ensures_modify,ensures_get,List.nil_append]
  refine ensures.mono ?_
  rintro (fault | _) middle outputs holds
  · exact fault.elim
  · simpa only [ensures_of_run (updateFlags_run middle)] using holds

private theorem follows_updateState (prepared : Bool) : Follows (updateState android debug prepared) := by
  intro world log tracks
  apply updateState_ensures
  have read : Tracks {world with mRunning := world.answer} log := tracks
  refine (follows_setChecked prepared world.answer _ log read).mono ?_
  intro _ middle outputs kept
  rw [← List.append_assoc,Tracks,since_concat,since_concat]
  cases running : middle.mRunning with
  | false => simpa [World.settle,running,Starts,Stops,SeenRunning,SeenIdle] using kept.1
  | true => simpa [World.settle,running,Starts,Stops,SeenRunning,SeenIdle] using kept.2

private theorem follows_onServiceConnected (prepared : Bool) (binder : Binder) :
    Follows (onServiceConnected android debug prepared binder) := by
  refine .bind (follows_modify (fun _ => ⟨rfl,rfl⟩)) (fun _ => .bind (follows_modify (fun _ => ⟨rfl,rfl⟩)) (fun _ =>
    .bind follows_get ?_))
  intro world
  split
  · exact follows_updateState prepared
  · exact follows_pure ()

/-- Every callback keeps the flags so. -/
private theorem react_follows {callback : Act Unit} (reacts : react android debug world event = some callback) :
    Follows callback := by
  cases event with
  | toggle prepared =>
    simp only [react,Option.ite_none_right_eq_some] at reacts
    obtain ⟨-,reacts⟩ := reacts
    cases reacts
    exact follows_setChecked prepared _
  | activityResult ok =>
    simp only [react,Option.ite_none_left_eq_some] at reacts
    obtain ⟨-,reacts⟩ := reacts
    cases reacts
    exact .bind (follows_modify (fun _ => ⟨rfl,rfl⟩)) (fun _ => follows_onActivityResult ok)
  | created =>
    simp only [react,Option.ite_none_left_eq_some] at reacts
    obtain ⟨-,reacts⟩ := reacts
    cases reacts
    exact follows_modify (fun _ => ⟨rfl,rfl⟩)
  | onStartCommand intent outcomes =>
    simp only [react,Option.ite_none_left_eq_some] at reacts
    obtain ⟨-,reacts⟩ := reacts
    cases reacts
    exact .bind (follows_modify (fun _ => ⟨rfl,rfl⟩)) (fun _ => follows_modify (fun world => (serve_kept world _).2))
  | onRevoke =>
    simp only [react,Option.ite_none_left_eq_some] at reacts
    obtain ⟨-,reacts⟩ := reacts
    cases reacts
    exact follows_modify (fun world => (serve_kept world _).2)
  | killed =>
    cases reacts
    exact follows_modify (fun _ => ⟨rfl,rfl⟩)
  | connected prepared =>
    simp only [react,Option.ite_none_right_eq_some] at reacts
    obtain ⟨-,reacts⟩ := reacts
    cases reacts
    exact follows_onServiceConnected prepared .live
  | disconnected =>
    simp only [react] at reacts
    split at reacts
    · cases reacts
      exact follows_modify (fun _ => ⟨rfl,rfl⟩)
    · cases reacts
  | tick prepared =>
    cases reacts
    exact follows_updateState prepared

private theorem step_ran (taken : step android debug world event = some (next,outputs)) :
    ∃ callback result, react android debug world event = some callback ∧
      callback.run world = some (result,next,outputs) := by
  simp only [step,Option.bind_eq_bind,Option.bind_eq_some_iff,Option.pure_def,Option.some.injEq,Prod.mk.injEq] at taken
  obtain ⟨callback,reacts,⟨result,next',outputs'⟩,ran,rfl,rfl⟩ := taken
  exact ⟨callback,result,reacts,ran⟩

/-- At every moment the flags say what the calls so far amount to. -/
theorem tracks (trace : Trace android debug service past world) : Tracks world (log past) := by
  induction trace with
  | nil => simp [Tracks,initial,log,Since]
  | @snoc s s' past event outputs _ taken ih =>
    obtain ⟨callback,result,reacts,ran⟩ := step_ran taken
    have kept := react_follows reacts s (log past) ih _ _ _ ran
    simpa [log] using kept

/-! ### A tick -/

/-- A stop ends the service. -/
private theorem serve_stop (world : World) : (world.serve android debug (.stop (.ok ()))).service = none := by
  unfold World.serve
  split
  · assumption
  · rename_i state _
    obtain ⟨descriptor,running⟩ := state
    rcases descriptor with _ | ⟨fd,_ | _⟩ <;> rfl

/-- A fragment that is told that the service does not run is told so still after it stopped it. -/
private theorem runs_stop (android : Vpn.Android) (debug : Bool) (world : World) {binder : Binder}
    (idle : (world.isRunning binder).getD false = false) :
    (world.stop android debug binder).runs = world.runs := by
  cases binder with
  | live =>
    have stopped : (world.stop android debug .live).runs = false := by
      rw [World.stop,World.runs,serve_stop]
    have answered : world.runs = false := idle
    rw [stopped,answered]
  | stale answer => rfl

/-- When the flags are settled, the switch is enabled unless one of them stays. -/
private theorem right_settle_iff (world : World) : Right world.settle ↔ world.checked = world.runs ∧
    (world.mStarting = true → world.mRunning = true) ∧ (world.mStopping = true → world.mRunning = false) := by
  constructor
  · rintro ⟨-,checked,starting,stopping⟩
    refine ⟨checked,?_,?_⟩
    · intro started
      simpa [World.settle,started] using starting
    · intro stopped
      simpa [World.settle,stopped] using stopping
  · rintro ⟨checked,starting,stopping⟩
    refine ⟨?_,checked,?_,?_⟩
    all_goals
      revert starting stopping
      simp only [World.settle]
      cases world.mStarting <;> cases world.mStopping <;> cases world.mRunning <;> simp

/-- What `checkState` leaves alone, and that it forgets that the service runs. -/
def Rechecked (world next : World) : Prop :=
  next.mRunning = false ∧ next.checked = world.checked ∧ next.runs = world.runs ∧ next.mStarting = world.mStarting ∧
    next.mStopping = world.mStopping

private theorem checkState_ensures (world : World) :
    checkState.Ensures world (fun _ next _ => Rechecked world next) := by
  unfold checkState
  by_cases unbound : world.mBinder = none <;> simp [unbound,Rechecked,World.runs]

/-- With the permission a start begins and the switch waits. -/
private theorem startVpn_prepared (world : World) :
    (startVpn true).Ensures world (fun _ next _ => next.mStarting = true ∧ next.mRunning = false) := by
  simp only [startVpn,onActivityResult,if_true,ensures_bind,ensures_modify,ensures_emit]
  refine (checkState_ensures _).mono ?_
  rintro _ next _ ⟨idle,-,-,starting,-⟩
  exact ⟨starting,idle⟩

private theorem stopVpn_ensures (world : World) (idle : world.answer = false) (stopped : world.mRunning = false) :
    (stopVpn android debug).Ensures world (fun _ next _ => next.mRunning = false ∧ next.checked = world.checked ∧
      next.runs = world.runs ∧ next.mStarting = world.mStarting) := by
  unfold stopVpn
  simp only [ensures_bind,ensures_get]
  rcases bound : world.mBinder with _ | binder
  · simp [stopped]
  · have told : (world.isRunning binder).getD false = false := by simpa [World.answer,bound] using idle
    have runs := runs_stop android debug {world with mStopping := true} told
    have kept := stop_kept android debug {world with mStopping := true} binder
    simp only [ensures_bind,ensures_modify,ensures_emit]
    refine (checkState_ensures _).mono ?_
    rintro _ next _ ⟨rechecked,checked,same,starting,-⟩
    exact ⟨rechecked,checked.trans kept.1,same.trans runs,starting.trans kept.2.1⟩

/-- What the state before a tick must be. -/
def Ready (world : World) (prepared : Bool) : Prop :=
  world.answer = world.runs ∧ (world.runs = false → world.mStarting = false) ∧
    (world.runs = true → world.mStopping = false ∧
      ¬ (world.checked = false ∧ world.onCheckedChangeListener = true ∧ prepared = true))

instance (world : World) (prepared : Bool) : Decidable (Ready world prepared) := inferInstanceAs (Decidable (_ ∧ _))

/-- Without the listener, or with nothing to change, a tick only reads. -/
private theorem ready_iff_read {prepared : Bool}
    (silent : world.checked = world.answer ∨ world.onCheckedChangeListener = false ∨ world.answer = false) :
    Ready world prepared ↔ world.answer = world.runs ∧ (world.mStarting = true → world.answer = true) ∧
      (world.mStopping = true → world.answer = false) := by
  unfold Ready
  constructor
  · rintro ⟨told,idle,running⟩
    rw [told]
    grind
  · rintro ⟨told,starting,stopping⟩
    refine ⟨told,?_,?_⟩
    · grind
    · grind

/-- A tick leaves the switch right from exactly these states. -/
private theorem tick_right (prepared : Bool) (world : World) :
    (updateState android debug prepared).Ensures world (fun _ next _ => Right next ↔ Ready world prepared) := by
  apply updateState_ensures
  unfold setChecked
  simp only [ensures_bind,ensures_get]
  by_cases same : world.checked = world.answer
  · rw [if_neg (by simpa using same),ensures_pure,right_settle_iff,ready_iff_read (.inl same)]
    exact and_congr (by rw [← same]; exact Iff.rfl) Iff.rfl
  · rw [if_pos same]
    simp only [ensures_bind,ensures_modify,ensures_get]
    cases listening : world.onCheckedChangeListener with
    | false =>
      rw [if_neg (by simp),ensures_pure,right_settle_iff,ready_iff_read (.inr (.inl listening))]
      exact Iff.rfl
    | true =>
      rw [if_pos rfl]
      cases told : world.answer with
      | true =>
        have unchecked : world.checked = false := by simpa [told] using same
        cases prepared with
        | true =>
          refine (startVpn_prepared _).mono ?_
          rintro _ next _ ⟨starting,idle⟩
          rw [right_settle_iff,Ready,starting,idle,told,unchecked,listening]
          grind
        | false =>
          simp only [checkedChanged,startVpn,if_true,Bool.false_eq_true,if_false,ensures_bind,ensures_modify,
            ensures_emit]
          rw [right_settle_iff,Ready,told]
          show (true = world.runs ∧ (true = true → true = true) ∧ (world.mStopping = true → true = false)) ↔ _
          grind
      | false =>
        have checked : world.checked = true := by simpa [told] using same
        refine (stopVpn_ensures {world with mRunning := false, checked := false, onCheckedChangeListener := true} told
          rfl).mono ?_
        rintro _ next _ ⟨idle,unchecked,runs,starting⟩
        rw [right_settle_iff,ready_iff_read (.inr (.inr told)),told,idle,unchecked,runs,starting]
        show (false = world.runs ∧ (world.mStarting = true → false = true) ∧
          (next.mStopping = true → false = false)) ↔ _
        grind

/-! ### Every tick of every run -/

/-- The state before a tick is ready exactly when its past is clear. -/
private theorem clear_iff {earlier : Past} (tracks : Tracks world (log earlier)) (prepared : Bool) :
    Clear earlier world prepared ↔ Ready world prepared := by
  obtain ⟨starting,stopping⟩ := tracks
  constructor
  · rintro ⟨told,idle,running⟩
    rw [← starting] at idle
    rw [← stopping] at running
    refine ⟨told,fun stopped => by simpa using idle stopped,?_⟩
    intro runs
    exact ⟨by simpa using (running runs).1,(running runs).2⟩
  · rintro ⟨told,idle,running⟩
    refine ⟨told,?_,?_⟩
    · rw [← starting]
      intro stopped
      simp [idle stopped]
    · rw [← stopping]
      intro runs
      exact ⟨by simp [(running runs).1],(running runs).2⟩

private theorem obeys_clear_iff (trace : Trace android debug service past world) :
    Obeys (fun earlier world event => ∀ prepared, event = .tick prepared → Settled world → Clear earlier world prepared)
        past ↔
      Obeys (fun _ world event => ∀ prepared, event = .tick prepared → Settled world → Ready world prepared) past := by
  refine forall₄_congr (fun earlier t later whole => ?_)
  obtain ⟨middle,first,rest⟩ := trace.split whole
  obtain ⟨rfl,-,-⟩ := rest.head
  have tracks := tracks first
  exact forall₃_congr (fun prepared _ _ => clear_iff tracks prepared)

/-- A tick of a run, whether something is pending or not. -/
theorem right_iff (trace : Trace android debug service past world) {earlier later : Past}
    {t : Transition World Event (List Output)} (whole : past = earlier ++ t :: later) {prepared : Bool}
    (tick : t.event = .tick prepared) : Right t.after ↔ Clear earlier t.before prepared := by
  obtain ⟨middle,first,rest⟩ := trace.split whole
  obtain ⟨rfl,taken,-⟩ := rest.head
  rw [tick] at taken
  obtain ⟨callback,result,reacts,ran⟩ := step_ran taken
  cases reacts
  rw [clear_iff (tracks first)]
  exact tick_right prepared t.before _ _ _ ran

/-- In a run the switch is right after every tick at which nothing is pending, exactly
    when every such tick finds the past clear. -/
theorem neverStuck_iff (trace : Trace android debug service past world) : NeverStuck past ↔
    Obeys (fun earlier world event => ∀ prepared, event = .tick prepared → Settled world → Clear earlier world prepared)
      past := by
  constructor
  · intro right earlier t later whole prepared tick settled
    exact (right_iff trace whole tick).mp (right earlier t later whole prepared tick settled)
  · intro clear earlier t later whole prepared tick settled
    exact (right_iff trace whole tick).mpr (clear earlier t later whole prepared tick settled)

/-! ### A start that fails -/

/-- The service is switched on and off again. -/
theorem on_and_off : ∃ past world, Trace (Vpn.device "org.browser") false none past world ∧
    past.map (·.reaction) = [[.update false],[.prepare,.startService,.bindService],[],[],[],[.update true],
      [.stop,.unbindService,.bindService],[.update false]] ∧ NeverStuck past := by
  obtain ⟨past,world,executed,reactions,ready⟩ : ∃ past world,
      execute (step (Vpn.device "org.browser") false) (initial none) [.tick true,.toggle true,.created,.connected true,
        .onStartCommand Service.exampleIntent (Service.exampleOutcomes 0),.tick true,.toggle true,.tick true] =
          some (past,world) ∧
      past.map (·.reaction) = [[.update false],[.prepare,.startService,.bindService],[],[],[],[.update true],
        [.stop,.unbindService,.bindService],[.update false]] ∧
      Obeys (fun _ world event => ∀ prepared, event = .tick prepared → Settled world → Ready world prepared) past := by
    refine ⟨_,_,rfl,rfl,?_⟩
    simp only [obeys_cons,obeys_nil,and_true]
    refine ⟨?_,?_,?_,?_,?_,?_,?_,?_⟩ <;> rintro prepared ⟨⟩ -
    all_goals decide
  have trace := run_of_execute executed
  exact ⟨past,world,trace,reactions,(neverStuck_iff trace).mpr ((obeys_clear_iff trace).mpr ready)⟩

/-- The permission is there and the start command comes, but tun2socks does not start: the
    tick after that leaves the switch disabled. -/
theorem stuck : ∃ past world, execute (step (Vpn.device "org.browser") false) (initial none)
    [.tick true,.toggle true,.created,.onStartCommand Service.exampleIntent (Service.exampleOutcomes 1),.tick true] =
      some (past,world) ∧
    world.enabled = false ∧ world.mStarting = true ∧ ¬ NeverStuck past := by
  refine ⟨_,_,rfl,rfl,rfl,?_⟩
  intro right
  have ticked := right [_,_,_,_] _ [] rfl true rfl ⟨rfl,rfl⟩
  exact absurd ticked.enabled (by decide)

end WSocks.MainSwitch
