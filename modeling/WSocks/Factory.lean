import WSocks.Manager

/-!
# The profile factory

The factory holds its profiles by weak references, which the garbage collector may
clear between two statements unless somebody else holds the profile. `getProfile`
makes or tests a reference and reads it once more, so the profile may be gone by then.
Where no collection comes between, the calls end as those of a manager that makes a
profile for every name.
-/

namespace WSocks.Factory
open WSocks.Runs WSocks.Effects WSocks.Effects.Action WSocks.Strings WSocks.Buffers WSocks.Profiles WSocks.Manager

/-- A `WeakReference<Profile>`; every one is made with a profile of its own. -/
abbrev Reference := Nat

/-- Where `getProfile` stands: at the test of the manager, or at a statement of the
    factory, with its variable `p`. -/
inductive Line
  | contains
  | lookup
  | test (p : Option Reference)
  | create
  | put (p : Reference)
  | get (p : Reference)

/-- Who called `getProfile`: a method that returns what it gets, or `removeProfile`. -/
inductive Caller
  | returns
  | deletes

/-- A call in progress. -/
structure Frame where
  name : String
  line : Line
  caller : Caller

/-- The manager with its factory. `references` holds what the references made so far
    refer to, `none` once cleared; `held` the profiles that somebody else refers to. -/
structure World where
  manager : ProfileManager
  mMap : String → Option Reference
  references : List (Option Profile)
  held : List Reference
  calling : Option Frame

namespace World

/-- `p.get()`. -/
def referent (world : World) (p : Reference) : Option Profile := (world.references[p]?).join

@[simps] def goto (world : World) (frame : Frame) (line : Line) : World :=
  { world with calling := some { frame with line := line } }
@[simps] def leave (world : World) : World := { world with calling := none }
@[simps] def clear (world : World) (p : Reference) : World := { world with references := world.references.set p none }
@[simps] def create (world : World) (name : String) : World :=
  { world with references := world.references ++ [some ⟨name⟩] }
@[simps] def put (world : World) (name : String) (p : Reference) : World :=
  { world with mMap := Function.update world.mMap name (some p) }
@[simps] def hold (world : World) (p : Reference) : World := { world with held := p :: world.held }
@[simps] def release (world : World) (p : Reference) : World := { world with held := world.held.erase p }
@[simps] def manage (world : World) (manager : ProfileManager) : World := { world with manager := manager }

end World

/-- What happened in a step: what `getProfile` returned for a name, and how the call ended. -/
structure Reaction where
  returned : Option (String × Option Profile)
  answer : Option (Except Failure Answer)

def Reaction.quiet : Reaction := ⟨none,none⟩

/-! ### The methods around `getProfile` -/

section
variable (prof_default : String)

/-- What `addProfile` does before it asks for the default profile. -/
def addName (name : String) : Act Unit := do
  modify (fun manager => {manager with mProfiles := manager.mProfiles ++ [name]})
  removeFirst
  let names := (← get).mProfiles
  edit (fun pref => (pref.put PREF_PROFILE (.string (join '\n' names))).put PREF_LAST_PROFILE (.string name))
  reload prof_default

/-- What `removeProfile` does with the profile. -/
def delete (profile : Profile) (name : String) : Act Bool := do
  edit profile.delete
  removeFirst
  modify (fun manager => {manager with mProfiles := manager.mProfiles.erase name})
  let rest := (← get).mProfiles
  edit (fun pref => (pref.put PREF_PROFILE (.string (join '\n' rest))).remove PREF_LAST_PROFILE)
  reload prof_default
  pure true

/-- These are the parts of the two methods. -/
theorem addProfile_eq (name : String) : Manager.addProfile prof_default name = (do
    if name ∈ (← get).mProfiles then pure none
    else
      addName prof_default name
      getDefault) := by
  simp only [Manager.addProfile,addName,bind_assoc]

theorem removeProfile_eq (name : String) : Manager.removeProfile prof_default name = (do
    let names := (← get).mProfiles
    if names.head? = some name ∨ name ∉ names then pure false
    else
      match ← Manager.getProfile name with
      | none => throw .nullPointer
      | some profile => delete prof_default profile name) := rfl

/-! ### Calls, statement by statement -/

/-- A call of the manager. -/
inductive Call
  | getProfile (name : String)
  | getDefault
  | switchDefault (name : String)
  | addProfile (name : String)
  | removeProfile (name : String)

/-- A call, the next statement of `getProfile`, a collection that clears a reference, and
    the end of a reference that somebody held. -/
inductive Event
  | call (c : Call)
  | next
  | collect (p : Reference)
  | release (p : Reference)

def World.call (world : World) (name : String) (caller : Caller) : World :=
  { world with calling := some ⟨name,.contains,caller⟩ }

def enterDefault (world : World) : World × Reaction :=
  match lastProfile world.manager with
  | .error failure => (world,⟨none,some (.error failure)⟩)
  | .ok none => (world,⟨none,some (.ok (.profile none))⟩)
  | .ok (some name) => (world.call name .returns,.quiet)

/-- What a call does before it comes to `getProfile`. Collections between these statements
    make no difference, since none of them touches a reference. -/
def enter (world : World) : Call → Option (World × Reaction)
  | .getProfile name => some (world.call name .returns,.quiet)
  | .getDefault => some (enterDefault world)
  | .switchDefault name => ((Manager.switchDefault name).run world.manager).map (fun ran =>
      (world.manage ran.2.1,⟨none,some (ran.1.map (fun _ => .nothing))⟩))
  | .addProfile name =>
    if name ∈ world.manager.mProfiles then some (world,⟨none,some (.ok (.profile none))⟩)
    else ((addName prof_default name).run world.manager).map (fun ran =>
      match ran.1 with
      | .error failure => (world.manage ran.2.1,⟨none,some (.error failure)⟩)
      | .ok () => enterDefault (world.manage ran.2.1))
  | .removeProfile name =>
    if world.manager.mProfiles.head? = some name ∨ name ∉ world.manager.mProfiles then
      some (world,⟨none,some (.ok (.removed false))⟩)
    else some (world.call name .deletes,.quiet)

/-- `getProfile` returns: a caller holds the profile, and `removeProfile` deletes it. -/
def giveBack (world : World) (frame : Frame) (result : Option (Reference × Profile)) : Option (World × Reaction) :=
  match frame.caller,result with
  | .returns,none => some (world.leave,⟨some (frame.name,none),some (.ok (.profile none))⟩)
  | .returns,some (p,profile) =>
    some ((world.hold p).leave,⟨some (frame.name,some profile),some (.ok (.profile (some profile)))⟩)
  | .deletes,none => some (world.leave,⟨some (frame.name,none),some (.error .nullPointer)⟩)
  | .deletes,some (_,profile) => ((delete prof_default profile frame.name).run world.manager).map (fun ran =>
      ((world.manage ran.2.1).leave,⟨some (frame.name,some profile),some (ran.1.map .removed)⟩))

/-- The statements of `getProfile`, in the manager and then in the factory. -/
def advance (world : World) (frame : Frame) : Option (World × Reaction) :=
  match frame.line with
  | .contains =>
    if frame.name ∉ world.manager.mProfiles then giveBack prof_default world frame none
    else some (world.goto frame .lookup,.quiet)
  | .lookup => some (world.goto frame (.test (world.mMap frame.name)),.quiet)
  | .test none => some (world.goto frame .create,.quiet)
  | .test (some p) => some (world.goto frame (if world.referent p = none then .create else .get p),.quiet)
  | .create => some ((world.create frame.name).goto frame (.put world.references.length),.quiet)
  | .put p => some ((world.put frame.name p).goto frame (.get p),.quiet)
  | .get p => giveBack prof_default world frame ((world.referent p).map (fun profile => (p,profile)))

/-- The calls come one after another, from the main thread; collections come at any moment. -/
def step (world : World) : Event → Option (World × Reaction)
  | .call c => if world.calling.isSome then none else enter prof_default world c
  | .next => world.calling.bind (advance prof_default world)
  | .collect p => if p ∈ world.held then none else some (world.clear p,.quiet)
  | .release p => if world.calling.isSome ∨ p ∉ world.held then none else some (world.release p,.quiet)

end

/-- A new factory. -/
def initial (manager : ProfileManager) : World := ⟨manager,fun _ => none,[],[],none⟩

abbrev Past := List (Transition World Event Reaction)

abbrev Trace (prof_default : String) (manager : ProfileManager) (past : Past) (world : World) : Prop :=
  Run (step prof_default) (initial manager) past world

/-- `getProfile` does not return null for a name on the list. -/
def NonNull (t : Transition World Event Reaction) : Prop :=
  ∀ name result, t.reaction.returned = some (name,result) → name ∈ t.before.manager.mProfiles → result ≠ none

/-- The reference has been tested or made and is yet to be read. -/
def Line.Reads (p : Reference) : Line → Prop
  | .put q | .get q => q = p
  | _ => False

/-- No collection clears what the call in progress is yet to read. -/
def Spares (world : World) : Event → Prop
  | .collect p => ∀ frame, world.calling = some frame → ¬ frame.line.Reads p
  | _ => True

/-! ### The manager that knows of no references -/

section
variable (prof_default : String)

/-- A call of the manager in one step. -/
def Call.whole : Call → Act Answer
  | .getProfile name => .profile <$> Manager.getProfile name
  | .getDefault => .profile <$> Manager.getDefault
  | .switchDefault name => (fun _ => .nothing) <$> Manager.switchDefault name
  | .addProfile name => .profile <$> Manager.addProfile prof_default name
  | .removeProfile name => .removed <$> Manager.removeProfile prof_default name

/-- What a call in progress has yet to do. -/
def Frame.rest (frame : Frame) : Act Answer :=
  match frame.caller with
  | .returns => .profile <$> Manager.getProfile frame.name
  | .deletes => .removed <$> (do
    match ← Manager.getProfile frame.name with
    | none => throw .nullPointer
    | some profile => delete prof_default profile frame.name)

end

/-- How an action of the manager ends. -/
def ends (manager : ProfileManager) (m : Act Answer) : Option (ProfileManager × Except Failure Answer) :=
  (m.run manager).map (fun ran => (ran.2.1,ran.1))

/-! ### What a step can do -/

variable {prof_default : String} {world next : World} {event : Event} {reaction : Reaction} {manager : ProfileManager}
  {past : Past}

/-- Every step, by what it does to the call in progress and to the references it reads. -/
inductive Move (world : World) : Event → World → Reaction → Prop
  | started {c : Call} {next : World} {reaction : Reaction} : world.calling = none → reaction.returned = none →
      (∀ frame, next.calling = some frame → frame.line = .contains) → Move world (.call c) next reaction
  | went {frame : Frame} {line : Line} {next : World} : world.calling = some frame →
      next.calling = some {frame with line := line} → next.manager = world.manager →
      frame.name ∈ world.manager.mProfiles ∨ frame.line ≠ .contains →
      (∀ p, line.Reads p → next.referent p = none → frame.line.Reads p ∧ world.referent p = none) →
      (∀ p, frame.line.Reads p → line.Reads p ∧ next.referent p = world.referent p) →
      Move world .next next .quiet
  | refused {frame : Frame} {next : World} {answer : Option (Except Failure Answer)} : world.calling = some frame →
      next.calling = none → frame.line = .contains → frame.name ∉ world.manager.mProfiles →
      Move world .next next ⟨some (frame.name,none),answer⟩
  | gave {frame : Frame} {p : Reference} {next : World} {answer : Option (Except Failure Answer)} :
      world.calling = some frame → next.calling = none → frame.line = .get p →
      Move world .next next ⟨some (frame.name,world.referent p),answer⟩
  | collected {p : Reference} : Move world (.collect p) (world.clear p) .quiet
  | released {p : Reference} : world.calling = none → Move world (.release p) (world.release p) .quiet

/-- What `getProfile` returned is reported, and nothing but the manager and who holds the profile changes. -/
private theorem giveBack_leaves {frame : Frame} {result : Option (Reference × Profile)}
    (gave : giveBack prof_default world frame result = some (next,reaction)) :
    next.calling = none ∧ (next.references = world.references ∧ next.mMap = world.mMap) ∧
      ∃ answer, reaction = ⟨some (frame.name,result.map Prod.snd),answer⟩ := by
  unfold giveBack at gave
  split at gave
  · cases gave
    exact ⟨rfl,⟨rfl,rfl⟩,_,rfl⟩
  · cases gave
    exact ⟨rfl,⟨rfl,rfl⟩,_,rfl⟩
  · cases gave
    exact ⟨rfl,⟨rfl,rfl⟩,_,rfl⟩
  · obtain ⟨ran,-,same⟩ := Option.map_eq_some_iff.mp gave
    cases same
    exact ⟨rfl,⟨rfl,rfl⟩,_,rfl⟩

/-- Before it comes to `getProfile` a call has ended, or what is left of it ends as the
    whole call does. -/
inductive Entered (prof_default : String) (world : World) (c : Call) : World → Reaction → Prop
  | ended {manager : ProfileManager} {answer : Except Failure Answer} :
      ends world.manager (c.whole prof_default) = some (manager,answer) →
      Entered prof_default world c (world.manage manager) ⟨none,some answer⟩
  | asked {manager : ProfileManager} {name : String} {caller : Caller} :
      ends world.manager (c.whole prof_default) = ends manager (Frame.rest prof_default ⟨name,.contains,caller⟩) →
      Entered prof_default world c ((world.manage manager).call name caller) .quiet

private theorem enterDefault_entered {c : Call} (whole : ends world.manager (c.whole prof_default) =
    ends manager (.profile <$> Manager.getDefault)) :
    Entered prof_default world c (enterDefault (world.manage manager)).1 (enterDefault (world.manage manager)).2 := by
  unfold enterDefault
  rcases read : lastProfile manager with failure | _ | name
  · simp only [World.manage_manager,read]
    apply Entered.ended
    rw [whole]
    simp [ends,Manager.getDefault,read]
  · simp only [World.manage_manager,read]
    apply Entered.ended
    rw [whole]
    simp [ends,Manager.getDefault,read]
  · simp only [World.manage_manager,read]
    apply Entered.asked
    rw [whole]
    simp [ends,Manager.getDefault,Frame.rest,run_map,read]

private theorem enter_entered {c : Call} (entered : enter prof_default world c = some (next,reaction)) :
    Entered prof_default world c next reaction := by
  cases c with
  | getProfile name =>
    cases entered
    exact .asked rfl
  | getDefault =>
    have started : enterDefault (world.manage world.manager) = (next,reaction) := Option.some.inj entered
    have entered : Entered prof_default world .getDefault _ _ := enterDefault_entered rfl
    rwa [started] at entered
  | switchDefault name =>
    obtain ⟨ran,executed,same⟩ := Option.map_eq_some_iff.mp entered
    cases same
    apply Entered.ended
    simp [ends,Call.whole,run_map,executed]
  | addProfile name =>
    have whole : Call.whole prof_default (.addProfile name) = (do
        if name ∈ (← get).mProfiles then pure (.profile none)
        else
          addName prof_default name
          .profile <$> Manager.getDefault) := by
      ext1 manager
      by_cases member : name ∈ manager.mProfiles <;> simp [Call.whole,addProfile_eq,member]
    rw [enter] at entered
    split_ifs at entered with member
    · cases entered
      apply Entered.ended
      simp [ends,whole,member]
    · obtain ⟨⟨result,manager,outputs⟩,executed,same⟩ := Option.map_eq_some_iff.mp entered
      rcases result with failure | _
      · cases same
        apply Entered.ended
        simp [ends,whole,member,executed]
      · have started : enterDefault (world.manage manager) = (next,reaction) := same
        have ended : ends world.manager (Call.whole prof_default (.addProfile name)) =
            ends manager (.profile <$> Manager.getDefault) := by
          simp [ends,whole,member,executed,Function.comp_def,after]
        have entered := enterDefault_entered ended
        rwa [started] at entered
  | removeProfile name =>
    rw [enter] at entered
    split_ifs at entered with refused
    · cases entered
      apply Entered.ended
      simp [ends,Call.whole,removeProfile_eq,refused]
    · cases entered
      apply Entered.asked
      simp [ends,Call.whole,Frame.rest,removeProfile_eq,refused]

private theorem Entered.kept {c : Call} (entered : Entered prof_default world c next reaction) :
    next.references = world.references ∧ next.mMap = world.mMap := by
  cases entered with
  | ended => exact ⟨rfl,rfl⟩
  | asked => exact ⟨rfl,rfl⟩

private theorem Entered.move {c : Call} (entered : Entered prof_default world c next reaction)
    (idle : world.calling = none) : Move world (.call c) next reaction := by
  cases entered with
  | ended => exact .started idle rfl (by simp [idle])
  | asked =>
    refine .started idle rfl ?_
    intro frame calling
    cases calling
    rfl

/-- A statement that reads no reference later on. -/
private theorem advance_unread {frame : Frame} {line : Line} (calling : world.calling = some frame)
    (listed : frame.name ∈ world.manager.mProfiles ∨ frame.line ≠ .contains) (before : ∀ p, ¬ frame.line.Reads p)
    (after : ∀ p, line.Reads p → world.referent p ≠ none) : Move world .next (world.goto frame line) .quiet :=
  .went calling rfl rfl listed (fun p reads gone => absurd gone (after p reads))
    (fun p reads => absurd reads (before p))

private theorem advance_contains {name : String} {caller : Caller}
    (advanced : advance prof_default world ⟨name,.contains,caller⟩ = some (next,reaction)) :
    name ∈ world.manager.mProfiles ∧ next = world.goto ⟨name,.contains,caller⟩ .lookup ∧ reaction = .quiet ∨
      name ∉ world.manager.mProfiles ∧
        giveBack prof_default world ⟨name,.contains,caller⟩ none = some (next,reaction) := by
  simp only [advance] at advanced
  by_cases member : name ∈ world.manager.mProfiles
  · rw [if_neg (not_not.mpr member)] at advanced
    cases advanced
    exact .inl ⟨member,rfl,rfl⟩
  · rw [if_pos member] at advanced
    exact .inr ⟨member,advanced⟩

private theorem referent_create (world : World) (name : String) :
    (world.create name).referent world.references.length = some ⟨name⟩ := by
  simp [World.referent]

private theorem advance_move {frame : Frame} (calling : world.calling = some frame)
    (advanced : advance prof_default world frame = some (next,reaction)) : Move world .next next reaction := by
  obtain ⟨name,line,caller⟩ := frame
  cases line with
  | contains =>
    rcases advance_contains advanced with ⟨member,rfl,rfl⟩ | ⟨member,gave⟩
    · exact advance_unread calling (.inl member) (fun p => id) (fun p reads => reads.elim)
    · obtain ⟨idle,-,answer,rfl⟩ := giveBack_leaves gave
      exact .refused calling idle rfl member
  | lookup =>
    cases advanced
    exact advance_unread calling (.inr (by simp)) (fun p => id) (fun p reads => reads.elim)
  | test p =>
    rcases p with _ | p
    · cases advanced
      exact advance_unread calling (.inr (by simp)) (fun p => id) (fun p reads => reads.elim)
    · cases advanced
      refine advance_unread calling (.inr (by simp)) (fun p => id) ?_
      intro q reads
      by_cases gone : world.referent p = none
      · rw [if_pos gone] at reads
        exact reads.elim
      · rw [if_neg gone] at reads
        obtain rfl : p = q := reads
        exact gone
  | create =>
    cases advanced
    refine .went calling rfl rfl (.inr (by simp)) ?_ (fun p reads => reads.elim)
    intro p reads gone
    obtain rfl : world.references.length = p := reads
    exact absurd ((referent_create world name).symm.trans gone) (by simp)
  | put p =>
    cases advanced
    exact .went calling rfl rfl (.inr (by simp)) (fun q reads gone => ⟨reads,gone⟩) (fun q reads => ⟨reads,rfl⟩)
  | get p =>
    obtain ⟨idle,-,answer,rfl⟩ := giveBack_leaves advanced
    have read : ((world.referent p).map (fun profile => (p,profile))).map Prod.snd = world.referent p := by
      cases world.referent p <;> rfl
    rw [read]
    exact .gave calling idle rfl

theorem step_move (taken : step prof_default world event = some (next,reaction)) : Move world event next reaction := by
  cases event with
  | call c =>
    rw [step] at taken
    split_ifs at taken with busy
    exact (enter_entered taken).move (by simpa using busy)
  | next =>
    obtain ⟨frame,calling,advanced⟩ := Option.bind_eq_some_iff.mp taken
    exact advance_move calling advanced
  | collect p =>
    rw [step] at taken
    split_ifs at taken
    cases taken
    exact .collected
  | release p =>
    rw [step] at taken
    split_ifs at taken with refused
    cases taken
    exact .released (by simpa using (not_or.mp refused).1)

/-! ### Cleared before it is read -/

/-- A name that is looked up is on the list. -/
def Listed (world : World) : Prop :=
  ∀ frame, world.calling = some frame → frame.line = .contains ∨ frame.name ∈ world.manager.mProfiles

/-- What the call in progress is yet to read has been cleared. -/
def Lost (world : World) : Prop :=
  ∃ frame p, world.calling = some frame ∧ frame.line.Reads p ∧ world.referent p = none

private theorem referent_clear (world : World) (p q : Reference) :
    (world.clear p).referent q = if q = p then none else world.referent q := by
  by_cases same : q = p
  · subst same
    rw [if_pos rfl]
    simp only [World.referent,World.clear_references,List.getElem?_set]
    split_ifs <;> simp
  · rw [if_neg same]
    simp [World.referent,Ne.symm same]

private theorem Move.listed (move : Move world event next reaction) (listed : Listed world) : Listed next := by
  intro frame calling
  cases move with
  | started _ _ first => exact .inl (first frame calling)
  | @went frame' line _ calling' went kept member =>
    obtain rfl := Option.some.inj (went.symm.trans calling)
    refine .inr ?_
    rw [kept]
    rcases member with member | passed
    · exact member
    · exact (listed frame' calling').resolve_left passed
  | refused _ idle => simp [idle] at calling
  | gave _ idle => simp [idle] at calling
  | collected => exact listed frame calling
  | released => exact listed frame calling

/-- A collection that spares the call in progress loses nothing. -/
private theorem Move.kept (move : Move world event next reaction) (spares : Spares world event) (kept : ¬ Lost world) :
    ¬ Lost next := by
  rintro ⟨frame,p,calling,reads,gone⟩
  cases move with
  | started _ _ first =>
    rw [first frame calling] at reads
    exact reads
  | @went frame' line _ calling' went _ _ lost =>
    obtain rfl := Option.some.inj (went.symm.trans calling)
    obtain ⟨reads',gone'⟩ := lost p reads gone
    exact kept ⟨frame',p,calling',reads',gone'⟩
  | refused _ idle => simp [idle] at calling
  | gave _ idle => simp [idle] at calling
  | @collected q =>
    have other : p ≠ q := by
      rintro rfl
      exact spares frame calling reads
    rw [referent_clear,if_neg other] at gone
    exact kept ⟨frame,p,calling,reads,gone⟩
  | released => exact kept ⟨frame,p,calling,reads,gone⟩

/-- Then what is read is not null. -/
private theorem Move.nonNull (move : Move world event next reaction) (kept : ¬ Lost world) :
    NonNull ⟨world,event,reaction,next⟩ := by
  intro name result returned member
  cases move with
  | started _ silent => simp [silent] at returned
  | went => simp [Reaction.quiet] at returned
  | refused _ _ _ absent =>
    simp only [Option.some.injEq,Prod.mk.injEq] at returned
    exact absurd (returned.1 ▸ member) absent
  | @gave frame p _ _ calling _ line =>
    simp only [Option.some.injEq,Prod.mk.injEq] at returned
    rw [← returned.2]
    intro gone
    exact kept ⟨frame,p,calling,line ▸ rfl,gone⟩
  | collected => simp [Reaction.quiet] at returned
  | released => simp [Reaction.quiet] at returned

/-- What was lost stays lost until null is returned. -/
private theorem Move.lost (move : Move world event next reaction) (listed : Listed world) (lost : Lost world)
    (nonNull : NonNull ⟨world,event,reaction,next⟩) : Lost next := by
  obtain ⟨frame,p,calling,reads,gone⟩ := lost
  cases move with
  | started idle => simp [idle] at calling
  | @went frame' line _ calling' went _ _ _ keeps =>
    obtain rfl := Option.some.inj (calling'.symm.trans calling)
    obtain ⟨reads',same⟩ := keeps p reads
    exact ⟨_,p,went,reads',same.trans gone⟩
  | refused calling' _ line =>
    obtain rfl := Option.some.inj (calling'.symm.trans calling)
    rw [line] at reads
    exact reads.elim
  | @gave frame' q _ _ calling' _ line =>
    obtain rfl := Option.some.inj (calling'.symm.trans calling)
    rw [line] at reads
    obtain rfl : q = p := reads
    have member := (listed _ calling).resolve_left (by simp [line])
    exact absurd gone (nonNull _ _ rfl member)
  | @collected q =>
    refine ⟨frame,p,calling,reads,?_⟩
    rw [referent_clear,gone,ite_self]
  | released idle' => simp [idle'] at calling

/-- What is collected although the call in progress is yet to read it is lost. -/
private theorem lost_of_collected (taken : step prof_default world event = some (next,reaction))
    (unspared : ¬ Spares world event) : Lost next := by
  cases event with
  | collect p =>
    simp only [Spares,not_forall,not_not] at unspared
    obtain ⟨frame,calling,reads⟩ := unspared
    rw [step] at taken
    split_ifs at taken
    cases taken
    exact ⟨frame,p,calling,reads,by rw [referent_clear,if_pos rfl]⟩
  | call c => exact absurd trivial unspared
  | next => exact absurd trivial unspared
  | release p => exact absurd trivial unspared

private theorem listed_along (trace : Trace prof_default manager past world) : Listed world :=
  trace.invariant (by simp [Listed,initial]) (fun listed taken => (step_move taken).listed listed)

/-- In a run whose collections spare what the call in progress is yet to read, `getProfile`
    never returns null for a name on the list. In every other run that ends between two
    calls it does. -/
theorem nonNull_iff (trace : Trace prof_default manager past world) :
    (Obeys (fun _ world event => Spares world event) past → ∀ t ∈ past, NonNull t) ∧
    (world.calling = none → (∀ t ∈ past, NonNull t) → Obeys (fun _ world event => Spares world event) past) := by
  constructor
  · intro obeys t member
    have spares : ∀ t ∈ past, Spares t.before t.event := by
      intro t member
      obtain ⟨earlier,later,whole⟩ := List.append_of_mem member
      exact obeys earlier t later whole
    obtain ⟨kept,-⟩ := trace.carries (I := fun world => ¬ Lost world) (by simp [Lost,initial]) (by
      intro t member
      obtain ⟨earlier,later,whole⟩ := List.append_of_mem member
      exact (step_move (trace.taken whole)).kept (spares t member))
    obtain ⟨earlier,later,whole⟩ := List.append_of_mem member
    exact (step_move (trace.taken whole)).nonNull (kept t member)
  · intro idle nonNull earlier t later whole
    by_contra unspared
    obtain ⟨middle,first,rest⟩ := trace.split whole
    obtain ⟨rfl,taken,rest⟩ := rest.head
    have lost := lost_of_collected taken unspared
    have listed := (step_move taken).listed (listed_along first)
    -- Until the call ends, which it must, what was lost stays lost.
    obtain ⟨-,-,frame,p,calling,-⟩ := rest.carries (I := fun world => Listed world ∧ Lost world) ⟨listed,lost⟩ (by
      rintro u member ⟨listed,lost⟩
      obtain ⟨front,back,split⟩ := List.append_of_mem member
      have move := step_move (rest.taken split)
      exact ⟨move.listed listed,move.lost listed lost (nonNull u (by simp [whole,member]))⟩)
    simp [idle] at calling

/-! ### A default profile that is gone -/

/-- A collection during a call may clear what other calls left behind. -/
theorem nonNull_spared : ∃ past world, execute (step "Default") (initial ⟨.empty,["Default"]⟩)
    [.call .getDefault,.next,.next,.next,.next,.next,.next,.release 0,.call (.getProfile "Default"),.next,.next,
      .collect 0,.next,.next,.next,.next] = some (past,world) ∧
    world.mMap "Default" = some 1 ∧ ∀ t ∈ past, NonNull t := by
  obtain ⟨past,world,executed,known,obeys⟩ : ∃ past world, execute (step "Default") (initial ⟨.empty,["Default"]⟩)
      [.call .getDefault,.next,.next,.next,.next,.next,.next,.release 0,.call (.getProfile "Default"),.next,.next,
        .collect 0,.next,.next,.next,.next] = some (past,world) ∧ world.mMap "Default" = some 1 ∧
      Obeys (fun _ world event => Spares world event) past := by
    refine ⟨_,_,rfl,rfl,?_⟩
    simp only [obeys_cons,obeys_nil,Spares,true_and,and_true]
    intro frame calling
    cases calling
    exact id
  exact ⟨past,world,executed,known,(nonNull_iff (run_of_execute executed)).1 obeys⟩

/-- A collection between the statement that makes the reference and the one that reads it. -/
theorem cleared_before_read : ∃ past world, execute (step "Default") (initial ⟨.empty,["Default"]⟩)
    [.call (.getProfile "Default"),.next,.next,.next,.next,.next,.collect 0,.next] = some (past,world) ∧
    ¬ ∀ t ∈ past, NonNull t := by
  refine ⟨_,_,rfl,?_⟩
  intro nonNull
  exact nonNull _ (List.getLast_mem (by simp)) "Default" none rfl (by decide) rfl

/-! ### Runs of the manager -/

def Event.call? : Event → Option Call
  | .call c => some c
  | _ => none

/-- The calls made, and the answers given. -/
def calls (past : Past) : List Call := past.filterMap (·.event.call?)
def answers (past : Past) : List (Except Failure Answer) := past.filterMap (·.reaction.answer)

/-- Where the reference is, it refers to the profile of the name, if to anything. -/
def Owned (world : World) (name : String) (p : Reference) : Prop :=
  ∃ profile, world.references[p]? = some profile ∧ (profile = none ∨ profile = some ⟨name⟩)

def Line.Uses (p : Reference) : Line → Prop
  | .test q => q = some p
  | .put q | .get q => q = p
  | _ => False

/-- The references of the map and of the call in progress are those of their names. -/
structure Named (world : World) : Prop where
  known : ∀ name p, world.mMap name = some p → Owned world name p
  used : ∀ frame p, world.calling = some frame → frame.line.Uses p → Owned world frame.name p

private theorem Owned.clear {name : String} {p : Reference} (owned : Owned world name p) (q : Reference) :
    Owned (world.clear q) name p := by
  obtain ⟨profile,present,whose⟩ := owned
  by_cases same : p = q
  · subst same
    refine ⟨none,?_,.inl rfl⟩
    rw [World.clear_references,List.getElem?_set_self']
    simp [present]
  · exact ⟨profile,by simpa [Ne.symm same] using present,whose⟩

private theorem Owned.create {name : String} {p : Reference} (owned : Owned world name p) (other : String) :
    Owned (world.create other) name p := by
  obtain ⟨profile,present,whose⟩ := owned
  refine ⟨profile,?_,whose⟩
  rw [World.create_references,List.getElem?_append_left (List.getElem?_eq_some_iff.mp present).1]
  exact present

private theorem Owned.same {name : String} {p : Reference} (owned : Owned world name p)
    (same : next.references = world.references) : Owned next name p := by
  rw [Owned,same]
  exact owned

private theorem Owned.referent {name : String} {p : Reference} (owned : Owned world name p)
    (there : world.referent p ≠ none) : world.referent p = some ⟨name⟩ := by
  obtain ⟨profile,present,whose⟩ := owned
  rw [World.referent,present] at there ⊢
  exact whose.resolve_left there

/-- A step that leaves the map and the references alone. -/
private theorem Named.kept (named : Named world) (kept : next.references = world.references ∧ next.mMap = world.mMap)
    (uses : ∀ frame p, next.calling = some frame → frame.line.Uses p → Owned world frame.name p) : Named next := by
  constructor
  · intro name p known
    rw [kept.2] at known
    exact (named.known name p known).same kept.1
  · intro frame p calling reads
    exact (uses frame p calling reads).same kept.1

private theorem Named.goto (named : Named world) {frame : Frame} {line : Line}
    (uses : ∀ p, line.Uses p → Owned world frame.name p) : Named (world.goto frame line) := by
  refine named.kept ⟨rfl,rfl⟩ ?_
  intro frame p calling
  cases calling
  exact uses p

private theorem advance_named {frame : Frame} (named : Named world) (calling : world.calling = some frame)
    (advanced : advance prof_default world frame = some (next,reaction)) : Named next := by
  have gave {result : Option (Reference × Profile)}
      (gave : giveBack prof_default world frame result = some (next,reaction)) : Named next := by
    refine named.kept (giveBack_leaves gave).2.1 ?_
    intro frame p calling
    rw [(giveBack_leaves gave).1] at calling
    cases calling
  obtain ⟨name,line,caller⟩ := frame
  cases line with
  | contains =>
    rcases advance_contains advanced with ⟨-,rfl,rfl⟩ | ⟨-,refused⟩
    · exact named.goto (fun p reads => reads.elim)
    · exact gave refused
  | lookup =>
    cases advanced
    exact named.goto (fun p reads => named.known name p reads)
  | test p =>
    rcases p with _ | p
    · cases advanced
      exact named.goto (fun p reads => reads.elim)
    · cases advanced
      apply named.goto
      intro q reads
      by_cases gone : world.referent p = none
      · rw [if_pos gone] at reads
        exact reads.elim
      · rw [if_neg gone] at reads
        obtain rfl : p = q := reads
        exact named.used _ p calling rfl
  | create =>
    cases advanced
    have created : Named (world.create name) :=
      ⟨fun other p known => (named.known other p known).create name,
        fun frame p calling reads => (named.used frame p calling reads).create name⟩
    apply created.goto
    intro p reads
    obtain rfl : world.references.length = p := reads
    exact ⟨some ⟨name⟩,by simp,.inr rfl⟩
  | put p =>
    cases advanced
    have owned := named.used _ p calling rfl
    have added : Named (world.put name p) := by
      refine ⟨?_,named.used⟩
      intro other q known
      by_cases same : other = name
      · subst same
        obtain rfl : p = q := by simpa using known
        exact owned
      · exact named.known other q (by simpa [same] using known)
    apply added.goto
    intro q reads
    obtain rfl : p = q := reads
    exact owned
  | get p => exact gave advanced

private theorem step_named (taken : step prof_default world event = some (next,reaction)) (named : Named world) :
    Named next := by
  cases event with
  | call c =>
    have first := step_move taken
    rw [step] at taken
    split_ifs at taken
    refine named.kept (enter_entered taken).kept ?_
    intro frame p calling reads
    cases first with
    | started _ _ first =>
      rw [first frame calling] at reads
      exact reads.elim
  | next =>
    obtain ⟨frame,calling,advanced⟩ := Option.bind_eq_some_iff.mp taken
    exact advance_named named calling advanced
  | collect p =>
    rw [step] at taken
    split_ifs at taken
    cases taken
    exact ⟨fun name q known => (named.known name q known).clear p,
      fun frame q calling reads => (named.used frame q calling reads).clear p⟩
  | release p =>
    rw [step] at taken
    split_ifs at taken
    cases taken
    exact named.kept ⟨rfl,rfl⟩ named.used

/-- A call that has been answered, or that is in progress with the rest yet to do. -/
def Continues (prof_default : String) (manager : ProfileManager) (m : Act Answer) (next : World) (reaction : Reaction) :
    Prop :=
  (next.calling = none ∧ ∃ answer, reaction.answer = some answer ∧ ends manager m = some (next.manager,answer)) ∨
  ∃ frame, next.calling = some frame ∧ reaction.answer = none ∧
    ends manager m = ends next.manager (frame.rest prof_default)

private theorem Entered.continues {c : Call} (entered : Entered prof_default world c next reaction)
    (idle : world.calling = none) : Continues prof_default world.manager (c.whole prof_default) next reaction := by
  cases entered with
  | ended ended => exact .inl ⟨idle,_,rfl,ended⟩
  | asked rest => exact .inr ⟨_,rfl,rfl,rest⟩

private theorem giveBack_continues {frame : Frame} {result : Option (Reference × Profile)}
    (found : (Manager.getProfile frame.name).run world.manager = some (.ok (result.map Prod.snd),world.manager,[]))
    (gave : giveBack prof_default world frame result = some (next,reaction)) :
    Continues prof_default world.manager (frame.rest prof_default) next reaction := by
  obtain ⟨name,line,caller⟩ := frame
  refine .inl ⟨(giveBack_leaves gave).1,?_⟩
  cases caller with
  | returns =>
    rcases result with _ | ⟨p,profile⟩
    · cases gave
      exact ⟨_,rfl,by simp [ends,Frame.rest,run_map,found,Except.map]⟩
    · cases gave
      exact ⟨_,rfl,by simp [ends,Frame.rest,run_map,found,Except.map]⟩
  | deletes =>
    rcases result with _ | ⟨p,profile⟩
    · cases gave
      exact ⟨_,rfl,by simp [ends,Frame.rest,run_map,found,Except.map]⟩
    · obtain ⟨ran,executed,same⟩ := Option.map_eq_some_iff.mp gave
      cases same
      exact ⟨_,rfl,by simp [ends,Frame.rest,run_map,found,executed]⟩

/-- A statement that does not end the call leaves the rest of it as it is. -/
private theorem goes_on {frame : Frame} {line : Line} (going : next.calling = some {frame with line := line})
    (kept : next.manager = world.manager) :
    Continues prof_default world.manager (frame.rest prof_default) next .quiet :=
  .inr ⟨_,going,rfl,by rw [kept]; rfl⟩

private theorem advance_continues {frame : Frame} (named : Named world) (listed : Listed world) (kept : ¬ Lost world)
    (calling : world.calling = some frame) (advanced : advance prof_default world frame = some (next,reaction)) :
    Continues prof_default world.manager (frame.rest prof_default) next reaction := by
  obtain ⟨name,line,caller⟩ := frame
  cases line with
  | contains =>
    rcases advance_contains advanced with ⟨-,rfl,rfl⟩ | ⟨member,gave⟩
    · exact goes_on rfl rfl
    · exact giveBack_continues (by simp [Manager.getProfile,member]) gave
  | get p =>
    have member : name ∈ world.manager.mProfiles := (listed _ calling).resolve_left (by simp)
    have there : world.referent p ≠ none := fun gone => kept ⟨_,p,calling,rfl,gone⟩
    have whose := (named.used _ p calling rfl).referent there
    refine giveBack_continues ?_ advanced
    simp [Manager.getProfile,member,whose]
  | test p =>
    rcases p with _ | p
    · cases advanced
      exact goes_on rfl rfl
    · cases advanced
      exact goes_on rfl rfl
  | lookup | create | put =>
    cases advanced
    exact goes_on rfl rfl

/-- A call of the manager as one step. -/
def managerStep (prof_default : String) (manager : ProfileManager) (c : Call) :
    Option (ProfileManager × Except Failure Answer) := ends manager (c.whole prof_default)

/-- The manager has made the calls that have ended, and answered as they did; where a call
    is in progress, the rest of it ends as the whole call would. -/
def Refines (prof_default : String) (manager : ProfileManager) (past : Past) (world : World) : Prop :=
  ∃ ended managed reached, execute (managerStep prof_default) manager ended = some (managed,reached) ∧
    managed.map (·.reaction) = answers past ∧
    (world.calling = none ∧ calls past = ended ∧ reached = world.manager ∨
      ∃ frame c, world.calling = some frame ∧ calls past = ended ++ [c] ∧
        managerStep prof_default reached c = ends world.manager (frame.rest prof_default))

/-- One more step of a call. -/
private theorem Continues.refines {m : Act Answer} {more : Past} {ended : List Call}
    {managed : List (Transition ProfileManager Call (Except Failure Answer))} {reached current : ProfileManager}
    {c : Call}
    (continues : Continues prof_default current m next reaction)
    (executed : execute (managerStep prof_default) manager ended = some (managed,reached))
    (answered : managed.map (·.reaction) = answers past) (whole : managerStep prof_default reached c = ends current m)
    (made : calls more = ended ++ [c]) (given : answers more = answers past ++ reaction.answer.toList) :
    Refines prof_default manager more next := by
  rcases continues with ⟨idle,answer,reacted,finished⟩ | ⟨frame,calling,silent,rest⟩
  · have taken : managerStep prof_default reached c = some (next.manager,answer) := whole.trans finished
    refine ⟨ended ++ [c],_,next.manager,execute_append executed (execute_of_step taken rfl),?_,.inl ⟨idle,made,rfl⟩⟩
    simp [answered,given,reacted]
  · refine ⟨ended,managed,reached,executed,?_,.inr ⟨frame,c,calling,made,whole.trans rest⟩⟩
    simp [answered,given,silent]

private theorem Refines.step (refines : Refines prof_default manager past world) (named : Named world)
    (listed : Listed world) (kept : ¬ Lost world) (taken : step prof_default world event = some (next,reaction)) :
    Refines prof_default manager (past ++ [⟨world,event,reaction,next⟩]) next := by
  have given : answers (past ++ [⟨world,event,reaction,next⟩]) = answers past ++ reaction.answer.toList := by
    cases answered : reaction.answer <;> simp [answers,answered]
  obtain ⟨ended,managed,reached,executed,answered,stands⟩ := refines
  cases event with
  | call c =>
    rw [Factory.step] at taken
    split_ifs at taken with busy
    have idle : world.calling = none := by simpa using busy
    obtain ⟨-,made,rfl⟩ := stands.resolve_right (by simp [idle])
    refine ((enter_entered taken).continues idle).refines executed answered rfl ?_ given
    simp [calls,Event.call?,← made]
  | next =>
    obtain ⟨frame,calling,advanced⟩ := Option.bind_eq_some_iff.mp taken
    obtain ⟨frame',c,calling',made,rest⟩ := stands.resolve_left (by simp [calling])
    obtain rfl := Option.some.inj (calling'.symm.trans calling)
    refine (advance_continues named listed kept calling advanced).refines executed answered rest ?_ given
    simp [calls,Event.call?,← made]
  | collect p =>
    rw [Factory.step] at taken
    split_ifs at taken
    cases taken
    refine ⟨ended,managed,reached,executed,?_,?_⟩
    · simpa [answers,Reaction.quiet] using answered
    · simpa [calls,Event.call?] using stands
  | release p =>
    rw [Factory.step] at taken
    split_ifs at taken
    cases taken
    refine ⟨ended,managed,reached,executed,?_,?_⟩
    · simpa [answers,Reaction.quiet] using answered
    · simpa [calls,Event.call?] using stands

/-- Between two calls of a run whose collections spare what is yet to be read, the manager
    is where its calls, each made in one step, would have left it, and gave their answers. -/
theorem refines (trace : Trace prof_default manager past world)
    (obeys : Obeys (fun _ world event => Spares world event) past) (idle : world.calling = none) :
    ∃ managed, execute (managerStep prof_default) manager (calls past) = some (managed,world.manager) ∧
      managed.map (·.reaction) = answers past := by
  obtain ⟨-,-,-,-,ended,managed,reached,executed,answered,stands⟩ := trace.history
    (I := fun past world => Named world ∧ Listed world ∧ ¬ Lost world ∧ Refines prof_default manager past world)
    (by
      refine ⟨⟨by simp [initial],by simp [initial]⟩,by simp [Listed,initial],by simp [Lost,initial],?_⟩
      exact ⟨[],[],manager,rfl,rfl,.inl ⟨rfl,rfl,rfl⟩⟩)
    (by
      rintro earlier t later whole ⟨named,listed,kept,refines⟩
      have taken := trace.taken whole
      have move := step_move taken
      exact ⟨step_named taken named,move.listed listed,move.kept (obeys earlier t later whole) kept,
        refines.step named listed kept taken⟩)
  obtain ⟨-,rfl,rfl⟩ := stands.resolve_right (by simp [idle])
  exact ⟨managed,executed,answered⟩

end WSocks.Factory
