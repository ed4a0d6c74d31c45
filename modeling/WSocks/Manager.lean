import WSocks.ProfileKeys
import WSocks.Effects
import WSocks.Runs

/-!
# The profile manager

The names of the profiles stand in a list in memory, behind the name of the default
profile, and joined in the preferences. The two representations say the same after
every operation, whatever the order of operations.
-/

namespace WSocks.Manager
open WSocks.Runs WSocks.Effects WSocks.Effects.Action WSocks.Strings WSocks.Buffers WSocks.Profiles WSocks.ProfileKeys

structure ProfileManager where
  mPref : SharedPreferences
  mProfiles : List String

/-- What the manager does, on its own state. -/
abbrev Act (α : Type) := Action Failure ProfileManager Empty α

/-- The names that the preferences hold. -/
def stored (pref : SharedPreferences) : Except Failure (List String) :=
  (pref.getString PREF_PROFILE "").map (fun text => (split '\n' text).filter (· ≠ ""))

/-- `mPref.getString(PREF_LAST_PROFILE, mProfiles[0])`: past the end of a list Groovy reads null. -/
def lastProfile (manager : ProfileManager) : Except Failure (Option String) :=
  match manager.mProfiles with
  | first :: _ => (manager.mPref.getString PREF_LAST_PROFILE first).map some
  | [] =>
    if manager.mPref PREF_LAST_PROFILE = none then .ok none
    else (manager.mPref.getString PREF_LAST_PROFILE "").map some

/-- `mPref.edit()` with the given changes and `commit()`. -/
def edit (change : SharedPreferences → SharedPreferences) : Act Unit :=
  modify (fun manager => {manager with mPref := change manager.mPref})

/-- `mProfiles.remove(0)`. -/
def removeFirst : Act Unit := do
  match (← get).mProfiles with
  | [] => throw .indexOutOfBounds
  | _ :: rest => modify (fun manager => {manager with mProfiles := rest})

/-- The factory makes a profile for every name; the list says which names have one. -/
def getProfile (name : String) : Act (Option Profile) := do
  if name ∉ (← get).mProfiles then pure none else pure (some ⟨name⟩)

def getDefault : Act (Option Profile) := do
  match ← lastProfile (← get) with
  | none => pure none
  | some name => getProfile name

def switchDefault (name : String) : Act Unit := do
  if name ∈ (← get).mProfiles then edit (·.put PREF_LAST_PROFILE (.string name))

section
variable (prof_default : String)

def reload : Act Unit := do
  modify (fun manager => {manager with mProfiles := [prof_default]})
  let names ← stored (← get).mPref
  modify (fun manager => {manager with mProfiles := manager.mProfiles ++ names})

/-- `new ProfileManager(context)`: only the preferences remain. -/
def create : Act Unit := do
  modify (fun manager => {manager with mProfiles := []})
  reload prof_default

def addProfile (name : String) : Act (Option Profile) := do
  if name ∈ (← get).mProfiles then pure none
  else
    modify (fun manager => {manager with mProfiles := manager.mProfiles ++ [name]})
    removeFirst
    let names := (← get).mProfiles
    edit (fun pref => (pref.put PREF_PROFILE (.string (join '\n' names))).put PREF_LAST_PROFILE (.string name))
    reload prof_default
    getDefault

def removeProfile (name : String) : Act Bool := do
  let names := (← get).mProfiles
  if names.head? = some name ∨ name ∉ names then pure false
  else
    match ← getProfile name with
    | none => throw .nullPointer
    | some profile =>
      edit profile.delete
      removeFirst
      modify (fun manager => {manager with mProfiles := manager.mProfiles.erase name})
      let rest := (← get).mProfiles
      edit (fun pref => (pref.put PREF_PROFILE (.string (join '\n' rest))).remove PREF_LAST_PROFILE)
      reload prof_default
      pure true

end

/-! ### Sequences of operations -/

/-- A call of the manager; only names from the dialog are added. -/
inductive Operation
  | create
  | reload
  | addProfile (name : ProfileName)
  | removeProfile (name : String)
  | switchDefault (name : String)

/-- What a call returns. -/
inductive Answer
  | nothing
  | profile (p : Option Profile)
  | removed (done : Bool)
  deriving DecidableEq

def Operation.call (prof_default : String) : Operation → Act Answer
  | .create => do
    Manager.create prof_default
    pure .nothing
  | .reload => do
    Manager.reload prof_default
    pure .nothing
  | .addProfile name => .profile <$> Manager.addProfile prof_default name.text
  | .removeProfile name => .removed <$> Manager.removeProfile prof_default name
  | .switchDefault name => do
    Manager.switchDefault name
    pure .nothing

/-- A call as a step of the manager. -/
def step (prof_default : String) (manager : ProfileManager) (operation : Operation) :
    Option (ProfileManager × Except Failure Answer) :=
  ((operation.call prof_default).run manager).map (fun ran => (ran.2.1,ran.1))

/-! ### What holds of the manager -/

/-- The list in memory and the preferences say the same. -/
structure Consistent (prof_default : String) (manager : ProfileManager) : Prop where
  profiles : ∃ names, stored manager.mPref = .ok names ∧ manager.mProfiles = prof_default :: names
  distinct : manager.mProfiles.Nodup
  reread : (reload prof_default).run manager = some (.ok (),manager,[])
  last : manager.mPref PREF_LAST_PROFILE = none ∨
    ∃ name ∈ manager.mProfiles, manager.mPref PREF_LAST_PROFILE = some (.string name)
  default : ∃ profile, getDefault.run manager = some (.ok (some profile),manager,[]) ∧ profile.name ∈ manager.mProfiles

/-- What an operation does to the list, and what it answers. -/
def Does (prof_default : String) (before : ProfileManager) (answer : Except Failure Answer) (after : ProfileManager) :
    Operation → Prop
  | .create | .reload => answer = .ok .nothing ∧ after = before
  | .addProfile name =>
    if name.text ∈ before.mProfiles then answer = .ok (.profile none) ∧ after = before
    else answer = .ok (.profile (some ⟨name.text⟩)) ∧ after.mProfiles = before.mProfiles ++ [name.text]
  | .removeProfile name =>
    if name = prof_default ∨ name ∉ before.mProfiles then answer = .ok (.removed false) ∧ after = before
    else answer = .ok (.removed true) ∧ after.mProfiles = before.mProfiles.filter (· ≠ name)
  | .switchDefault name => answer = .ok .nothing ∧ after.mProfiles = before.mProfiles ∧
    after.mPref PREF_LAST_PROFILE =
      if name ∈ before.mProfiles then some (.string name) else before.mPref PREF_LAST_PROFILE

variable {prof_default : String} {manager : ProfileManager} {names : List String}

/-- What every operation keeps: the preferences hold the names behind the default. -/
structure Holds (prof_default : String) (manager : ProfileManager) (names : List String) : Prop where
  each : ∀ name ∈ names, name ≠ "" ∧ '\n' ∉ name.toList
  text : manager.mPref.getString PREF_PROFILE "" = .ok (join '\n' names)
  profiles : manager.mProfiles = prof_default :: names
  distinct : (prof_default :: names).Nodup
  last : manager.mPref PREF_LAST_PROFILE = none ∨
    ∃ name ∈ prof_default :: names, manager.mPref PREF_LAST_PROFILE = some (.string name)

/-! ### Reading the preferences -/

private theorem stored_eq {pref : SharedPreferences} (each : ∀ name ∈ names, name ≠ "" ∧ '\n' ∉ name.toList)
    (text : pref.getString PREF_PROFILE "" = .ok (join '\n' names)) : stored pref = .ok names := by
  rw [stored,text]
  exact congrArg Except.ok (filter_split_join each)

private theorem reload_run (prof_default : String) (manager : ProfileManager)
    (each : ∀ name ∈ names, name ≠ "" ∧ '\n' ∉ name.toList)
    (text : manager.mPref.getString PREF_PROFILE "" = .ok (join '\n' names)) :
    (reload prof_default).run manager = some (.ok (),⟨manager.mPref,prof_default :: names⟩,[]) := by
  simp [reload,stored_eq each text]

private theorem Holds.eq (holds : Holds prof_default manager names) : manager = ⟨manager.mPref,prof_default :: names⟩ := by
  cases manager
  exact congrArg _ holds.profiles

private theorem Holds.reload (holds : Holds prof_default manager names) :
    (reload prof_default).run manager = some (.ok (),manager,[]) := by
  rw [reload_run _ _ holds.each holds.text,← holds.eq]

private theorem getDefault_run {first name : String} (profiles : manager.mProfiles = first :: names)
    (last : manager.mPref PREF_LAST_PROFILE = none ∧ name = first ∨
      name ∈ first :: names ∧ manager.mPref PREF_LAST_PROFILE = some (.string name)) :
    getDefault.run manager = some (.ok (some ⟨name⟩),manager,[]) := by
  have reads : lastProfile manager = .ok (some name) := by
    unfold lastProfile
    rw [profiles]
    rcases last with ⟨absent,rfl⟩ | ⟨-,present⟩
    · simp [SharedPreferences.getString,absent,Except.map]
    · simp [SharedPreferences.getString,present,Except.map]
  have member : name ∈ manager.mProfiles := by
    rw [profiles]
    rcases last with ⟨-,rfl⟩ | ⟨member,-⟩
    · exact List.mem_cons_self
    · exact member
  simp [getDefault,reads,getProfile,member]

private theorem Holds.consistent (holds : Holds prof_default manager names) : Consistent prof_default manager := by
  constructor
  · exact ⟨names,stored_eq holds.each holds.text,holds.profiles⟩
  · rw [holds.profiles]
    exact holds.distinct
  · exact holds.reload
  · rw [holds.profiles]
    exact holds.last
  · rcases holds.last with absent | ⟨name,member,present⟩
    · refine ⟨⟨prof_default⟩,getDefault_run holds.profiles (.inl ⟨absent,rfl⟩),?_⟩
      simp [holds.profiles]
    · refine ⟨⟨name⟩,getDefault_run holds.profiles (.inr ⟨member,present⟩),?_⟩
      rw [holds.profiles]
      exact member

/-! ### What each operation does -/

private theorem Holds.create (holds : Holds prof_default manager names) :
    (create prof_default).run manager = some (.ok (),manager,[]) := by
  have again : (Manager.reload prof_default).run ⟨manager.mPref,[]⟩ = some (.ok (),manager,[]) := by
    rw [reload_run _ ⟨manager.mPref,[]⟩ holds.each holds.text,← holds.eq]
  simp [Manager.create,again]

private theorem Holds.switchDefault (holds : Holds prof_default manager names) (name : String) :
    ∃ after, (switchDefault name).run manager = some (.ok (),after,[]) ∧ Holds prof_default after names ∧
      after.mPref PREF_LAST_PROFILE =
        if name ∈ manager.mProfiles then some (.string name) else manager.mPref PREF_LAST_PROFILE := by
  by_cases member : name ∈ manager.mProfiles
  · have last : (manager.mPref.put PREF_LAST_PROFILE (.string name)) PREF_LAST_PROFILE = some (.string name) :=
      SharedPreferences.put_same
    refine ⟨⟨manager.mPref.put PREF_LAST_PROFILE (.string name),manager.mProfiles⟩,?_,?_,?_⟩
    · simp [Manager.switchDefault,edit,member]
    · have other : PREF_PROFILE ≠ PREF_LAST_PROFILE := by decide
      refine ⟨holds.each,?_,holds.profiles,holds.distinct,.inr ⟨name,?_,last⟩⟩
      · simpa [SharedPreferences.getString,other] using holds.text
      · rw [← holds.profiles]
        exact member
    · rw [if_pos member]
      exact last
  · refine ⟨manager,?_,holds,?_⟩
    · simp [Manager.switchDefault,member]
    · rw [if_neg member]

private theorem addProfile_present {name : String} (member : name ∈ manager.mProfiles) :
    (addProfile prof_default name).run manager = some (.ok none,manager,[]) := by
  simp [addProfile,member]

theorem Holds.addProfile (holds : Holds prof_default manager names) {name : ProfileName}
    (absent : name.text ∉ manager.mProfiles) :
    ∃ after, (addProfile prof_default name.text).run manager = some (.ok (some ⟨name.text⟩),after,[]) ∧
      Holds prof_default after (names ++ [name.text]) ∧
      ∀ key, PREF_PROFILE ≠ key → PREF_LAST_PROFILE ≠ key → after.mPref key = manager.mPref key := by
  set pref := (manager.mPref.put PREF_PROFILE (.string (join '\n' (names ++ [name.text])))).put PREF_LAST_PROFILE
    (.string name.text) with changed
  have other : PREF_PROFILE ≠ PREF_LAST_PROFILE := by decide
  have text : pref.getString PREF_PROFILE "" = .ok (join '\n' (names ++ [name.text])) := by
    simp [SharedPreferences.getString,changed,other]
  have last : pref PREF_LAST_PROFILE = some (.string name.text) := by simp [changed]
  have each : ∀ text ∈ names ++ [name.text], text ≠ "" ∧ '\n' ∉ text.toList := by
    intro text member
    rcases List.mem_append.mp member with old | new
    · exact holds.each text old
    · rw [List.mem_singleton.mp new]
      exact ⟨name.nonempty,name.line⟩
  have fresh : name.text ∉ prof_default :: names := by rwa [← holds.profiles]
  refine ⟨⟨pref,prof_default :: (names ++ [name.text])⟩,?_,⟨each,text,rfl,?_,.inr ⟨name.text,by simp,last⟩⟩,?_⟩
  · have again := reload_run prof_default ⟨pref,names ++ [name.text]⟩ each text
    have found : getDefault.run ⟨pref,prof_default :: (names ++ [name.text])⟩ =
        some (.ok (some ⟨name.text⟩),⟨pref,prof_default :: (names ++ [name.text])⟩,[]) :=
      getDefault_run rfl (.inr ⟨List.mem_cons_of_mem _ (by simp),last⟩)
    simp [Manager.addProfile,removeFirst,edit,fresh,holds.profiles,← changed,again,found]
  · rw [← List.cons_append,List.nodup_append]
    refine ⟨holds.distinct,List.nodup_singleton _,?_⟩
    rintro text old _ new rfl
    rw [List.mem_singleton.mp new] at old
    exact fresh old
  · intro key profile last
    show pref key = manager.mPref key
    rw [changed,SharedPreferences.put_other last.symm,SharedPreferences.put_other profile.symm]

private theorem removeProfile_kept {name : String} (holds : Holds prof_default manager names)
    (kept : name = prof_default ∨ name ∉ manager.mProfiles) :
    (removeProfile prof_default name).run manager = some (.ok false,manager,[]) := by
  have refused : manager.mProfiles.head? = some name ∨ name ∉ manager.mProfiles := by
    rcases kept with rfl | absent
    · exact .inl (by rw [holds.profiles]; rfl)
    · exact .inr absent
  simp only [removeProfile,run_bind,run_get,sequel_ok,if_pos refused]
  rfl

theorem Holds.removeProfile (holds : Holds prof_default manager names) {name : String}
    (other : name ≠ prof_default) (member : name ∈ manager.mProfiles) :
    ∃ after, (removeProfile prof_default name).run manager = some (.ok true,after,[]) ∧
      Holds prof_default after (names.erase name) ∧
      ∀ key, PREF_PROFILE ≠ key → PREF_LAST_PROFILE ≠ key →
        after.mPref key = (⟨name⟩ : Profile).delete manager.mPref key := by
  set pref := (((⟨name⟩ : Profile).delete manager.mPref).put PREF_PROFILE (.string (join '\n' (names.erase name)))).remove
    PREF_LAST_PROFILE with changed
  have keys : PREF_PROFILE ≠ PREF_LAST_PROFILE := by decide
  have text : pref.getString PREF_PROFILE "" = .ok (join '\n' (names.erase name)) := by
    simp [SharedPreferences.getString,changed,keys]
  have each : ∀ text ∈ names.erase name, text ≠ "" ∧ '\n' ∉ text.toList := by
    intro text inside
    exact holds.each text (List.mem_of_mem_erase inside)
  have inside : name ∈ prof_default :: names := by rwa [← holds.profiles]
  refine ⟨⟨pref,prof_default :: names.erase name⟩,?_,⟨each,text,rfl,?_,.inl (by simp [changed])⟩,?_⟩
  · have again := reload_run prof_default ⟨pref,names.erase name⟩ each text
    simp [Manager.removeProfile,getProfile,removeFirst,edit,holds.profiles,inside,other.symm,← changed,run_map,again,Except.map]
  · obtain ⟨fresh,distinct⟩ := List.nodup_cons.mp holds.distinct
    rw [List.nodup_cons]
    exact ⟨fun inside => fresh (List.mem_of_mem_erase inside),distinct.erase name⟩
  · intro key profile last
    show pref key = (⟨name⟩ : Profile).delete manager.mPref key
    rw [changed,SharedPreferences.remove_other last.symm,SharedPreferences.put_other profile.symm]

theorem step_of_run {operation : Operation} {answer : Except Failure Answer} {after : ProfileManager}
    (ran : (operation.call prof_default).run manager = some (answer,after,[])) :
    step prof_default manager operation = some (after,answer) := by
  simp [step,ran]

theorem Holds.step (holds : Holds prof_default manager names) (operation : Operation) :
    ∃ after answer, step prof_default manager operation = some (after,answer) ∧
      (∃ names', Holds prof_default after names') ∧ Does prof_default manager answer after operation := by
  cases operation with
  | create =>
    refine ⟨manager,.ok .nothing,step_of_run ?_,⟨names,holds⟩,rfl,rfl⟩
    simp [Operation.call,holds.create,run_map,Except.map]
  | reload =>
    refine ⟨manager,.ok .nothing,step_of_run ?_,⟨names,holds⟩,rfl,rfl⟩
    simp [Operation.call,holds.reload,run_map,Except.map]
  | switchDefault name =>
    obtain ⟨after,ran,kept,last⟩ := holds.switchDefault name
    refine ⟨after,.ok .nothing,step_of_run ?_,⟨names,kept⟩,rfl,?_,last⟩
    · simp [Operation.call,ran,run_map,Except.map]
    · rw [kept.profiles,holds.profiles]
  | addProfile name =>
    by_cases member : name.text ∈ manager.mProfiles
    · refine ⟨manager,.ok (.profile none),step_of_run ?_,⟨names,holds⟩,?_⟩
      · simp [Operation.call,addProfile_present member,run_map,Except.map]
      · show if name.text ∈ manager.mProfiles then _ else _
        rw [if_pos member]
        exact ⟨rfl,rfl⟩
    · obtain ⟨after,ran,kept,-⟩ := holds.addProfile member
      refine ⟨after,.ok (.profile (some ⟨name.text⟩)),step_of_run ?_,⟨_,kept⟩,?_⟩
      · simp [Operation.call,ran,run_map,Except.map]
      · show if name.text ∈ manager.mProfiles then _ else _
        rw [if_neg member,kept.profiles,holds.profiles]
        exact ⟨rfl,rfl⟩
  | removeProfile name =>
    by_cases refused : name = prof_default ∨ name ∉ manager.mProfiles
    · refine ⟨manager,.ok (.removed false),step_of_run ?_,⟨names,holds⟩,?_⟩
      · simp [Operation.call,removeProfile_kept holds refused,run_map,Except.map]
      · show if name = prof_default ∨ name ∉ manager.mProfiles then _ else _
        rw [if_pos refused]
        exact ⟨rfl,rfl⟩
    · obtain ⟨other,member⟩ : name ≠ prof_default ∧ name ∈ manager.mProfiles := by
        push Not at refused
        exact refused
      obtain ⟨after,ran,kept,-⟩ := holds.removeProfile other member
      refine ⟨after,.ok (.removed true),step_of_run ?_,⟨_,kept⟩,?_⟩
      · simp [Operation.call,ran,run_map,Except.map]
      · have erased : prof_default :: names.erase name = (prof_default :: names).filter (· ≠ name) := by
          rw [List.filter_cons_of_pos (by simpa using other.symm),(List.nodup_cons.mp holds.distinct).2.erase_eq_filter]
          refine congrArg (prof_default :: ·) (List.filter_congr ?_)
          intro text _
          by_cases same : text = name <;> simp [same]
        show if name = prof_default ∨ name ∉ manager.mProfiles then _ else _
        rw [if_neg refused,kept.profiles,holds.profiles]
        exact ⟨rfl,erased⟩

/-- The first manager, over empty preferences. -/
theorem created (prof_default : String) :
    step prof_default ⟨.empty,[]⟩ .create = some (⟨.empty,[prof_default]⟩,.ok .nothing) ∧
      Holds prof_default ⟨.empty,[prof_default]⟩ [] := by
  have holds : Holds prof_default ⟨.empty,[prof_default]⟩ [] :=
    ⟨by simp,rfl,rfl,List.nodup_singleton _,.inl rfl⟩
  have text : (ProfileManager.mk .empty []).mPref.getString PREF_PROFILE "" = .ok (join '\n' []) := rfl
  have opened := reload_run prof_default _ holds.each text
  refine ⟨step_of_run ?_,holds⟩
  simp [Operation.call,create,opened,run_map,Except.map]

/-- A manager over empty preferences, and every manager that any operations make of it,
    keeps the list and the preferences consistent, and each operation does what it should. -/
theorem always_consistent (prof_default : String) (operations : List Operation) :
    ∃ first, step prof_default ⟨.empty,[]⟩ .create = some (first,.ok .nothing) ∧ Consistent prof_default first ∧
      ∃ past last, execute (step prof_default) first operations = some (past,last) ∧
        ∀ t ∈ past, Does prof_default t.before t.reaction t.after t.event ∧ Consistent prof_default t.after := by
  obtain ⟨opened,holds⟩ := created prof_default
  refine ⟨⟨.empty,[prof_default]⟩,opened,holds.consistent,?_⟩
  have taken : ∀ manager operation, (∃ names, Holds prof_default manager names) →
      ∃ after answer, step prof_default manager operation = some (after,answer) ∧
        (∃ names, Holds prof_default after names) ∧ Does prof_default manager answer after operation := by
    rintro manager operation ⟨names,kept⟩
    exact kept.step operation
  obtain ⟨past,last,ran,all⟩ := execute_total
    (P := fun t => Does prof_default t.before t.reaction t.after t.event) taken ⟨[],holds⟩ operations
  refine ⟨past,last,ran,?_⟩
  intro t member
  obtain ⟨does,_,kept⟩ := all t member
  exact ⟨does,kept.consistent⟩

end WSocks.Manager
