import WSocks.Vpn
import WSocks.Effects

/-!
# Extracting the assets

The programs that come with the application are copied to its directory once for every
version. A file for which something fails is skipped, and the version is stored all the
same, so that the file is missed until the next version.
-/

namespace WSocks.Assets
open WSocks.Effects WSocks.Effects.Action WSocks.Vpn

def target : String := "/data/data/net.typeblog.socks/files"

structure File where
  content : List UInt8
  executable : Bool
  deriving DecidableEq

/-- The preference `ver`, and the files of the device. -/
structure State where
  ver : Option Int32
  files : String → Option File

/-- How the calls for one file end; a copy that fails has written some bytes. -/
structure Outcomes where
  opens : Except Thrown Unit
  deletes : Except Thrown Bool
  creates : Except Thrown Unit
  copies : Except Nat Unit
  closes : Except Thrown Unit
  chmods : Except Thrown Int32

/-- A launch of the application: the version and the ABI, the names under a path of the
    assets, each with how its calls end, and what the assets hold. A listing that fails is `none`. -/
structure Launch where
  versionCode : Except Thrown Int32
  ABI : String
  list : String → Option (List (String × Outcomes))
  distinct : ∀ source files, list source = some files → (files.map Prod.fst).Nodup
  asset : String → List UInt8

abbrev Act (α : Type) := Action Thrown State Empty α

/-- `pref.getInt("ver", -1)`. -/
def State.stored (state : State) : Int32 := state.ver.getD (-1)

def State.put (state : State) (file : String) (entry : Option File) : State :=
  {state with files := Function.update state.files file entry}

def Launch.ver (launch : Launch) : Int32 :=
  match launch.versionCode with
  | .ok code => code
  | .error _ => 0

/-- Opening a file for writing empties it, and keeps its mode if it is there. -/
def write (file : String) (content : List UInt8) : Act Unit :=
  modify (fun state => state.put file (some ⟨content,(state.files file).any (·.executable)⟩))

/-- The result of a command, -1 if it cannot be run. -/
def exec (outcome : Except Thrown Int32) : Int32 :=
  match outcome with
  | .ok code => code
  | .error _ => -1

/-- `chmod 755`, which ends with 0 when it has set the mode. -/
def chmod (file : String) (outcome : Except Thrown Int32) : Act Int32 := do
  if exec outcome = 0 then
    modify (fun state => state.put file ((state.files file).map ({· with executable := true})))
  pure (exec outcome)

/-- `if (file.exists()) file.delete()`. -/
def deleteFile (file : String) (outcomes : Outcomes) : Act Unit := do
  match (← get).files file with
  | none => pure ()
  | some _ =>
    let deleted ← outcomes.deletes
    modify (fun state => if deleted then state.put file none else state)

/-- `file.withOutputStream { out -> out << input }`. -/
def withOutputStream (content : List UInt8) (file : String) (outcomes : Outcomes) : Act Unit := do
  outcomes.creates
  match outcomes.copies with
  | .ok _ => write file content
  | .error n =>
    write file (content.take n)
    throw .failed

/-- The body of the loop; every exception is caught. -/
def extract (content : List UInt8) (file : String) (outcomes : Outcomes) : Act Unit := suppress do
  outcomes.opens
  deleteFile file outcomes
  withOutputStream content file outcomes
  outcomes.closes
  let _ ← chmod file outcomes.chmods

section
variable (launch : Launch)

def path (f : String) : String := target ++ "/" ++ f

def Launch.content (f : String) : List UInt8 := launch.asset (launch.ABI ++ "/" ++ f)

/-- `files.each`. -/
def extractAll : List (String × Outcomes) → Act Unit
  | [] => pure ()
  | (f,outcomes) :: rest => do
    extract (launch.content f) (path f) outcomes
    extractAll rest

def extractFile : Act Unit := do
  if (← get).stored = launch.ver then pure ()
  else
    match launch.list launch.ABI with
    | none | some [] => pure ()
    | some files =>
      extractAll launch files
      modify (fun state => {state with ver := some launch.ver})

end

/-! ### What extraction is for -/

/-- A file holds all of its asset and can be executed. -/
def Whole (content : List UInt8) (entry : Option File) : Prop := entry = some ⟨content,true⟩

/-- The files that are listed at a launch. -/
def Launch.files (launch : Launch) : List (String × Outcomes) := (launch.list launch.ABI).getD []

/-- Unless the next launch tries again, every listed file is whole. -/
def AllOrRetry (launch : Launch) (state : State) : Prop :=
  state.stored = launch.ver → ∀ f outcomes, (f,outcomes) ∈ launch.files → Whole (launch.content f) (state.files (path f))

/-- Nothing fails for a file. -/
def Outcomes.Succeed (outcomes : Outcomes) (old : Option File) : Prop :=
  outcomes.opens = .ok () ∧ (old.isSome = true → ∃ deleted, outcomes.deletes = .ok deleted) ∧ outcomes.creates = .ok () ∧
    outcomes.copies = .ok () ∧ outcomes.closes = .ok () ∧ outcomes.chmods = .ok 0

/-- The old file is not touched. -/
def Outcomes.Spare (outcomes : Outcomes) : Prop :=
  outcomes.opens ≠ .ok () ∨ (∃ thrown, outcomes.deletes = .error thrown) ∨
    outcomes.deletes = .ok false ∧ outcomes.creates ≠ .ok ()

/-- The old file cannot be deleted, but all bytes are written over it. -/
def Outcomes.Overwrite (outcomes : Outcomes) (content : List UInt8) : Prop :=
  outcomes.opens = .ok () ∧ outcomes.deletes = .ok false ∧ outcomes.creates = .ok () ∧
    (outcomes.copies = .ok () ∨ ∃ n, outcomes.copies = .error n ∧ content.length ≤ n)

/-- The calls for a file succeed, or what fails leaves a file that was whole before as it
    was, or has no effect on a file that was executable before. -/
def Outcomes.Harmless (outcomes : Outcomes) (content : List UInt8) (old : Option File) : Prop :=
  outcomes.Succeed old ∨ (Whole content old ∧ outcomes.Spare) ∨
    (∃ content', old = some ⟨content',true⟩) ∧ outcomes.Overwrite content

/-- What a launch may find: the files of a version that is stored already, or calls that do no harm. -/
def Sound (launch : Launch) (before : State) : Prop :=
  ∀ f outcomes, (f,outcomes) ∈ launch.files →
    if before.stored = launch.ver then Whole (launch.content f) (before.files (path f))
    else outcomes.Harmless (launch.content f) (before.files (path f))

/-! ### One file -/

@[simp] theorem put_ver (state : State) (file : String) (entry : Option File) : (state.put file entry).ver = state.ver := rfl
@[simp] theorem put_same (state : State) (file : String) (entry : Option File) :
    (state.put file entry).files file = entry := Function.update_self ..
@[simp] theorem put_other (state : State) {file other : String} (entry : Option File) (different : other ≠ file) :
    (state.put file entry).files other = state.files other := Function.update_of_ne different ..

private theorem exec_iff (outcome : Except Thrown Int32) : exec outcome = 0 ↔ outcome = .ok 0 := by
  rcases outcome with thrown | code
  · simp [exec]
  · simp [exec]

private theorem chmod_run (file : String) (outcome : Except Thrown Int32) (state : State) :
    (chmod file outcome).run state = some (.ok (exec outcome),
      if exec outcome = 0 then state.put file ((state.files file).map ({· with executable := true})) else state,[]) := by
  unfold chmod
  by_cases done : exec outcome = 0 <;> simp [done,run_map,Except.map]

/-- Only the file is changed. -/
private def Elsewhere (file : String) (state next : State) : Prop :=
  next.ver = state.ver ∧ ∀ other ≠ file, next.files other = state.files other

/-- The rest of the body, after the deletion. -/
private def install (content : List UInt8) (file : String) (outcomes : Outcomes) : Act Unit := do
  withOutputStream content file outcomes
  outcomes.closes
  let _ ← chmod file outcomes.chmods

private theorem install_ensures (content : List UInt8) (file : String) (outcomes : Outcomes) (state : State) :
    (install content file outcomes).Ensures state (fun _ next _ => Elsewhere file state next ∧
      (Whole content (next.files file) ↔
        (outcomes.creates = .ok () ∧ outcomes.copies = .ok () ∧ outcomes.closes = .ok () ∧ outcomes.chmods = .ok 0) ∨
        (Whole content (state.files file) ∧ outcomes.creates ≠ .ok ()) ∨
        ((state.files file).any (·.executable) = true ∧ outcomes.creates = .ok () ∧
          (outcomes.copies = .ok () ∨ ∃ n, outcomes.copies = .error n ∧ content.length ≤ n)))) := by
  have others : ∀ (entry : Option File) (other : String), other ≠ file →
      (state.put file entry).files other = state.files other := fun entry other different => put_other state entry different
  unfold install withOutputStream write
  simp only [ensures_bind]
  rcases outcomes.creates with thrown | _
  · simp [Elsewhere]
  rcases outcomes.copies with n | _
  · simp only [ensures_lift,ensures_bind,ensures_modify,ensures_throw]
    exact ⟨⟨rfl,others _⟩,by simp [Whole,and_comm]⟩
  rcases outcomes.closes with thrown | _
  · simp only [ensures_lift,ensures_modify]
    exact ⟨⟨rfl,others _⟩,by simp [Whole]⟩
  simp only [ensures_lift,ensures_modify,ensures_of_run (chmod_run _ _ _),ensures_pure,← exec_iff]
  by_cases done : exec outcomes.chmods = 0
  · rw [if_pos done]
    refine ⟨⟨rfl,?_⟩,by simp [Whole,done]⟩
    intro other different
    rw [put_other _ _ different,others _ other different]
  · rw [if_neg done]
    exact ⟨⟨rfl,others _⟩,by simp [Whole,done]⟩

/-- A round of the loop changes one file, which is whole afterwards if nothing does it harm. -/
theorem extract_ensures (content : List UInt8) (file : String) (outcomes : Outcomes) (state : State) :
    (extract content file outcomes).Ensures state (fun result next _ => result = .ok () ∧ Elsewhere file state next ∧
      (Whole content (next.files file) ↔ outcomes.Harmless content (state.files file))) := by
  have parts : extract content file outcomes = suppress (liftM outcomes.opens >>= fun _ =>
      deleteFile file outcomes >>= fun _ => install content file outcomes) := rfl
  rw [parts]
  unfold deleteFile
  simp only [ensures_suppress,ensures_bind]
  rcases opened : outcomes.opens with thrown | ⟨⟩
  · simp [Elsewhere,Outcomes.Harmless,Outcomes.Succeed,Outcomes.Spare,Outcomes.Overwrite,opened]
  simp only [ensures_lift,ensures_get]
  rcases old : state.files file with _ | ⟨content',executable⟩
  · simp only [ensures_pure]
    refine (install_ensures content file outcomes state).mono ?_
    rintro _ next _ ⟨elsewhere,whole⟩
    refine ⟨trivial,elsewhere,?_⟩
    rw [whole,old]
    simp [Outcomes.Harmless,Outcomes.Succeed,Whole,opened]
  · simp only [ensures_bind]
    rcases deleted : outcomes.deletes with thrown | _ | _
    · simp [Elsewhere,Outcomes.Harmless,Outcomes.Succeed,Outcomes.Spare,Outcomes.Overwrite,deleted,opened,old]
    · simp only [ensures_lift,ensures_modify,Bool.false_eq_true,if_false]
      refine (install_ensures content file outcomes state).mono ?_
      rintro _ next _ ⟨elsewhere,whole⟩
      refine ⟨trivial,elsewhere,?_⟩
      rw [whole,old]
      simp [Outcomes.Harmless,Outcomes.Succeed,Outcomes.Spare,Outcomes.Overwrite,Whole,opened,deleted]
    · simp only [ensures_lift,ensures_modify,if_true]
      refine (install_ensures content file outcomes _).mono ?_
      rintro _ next _ ⟨⟨kept,others⟩,whole⟩
      refine ⟨trivial,⟨kept,?_⟩,?_⟩
      · intro other different
        rw [others other different,put_other _ _ different]
      · rw [whole,put_same]
        simp [Outcomes.Harmless,Outcomes.Succeed,Outcomes.Spare,Outcomes.Overwrite,Whole,opened,deleted]

private theorem extract_ends (content : List UInt8) (file : String) (outcomes : Outcomes) :
    (extract content file outcomes).Ends := by
  have deletion : (deleteFile file outcomes).Ends := by
    refine ends_get.bind ?_
    intro state
    rcases state.files file with _ | old
    · exact ends_pure _
    · exact (ends_lift _).bind (fun _ => ends_modify _)
  have output : (withOutputStream content file outcomes).Ends := by
    refine (ends_lift _).bind ?_
    intro _
    rcases outcomes.copies with n | _
    · exact (ends_modify _).bind (fun _ => ends_throw _)
    · exact ends_modify _
  have mode : (chmod file outcomes.chmods).Ends := fun state => ⟨_,chmod_run file outcomes.chmods state⟩
  exact ((ends_lift _).bind (fun _ => deletion.bind (fun _ => output.bind (fun _ => (ends_lift _).bind (fun _ =>
    mode.bind (fun _ => ends_pure _)))))).suppress

/-! ### All files -/

private theorem path_inj {f f' : String} (same : path f = path f') : f = f' := by
  have lists := congrArg String.toList same
  rw [path,path,String.toList_append,String.toList_append (s := target ++ "/")] at lists
  exact String.toList_inj.mp (List.append_cancel_left lists)

variable {launch : Launch}

/-- Every listed file is extracted as if it were alone. -/
private theorem extractAll_ensures (files : List (String × Outcomes)) (distinct : (files.map Prod.fst).Nodup)
    (state : State) :
    (extractAll launch files).Ensures state (fun result next _ => result = .ok () ∧ next.ver = state.ver ∧
      (∀ f, f ∉ files.map Prod.fst → next.files (path f) = state.files (path f)) ∧
      ∀ f outcomes, (f,outcomes) ∈ files →
        (Whole (launch.content f) (next.files (path f)) ↔ outcomes.Harmless (launch.content f) (state.files (path f)))) := by
  induction files generalizing state with
  | nil => simp [extractAll]
  | cons entry rest ih =>
    obtain ⟨f,outcomes⟩ := entry
    obtain ⟨fresh,distinct⟩ := List.nodup_cons.mp distinct
    rw [extractAll,ensures_bind]
    refine (extract_ensures (launch.content f) (path f) outcomes state).mono ?_
    rintro _ middle _ ⟨rfl,⟨kept,others⟩,whole⟩
    refine (ih distinct middle).mono ?_
    rintro _ next _ ⟨rfl,kept',others',all⟩
    have apart : ∀ f' ∈ rest.map Prod.fst, path f' ≠ path f := by
      intro f' member same
      exact fresh (path_inj same ▸ member)
    refine ⟨rfl,kept'.trans kept,?_,?_⟩
    · intro f' absent
      rw [List.map_cons,List.mem_cons,not_or] at absent
      rw [others' f' absent.2,others _ (fun same => absent.1 (path_inj same))]
    · intro f' outcomes' member
      rcases List.mem_cons.mp member with same | behind
      · cases same
        rw [others' f fresh,whole]
      · rw [all f' outcomes' behind,others _ (apart f' (List.mem_map_of_mem behind))]

private theorem extractAll_ends (files : List (String × Outcomes)) : (extractAll launch files).Ends := by
  induction files with
  | nil => exact ends_pure _
  | cons entry rest ih => exact (extract_ends _ _ _).bind (fun _ => ih)

/-- A launch leaves every listed file whole or is repeated exactly when it finds the files
    of a version that is stored, or nothing harmful happens to any listed file. -/
theorem allOrRetry_iff (launch : Launch) (before : State) : ∃ after,
    (extractFile launch).run before = some (.ok (),after,[]) ∧ (AllOrRetry launch after ↔ Sound launch before) := by
  by_cases same : before.stored = launch.ver
  · refine ⟨before,by simp [extractFile,same],?_⟩
    simp [AllOrRetry,Sound,same]
  rcases listed : launch.list launch.ABI with _ | _ | ⟨entry,rest⟩
  · refine ⟨before,by simp [extractFile,listed,run_map,Except.map],?_⟩
    simp [AllOrRetry,Sound,Launch.files,listed]
  · refine ⟨before,by simp [extractFile,listed,run_map,Except.map],?_⟩
    simp [AllOrRetry,Sound,Launch.files,listed]
  · have distinct := launch.distinct _ _ listed
    have ends : (extractAll launch (entry :: rest)).Ends := extractAll_ends (entry :: rest)
    obtain ⟨result,next,outputs,ran,rfl,-,-,all⟩ := ends.exists (extractAll_ensures (entry :: rest) distinct before)
    obtain rfl : outputs = [] := by
      rcases outputs with _ | ⟨output,-⟩
      · rfl
      · exact output.elim
    refine ⟨{next with ver := some launch.ver},by simp [extractFile,same,listed,ran],?_⟩
    have stored : ({next with ver := some launch.ver} : State).stored = launch.ver := rfl
    unfold AllOrRetry Sound Launch.files
    rw [listed,Option.getD_some]
    constructor
    · intro whole f outcomes member
      rw [if_neg same,← all f outcomes member]
      exact whole stored f outcomes member
    · intro sound _ f outcomes member
      have harmless := sound f outcomes member
      rw [if_neg same] at harmless
      exact (all f outcomes member).mpr harmless

/-! ### A file that is missed -/

/-- Version 7 with two programs; opening the first ends as given. -/
def example7 (opens : Except Thrown Unit) : Launch where
  versionCode := .ok 7
  ABI := "arm64-v8a"
  list _ := some [("tun2socks",⟨opens,.ok true,.ok (),.ok (),.ok (),.ok 0⟩),("pdnsd",⟨.ok (),.ok true,.ok (),.ok (),.ok (),.ok 0⟩)]
  distinct := by
    intro source files listed
    cases listed
    simp
  asset _ := [127,69,76,70]

/-- One program cannot be opened: it is missing, and the next launch does not look for it. -/
theorem missed : ∃ after, (extractFile (example7 (.error .failed))).run ⟨none,fun _ => none⟩ = some (.ok (),after,[]) ∧
    after.files (path "tun2socks") = none ∧ after.files (path "pdnsd") = some ⟨[127,69,76,70],true⟩ ∧
    (extractFile (example7 (.ok ()))).run after = some (.ok (),after,[]) ∧
    ¬ AllOrRetry (example7 (.error .failed)) after := by
  refine ⟨_,rfl,rfl,rfl,rfl,?_⟩
  intro whole
  have missing := whole rfl "tun2socks" _ List.mem_cons_self
  cases missing

end WSocks.Assets
