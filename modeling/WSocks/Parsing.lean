import WSocks.Socks

/-!
# What any buffer is taken for

The parser of the front end by bytes, for buffers that need not be SOCKS messages. The
second byte is the number of methods or the command, whichever the length suggests.
-/

namespace WSocks.Parsing
open WSocks.Effects WSocks.Text WSocks.Buffers WSocks.Client WSocks.Handlers

/-- A byte is known by its signed value. -/
theorem byte_eq_iff {b c : UInt8} : Int8.ofNat b.toNat = Int8.ofNat c.toNat ↔ b = c := by
  constructor
  · intro same
    have values := congrArg Int8.toInt same
    rw [toInt_byte,toInt_byte] at values
    have small := b.toNat_lt
    have small' := c.toNat_lt
    rw [← UInt8.toNat_inj]
    split_ifs at values <;> omega
  · rintro rfl
    rfl

/-- The buffer is as long as its second byte says that a greeting is. -/
def Greets : Buffer → Prop
  | _ :: m :: rest => m < 128 ∧ m.toNat = rest.length
  | _ => False

@[simp] theorem greets_cons {v m : UInt8} {rest : Buffer} :
    Greets (v :: m :: rest) ↔ m < 128 ∧ m.toNat = rest.length := Iff.rfl

/-- An address of a known type and a port are there to be read: from the type on. -/
def Addressed : Buffer → Prop
  | [] => False
  | a :: rest =>
    if a = 0x01 then 6 ≤ rest.length
    else if a = 0x03 then
      match rest with
      | [] => False
      | n :: rest => n < 128 ∧ n.toNat + 2 ≤ rest.length
    else False

theorem Addressed.known {a : UInt8} {rest : Buffer} (addressed : Addressed (a :: rest)) : a = 0x01 ∨ a = 0x03 := by
  by_contra other
  push Not at other
  simp [Addressed,other.1,other.2] at addressed

theorem Addressed.length {a : UInt8} {rest : Buffer} (addressed : Addressed (a :: rest)) : 3 ≤ rest.length := by
  simp only [Addressed] at addressed
  split_ifs at addressed
  · omega
  · rcases rest with _ | ⟨n,rest⟩
    · exact addressed.elim
    · obtain ⟨-,long⟩ := addressed
      simp only [List.length_cons]
      omega

theorem count_iff (v m : UInt8) (rest : Buffer) :
    (Int8.ofNat m.toNat).toInt + 2 = ((v :: m :: rest).length : Nat) ↔ Greets (v :: m :: rest) := by
  have small := m.toNat_lt
  simp only [Greets,toInt_byte,List.length_cons,UInt8.lt_iff_toNat_lt]
  split_ifs with positive
  · constructor
    · intro same
      exact ⟨positive,by omega⟩
    · rintro ⟨-,same⟩
      omega
  · constructor
    · intro same
      omega
    · rintro ⟨below,-⟩
      exact absurd below positive

/-- An address of type 1 is read with its port if both are there. -/
private theorem destination_address (v m r : UInt8) (rest : Buffer) :
    (6 ≤ rest.length ∧ ∃ target, requestDestination (v :: m :: r :: 0x01 :: rest) 0x01 = .ok (some target)) ∨
    (rest.length < 6 ∧ ∃ failure, requestDestination (v :: m :: r :: 0x01 :: rest) 0x01 = .error failure) := by
  unfold requestDestination
  rw [if_pos rfl]
  by_cases long : 6 ≤ rest.length
  · obtain ⟨a,b,c,d,e,f,back,rfl⟩ : ∃ a b c d e f back, rest = a :: b :: c :: d :: e :: f :: back := by
      match rest,long with
      | a :: b :: c :: d :: e :: f :: back,_ => exact ⟨a,b,c,d,e,f,back,rfl⟩
    have host := getBytes_between [v,m,r,0x01] [a,b,c,d] (e :: f :: back) (i := 4) (j := 8) rfl rfl
    have port := getShort_at [v,m,r,0x01,a,b,c,d] back e f (i := 8) rfl
    simp only [List.cons_append,List.nil_append] at host port
    refine .inl ⟨long,?_⟩
    simp only [host,port,bind,Except.bind]
    exact ⟨_,rfl⟩
  · refine .inr ⟨by omega,?_⟩
    rcases read : getBytes (v :: m :: r :: 0x01 :: rest) 4 8 with failure | bytes
    · exact ⟨failure,rfl⟩
    · have missing : getShort (v :: m :: r :: 0x01 :: rest) 8 = .error .indexOutOfBounds :=
        getShort_beyond (by simp only [List.length_cons]; omega)
      simp only [missing,bind,Except.bind]
      exact ⟨_,rfl⟩

/-- A buffer with enough bytes begins with a name and a port. -/
private theorem exists_name_port {n : Nat} {rest : Buffer} (long : n + 2 ≤ rest.length) :
    ∃ name e f back, rest = name ++ e :: f :: back ∧ name.length = n := by
  have total : (rest.drop n).length = rest.length - n := List.length_drop
  rcases cut : rest.drop n with _ | ⟨e,_ | ⟨f,back⟩⟩
  · simp only [cut,List.length_nil] at total
    omega
  · simp only [cut,List.length_cons,List.length_nil] at total
    omega
  · refine ⟨rest.take n,e,f,back,?_,?_⟩
    · rw [← cut,List.take_append_drop]
    · rw [List.length_take]
      omega

/-- The same for a name of type 3, whose length is a signed byte. -/
private theorem destination_name (v m r : UInt8) (rest : Buffer) :
    (Addressed (0x03 :: rest) ∧ ∃ target, requestDestination (v :: m :: r :: 0x03 :: rest) 0x03 = .ok (some target)) ∨
    (¬ Addressed (0x03 :: rest) ∧ ∃ failure, requestDestination (v :: m :: r :: 0x03 :: rest) 0x03 = .error failure) := by
  unfold requestDestination
  rw [if_neg (by decide),if_pos rfl]
  rcases rest with _ | ⟨n,rest⟩
  · refine .inr ⟨id,.indexOutOfBounds,?_⟩
    rw [getByte_beyond (by simp)]
    rfl
  have lengthRead : getByte (v :: m :: r :: 0x03 :: n :: rest) 4 = .ok (Int8.ofNat n.toNat) := getByte_index (k := 4) rfl
  have signed := toInt_byte n
  have small := n.toNat_lt
  simp only [lengthRead,bind,Except.bind,signed]
  by_cases short : n.toNat < 128
  · have below : n < 128 := UInt8.lt_iff_toNat_lt.mpr short
    simp only [if_pos short]
    by_cases long : n.toNat + 2 ≤ rest.length
    · obtain ⟨name,e,f,back,rfl,size⟩ := exists_name_port long
      have host := getBytes_between [v,m,r,0x03,n] name (e :: f :: back) (i := 5) (j := 5 + n.toNat) rfl
        (by rw [size]; rfl)
      have port := getShort_at ([v,m,r,0x03,n] ++ name) back e f (i := 5 + n.toNat)
        (by rw [List.length_append,size]; push_cast; rfl)
      simp only [List.cons_append,List.nil_append] at host port
      refine .inl ⟨⟨below,long⟩,?_⟩
      simp only [getString,host,port,Except.map]
      exact ⟨_,rfl⟩
    · refine .inr ⟨fun addressed => long addressed.2,?_⟩
      rcases read : getString (v :: m :: r :: 0x03 :: n :: rest) 5 (5 + n.toNat) with failure | host
      · exact ⟨failure,rfl⟩
      · have missing : getShort (v :: m :: r :: 0x03 :: n :: rest) (5 + n.toNat) = .error .indexOutOfBounds :=
          getShort_beyond (by simp only [List.length_cons]; omega)
        simp only [missing]
        exact ⟨_,rfl⟩
  · refine .inr ⟨fun addressed => short (UInt8.lt_iff_toNat_lt.mp addressed.1),.negativeArraySize,?_⟩
    simp only [if_neg short]
    rw [getString,getBytes_backwards _ (by omega)]
    rfl

/-- What the parser makes of a buffer. -/
inductive Parsed : Buffer → Except Failure SocksRequest → Prop
  | greeting {b : Buffer} : Greets b → Parsed b (.ok .greeting)
  | unknown {v m r a : UInt8} {rest : Buffer} : ¬ Greets (v :: m :: r :: a :: rest) → a ≠ 0x01 → a ≠ 0x03 →
      Parsed (v :: m :: r :: a :: rest) (.ok .unsupportedAddress)
  | request {v m r a : UInt8} {rest : Buffer} {target : String × Int32} : ¬ Greets (v :: m :: r :: a :: rest) →
      Addressed (a :: rest) → Parsed (v :: m :: r :: a :: rest) (.ok (.ofCommand (Int8.ofNat m.toNat) (some target)))
  | short {b : Buffer} {failure : Failure} : ¬ Greets b → b.length < 4 → Parsed b (.error failure)
  | unread {v m r a : UInt8} {rest : Buffer} {failure : Failure} : ¬ Greets (v :: m :: r :: a :: rest) →
      a = 0x01 ∨ a = 0x03 → ¬ Addressed (a :: rest) → Parsed (v :: m :: r :: a :: rest) (.error failure)

/-- A destination is found when its type is known and all of it is there. -/
private theorem parsed_request {v m r a : UInt8} {rest : Buffer} (request : ¬ Greets (v :: m :: r :: a :: rest)) :
    Parsed (v :: m :: r :: a :: rest)
      ((requestDestination (v :: m :: r :: a :: rest) (Int8.ofNat a.toNat)).map (.ofCommand (Int8.ofNat m.toNat))) := by
  by_cases address : a = 0x01
  · subst address
    rcases destination_address v m r rest with ⟨long,target,read⟩ | ⟨short,failure,read⟩
    · rw [show Int8.ofNat (0x01 : UInt8).toNat = 0x01 from rfl,read]
      exact .request request long
    · rw [show Int8.ofNat (0x01 : UInt8).toNat = 0x01 from rfl,read]
      exact .unread request (.inl rfl) (fun long => absurd long (by simp [Addressed]; omega))
  by_cases name : a = 0x03
  · subst name
    rcases destination_name v m r rest with ⟨addressed,target,read⟩ | ⟨missing,failure,read⟩
    · rw [show Int8.ofNat (0x03 : UInt8).toNat = 0x03 from rfl,read]
      exact .request request addressed
    · rw [show Int8.ofNat (0x03 : UInt8).toNat = 0x03 from rfl,read]
      exact .unread request (.inr rfl) missing
  · have first : Int8.ofNat a.toNat ≠ 0x01 := fun same => address (byte_eq_iff.mp same)
    have third : Int8.ofNat a.toNat ≠ 0x03 := fun same => name (byte_eq_iff.mp same)
    rw [requestDestination,if_neg first,if_neg third]
    exact .unknown request address name

theorem parse_of_greets {v m : UInt8} {rest : Buffer} (greets : Greets (v :: m :: rest)) :
    SocksRequest.parse (v :: m :: rest) = .ok .greeting := by
  have count : getByte (v :: m :: rest) 1 = .ok (Int8.ofNat m.toNat) := getByte_index (k := 1) rfl
  rw [SocksRequest.parse,count]
  simp only [bind,Except.bind,if_pos ((count_iff v m rest).mpr greets)]
  rfl

private theorem parse_of_not_greets {v m : UInt8} {rest : Buffer} (request : ¬ Greets (v :: m :: rest)) :
    SocksRequest.parse (v :: m :: rest) = (do
      let addressType ← getByte (v :: m :: rest) 3
      (requestDestination (v :: m :: rest) addressType).map (.ofCommand (Int8.ofNat m.toNat))) := by
  have count : getByte (v :: m :: rest) 1 = .ok (Int8.ofNat m.toNat) := getByte_index (k := 1) rfl
  rw [SocksRequest.parse,count]
  simp only [bind,Except.bind,if_neg (fun same => request ((count_iff v m rest).mp same))]
  rfl

theorem parsed (b : Buffer) : Parsed b (SocksRequest.parse b) := by
  rcases b with _ | ⟨v,_ | ⟨m,rest⟩⟩
  · exact .short id (by simp)
  · have missing : SocksRequest.parse [v] = .error .indexOutOfBounds := by
      rw [SocksRequest.parse,getByte_beyond (by simp)]
      rfl
    rw [missing]
    exact .short id (by simp)
  by_cases greets : Greets (v :: m :: rest)
  · rw [parse_of_greets greets]
    exact .greeting greets
  rw [parse_of_not_greets greets]
  rcases rest with _ | ⟨r,_ | ⟨a,rest⟩⟩
  · rw [getByte_beyond (by simp)]
    exact .short greets (by simp)
  · rw [getByte_beyond (by simp)]
    exact .short greets (by simp)
  · have typed : getByte (v :: m :: r :: a :: rest) 3 = .ok (Int8.ofNat a.toNat) := getByte_index (k := 3) rfl
    rw [typed]
    exact parsed_request greets

/-! ### What follows -/

section
variable (env : Env) (draw : Draw) (uuid : String) (s : SocketId) (world : World) {b : Buffer}

theorem run_unparsed {failure : Failure} (read : SocksRequest.parse b = .error failure) :
    (bufferHandler env draw uuid s b).run world =
      some (.error failure,(screened world s b).1,(screened world s b).2) := by
  rw [bufferHandler_run,read]

theorem run_replied {request : SocksRequest} (read : SocksRequest.parse b = .ok request)
    (other : ∀ host port, request ≠ .connect host port) :
    (bufferHandler env draw uuid s b).run world =
      some (.ok (),(screened world s b).1,(screened world s b).2 ++ [.write s request.reply]) := by
  rw [bufferHandler_run,read]
  cases request <;> first | rfl | exact absurd rfl (other _ _)

theorem run_connected {host : String} {port : Int32} (read : SocksRequest.parse b = .ok (.connect host port)) :
    ∃ message, (bufferHandler env draw uuid s b).run world =
      some ((transmission env draw world message).1,(screened world s b).1.connect uuid s,
        (screened world s b).2 ++ (transmission env draw world message).2) := by
  obtain ⟨message,made⟩ := clientConnect_run env uuid host port
  refine ⟨message,?_⟩
  rw [bufferHandler_run,read]
  simp only [serve,tryConnect_run env draw uuid s host port _ made,screened_transmission,Option.map_some,Action.after_mk]

end

/-- The commands that the front end knows. -/
theorem ofCommand_eq (m : UInt8) (target : String × Int32) :
    SocksRequest.ofCommand (Int8.ofNat m.toNat) (some target) =
      if m = 0x01 then .connect target.1 target.2 else if m = 0x03 then .associate else .unsupportedCommand := by
  have one : Int8.ofNat m.toNat = 0x01 ↔ m = 0x01 := byte_eq_iff (c := 0x01)
  have three : Int8.ofNat m.toNat = 0x03 ↔ m = 0x03 := byte_eq_iff (c := 0x03)
  unfold SocksRequest.ofCommand
  simp only [one,three]

end WSocks.Parsing
