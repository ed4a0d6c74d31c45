import WSocks.DnsFormat
import WSocks.Endings

/-!
# Compressed names

pdnsd writes a name by pointing to the longest ending of it that a name in the same
message has written out, and reads it by following the pointers. Reading never leaves
the message, never ends too late, and gives back every name that was written, but for
the case of its letters.
-/

namespace WSocks.Compression
open WSocks.DnsFormat WSocks.Endings

/-- The size of a buffer for a name. -/
def DNSNAMEBUFSIZE : Nat := 256

/-! ### Reading a name -/

/-- Why `decompress_name` ends early: with a return code, or by an access outside the
    message or the buffer, which a call that never ends counts as too. -/
inductive Failure
  | RC_TRUNC | RC_FORMAT | stray
  deriving DecidableEq

def byteAt (msg : Bytes) (lptr : Nat) : Except Failure Nat :=
  match msg[lptr]? with
  | none => .error .stray
  | some byte => .ok byte.toNat

/-- Copies `lb` bytes from the message behind what is in the buffer. -/
def copy (msg : Bytes) (lptr lb : Nat) (tgt : Bytes) : Except Failure Bytes :=
  if lptr + lb ≤ msg.length ∧ tgt.length + lb ≤ DNSNAMEBUFSIZE then .ok (tgt ++ (msg.drop lptr).take lb)
  else .error .stray

/-- The loop for a name that has jumped; the inner loop over pointers is the same loop. -/
def jumped (msg : Bytes) : Nat → Nat → Nat → Bytes → Except Failure Bytes
  | 0,_,_,_ => .error .stray
  | fuel + 1,lptr,hops,tgt => do
    let lb ← byteAt msg lptr
    if 0x3f < lb then
      if lb < 0xc0 then .error .RC_FORMAT
      else if msg.length ≤ lptr + 1 then .error .RC_FORMAT
      else if 255 < hops + 1 then .error .RC_FORMAT
      else do
        let low ← byteAt msg (lptr + 1)
        let offs := lb % 64 * 256 + low
        if msg.length ≤ offs then .error .RC_FORMAT else jumped msg fuel offs (hops + 1) tgt
    else do
      let tgt ← copy msg lptr 1 tgt
      if lb = 0 then .ok tgt
      else if msg.length ≤ lptr + 1 + lb then .error .RC_FORMAT
      else if DNSNAMEBUFSIZE - 1 < tgt.length + lb then .error .RC_FORMAT
      else do
        let tgt ← copy msg (lptr + 1) lb tgt
        jumped msg fuel (lptr + 1 + lb) hops tgt

/-- More turns than the loops can take: each turn is a hop or fills the buffer. -/
def turns : Nat := 513

/-- The loop for a name that has not jumped yet, with what is left of the data. -/
def unjumped (msg : Bytes) : Nat → Nat → Nat → Bytes → Except Failure (Nat × Bytes)
  | 0,_,_,_ => .error .stray
  | fuel + 1,lptr,newsz,tgt => do
    let lb ← byteAt msg lptr
    if 0x3f < lb then
      if lb < 0xc0 then .error .RC_FORMAT
      else if newsz - 1 = 0 then .error .RC_TRUNC
      else if msg.length ≤ lptr + 1 then .error .RC_FORMAT
      else do
        let low ← byteAt msg (lptr + 1)
        let offs := lb % 64 * 256 + low
        if msg.length ≤ offs then .error .RC_FORMAT
        else do
          let tgt ← jumped msg turns offs 1 tgt
          .ok (newsz - 2,tgt)
    else do
      let tgt ← copy msg lptr 1 tgt
      if lb = 0 then .ok (newsz - 1,tgt)
      else if newsz - 1 ≤ lb then .error .RC_TRUNC
      else if msg.length ≤ lptr + 1 + lb then .error .RC_FORMAT
      else if DNSNAMEBUFSIZE - 1 < tgt.length + lb then .error .RC_FORMAT
      else do
        let tgt ← copy msg (lptr + 1) lb tgt
        unjumped msg fuel (lptr + 1 + lb) (newsz - 1 - lb) tgt

/-- The place behind the name, what is left of the data there, and the name. -/
def decompress_name (msg : Bytes) (src sz : Nat) : Except Failure (Nat × Nat × Bytes) :=
  if sz = 0 then .error .RC_TRUNC
  else if msg.length ≤ src then .error .RC_FORMAT
  else do
    let (newsz,tgt) ← unjumped msg turns src sz []
    .ok (src + (sz - newsz),newsz,tgt)

/-! ### Comparing names -/

def tolower (c : UInt8) : UInt8 := if 65 ≤ c.toNat ∧ c.toNat ≤ 90 then c + 32 else c

/-- The length bytes of a name and the place of its last byte; `none` when the name
    leaves its bytes or has too many segments. -/
def lengthBytes (ms : Bytes) : Nat → Nat → Option (List Nat × Nat)
  | 0,_ => none
  | room + 1,i => do
    let lb ← ms[i]?
    if lb.toNat = 0 then some ([],i)
    else do
      let (ls,stop) ← lengthBytes ms room (i + lb.toNat + 1)
      some (lb.toNat :: ls,stop)

/-- The byte before `i`. -/
def before (ms : Bytes) (i : Nat) : Option UInt8 := if i = 0 then none else ms[i - 1]?

/-- Compares the `lb` bytes before `i` and `j`, the last ones first. -/
def compareBack (ms md : Bytes) : Nat → Nat → Nat → Option Bool
  | 0,_,_ => some true
  | lb + 1,i,j => do
    let c ← before ms i
    let d ← before md j
    if tolower c = tolower d then compareBack ms md lb (i - 1) (j - 1) else some false

/-- Compares segments, the last ones first; how many are equal, and where they begin. -/
def matchSegments (ms md : Bytes) : List Nat → List Nat → Nat → Nat → Nat → Option (Nat × Nat × Nat)
  | lb :: ls,ld :: lds,k,i,j =>
    if lb ≠ ld then some (k,i,j)
    else do
      let same ← compareBack ms md lb i j
      if same then matchSegments ms md ls lds (k + 1) (i - lb - 1) (j - lb - 1) else some (k,i,j)
  | _,_,k,i,j => some (k,i,j)

/-- The arrays for the length bytes have 128 places, and the loop that fills them ends
    with a zero byte. -/
def domain_match (ms md : Bytes) : Option (Nat × Nat × Nat) := do
  let (ls,i) ← lengthBytes ms 129 0
  let (ld,j) ← lengthBytes md 129 0
  matchSegments ms md ls.reverse ld.reverse 0 i j

/-! ### Writing a name -/

/-- A name that was written, and where. -/
structure Compel where
  index : Nat
  s : Bytes
  deriving DecidableEq

/-- The length of a name, its last byte included. -/
def rhnlen (rhn : Bytes) : Nat → Nat → Option Nat
  | 0,_ => none
  | fuel + 1,i => do
    let lb ← rhn[i]?
    if lb.toNat = 0 then some (i + 1) else rhnlen rhn fuel (i + 1 + lb.toNat)

/-- The search for the longest match: its length, where it begins in the name and in
    the message. -/
def search (input : Bytes) : List Compel → Nat → Nat → Nat → Option (Nat × Nat × Nat)
  | [],longest,lrem,coffs => some (longest,lrem,coffs)
  | ci :: rest,longest,lrem,coffs => do
    let (rv,rem,start) ← domain_match input ci.s
    if longest < rv then
      if ci.index + start ≤ 0x3fff then search input rest rv rem (ci.index + start)
      else search input rest longest lrem coffs
    else search input rest longest lrem coffs

/-- What is written for a name, and the dictionary afterwards; `none` when an assertion
    fails or the name leaves its bytes. -/
def compress_name (input : Bytes) (offs : Nat) (cb : List Compel) : Option (Bytes × List Compel) := do
  let ilen ← rhnlen input input.length 0
  if DNSNAMEBUFSIZE < ilen then none
  else do
    let (longest,lrem,coffs) ← search input cb 0 0 0
    if 0 < longest then
      if ilen < lrem + 2 then none
      else some (input.take lrem ++ [UInt8.ofNat (0xc0 + coffs / 256 % 64),UInt8.ofNat (coffs % 256)],
        if lrem ≠ 0 then cb ++ [⟨offs,input.take ilen⟩] else cb)
    else some (input.take ilen,cb ++ [⟨offs,input.take ilen⟩])

/-! ### Names in a message -/

/-- The bytes of some labels. -/
def bytesOf (labels : List Label) : Bytes := labels.flatMap Label.encode

/-- A name as it stands without compression. -/
def wire (labels : List Label) : Bytes := bytesOf labels ++ [0]

/-- Labels, pointers and a zero byte that begin at a place of the message spell a name, by
    some number of pointers; some number of bytes stand before the first jump. -/
inductive Spells (msg : Bytes) : Nat → List Label → Nat → Nat → Prop
  | root {i : Nat} : msg[i]? = some 0 → Spells msg i [] 0 1
  | label {i hops own : Nat} {l : Label} {labels : List Label} :
      l.encode <+: msg.drop i → Spells msg (i + l.encode.length) labels hops own →
      Spells msg i (l :: labels) hops (l.encode.length + own)
  | pointer {i hops own : Nat} {high low : UInt8} {labels : List Label} :
      msg[i]? = some high → msg[i + 1]? = some low → 192 ≤ high.toNat →
      Spells msg (high.toNat % 64 * 256 + low.toNat) labels hops own → Spells msg i labels (hops + 1) 2

section
variable {msg : Bytes} {i hops own : Nat} {labels : List Label}

@[simp] theorem bytesOf_nil : bytesOf [] = [] := rfl
@[simp] theorem bytesOf_cons (l : Label) (labels : List Label) : bytesOf (l :: labels) = l.encode ++ bytesOf labels := rfl
@[simp] theorem bytesOf_append (front rest : List Label) : bytesOf (front ++ rest) = bytesOf front ++ bytesOf rest :=
  List.flatMap_append
@[simp] theorem wire_cons (l : Label) (labels : List Label) : wire (l :: labels) = l.encode ++ wire labels := by
  simp [wire]
@[simp] theorem encode_length (l : Label) : l.encode.length = l.bytes.length + 1 := by
  simp [Label.encode]

theorem length_byte (l : Label) : (UInt8.ofNat l.bytes.length).toNat = l.bytes.length := by
  have short := l.short
  simp only [UInt8.toNat_ofNat']
  omega

theorem Spells.inside (spells : Spells msg i labels hops own) : i < msg.length := by
  cases spells with
  | root byte => exact (List.getElem?_eq_some_iff.mp byte).1
  | label stands _ =>
    have long := stands.length_le
    rw [List.length_drop,encode_length] at long
    omega
  | pointer byte _ _ _ => exact (List.getElem?_eq_some_iff.mp byte).1

theorem Spells.own_pos (spells : Spells msg i labels hops own) : 1 ≤ own := by
  induction spells with
  | root _ => exact le_rfl
  | label _ _ ih => omega
  | pointer _ _ _ _ _ => omega

theorem Spells.append (spells : Spells msg i labels hops own) (more : Bytes) :
    Spells (msg ++ more) i labels hops own := by
  have kept : ∀ {j : Nat} {byte : UInt8}, msg[j]? = some byte → (msg ++ more)[j]? = some byte := by
    intro j byte found
    rw [List.getElem?_append_left (List.getElem?_eq_some_iff.mp found).1,found]
  induction spells with
  | root byte => exact .root (kept byte)
  | label stands rest ih =>
    refine .label ?_ ih
    have start := rest.inside
    rw [List.drop_append_of_le_length (by omega)]
    exact stands.trans (List.prefix_append _ _)
  | pointer high low marked _ ih => exact .pointer (kept high) (kept low) marked ih

/-- A label stands where its length byte is, with its bytes behind. -/
theorem stands_iff {l : Label} :
    l.encode <+: msg.drop i ↔ ∃ lb, msg[i]? = some lb ∧ lb.toNat = l.bytes.length ∧ l.bytes <+: msg.drop (i + 1) := by
  by_cases inside : i < msg.length
  · rw [List.drop_eq_getElem_cons inside,Label.encode,List.cons_prefix_cons,List.getElem?_eq_getElem inside]
    constructor
    · rintro ⟨same,rest⟩
      exact ⟨msg[i],rfl,by rw [← same,length_byte],rest⟩
    · rintro ⟨lb,byte,same,rest⟩
      refine ⟨?_,rest⟩
      rw [Option.some.inj byte,← same,UInt8.ofNat_toNat]
  · rw [List.drop_eq_nil_of_le (by omega)]
    constructor
    · intro impossible
      exact absurd (List.prefix_nil.mp impossible) (List.cons_ne_nil _ _)
    · rintro ⟨lb,byte,-⟩
      exact absurd (List.getElem?_eq_some_iff.mp byte).1 inside

/-- What a length byte spells: its label, and whatever stands behind it. -/
theorem spells_length {lb : UInt8} (byte : msg[i]? = some lb) (short : lb.toNat ≤ 63) (positive : lb.toNat ≠ 0) :
    Spells msg i labels hops own ↔ ∃ l rest own', labels = l :: rest ∧ own = lb.toNat + 1 + own' ∧
      l.bytes.length = lb.toNat ∧ l.bytes <+: msg.drop (i + 1) ∧ Spells msg (i + 1 + lb.toNat) rest hops own' := by
  constructor
  · intro spells
    cases spells with
    | root zero =>
      rw [byte] at zero
      exact absurd (by rw [Option.some.inj zero]; rfl) positive
    | @label _ _ own' l rest stands behind =>
      obtain ⟨lb',byte',same,inside⟩ := stands_iff.mp stands
      obtain rfl := Option.some.inj (byte.symm.trans byte')
      rw [encode_length,← same] at behind ⊢
      exact ⟨l,rest,own',rfl,rfl,same.symm,inside,by rwa [Nat.add_right_comm,Nat.add_assoc]⟩
    | pointer high _ marked _ =>
      obtain rfl := Option.some.inj (byte.symm.trans high)
      omega
  · rintro ⟨l,rest,own',rfl,rfl,same,inside,behind⟩
    rw [← same,← encode_length]
    refine .label (stands_iff.mpr ⟨lb,byte,same.symm,inside⟩) ?_
    rwa [encode_length,same,Nat.add_comm lb.toNat,← Nat.add_assoc]

/-- What a zero byte spells. -/
theorem spells_root {lb : UInt8} (byte : msg[i]? = some lb) (zero : lb.toNat = 0) :
    Spells msg i labels hops own ↔ labels = [] ∧ hops = 0 ∧ own = 1 := by
  constructor
  · intro spells
    cases spells with
    | root _ => exact ⟨rfl,rfl,rfl⟩
    | @label _ _ _ l _ stands _ =>
      obtain ⟨lb',byte',same,-⟩ := stands_iff.mp stands
      obtain rfl := Option.some.inj (byte.symm.trans byte')
      have nonempty := l.nonempty
      omega
    | pointer high _ marked _ =>
      obtain rfl := Option.some.inj (byte.symm.trans high)
      omega
  · rintro ⟨rfl,rfl,rfl⟩
    obtain rfl : lb = 0 := UInt8.toNat_inj.mp zero
    exact .root byte

/-- What a byte above the length bytes spells: what its pointer leads to. -/
theorem spells_pointer {lb : UInt8} (byte : msg[i]? = some lb) (long : 63 < lb.toNat) :
    Spells msg i labels hops own ↔ ∃ hops' own' low, 192 ≤ lb.toNat ∧ msg[i + 1]? = some low ∧ hops = hops' + 1 ∧
      own = 2 ∧ Spells msg (lb.toNat % 64 * 256 + low.toNat) labels hops' own' := by
  constructor
  · intro spells
    cases spells with
    | root zero =>
      obtain rfl := Option.some.inj (byte.symm.trans zero)
      simp at long
    | @label _ _ _ l _ stands _ =>
      obtain ⟨lb',byte',same,-⟩ := stands_iff.mp stands
      obtain rfl := Option.some.inj (byte.symm.trans byte')
      have short := l.short
      omega
    | @pointer _ hops' own' _ low _ high second marked behind =>
      obtain rfl := Option.some.inj (byte.symm.trans high)
      exact ⟨hops',own',low,marked,second,rfl,rfl,behind⟩
  · rintro ⟨hops',own',low,marked,second,rfl,rfl,behind⟩
    exact .pointer byte second marked behind

end

/-! ### What reading gives -/

/-- A call stays inside the message and the buffer, and gives what satisfies the
    condition, if anything does. -/
def Reads {α : Type} (result : Except Failure α) (P : α → Prop) : Prop :=
  result ≠ .error .stray ∧ ∀ a, result = .ok a ↔ P a

section
variable {α : Type} {P : α → Prop} {msg tgt : Bytes} {lptr hops newsz fuel : Nat}

private theorem reads_ok {a : α} (only : ∀ b, P b ↔ b = a) : Reads (.ok a) P :=
  ⟨by simp,fun b => by rw [only,Except.ok.injEq,eq_comm]⟩

private theorem reads_error {failure : Failure} (inside : failure ≠ .stray) (nothing : ∀ b, ¬ P b) :
    Reads (.error failure) P :=
  ⟨by simpa using inside,fun b => by simp [nothing b]⟩

/-- A call whose result is passed on beside a number. -/
private theorem reads_pair {result : Except Failure α} (reads : Reads result P) (n : Nat) :
    Reads (do let a ← result; .ok (n,a)) (fun b => b.1 = n ∧ P b.2) := by
  obtain ⟨stays,gives⟩ := reads
  rcases result with failure | a
  · refine reads_error (by simpa using stays) ?_
    rintro ⟨left,b⟩ ⟨-,holds⟩
    exact absurd ((gives b).mpr holds) (by simp)
  · apply reads_ok
    rintro ⟨left,b⟩
    simp [← gives,eq_comm]

/-- A check that refuses only what nothing satisfies. -/
private theorem reads_guard {c : Prop} [Decidable c] {failure : Failure} {rest : Except Failure α}
    (inside : failure ≠ .stray) (refuses : c → ∀ a, ¬ P a) (goes : ¬ c → Reads rest P) :
    Reads (if c then .error failure else rest) P := by
  by_cases refused : c
  · rw [if_pos refused]
    exact reads_error inside (refuses refused)
  · rw [if_neg refused]
    exact goes refused

private theorem Reads.congr {Q : α → Prop} {result : Except Failure α} (reads : Reads result P)
    (same : ∀ a, P a ↔ Q a) : Reads result Q :=
  ⟨reads.1,fun a => (reads.2 a).trans (same a)⟩

private theorem byteAt_eq {byte : UInt8} (found : msg[lptr]? = some byte) : byteAt msg lptr = .ok byte.toNat := by
  rw [byteAt,found]

private theorem copy_eq {lb : Nat} (inside : lptr + lb ≤ msg.length) (room : tgt.length + lb ≤ DNSNAMEBUFSIZE) :
    copy msg lptr lb tgt = .ok (tgt ++ (msg.drop lptr).take lb) := by
  rw [copy,if_pos ⟨inside,room⟩]

private theorem copy_byte {byte : UInt8} (found : msg[lptr]? = some byte) (room : tgt.length ≤ 255) :
    copy msg lptr 1 tgt = .ok (tgt ++ [byte]) := by
  obtain ⟨inside,same⟩ := List.getElem?_eq_some_iff.mp found
  rw [copy_eq (by omega) (by simp only [DNSNAMEBUFSIZE]; omega),List.drop_eq_getElem_cons inside,same]
  rfl

/-- What a place of the message adds to a name that has made some hops; some number of
    bytes stand before the next jump. -/
def Adds (msg : Bytes) (lptr hops : Nat) (tgt : Bytes) (own : Nat) (out : Bytes) : Prop :=
  ∃ labels more, Spells msg lptr labels more own ∧ hops + more ≤ 255 ∧ out = tgt ++ wire labels ∧
    out.length ≤ DNSNAMEBUFSIZE

@[simp] theorem wire_length (labels : List Label) : (wire labels).length = (bytesOf labels).length + 1 := by
  simp [wire]

theorem Adds.inside {own : Nat} {out : Bytes} (adds : Adds msg lptr hops tgt own out) : lptr < msg.length := by
  obtain ⟨labels,more,spells,-⟩ := adds
  exact spells.inside

theorem Adds.own_pos {own : Nat} {out : Bytes} (adds : Adds msg lptr hops tgt own out) : 1 ≤ own := by
  obtain ⟨labels,more,spells,-⟩ := adds
  exact spells.own_pos

section
variable {lb : UInt8} {own : Nat} {out : Bytes}

theorem adds_root (byte : msg[lptr]? = some lb) (zero : lb.toNat = 0) (few : hops ≤ 255) (room : tgt.length ≤ 255) :
    Adds msg lptr hops tgt own out ↔ own = 1 ∧ out = tgt ++ [lb] := by
  obtain rfl : lb = 0 := UInt8.toNat_inj.mp zero
  constructor
  · rintro ⟨labels,more,spells,-,rfl,-⟩
    obtain ⟨rfl,rfl,rfl⟩ := (spells_root byte zero).mp spells
    exact ⟨rfl,rfl⟩
  · rintro ⟨rfl,rfl⟩
    refine ⟨[],0,.root byte,by omega,rfl,?_⟩
    rw [List.length_append,DNSNAMEBUFSIZE]
    exact Nat.add_le_add_right room 1

theorem adds_length (byte : msg[lptr]? = some lb) (short : lb.toNat ≤ 63) (positive : lb.toNat ≠ 0) :
    Adds msg lptr hops tgt own out ↔ lptr + 1 + lb.toNat < msg.length ∧ tgt.length + 1 + lb.toNat ≤ 255 ∧
      ∃ own', own = lb.toNat + 1 + own' ∧
        Adds msg (lptr + 1 + lb.toNat) hops (tgt ++ [lb] ++ (msg.drop (lptr + 1)).take lb.toNat) own' out := by
  constructor
  · rintro ⟨labels,more,spells,few,rfl,short'⟩
    obtain ⟨l,rest,own',rfl,rfl,same,inside,behind⟩ := (spells_length byte short positive).mp spells
    have bytes : l.bytes = (msg.drop (lptr + 1)).take lb.toNat := by rw [← same]; exact List.prefix_iff_eq_take.mp inside
    have length : lb = UInt8.ofNat l.bytes.length := by rw [same,UInt8.ofNat_toNat]
    have label : tgt ++ [lb] ++ (msg.drop (lptr + 1)).take lb.toNat = tgt ++ l.encode := by
      rw [← bytes,List.append_assoc,Label.encode,← length]
      rfl
    refine ⟨behind.inside,?_,own',rfl,rest,more,behind,few,by rw [label,wire_cons,List.append_assoc],short'⟩
    simp only [wire_cons,List.length_append,encode_length,wire_length,DNSNAMEBUFSIZE] at short'
    omega
  · rintro ⟨inside,-,own',rfl,rest,more,behind,few,rfl,short'⟩
    have size : ((msg.drop (lptr + 1)).take lb.toNat).length = lb.toNat := by
      rw [List.length_take,List.length_drop]
      omega
    let l : Label := ⟨(msg.drop (lptr + 1)).take lb.toNat,by omega,by omega⟩
    have label : l.encode = lb :: (msg.drop (lptr + 1)).take lb.toNat := by
      rw [Label.encode,size,UInt8.ofNat_toNat]
    refine ⟨l :: rest,more,?_,few,by rw [wire_cons,label]; simp,short'⟩
    exact (spells_length byte short positive).mpr ⟨l,rest,own',rfl,rfl,size,List.take_prefix _ _,behind⟩

theorem adds_pointer (byte : msg[lptr]? = some lb) (long : 63 < lb.toNat) :
    Adds msg lptr hops tgt own out ↔ 192 ≤ lb.toNat ∧ own = 2 ∧ hops + 1 ≤ 255 ∧ ∃ low own',
      msg[lptr + 1]? = some low ∧ Adds msg (lb.toNat % 64 * 256 + low.toNat) (hops + 1) tgt own' out := by
  constructor
  · rintro ⟨labels,more,spells,few,rest⟩
    obtain ⟨more',own',low,marked,second,rfl,rfl,behind⟩ := (spells_pointer byte long).mp spells
    exact ⟨marked,rfl,by omega,low,own',second,labels,more',behind,by omega,rest⟩
  · rintro ⟨marked,rfl,-,low,own',second,labels,more,behind,few,rest⟩
    exact ⟨labels,more + 1,(spells_pointer byte long).mpr ⟨more,own',low,marked,second,rfl,rfl,behind⟩,by omega,rest⟩

end

private theorem copy_label {lb : UInt8} (inside : lptr + lb.toNat ≤ msg.length)
    (room : ¬ DNSNAMEBUFSIZE - 1 < (tgt ++ [lb]).length + lb.toNat) :
    (tgt ++ [lb] ++ (msg.drop lptr).take lb.toNat).length = tgt.length + 1 + lb.toNat ∧ tgt.length + 1 + lb.toNat ≤ 255 ∧
      copy msg lptr lb.toNat (tgt ++ [lb]) = .ok (tgt ++ [lb] ++ (msg.drop lptr).take lb.toNat) := by
  simp only [DNSNAMEBUFSIZE,List.length_append,List.length_singleton] at room
  refine ⟨?_,by omega,copy_eq inside ?_⟩
  · simp only [List.length_append,List.length_singleton,List.length_take,List.length_drop]
    omega
  · simp only [DNSNAMEBUFSIZE,List.length_append,List.length_singleton]
    omega

theorem jumped_spec (enough : 256 - hops + (256 - tgt.length) < fuel) (inside : lptr < msg.length) (few : hops ≤ 255)
    (room : tgt.length ≤ 255) :
    Reads (jumped msg fuel lptr hops tgt) (fun out => ∃ own, Adds msg lptr hops tgt own out) := by
  induction fuel generalizing lptr hops tgt with
  | zero => omega
  | succ fuel ih =>
    obtain ⟨lb,byte⟩ : ∃ lb, msg[lptr]? = some lb := ⟨_,List.getElem?_eq_getElem inside⟩
    rw [jumped,byteAt_eq byte]
    change Reads (ite _ _ _) _
    by_cases long : 0x3f < lb.toNat
    · rw [if_pos long]
      refine .congr ?_ (fun out => exists_congr (fun own => (adds_pointer byte long).symm))
      apply reads_guard (by decide)
      · rintro low out ⟨own,marked,-⟩
        omega
      intro marked
      apply reads_guard (by decide)
      · rintro last out ⟨own,-,-,-,low,own',second,-⟩
        exact absurd (List.getElem?_eq_some_iff.mp second).1 (by omega)
      intro last
      apply reads_guard (by decide)
      · rintro many out ⟨own,-,-,few',-⟩
        omega
      intro many
      obtain ⟨low,second⟩ : ∃ low, msg[lptr + 1]? = some low := ⟨_,List.getElem?_eq_getElem (by omega)⟩
      rw [byteAt_eq second]
      apply reads_guard (by decide)
      · rintro outside out ⟨own,-,-,-,low',own',second',adds⟩
        obtain rfl := Option.some.inj (second.symm.trans second')
        exact absurd adds.inside (by omega)
      intro outside
      refine (ih (by omega) (by omega) (by omega) room).congr ?_
      intro out
      constructor
      · rintro ⟨own,adds⟩
        exact ⟨2,by omega,rfl,by omega,low,own,second,adds⟩
      · rintro ⟨own,-,-,-,low',own',second',adds⟩
        obtain rfl := Option.some.inj (second.symm.trans second')
        exact ⟨own',adds⟩
    · rw [if_neg long,copy_byte byte room]
      change Reads (ite _ _ _) _
      by_cases zero : lb.toNat = 0
      · rw [if_pos zero]
        apply reads_ok
        intro out
        simp [adds_root byte zero few room]
      rw [if_neg zero]
      refine .congr ?_ (fun out => exists_congr (fun own => (adds_length byte (by omega) zero).symm))
      apply reads_guard (by decide)
      · rintro last out ⟨own,inside',-⟩
        omega
      intro last
      apply reads_guard (by decide)
      · rintro full out ⟨own,-,room',-⟩
        simp only [DNSNAMEBUFSIZE,List.length_append,List.length_singleton] at full
        omega
      intro full
      have stands : lptr + 1 + lb.toNat ≤ msg.length := by omega
      obtain ⟨filled,less,copied⟩ := copy_label stands full
      rw [copied]
      refine (ih (by omega) (by omega) few (by omega)).congr ?_
      intro out
      constructor
      · rintro ⟨own,adds⟩
        exact ⟨_,by omega,by omega,own,rfl,adds⟩
      · rintro ⟨own,-,-,own',-,adds⟩
        exact ⟨own',adds⟩

/-- What is left of the data, and the name. -/
theorem unjumped_spec (enough : 256 - tgt.length < fuel) (inside : lptr < msg.length) (some' : 1 ≤ newsz)
    (room : tgt.length ≤ 255) :
    Reads (unjumped msg fuel lptr newsz tgt)
      (fun out => ∃ own, Adds msg lptr 0 tgt own out.2 ∧ own + out.1 = newsz) := by
  induction fuel generalizing lptr newsz tgt with
  | zero => omega
  | succ fuel ih =>
    obtain ⟨lb,byte⟩ : ∃ lb, msg[lptr]? = some lb := ⟨_,List.getElem?_eq_getElem inside⟩
    rw [unjumped,byteAt_eq byte]
    change Reads (ite _ _ _) _
    by_cases long : 0x3f < lb.toNat
    · rw [if_pos long]
      simp only [adds_pointer byte long]
      apply reads_guard (by decide)
      · rintro low out ⟨own,⟨marked,-⟩,-⟩
        omega
      intro marked
      apply reads_guard (by decide)
      · rintro short out ⟨own,⟨-,rfl,-⟩,left⟩
        omega
      intro data
      apply reads_guard (by decide)
      · rintro last out ⟨own,⟨-,-,-,low,own',second,-⟩,-⟩
        exact absurd (List.getElem?_eq_some_iff.mp second).1 (by omega)
      intro last
      obtain ⟨low,second⟩ : ∃ low, msg[lptr + 1]? = some low := ⟨_,List.getElem?_eq_getElem (by omega)⟩
      rw [byteAt_eq second]
      apply reads_guard (by decide)
      · rintro outside out ⟨own,⟨-,-,-,low',own',second',adds⟩,-⟩
        obtain rfl := Option.some.inj (second.symm.trans second')
        exact absurd adds.inside (by omega)
      intro outside
      have enough' : 256 - 1 + (256 - tgt.length) < turns := by
        simp only [turns]
        omega
      obtain ⟨stays,gives⟩ := jumped_spec enough' (Nat.lt_of_not_le outside) (by omega) room
      refine (reads_pair ⟨stays,gives⟩ (newsz - 2)).congr ?_
      rintro ⟨left,out⟩
      constructor
      · rintro ⟨rfl,own,adds⟩
        exact ⟨2,⟨by omega,rfl,by omega,low,own,second,adds⟩,by dsimp only; omega⟩
      · rintro ⟨own,⟨-,rfl,-,low',own',second',adds⟩,all⟩
        obtain rfl := Option.some.inj (second.symm.trans second')
        dsimp only at all
        exact ⟨by dsimp only; omega,own',adds⟩
    · rw [if_neg long,copy_byte byte room]
      change Reads (ite _ _ _) _
      by_cases zero : lb.toNat = 0
      · rw [if_pos zero]
        apply reads_ok
        rintro ⟨left,out⟩
        simp only [adds_root byte zero (Nat.zero_le 255) room,Prod.mk.injEq]
        constructor
        · rintro ⟨own,⟨rfl,rfl⟩,left⟩
          exact ⟨by omega,rfl⟩
        · rintro ⟨rfl,rfl⟩
          exact ⟨1,⟨rfl,rfl⟩,by omega⟩
      rw [if_neg zero]
      simp only [adds_length byte (Nat.le_of_not_lt long) zero]
      apply reads_guard (by decide)
      · rintro short ⟨left,out⟩ ⟨own,⟨-,-,own',rfl,adds⟩,all⟩
        have positive := adds.own_pos
        dsimp only at all
        omega
      intro data
      apply reads_guard (by decide)
      · rintro last out ⟨own,⟨inside',-⟩,-⟩
        omega
      intro last
      apply reads_guard (by decide)
      · rintro full out ⟨own,⟨-,room',-⟩,-⟩
        simp only [DNSNAMEBUFSIZE,List.length_append,List.length_singleton] at full
        omega
      intro full
      have stands : lptr + 1 + lb.toNat ≤ msg.length := by omega
      obtain ⟨filled,less,copied⟩ := copy_label stands full
      rw [copied]
      refine (ih (by omega) (by omega) (by omega) (by omega)).congr ?_
      rintro ⟨left,out⟩
      constructor
      · rintro ⟨own,adds,all⟩
        dsimp only at all
        exact ⟨_,⟨by omega,by omega,own,rfl,adds⟩,by dsimp only; omega⟩
      · rintro ⟨own,⟨-,-,own',rfl,adds⟩,all⟩
        dsimp only at all
        exact ⟨own',adds,by dsimp only; omega⟩

/-- A call of `decompress_name` stays inside its bounds, and it returns a name exactly when one
    is spelled within the data by few enough pointers and short enough for the buffer. -/
theorem decompress_name_spec {src sz : Nat} :
    Reads (decompress_name msg src sz) (fun (src',sz',tgt) => ∃ labels hops own, Spells msg src labels hops own ∧
      hops ≤ 255 ∧ (wire labels).length ≤ DNSNAMEBUFSIZE ∧ own + sz' = sz ∧ src' = src + own ∧ tgt = wire labels) := by
  rw [decompress_name]
  apply reads_guard (by decide)
  · rintro empty ⟨src',sz',tgt⟩ ⟨labels,hops,own,spells,-,-,all,-⟩
    have positive := spells.own_pos
    omega
  intro data
  apply reads_guard (by decide)
  · rintro outside ⟨src',sz',tgt⟩ ⟨labels,hops,own,spells,-⟩
    exact absurd spells.inside (by omega)
  intro inside
  have enough : 256 - ([] : Bytes).length < turns := by decide
  obtain ⟨stays,gives⟩ := unjumped_spec enough (Nat.lt_of_not_le inside) (Nat.one_le_iff_ne_zero.mpr data) (Nat.zero_le 255)
  rcases ran : unjumped msg turns src sz [] with failure | ⟨newsz,out⟩
  · refine reads_error (fun same => stays (by rw [ran,same])) ?_
    rintro ⟨src',sz',tgt⟩ ⟨labels,hops,own,spells,few,short,all,rfl,rfl⟩
    have returns := (gives (sz',wire labels)).mpr ⟨own,⟨labels,hops,spells,by omega,rfl,short⟩,all⟩
    rw [ran] at returns
    cases returns
  · obtain ⟨own,⟨labels,hops,spells,few,same,short⟩,all⟩ := (gives (newsz,out)).mp ran
    dsimp only at same all short
    apply reads_ok
    rintro ⟨src',sz',tgt⟩
    constructor
    · rintro ⟨labels',hops',own',spells',few',short',all',rfl,rfl⟩
      have returns := (gives (sz',wire labels')).mpr ⟨own',⟨labels',hops',spells',by omega,rfl,short'⟩,all'⟩
      rw [ran] at returns
      cases returns
      rw [show own' = sz - newsz by omega]
    · rintro same'
      cases same'
      refine ⟨labels,hops,own,spells,by omega,by rwa [same] at short,all,by omega,same⟩

end

/-! ### What comparing gives -/

/-- A label without the case of its letters. -/
def folded (l : Label) : Bytes := l.bytes.map tolower

theorem folded_length (l : Label) : (folded l).length = l.bytes.length := List.length_map _

theorem lengthBytes_wire {room : Nat} (front : Bytes) (labels : List Label) (enough : labels.length < room) :
    lengthBytes (front ++ wire labels) room front.length =
      some (labels.map (fun l => l.bytes.length),front.length + (bytesOf labels).length) := by
  induction labels generalizing front room with
  | nil =>
    obtain ⟨room,rfl⟩ := Nat.exists_eq_add_of_lt enough
    simp [lengthBytes,wire]
  | cons l labels ih =>
    obtain ⟨room,rfl⟩ : ∃ n, room = n + 1 := ⟨room - 1,by omega⟩
    have rest := ih (front ++ l.encode) (Nat.lt_of_succ_lt_succ enough)
    have first : (front ++ wire (l :: labels))[front.length]? = some (UInt8.ofNat l.bytes.length) := by
      simp [Label.encode]
    have nonempty := l.nonempty
    rw [List.append_assoc,← wire_cons,List.length_append,encode_length] at rest
    rw [lengthBytes,first]
    simp only [Option.bind_eq_bind,Option.bind_some,length_byte,if_neg (Nat.ne_of_gt nonempty)]
    rw [Nat.add_assoc,rest]
    simp [Nat.add_assoc]

theorem compareBack_spec (front front' after after' : Bytes) {left right : Bytes} (same : left.length = right.length) :
    compareBack (front ++ left ++ after) (front' ++ right ++ after') left.length (front.length + left.length)
      (front'.length + right.length) = some (decide (left.map tolower = right.map tolower)) := by
  induction left using List.reverseRecOn generalizing right after after' with
  | nil =>
    obtain rfl := List.eq_nil_of_length_eq_zero same.symm
    rfl
  | append_singleton left c ih =>
    obtain ⟨right,d,rfl⟩ : ∃ front d, right = front ++ [d] := by
      rcases List.eq_nil_or_concat right with rfl | ⟨front,d,rfl⟩
      · simp at same
      · exact ⟨front,d,by simp⟩
    simp only [List.length_append,List.length_singleton,Nat.add_right_cancel_iff] at same
    have reads : ∀ (front left after : Bytes) (c : UInt8),
        before (front ++ (left ++ [c]) ++ after) (front.length + (left.length + 1)) = some c := by
      intro front left after c
      simp [before,← Nat.add_assoc]
    have rest := ih ([c] ++ after) ([d] ++ after') same
    simp only [List.append_assoc] at rest reads ⊢
    rw [List.length_append,List.length_singleton,compareBack,reads,List.length_append,List.length_singleton,reads]
    simp only [Option.bind_eq_bind,Option.bind_some,← Nat.add_assoc,Nat.add_sub_cancel]
    by_cases equal : tolower c = tolower d
    · rw [if_pos equal,rest]
      simp [equal]
    · rw [if_neg equal]
      simp [equal]

theorem matchSegments_spec (ra rb : List Label) (after after' : Bytes) (k : Nat) :
    matchSegments (bytesOf ra.reverse ++ after) (bytesOf rb.reverse ++ after') (ra.map fun l => l.bytes.length)
      (rb.map fun l => l.bytes.length) k (bytesOf ra.reverse).length (bytesOf rb.reverse).length =
    some (k + agreed (ra.map folded) (rb.map folded),
      (bytesOf (ra.drop (agreed (ra.map folded) (rb.map folded))).reverse).length,
      (bytesOf (rb.drop (agreed (ra.map folded) (rb.map folded))).reverse).length) := by
  induction ra generalizing rb after after' k with
  | nil => simp [matchSegments,agreed]
  | cons a ra ih =>
    rcases rb with _ | ⟨b,rb⟩
    · simp [matchSegments,agreed]
    have split : ∀ (l : Label) (labels : List Label), bytesOf (l :: labels).reverse =
        bytesOf labels.reverse ++ [UInt8.ofNat l.bytes.length] ++ l.bytes := by
      intro l labels
      simp [Label.encode]
    have size : ∀ (l : Label) (labels : List Label), (bytesOf (l :: labels).reverse).length =
        (bytesOf labels.reverse ++ [UInt8.ofNat l.bytes.length]).length + l.bytes.length := by
      intro l labels
      rw [split,List.length_append]
    simp only [List.map_cons,matchSegments,agreed]
    by_cases lengths : a.bytes.length = b.bytes.length
    · have compared := compareBack_spec (bytesOf ra.reverse ++ [UInt8.ofNat a.bytes.length])
        (bytesOf rb.reverse ++ [UInt8.ofNat b.bytes.length]) after after' lengths
      change _ = some (decide (folded a = folded b)) at compared
      rw [if_neg (not_not.mpr lengths),size a,size b,split a,split b,compared]
      by_cases equal : folded a = folded b
      · have rest := ih rb ([UInt8.ofNat a.bytes.length] ++ a.bytes ++ after)
          ([UInt8.ofNat b.bytes.length] ++ b.bytes ++ after') (k + 1)
        simp only [Option.bind_eq_bind,Option.bind_some]
        rw [if_pos (decide_eq_true equal),if_pos equal,List.drop_succ_cons,List.drop_succ_cons,← Nat.add_assoc,
          Nat.add_right_comm,← rest]
        simp [lengths]
      · simp only [Option.bind_eq_bind,Option.bind_some]
        rw [if_neg (by simpa using equal),if_neg equal,List.drop_zero,List.drop_zero,size a,size b]
        rfl
    · have unequal : ¬ folded a = folded b := fun same => lengths (by rw [← folded_length,same,folded_length])
      rw [if_pos lengths,if_neg unequal]
      rfl

theorem few_labels {labels : List Label} (short : (wire labels).length ≤ DNSNAMEBUFSIZE) : labels.length ≤ 127 := by
  have two : 2 * labels.length ≤ (bytesOf labels).length := by
    clear short
    induction labels with
    | nil => exact le_rfl
    | cons l labels ih =>
      have nonempty := l.nonempty
      simp only [bytesOf_cons,List.length_append,List.length_cons,encode_length]
      omega
  rw [wire_length,DNSNAMEBUFSIZE] at short
  omega

/-- How many labels two names have in common at their ends, but for the case of letters. -/
def matching (a b : List Label) : Nat := common (a.map folded) (b.map folded)

/-- The bytes of a name before its last `n` labels. -/
def bytesBefore (a : List Label) (n : Nat) : Nat := (bytesOf (a.take (a.length - n))).length

/-- `domain_match` finds the longest common ending of two names. -/
theorem domain_match_spec {a b : List Label} (short : (wire a).length ≤ DNSNAMEBUFSIZE)
    (short' : (wire b).length ≤ DNSNAMEBUFSIZE) :
    domain_match (wire a) (wire b) =
      some (matching a b,bytesBefore a (matching a b),bytesBefore b (matching a b)) := by
  have few := few_labels short
  have few' := few_labels short'
  have lengths : ∀ {labels : List Label}, labels.length ≤ 127 → lengthBytes (wire labels) 129 0 =
      some (labels.map (fun l => l.bytes.length),(bytesOf labels).length) := by
    intro labels few
    simpa using lengthBytes_wire [] labels (Nat.lt_of_le_of_lt few (by decide : 127 < 129))
  have compared := matchSegments_spec a.reverse b.reverse [0] [0] 0
  have taken : ∀ (labels : List Label) (n : Nat), (labels.reverse.drop n).reverse = labels.take (labels.length - n) := by
    intro labels n
    rw [List.drop_reverse,List.reverse_reverse]
  simp only [List.reverse_reverse,taken,Nat.zero_add,List.map_reverse] at compared
  rw [domain_match,lengths few,lengths few']
  simp only [Option.bind_eq_bind,Option.bind_some]
  exact compared

/-! ### The dictionary -/

/-- A name in the dictionary: the labels that stand at its place, and those that a pointer
    stands for. -/
structure Kept where
  index : Nat
  own : List Label
  rest : List Label

def Kept.labels (e : Kept) : List Label := e.own ++ e.rest
def Kept.compel (e : Kept) : Compel := ⟨e.index,wire e.labels⟩
def Kept.entry (e : Kept) : Entry Bytes := ⟨e.labels.map folded,e.own.length⟩

/-- The place of the message to which a pointer for a name leads. -/
def Kept.target (e : Kept) (a : List Label) : Nat := e.index + bytesBefore e.labels (matching a e.labels)
def Kept.admits (a : List Label) (e : Kept) : Bool := e.target a ≤ 0x3fff

/-- What the search knows after it has chosen an entry. -/
def chosen (a : List Label) : Option Kept → Nat × Nat × Nat
  | none => (0,0,0)
  | some e => (matching a e.labels,bytesBefore a (matching a e.labels),e.target a)

/-- The names of the dictionary stand in the message, in their order; what they do not write
    out is spelled behind them, and ends a name before them. -/
structure Written (msg : Bytes) (kept : List Kept) : Prop where
  short : ∀ e ∈ kept, (wire e.labels).length ≤ DNSNAMEBUFSIZE
  ordered : kept.Pairwise (fun e f => e.index + (bytesOf e.own).length ≤ f.index)
  inside : ∀ e ∈ kept, e.index + (bytesOf e.own).length ≤ msg.length
  shares : Shares (kept.map Kept.entry)
  stands : ∀ e ∈ kept, bytesOf e.own <+: msg.drop e.index
  spelled : ∀ e ∈ kept, ∃ labels hops n, Spells msg (e.index + (bytesOf e.own).length) labels hops n ∧
    labels.map folded = e.rest.map folded ∧ hops ≤ e.rest.length

theorem search_spec {a : List Label} (short : (wire a).length ≤ DNSNAMEBUFSIZE) {kept : List Kept}
    (short' : ∀ e ∈ kept, (wire e.labels).length ≤ DNSNAMEBUFSIZE) (best : Option Kept) :
    search (wire a) (kept.map Kept.compel) (chosen a best).1 (chosen a best).2.1 (chosen a best).2.2 =
      some (chosen a (firstBest (fun e => matching a e.labels) (Kept.admits a) best kept)) := by
  induction kept generalizing best with
  | nil => rfl
  | cons e kept ih =>
    have rest := fun best => ih (fun f member => short' f (List.mem_cons_of_mem _ member)) best
    have elim : best.elim 0 (fun e => matching a e.labels) = (chosen a best).1 := by cases best <;> rfl
    rw [List.map_cons,search,Kept.compel,domain_match_spec short (short' e List.mem_cons_self),firstBest,elim]
    simp only [Option.bind_eq_bind,Option.bind_some]
    by_cases better : (chosen a best).1 < matching a e.labels
    · rw [if_pos better]
      by_cases near : e.target a ≤ 0x3fff
      · rw [if_pos (by exact near),if_pos ⟨better,by simpa [Kept.admits] using near⟩]
        exact rest (some e)
      · rw [if_neg (by exact near),if_neg (by simp [Kept.admits,near])]
        exact rest best
    · rw [if_neg better,if_neg (fun both => better both.1)]
      exact rest best

theorem rhnlen_wire {fuel : Nat} (front : Bytes) (labels : List Label) (enough : labels.length < fuel) :
    rhnlen (front ++ wire labels) fuel front.length = some (front.length + (wire labels).length) := by
  induction labels generalizing front fuel with
  | nil =>
    obtain ⟨room,rfl⟩ := Nat.exists_eq_add_of_lt enough
    simp [rhnlen,wire]
  | cons l labels ih =>
    obtain ⟨fuel,rfl⟩ : ∃ n, fuel = n + 1 := ⟨fuel - 1,by omega⟩
    have rest := ih (front ++ l.encode) (Nat.lt_of_succ_lt_succ enough)
    have first : (front ++ wire (l :: labels))[front.length]? = some (UInt8.ofNat l.bytes.length) := by
      simp [Label.encode]
    have nonempty := l.nonempty
    rw [List.append_assoc,← wire_cons,List.length_append,encode_length] at rest
    rw [rhnlen,first]
    simp only [Option.bind_eq_bind,Option.bind_some,length_byte,if_neg (Nat.ne_of_gt nonempty)]
    rw [Nat.add_assoc,Nat.add_comm 1,rest]
    simp [Nat.add_assoc]

/-- Labels that stand in front of what is spelled are spelled too. -/
theorem spells_front {msg : Bytes} {i hops n : Nat} {front labels : List Label}
    (stands : bytesOf front <+: msg.drop i) (spells : Spells msg (i + (bytesOf front).length) labels hops n) :
    Spells msg i (front ++ labels) hops ((bytesOf front).length + n) := by
  induction front generalizing i with
  | nil => simpa using spells
  | cons l front ih =>
    rw [bytesOf_cons,List.length_append,← Nat.add_assoc] at spells
    rw [bytesOf_cons] at stands ⊢
    have first : l.encode <+: msg.drop i := (List.prefix_append _ _).trans stands
    have behind : bytesOf front <+: msg.drop (i + l.encode.length) := by
      rw [← List.drop_drop]
      have dropped := List.IsPrefix.drop stands l.encode.length
      rwa [List.drop_left] at dropped
    have rest := Spells.label first (ih behind spells)
    rwa [List.length_append,Nat.add_assoc]

theorem Written.append {msg : Bytes} {kept : List Kept} (written : Written msg kept) (more : Bytes) :
    Written (msg ++ more) kept := by
  refine ⟨written.short,written.ordered,?_,written.shares,?_,?_⟩
  · intro e member
    rw [List.length_append]
    exact (written.inside e member).trans (Nat.le_add_right _ _)
  · intro e member
    have inside := written.inside e member
    rw [List.drop_append_of_le_length (by omega)]
    exact (written.stands e member).trans (List.prefix_append _ _)
  · intro e member
    obtain ⟨labels,hops,n,spells,same,few⟩ := written.spelled e member
    exact ⟨labels,hops,n,spells.append more,same,few⟩

/-- The bytes before an ending get fewer when the ending grows. -/
theorem bytesBefore_anti (a : List Label) {n m : Nat} (more : n ≤ m) : bytesBefore a m ≤ bytesBefore a n := by
  have front : a.take (a.length - m) <+: a.take (a.length - n) := List.take_prefix_take_left (by omega)
  obtain ⟨rest,whole⟩ := front
  rw [bytesBefore,bytesBefore,← whole,bytesOf_append,List.length_append]
  exact Nat.le_add_right _ _

/-- An ending that begins among the labels that stand at the place of the name. -/
theorem bytesBefore_own {e : Kept} {n : Nat} (begins : e.labels.length - n < e.own.length) :
    bytesBefore e.labels n = (bytesOf (e.own.take (e.labels.length - n))).length := by
  have front : e.labels.take (e.labels.length - n) = e.own.take (e.labels.length - n) :=
    List.take_append_of_le_length begins.le
  rw [bytesBefore,front]

/-- The chosen entry has written out the label to which the pointer leads: otherwise an
    earlier entry would have, and would be just as good. -/
theorem target_owned {msg : Bytes} {kept : List Kept} (written : Written msg kept) {a : List Label} {e : Kept}
    (found : firstBest (fun e => matching a e.labels) (Kept.admits a) none kept = some e) :
    e ∈ kept ∧ 0 < matching a e.labels ∧ e.target a ≤ 0x3fff ∧ e.labels.length - matching a e.labels < e.own.length := by
  obtain ⟨positive,admitted,front,back,rfl,better⟩ := firstBest_spec found
  have near : e.target a ≤ 0x3fff := by simpa [Kept.admits] using admitted
  refine ⟨by simp,positive,near,?_⟩
  obtain ⟨zs,many,ends,ends'⟩ := common_ending (a.map folded) (e.labels.map folded)
  change zs.length = matching a e.labels at many
  have nonempty : zs ≠ [] := List.ne_nil_of_length_pos (by omega)
  have split : (front ++ e :: back).map Kept.entry = front.map Kept.entry ++ e.entry :: back.map Kept.entry := by simp
  have begins : ∀ f : Kept, f.entry.Owns zs → f.labels.length - zs.length < f.own.length := by
    rintro f ⟨inside,less⟩
    have fits := inside.length_le
    simp only [Kept.entry,List.length_map] at less fits
    omega
  rcases owner written.shares split ends' nonempty with owned | ⟨entry,member,owned⟩
  · rw [← many]
    exact begins e owned
  · obtain ⟨f,among,rfl⟩ := List.mem_map.mp member
    exfalso
    have good : matching a e.labels ≤ matching a f.labels := le_common.mpr ⟨zs,many,ends,owned.1⟩
    have order := (List.pairwise_append.mp written.ordered).2.2 f among e List.mem_cons_self
    have early : f.target a ≤ e.index := by
      have shorter := bytesBefore_anti f.labels good
      rw [← many,bytesBefore_own (begins f owned)] at shorter
      have taken : (bytesOf (f.own.take (f.labels.length - zs.length))).length ≤ (bytesOf f.own).length := by
        obtain ⟨rest,whole⟩ := List.take_prefix (f.labels.length - zs.length) f.own
        conv_rhs => rw [← whole,bytesOf_append,List.length_append]
        exact Nat.le_add_right _ _
      rw [Kept.target]
      omega
    have later : e.index ≤ e.target a := Nat.le_add_right _ _
    have worse := better f among (by simp only [Kept.admits,decide_eq_true_eq]; omega)
    omega

theorem Written.concat {msg : Bytes} {kept : List Kept} (written : Written msg kept) {e : Kept}
    (short : (wire e.labels).length ≤ DNSNAMEBUFSIZE)
    (later : ∀ f ∈ kept, f.index + (bytesOf f.own).length ≤ e.index)
    (inside : e.index + (bytesOf e.own).length ≤ msg.length) (stands : bytesOf e.own <+: msg.drop e.index)
    (shares : e.rest ≠ [] → ∃ f ∈ kept, e.rest.map folded <:+ f.labels.map folded)
    (spelled : ∃ labels hops n, Spells msg (e.index + (bytesOf e.own).length) labels hops n ∧
      labels.map folded = e.rest.map folded ∧ hops ≤ e.rest.length) : Written msg (kept ++ [e]) := by
  have all : ∀ {P : Kept → Prop}, (∀ f ∈ kept, P f) → P e → ∀ f ∈ kept ++ [e], P f := by
    intro P old new f member
    rcases List.mem_append.mp member with among | last
    · exact old f among
    · rwa [List.mem_singleton.mp last]
  refine ⟨all written.short short,?_,all written.inside inside,?_,all written.stands stands,all written.spelled spelled⟩
  · rw [List.pairwise_append]
    exact ⟨written.ordered,List.pairwise_singleton _ _,by simpa using later⟩
  · rw [List.map_append]
    apply written.shares.concat
    intro more
    have left : e.rest ≠ [] := by
      rintro nothing
      simp [Kept.entry,Kept.labels,nothing] at more
    obtain ⟨f,member,ends⟩ := shares left
    refine ⟨f.entry,List.mem_map_of_mem member,?_⟩
    have dropped : e.entry.whole.drop e.entry.own = e.rest.map folded := by
      simp [Kept.entry,Kept.labels]
    rwa [dropped]

/-- A pointer to a place below `2 ^ 14`. -/
def pointerBytes (coffs : Nat) : Bytes := [UInt8.ofNat (0xc0 + coffs / 256 % 64),UInt8.ofNat (coffs % 256)]

theorem spells_pointerBytes {msg : Bytes} {i coffs hops n : Nat} {labels : List Label} (near : coffs ≤ 0x3fff)
    (stands : pointerBytes coffs <+: msg.drop i) (spells : Spells msg coffs labels hops n) :
    Spells msg i labels (hops + 1) 2 := by
  obtain ⟨behind,whole⟩ := stands
  have high : msg[i]? = some (UInt8.ofNat (0xc0 + coffs / 256 % 64)) := by
    have first := congrArg (·[0]?) whole
    simpa [pointerBytes] using first.symm
  have low : msg[i + 1]? = some (UInt8.ofNat (coffs % 256)) := by
    have second := congrArg (·[1]?) whole
    simpa [pointerBytes] using second.symm
  have target : (UInt8.ofNat (0xc0 + coffs / 256 % 64)).toNat % 64 * 256 + (UInt8.ofNat (coffs % 256)).toNat = coffs := by
    simp only [UInt8.toNat_ofNat']
    omega
  refine .pointer high low ?_ (by rwa [target])
  simp only [UInt8.toNat_ofNat']
  omega

theorem compress_name_eq {kept : List Kept} {a : List Label} {best : Option Kept} (offs : Nat)
    (short : (wire a).length ≤ DNSNAMEBUFSIZE) (short' : ∀ e ∈ kept, (wire e.labels).length ≤ DNSNAMEBUFSIZE)
    (found : firstBest (fun e => matching a e.labels) (Kept.admits a) none kept = best) :
    compress_name (wire a) offs (kept.map Kept.compel) =
      if 0 < (chosen a best).1 then
        if (wire a).length < (chosen a best).2.1 + 2 then none
        else some ((wire a).take (chosen a best).2.1 ++ pointerBytes (chosen a best).2.2,
          if (chosen a best).2.1 ≠ 0 then kept.map Kept.compel ++ [⟨offs,wire a⟩] else kept.map Kept.compel)
      else some (wire a,kept.map Kept.compel ++ [⟨offs,wire a⟩]) := by
  have enough : a.length < (wire a).length := by
    have labels : a.length ≤ (bytesOf a).length := by
      clear short found
      induction a with
      | nil => exact le_rfl
      | cons l a ih =>
        simp only [bytesOf_cons,List.length_append,List.length_cons,encode_length]
        omega
    rw [wire_length]
    omega
  have length := rhnlen_wire [] a enough
  have searched := search_spec short short' none
  simp only [List.nil_append,List.length_nil,Nat.zero_add] at length
  rw [found,show (chosen a none) = (0,0,0) from rfl] at searched
  rw [compress_name,length]
  simp only [Option.bind_eq_bind,Option.bind_some,if_neg (Nat.not_lt.mpr short),searched,List.take_length]
  rfl

private theorem ending_folded {a : List Label} {zs : List Bytes} (ends : zs <:+ a.map folded) :
    (a.drop (a.length - zs.length)).map folded = zs := by
  rw [List.map_drop,← List.length_map folded]
  exact (List.suffix_iff_eq_drop.mp ends).symm

/-- The pointer leads to labels that end the name, spelled by fewer pointers than labels. -/
theorem target_spelled {msg : Bytes} {kept : List Kept} (written : Written msg kept) {a : List Label} {e : Kept}
    (found : firstBest (fun e => matching a e.labels) (Kept.admits a) none kept = some e) :
    ∃ labels hops n, Spells msg (e.target a) labels hops n ∧ hops + 1 ≤ matching a e.labels ∧
      labels.map folded = (a.drop (a.length - matching a e.labels)).map folded := by
  obtain ⟨member,positive,near,begins⟩ := target_owned written found
  obtain ⟨zs,many,ends,ends'⟩ := common_ending (a.map folded) (e.labels.map folded)
  change zs.length = matching a e.labels at many
  set x := e.own.take (e.labels.length - matching a e.labels)
  set y := e.own.drop (e.labels.length - matching a e.labels)
  have halves : e.own = x ++ y := (List.take_append_drop _ _).symm
  have target : e.target a = e.index + (bytesOf x).length := by rw [Kept.target,bytesBefore_own begins]
  have ending : (y ++ e.rest).map folded = zs := by
    have dropped : e.labels.drop (e.labels.length - matching a e.labels) = y ++ e.rest :=
      List.drop_append_of_le_length begins.le
    rw [← dropped,← many,ending_folded ends']
  obtain ⟨labels,hops,n,spells,same,few⟩ := written.spelled e member
  refine ⟨y ++ labels,hops,(bytesOf y).length + n,?_,?_,?_⟩
  · rw [halves,bytesOf_append,List.length_append,← Nat.add_assoc,← target] at spells
    apply spells_front _ spells
    have dropped := List.IsPrefix.drop (written.stands e member) (bytesOf x).length
    rwa [halves,bytesOf_append,List.drop_left,List.drop_drop,← target] at dropped
  · have counted := congrArg List.length ending
    have left : y ≠ [] := by
      rw [Ne,List.drop_eq_nil_iff]
      omega
    have one := List.length_pos_iff.mpr left
    simp only [List.length_map,List.length_append] at counted
    omega
  · rw [← many,ending_folded ends,← ending,List.map_append,List.map_append,same]

/-- What `compress_name` writes behind a message is never longer than the name and spells it,
    and the dictionary still tells where the names stand. -/
theorem compress_name_spec {msg : Bytes} {kept : List Kept} (written : Written msg kept) {a : List Label}
    (short : (wire a).length ≤ DNSNAMEBUFSIZE) :
    ∃ out kept', compress_name (wire a) msg.length (kept.map Kept.compel) = some (out,kept'.map Kept.compel) ∧
      Written (msg ++ out) kept' ∧ out.length ≤ (wire a).length ∧ ∃ labels hops,
        Spells (msg ++ out) msg.length labels hops out.length ∧ labels.map folded = a.map folded ∧ hops ≤ a.length := by
  have later : ∀ f ∈ kept, f.index + (bytesOf f.own).length ≤ msg.length := written.inside
  rcases found : firstBest (fun e => matching a e.labels) (Kept.admits a) none kept with _ | e
  · -- nothing matches, so the whole name is written out
    have stands : bytesOf a <+: (msg ++ wire a).drop msg.length := by
      rw [List.drop_left]
      exact List.prefix_append _ _
    have last : Spells (msg ++ wire a) (msg.length + (bytesOf a).length) [] 0 1 := .root (by simp [wire])
    refine ⟨wire a,kept ++ [⟨msg.length,a,[]⟩],?_,?_,le_rfl,a,0,?_,rfl,Nat.zero_le _⟩
    · rw [compress_name_eq _ short written.short found]
      simp [chosen,Kept.compel,Kept.labels]
    · apply (written.append (wire a)).concat
      · simpa [Kept.labels] using short
      · exact later
      · simp [wire]
      · exact stands
      · simp
      · exact ⟨[],0,1,last,rfl,le_rfl⟩
    · simpa using spells_front stands last
  · obtain ⟨member,positive,near,-⟩ := target_owned written found
    obtain ⟨labels,hops,n,pointed,few,same⟩ := target_spelled written found
    have within : matching a e.labels ≤ a.length := by
      obtain ⟨zs,many,ends,-⟩ := common_ending (a.map folded) (e.labels.map folded)
      have fits := ends.length_le
      rwa [many,List.length_map] at fits
    set front := a.take (a.length - matching a e.labels)
    set tail := a.drop (a.length - matching a e.labels)
    have whole : a = front ++ tail := (List.take_append_drop _ _).symm
    have count : tail.length = matching a e.labels := by
      rw [List.length_drop]
      omega
    have bytes : wire a = bytesOf front ++ wire tail := by
      conv_lhs => rw [whole,wire,bytesOf_append,List.append_assoc]
      rfl
    have longer : (bytesOf front).length + 2 ≤ (wire a).length := by
      obtain ⟨l,rest,same⟩ := List.exists_cons_of_ne_nil (List.ne_nil_of_length_pos (count.symm ▸ positive))
      have nonempty := l.nonempty
      rw [bytes,List.length_append,same,wire_cons,List.length_append,encode_length]
      omega
    set out := bytesOf front ++ pointerBytes (e.target a)
    have size : out.length = (bytesOf front).length + 2 := by simp [out,pointerBytes]
    have behind : Spells (msg ++ out) (msg.length + (bytesOf front).length) labels (hops + 1) 2 := by
      refine spells_pointerBytes near ?_ (pointed.append out)
      rw [← List.drop_drop,List.drop_left,List.drop_left]
    have placed : bytesOf front <+: (msg ++ out).drop msg.length := by
      rw [List.drop_left]
      exact List.prefix_append _ _
    have equation := compress_name_eq msg.length short written.short found
    rw [show chosen a (some e) = (matching a e.labels,(bytesOf front).length,e.target a) from rfl] at equation
    dsimp only at equation
    rw [if_pos positive,if_neg (by omega),bytes,List.take_left,← bytes] at equation
    refine ⟨out,if front = [] then kept else kept ++ [⟨msg.length,front,tail⟩],?_,?_,by omega,
      front ++ labels,hops + 1,?_,?_,?_⟩
    · rw [equation]
      by_cases empty : front = []
      · simp [empty,out]
      · obtain ⟨l,rest,same⟩ := List.exists_cons_of_ne_nil empty
        have some' : (bytesOf front).length ≠ 0 := by simp [same]
        rw [if_pos some',if_neg empty,List.map_append,List.map_singleton,Kept.compel,Kept.labels,← whole]
    · by_cases empty : front = []
      · rw [if_pos empty]
        exact written.append out
      rw [if_neg empty]
      apply (written.append out).concat
      · rwa [Kept.labels,← whole]
      · exact later
      · simp [out]
      · exact placed
      · intro _
        obtain ⟨zs,many,ends,ends'⟩ := common_ending (a.map folded) (e.labels.map folded)
        refine ⟨e,member,?_⟩
        have ending : tail.map folded = zs := by
          rw [← ending_folded ends,many]
          rfl
        rwa [ending]
      · exact ⟨labels,hops + 1,2,behind,same,by dsimp only; omega⟩
    · rw [size]
      exact spells_front placed behind
    · rw [List.map_append,same,← List.map_append,← whole]
    · have fewer : tail.length ≤ a.length := by rw [count]; exact within
      omega

/-! ### Messages with names in them -/

/-- What is written into a message: a name, or bytes that are not compressed. -/
inductive Item
  | name (labels : List Label)
  | bytes (body : Bytes)

/-- A message that is being written, its dictionary, and where its names begin, how many
    bytes were written for them, and what they are. -/
structure Draft where
  msg : Bytes
  cb : List Compel
  places : List (Nat × Nat × List Label)

def Draft.add (draft : Draft) : Item → Option Draft
  | .bytes body => some {draft with msg := draft.msg ++ body}
  | .name labels => do
    let (out,cb) ← compress_name (wire labels) draft.msg.length draft.cb
    some ⟨draft.msg ++ out,cb,draft.places ++ [(draft.msg.length,out.length,labels)]⟩

def compose (items : List Item) : Option Draft := items.foldlM Draft.add ⟨[],[],[]⟩

def Item.labels? : Item → Option (List Label)
  | .name labels => some labels
  | .bytes _ => none

/-- The dictionary is right, and every name is spelled at its place. -/
structure Draft.Good (draft : Draft) : Prop where
  dictionary : ∃ kept, draft.cb = kept.map Kept.compel ∧ Written draft.msg kept
  spelled : ∀ place ∈ draft.places, place.2.1 ≤ (wire place.2.2).length ∧
    (wire place.2.2).length ≤ DNSNAMEBUFSIZE ∧ ∃ labels hops, Spells draft.msg place.1 labels hops place.2.1 ∧
      labels.map folded = place.2.2.map folded ∧ hops ≤ place.2.2.length

theorem Draft.Good.append {draft : Draft} (good : draft.Good) (body : Bytes) :
    Draft.Good {draft with msg := draft.msg ++ body} := by
  obtain ⟨⟨kept,same,written⟩,spelled⟩ := good
  refine ⟨⟨kept,same,written.append body⟩,?_⟩
  intro place member
  obtain ⟨less,short,labels,hops,spells,rest⟩ := spelled place member
  exact ⟨less,short,labels,hops,spells.append body,rest⟩

/-- One item more. -/
theorem Draft.Good.add {draft : Draft} (good : draft.Good) {item : Item}
    (short : ∀ labels, item = .name labels → (wire labels).length ≤ DNSNAMEBUFSIZE) :
    ∃ next, draft.add item = some next ∧ next.Good ∧
      next.places.map (fun place => place.2.2) = draft.places.map (fun place => place.2.2) ++ item.labels?.toList := by
  cases item with
  | bytes body => exact ⟨_,rfl,good.append body,by simp [Item.labels?]⟩
  | name a =>
    obtain ⟨⟨kept,same,written⟩,spelled⟩ := good
    obtain ⟨out,kept',compressed,written',less,labels,hops,spells,equal,few⟩ := compress_name_spec written (short a rfl)
    refine ⟨⟨draft.msg ++ out,kept'.map Kept.compel,draft.places ++ [(draft.msg.length,out.length,a)]⟩,?_,?_,?_⟩
    · simp [Draft.add,same,compressed]
    · refine ⟨⟨kept',rfl,written'⟩,?_⟩
      intro place member
      rcases List.mem_append.mp member with old | new
      · obtain ⟨less',short',labels',hops',spells',rest⟩ := spelled place old
        exact ⟨less',short',labels',hops',spells'.append out,rest⟩
      · rw [List.mem_singleton.mp new]
        exact ⟨less,short a rfl,labels,hops,spells,equal,few⟩
    · simp [Item.labels?]

theorem Draft.Good.run {draft : Draft} (good : draft.Good) {items : List Item}
    (short : ∀ labels, .name labels ∈ items → (wire labels).length ≤ DNSNAMEBUFSIZE) :
    ∃ final, items.foldlM Draft.add draft = some final ∧ final.Good ∧
      final.places.map (fun place => place.2.2) =
        draft.places.map (fun place => place.2.2) ++ items.filterMap Item.labels? := by
  induction items generalizing draft with
  | nil => exact ⟨draft,rfl,good,by simp⟩
  | cons item items ih =>
    obtain ⟨next,added,good',names⟩ := good.add (fun labels (same : item = .name labels) => short labels (by simp [same]))
    obtain ⟨final,ran,good'',names'⟩ := ih good' (fun labels member => short labels (List.mem_cons_of_mem _ member))
    refine ⟨final,?_,good'',?_⟩
    · simp [List.foldlM_cons,added,ran]
    · rw [names',names,List.append_assoc]
      rcases item with labels | body <;> simp [Item.labels?,List.filterMap_cons]

theorem tolower_length_byte (l : Label) :
    tolower (UInt8.ofNat l.bytes.length) = UInt8.ofNat l.bytes.length := by
  have short := l.short
  rw [tolower,if_neg (by rw [length_byte]; omega)]

theorem wire_folded {a b : List Label} (same : a.map folded = b.map folded) :
    (wire a).map tolower = (wire b).map tolower := by
  induction a generalizing b with
  | nil =>
    rcases b with _ | ⟨l,b⟩
    · rfl
    · simp at same
  | cons l a ih =>
    rcases b with _ | ⟨l',b⟩
    · simp at same
    obtain ⟨head,rest⟩ := List.cons.inj same
    have lengths : l.bytes.length = l'.bytes.length := by rw [← folded_length,head,folded_length]
    rw [wire_cons,wire_cons,List.map_append,List.map_append,ih rest]
    congr 1
    rw [Label.encode,Label.encode,List.map_cons,List.map_cons,tolower_length_byte,tolower_length_byte,lengths]
    exact congrArg _ head

/-! ### Names that are read, compared and written -/

section
variable {msg : Bytes}

/-- Whatever the message, `decompress_name` stays inside it; it returns a name exactly when one
    is spelled within the data. -/
theorem decompress_name_iff (src sz : Nat) :
    decompress_name msg src sz ≠ .error .stray ∧ ∀ src' sz' tgt, decompress_name msg src sz = .ok (src',sz',tgt) ↔
      ∃ labels hops own, Spells msg src labels hops own ∧ hops ≤ 255 ∧ (wire labels).length ≤ DNSNAMEBUFSIZE ∧
        own + sz' = sz ∧ src' = src + own ∧ tgt = wire labels :=
  ⟨decompress_name_spec.1,fun src' sz' tgt => decompress_name_spec.2 (src',sz',tgt)⟩

end

/-- `domain_match` counts the labels of the longest common ending of two names, whatever the
    case of their letters, and tells where that ending begins in each of them. -/
theorem domain_match_longest {a b : List Label} (short : (wire a).length ≤ DNSNAMEBUFSIZE)
    (short' : (wire b).length ≤ DNSNAMEBUFSIZE) :
    ∃ front rest front' rest', a = front ++ rest ∧ b = front' ++ rest' ∧ rest.map folded = rest'.map folded ∧
      domain_match (wire a) (wire b) = some (rest.length,(bytesOf front).length,(bytesOf front').length) ∧
      ∀ other other' : List Label, other <:+ a → other' <:+ b → other.map folded = other'.map folded →
        other.length ≤ rest.length := by
  obtain ⟨zs,many,ends,ends'⟩ := common_ending (a.map folded) (b.map folded)
  have same := ending_folded ends
  have same' := ending_folded ends'
  have size := congrArg List.length same
  rw [List.length_map] at size
  refine ⟨_,_,_,_,(List.take_append_drop (a.length - zs.length) a).symm,
    (List.take_append_drop (b.length - zs.length) b).symm,same.trans same'.symm,?_,?_⟩
  · rw [domain_match_spec short short',size,many]
    simp only [bytesBefore,matching]
  · intro other other' inside inside' equal
    rw [size,many]
    refine le_common.mpr ⟨other.map folded,List.length_map _,inside.map folded,?_⟩
    rw [equal]
    exact inside'.map folded

private def net : Label := ⟨[0x6e,0x65,0x74],by decide,by decide⟩
private def upperNet : Label := ⟨[0x4e,0x65,0x74],by decide,by decide⟩
private def mail : Label := ⟨[0x6d,0x61,0x69,0x6c],by decide,by decide⟩

theorem domain_match_longest_of_net : ∃ front rest front' rest', [mail,net] = front ++ rest ∧
    [upperNet] = front' ++ rest' ∧ rest.map folded = rest'.map folded ∧
    domain_match (wire [mail,net]) (wire [upperNet]) =
      some (rest.length,(bytesOf front).length,(bytesOf front').length) ∧
    ∀ other other' : List Label, other <:+ [mail,net] → other' <:+ [upperNet] → other.map folded = other'.map folded →
      other.length ≤ rest.length :=
  domain_match_longest (by decide) (by decide)

/-- Whatever names and other bytes are written into a message, no assertion fails, no name takes
    more bytes than it has, and each name is read back where it was written, but for the
    case of its letters. -/
theorem decompress_compressed {items : List Item}
    (short : ∀ labels, .name labels ∈ items → (wire labels).length ≤ DNSNAMEBUFSIZE) :
    ∃ draft, compose items = some draft ∧ draft.places.map (fun place => place.2.2) = items.filterMap Item.labels? ∧
      ∀ place ∈ draft.places, place.2.1 ≤ (wire place.2.2).length ∧ ∀ behind sz, place.2.1 ≤ sz →
        ∃ tgt, decompress_name (draft.msg ++ behind) place.1 sz = .ok (place.1 + place.2.1,sz - place.2.1,tgt) ∧
          tgt.map tolower = (wire place.2.2).map tolower := by
  have nothing : Draft.Good ⟨[],[],[]⟩ := by
    refine ⟨⟨[],rfl,by simp,List.Pairwise.nil,by simp,?_,by simp,by simp⟩,by simp⟩
    intro before entry after split
    simp at split
  obtain ⟨draft,ran,good,names⟩ := nothing.run short
  refine ⟨draft,ran,by simpa using names,?_⟩
  intro place member
  obtain ⟨less,short',labels,hops,spells,equal,few⟩ := good.spelled place member
  refine ⟨less,?_⟩
  intro behind sz data
  have same := wire_folded equal
  have size := congrArg List.length same
  simp only [List.length_map] at size
  have many := few_labels short'
  refine ⟨wire labels,?_,same⟩
  exact (decompress_name_spec.2 _).mpr ⟨labels,hops,place.2.1,spells.append behind,by omega,by omega,by omega,rfl,
    rfl⟩

/-- A message with three names, of which the last one is a pointer only. -/
private def letters : List Item := [.bytes [1,2],.name [upperNet],.bytes [3],.name [mail,net],.name [net]]

theorem decompress_compressed_letters :
    ∃ draft, compose letters = some draft ∧ draft.places.map (fun place => place.2.2) = letters.filterMap Item.labels? ∧
      ∀ place ∈ draft.places, place.2.1 ≤ (wire place.2.2).length ∧ ∀ behind sz, place.2.1 ≤ sz →
        ∃ tgt, decompress_name (draft.msg ++ behind) place.1 sz = .ok (place.1 + place.2.1,sz - place.2.1,tgt) ∧
          tgt.map tolower = (wire place.2.2).map tolower := by
  apply decompress_compressed
  intro labels member
  have few : labels = [upperNet] ∨ labels = [mail,net] ∨ labels = [net] := by simpa [letters] using member
  rcases few with rfl | rfl | rfl <;> decide

end WSocks.Compression
