import WSocks.Codebooks
import WSocks.Client

/-!
# A platform

A platform on which the client can be run: for some messages its cipher and its JSON
give what the libraries give, and everything else has some code of its own.
-/

namespace WSocks.Platforms
open WSocks.Codebooks WSocks.Streams WSocks.Endian WSocks.Text WSocks.Buffers WSocks.Libraries WSocks.Messages
  WSocks.Client

def uuid : String := "123e4567-e89b-42d3-a456-426614174000"

theorem canonical_uuid : CanonicalUuid uuid := by
  refine ⟨rfl,?_⟩
  intro k c here
  have inside : k < 36 := (List.getElem?_eq_some_iff.mp here).1
  interval_cases k <;> (cases here; decide)

/-! ### JSON -/

/-- A value as numbers. -/
def numbers : JsonValue → Nat × List Nat
  | .null => (0,[])
  | .string text => (1,text.toList.map Char.toNat)
  | .number value => (2,[value.toUInt32.toNat])
  | .boolean value => (3,[value.toNat])
  | .other tag => (4,[tag])

/-- The value with given numbers. -/
def ofNumbers : Nat × List Nat → JsonValue
  | (1,text) => .string (String.ofList (text.map Char.ofNat))
  | (2,[value]) => .number (Int32.ofNat value)
  | (3,[value]) => .boolean (value = 1)
  | (4,[tag]) => .other tag
  | _ => .null

private theorem ofList_toNat (text : String) : String.ofList ((text.toList.map Char.toNat).map Char.ofNat) = text := by
  simp [Function.comp_def]

private theorem ofNumbers_numbers (value : JsonValue) : ofNumbers (numbers value) = value := by
  cases value with
  | string text => exact congrArg JsonValue.string (ofList_toNat text)
  | number value => cases value; simp [numbers,ofNumbers,Int32.ofNat]
  | boolean value => cases value <;> rfl
  | _ => rfl

def objects : Codebook JsonObject UInt8 where
  table := [
  ([("host",.string "10.0.0.1"),("port",.number 80),("uuid",.string uuid)],
    encodeUtf8 "\x7b\"host\":\"10.0.0.1\",\"port\":80,\"uuid\":\"123e4567-e89b-42d3-a456-426614174000\"\x7d"),
  ([("host",.string "10.0.0.1"),("port",.number (-32768)),("uuid",.string uuid)],
    encodeUtf8 "\x7b\"host\":\"10.0.0.1\",\"port\":-32768,\"uuid\":\"123e4567-e89b-42d3-a456-426614174000\"\x7d"),
  ([("host",.string "example.com"),("uuid",.string uuid)],
    encodeUtf8 "\x7b\"host\":\"example.com\",\"uuid\":\"123e4567-e89b-42d3-a456-426614174000\"\x7d"),
  ([("host",.string "93.184.216.34"),("uuid",.string uuid)],
    encodeUtf8 "\x7b\"host\":\"93.184.216.34\",\"uuid\":\"123e4567-e89b-42d3-a456-426614174000\"\x7d"),
  ([("message",.string "example.com"),("uuid",.string uuid)],
    encodeUtf8 "\x7b\"message\":\"example.com\",\"uuid\":\"123e4567-e89b-42d3-a456-426614174000\"\x7d")]
  mark := [0]
  code json := List.replicate (Encodable.encode (json.map (fun field => (field.1.toList.map Char.toNat,numbers field.2)))) 0
  uncode word := (Encodable.decode (α := List (List Nat × Nat × List Nat)) word.length).map
    (List.map (fun field => (String.ofList (field.1.map Char.ofNat),ofNumbers field.2)))
  uncode_code json := by simp [Function.comp_def,ofNumbers_numbers]
  unmarked := by decide
  distinct := by decide

def json : Json where
  toBuffer := objects.encode
  toJsonObject word :=
    match objects.decode word with
    | some json => .ok json
    | none => .error .decode
  decode_encode json _ := by simp [decode_encode]

/-! ### The cipher -/

def key : Buffer := encodeUtf8 "0123456789abcdef"

/-- What AES makes of some messages with that key. -/
def words : Codebook Buffer UInt8 where
  table := [
  (encodeUtf8 "\x7b\"host\":\"10.0.0.1\",\"port\":80,\"uuid\":\"123e4567-e89b-42d3-a456-426614174000\"\x7d",
    beBytes 80 0x4f27fbcd269a3f02a9033bb2eab5965733561c56fef179bed7cf3ee7c93a488e03294e219ecaa530dae22b327fb5d35c8df39f64e7eb610611fe365501d4b497c6b2c74aace136bba28a18f496974547),
  (encodeUtf8 "\x7b\"host\":\"10.0.0.1\",\"port\":-32768,\"uuid\":\"123e4567-e89b-42d3-a456-426614174000\"\x7d",
    beBytes 80 0x4f27fbcd269a3f02a9033bb2eab59657db8cf07ce81be8c9d3c6fe031070bde3ccd7e32f7f2dc999fc9dfaa5455737680a3cbf2864b365ae608ec53e9b7f326a978684af6bc79d4979eb330d97bee6bb),
  (encodeUtf8 "\x7b\"host\":\"example.com\",\"uuid\":\"123e4567-e89b-42d3-a456-426614174000\"\x7d",
    beBytes 80 0x0a87d0bdf9516dbe58a3b9ec2835fd64d37a7e02e7f7f08e52aca77197c7f0505ac3eba6bb6ddac1d7848a6e83bf5c0445ba514adc54f31cc951d7937d21525cc1f273ea6160148b41e04155dbb53cbc),
  (encodeUtf8 "\x7b\"host\":\"93.184.216.34\",\"uuid\":\"123e4567-e89b-42d3-a456-426614174000\"\x7d",
    beBytes 80 0xb76add5fd4863bf664f38643a02049572ddb5b80758e32bae6bc95f6e608cceca31aa15c868fefab61c0488a1bfe11cc78a4eecd605e5fc111644d5c3ef146cfda84a745a888d7b83ad74ae5c13ae579),
  (encodeUtf8 "\x7b\"message\":\"example.com\",\"uuid\":\"123e4567-e89b-42d3-a456-426614174000\"\x7d",
    beBytes 80 0x58465aa1373db90d9e4cf0e944c0f31154006efb1170ac0d9e647344295d7c435ef3fa3b8397c4ed305588abb1bec6bddcadb99053d9974dd18c88f5751f1305a8907f4c41c47fc04b6055fb6201e779),
  (encodeUtf8 uuid,
    beBytes 48 0x6dd9bc1ac653511050edaafca94e51dea0ecec85cec260c305db8f272fbbc39b85aa878433bb1195330934b24a1af2c6),
  (leBytes 4 36 ++ encodeUtf8 uuid ++ [1,2,3],
    beBytes 48 0xcf39c681a8319abec2d135adb06212316b52de4556e6b377ae910e2d203b43d869abcbc25e1733cff2503f990379dca7),
  (leBytes 4 36 ++ encodeUtf8 uuid ++ [4,5],
    beBytes 48 0xcf39c681a8319abec2d135adb06212316b52de4556e6b377ae910e2d203b43d81b0a9a7082a9b6aa1c09739daa8d270b)]
  mark := [0]
  code text := text
  uncode := some
  uncode_code _ := rfl
  unmarked := by decide +kernel
  distinct := by decide +kernel

def cipher : Cipher where
  encrypt raw iv text := if raw = key ∧ iv = Aes.iv then words.encode text else text
  decrypt raw iv word :=
    if raw = key ∧ iv = Aes.iv then
      match words.decode word with
      | some text => .ok text
      | none => .error .badPadding
    else .ok word
  decrypt_encrypt raw iv text _ := by split <;> simp [decode_encode]

/-! ### Compression -/

/-- Every byte behind a 1, and a 0 at the end. -/
def store (data : Buffer) : Buffer := data.flatMap (fun b => [1,b]) ++ [0]

/-- Reads one byte of what was stored; a stream that has ended is `none`. -/
def unstore : Option Buffer → Nat → Except Failure (Buffer × Option Buffer)
  | some (1 :: b :: rest),_ + 1 => .ok ([b],some rest)
  | some (0 :: _),_ => .ok ([],none)
  | some [1],_ => .ok ([],some [1])
  | some [],_ => .ok ([],some [])
  | none,_ => .ok ([],none)
  | some (_ :: _),_ => .error .dataFormat

/-- Writes one byte. -/
def emit : Option Buffer → Nat → Buffer × Option Buffer
  | some (b :: rest),_ + 1 => ([b],some rest)
  | _,_ => ([],none)

def deflater : Deflater where
  Stream := Option Buffer
  setInput data := some (store data)
  finished := Option.isNone
  deflate := emit
  deflate_length stream size := by rcases stream with _ | _ | _ <;> rcases size with _ | size <;> simp [emit]

def inflater : Inflater where
  Stream := Option Buffer
  setInput := some
  finished := Option.isNone
  inflate := unstore
  starved stream := stream = some [] ∨ stream = some [1]
  remaining stream := (stream.map (fun rest => rest.length + 1)).getD 0
  inflate_length stream size chunk next read := by
    rw [unstore.eq_def] at read
    split at read <;> cases read <;> simp
  inflate_starved stream size running starved := by
    rcases of_decide_eq_true starved with rfl | rfl <;> cases size <;> rfl
  inflate_progress stream size chunk next positive running fed read := by
    rw [unstore.eq_def] at read
    split at read <;> cases read <;> simp at running fed ⊢

private theorem emits_emit (packed : Buffer) {size : Nat} (positive : 0 < size) :
    Emits (deflater.source size) (some packed : Option Buffer) packed := by
  obtain ⟨size,rfl⟩ := Nat.exists_eq_add_of_lt positive
  induction packed with
  | nil =>
    change Emits _ _ ([] ++ [])
    exact .more rfl rfl (.done rfl)
  | cons b rest ih =>
    change Emits _ _ ([b] ++ rest)
    exact .more rfl rfl ih

private theorem emits_unstore (data : Buffer) {size : Nat} (positive : 0 < size) :
    Emits (inflater.source size) (some (store data) : Option Buffer) data := by
  obtain ⟨size,rfl⟩ := Nat.exists_eq_add_of_lt positive
  induction data with
  | nil =>
    change Emits _ _ ([] ++ [])
    exact .more rfl rfl (.done rfl)
  | cons b rest ih =>
    change Emits _ _ ([b] ++ rest)
    exact .more rfl rfl ih

def zip : Zip where
  deflater := deflater
  inflater := inflater
  inflates data := ⟨store data,fun _ positive => ⟨emits_emit _ positive,emits_unstore data positive⟩⟩

/-! ### The client on the platform -/

def platform : Platform where
  cipher := cipher
  zip := zip
  json := json
  lookup _ := none
  closeAgain := .error .illegalState

def env : Env := ⟨platform,⟨"user","0123456789abcdef",key,false,0⟩⟩

theorem aesKey_key : AesKey env.userInfo.key := by decide

/-- No random bytes are used: the offset is 0. -/
def draw : Draw := ⟨uuid,fun _ => 0⟩

end WSocks.Platforms
