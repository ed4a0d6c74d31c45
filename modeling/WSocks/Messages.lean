import WSocks.Libraries

/-!
# Messages

The messages between the proxy and its server: a little-endian type tag and an
encrypted, optionally compressed body. Every class of `me.wooy.proxy.data` has
its `create` function and its constructor, which reads what `create` wrote.
-/

namespace WSocks.Messages
open WSocks.Streams WSocks.Effects WSocks.Text WSocks.Buffers WSocks.Libraries WSocks.Endian

/-- `UserInfo`. -/
structure UserInfo where
  username : String
  password : String
  key : Buffer
  doZip : Bool
  offset : Int
  deriving DecidableEq

/-- `Flag`; its `ordinal` is the tag of a message. -/
inductive Flag
  | CONNECT
  | CONNECT_SUCCESS
  | EXCEPTION
  | RAW
  | HTTP
  | UDP
  | DNS
  deriving DecidableEq

def Flag.ordinal : Flag → Int32
  | .CONNECT => 0
  | .CONNECT_SUCCESS => 1
  | .EXCEPTION => 2
  | .RAW => 3
  | .HTTP => 4
  | .UDP => 5
  | .DNS => 6

/-! ### Compression and encryption -/

/-- `Zlib.compress`: deflates into a buffer of 1024 bytes until the stream is finished. -/
def Zlib.compress (platform : Platform) (data : Buffer) : Attempt Failure Buffer :=
  ExceptT.mk ((platform.zip.deflater.source 1024).drain (platform.zip.deflater.setInput data) [])

/-- `Zlib.decompress`: inflates into a buffer of 1024 bytes until the stream is finished. -/
def Zlib.decompress (platform : Platform) (data : Buffer) : Attempt Failure Buffer :=
  ExceptT.mk ((platform.zip.inflater.source 1024).drain (platform.zip.inflater.setInput data) [])

/-- `Aes.iv`. -/
def Aes.iv : Buffer := List.replicate 16 0x05

/-- `new SecretKeySpec(raw, "AES")` and `cipher.init` with it. -/
def Aes.init (raw : Buffer) : Except Failure Buffer :=
  if raw = [] then .error .illegalArgument
  else if AesKey raw then .ok raw
  else .error .invalidKey

/-- `Aes.encrypt`. -/
def Aes.encrypt (platform : Platform) (value raw : Buffer) (doZip : Bool) : Attempt Failure Buffer := do
  let key ← Aes.init raw
  if doZip then
    let packed ← Zlib.compress platform value
    return platform.cipher.encrypt key Aes.iv packed
  return platform.cipher.encrypt key Aes.iv value

/-- `Aes.decrypt`. -/
def Aes.decrypt (platform : Platform) (encrypted raw : Buffer) (doZip : Bool) : Attempt Failure Buffer := do
  let key ← Aes.init raw
  let value ← platform.cipher.decrypt key Aes.iv encrypted
  if doZip then Zlib.decompress platform value else return value

theorem compress_decompress (platform : Platform) (data : Buffer) :
    ∃ packed, Zlib.compress platform data = pure packed ∧ Zlib.decompress platform packed = pure data := by
  obtain ⟨packed,emits⟩ := platform.zip.inflates data
  obtain ⟨deflated,inflated⟩ := emits 1024 (by omega)
  refine ⟨packed,?_,?_⟩
  · exact congrArg ExceptT.mk (drain_of_emits deflated [])
  · exact congrArg ExceptT.mk (drain_of_emits inflated [])

theorem init_ok {raw : Buffer} (valid : AesKey raw) : Aes.init raw = .ok raw := by
  have nonempty : raw ≠ [] := by rintro rfl; simp [AesKey] at valid
  rw [Aes.init,if_neg nonempty,if_pos valid]

theorem init_error {raw : Buffer} (invalid : ¬ AesKey raw) : ∃ failure, Aes.init raw = .error failure := by
  by_cases empty : raw = []
  · exact ⟨_,if_pos empty⟩
  · exact ⟨_,by rw [Aes.init,if_neg empty,if_neg invalid]⟩

/-- With a key that AES accepts, decrypting gives back what was encrypted. -/
theorem decrypt_encrypt (platform : Platform) {raw : Buffer} (valid : AesKey raw) (value : Buffer) (doZip : Bool) :
    ∃ encrypted, Aes.encrypt platform value raw doZip = pure encrypted ∧
      Aes.decrypt platform encrypted raw doZip = pure value := by
  cases doZip with
  | false =>
    refine ⟨platform.cipher.encrypt raw Aes.iv value,by simp [Aes.encrypt,init_ok valid],?_⟩
    simp [Aes.decrypt,init_ok valid,platform.cipher.decrypt_encrypt raw Aes.iv value valid]
  | true =>
    obtain ⟨packed,compressed,decompressed⟩ := compress_decompress platform value
    refine ⟨platform.cipher.encrypt raw Aes.iv packed,by simp [Aes.encrypt,init_ok valid,compressed],?_⟩
    simp [Aes.decrypt,init_ok valid,platform.cipher.decrypt_encrypt raw Aes.iv packed valid,decompressed]

/-- With any other key nothing is encrypted. -/
theorem encrypt_invalid (platform : Platform) {raw : Buffer} (invalid : ¬ AesKey raw) (value : Buffer)
    (doZip : Bool) : ∃ failure, Aes.encrypt platform value raw doZip = throw failure := by
  obtain ⟨failure,refused⟩ := init_error invalid
  exact ⟨failure,by simp [Aes.encrypt,refused]⟩

/-! ### Packed messages -/

/-- What every `create` does: the tag, then the encrypted body. -/
def packMessage (platform : Platform) (userInfo : UserInfo) (flag : Flag) (body : Buffer) : Attempt Failure Buffer := do
  let encrypted ← Aes.encrypt platform body userInfo.key userInfo.doZip
  return appendIntLE [] flag.ordinal ++ encrypted

/-- What every constructor begins with: the body decrypted from behind the tag. -/
def unpackMessage (platform : Platform) (userInfo : UserInfo) (buffer : Buffer) : Attempt Failure Buffer := do
  let encrypted ← getBytes buffer 4 buffer.length
  Aes.decrypt platform encrypted userInfo.key userInfo.doZip

/-- What `create` writes has its tag in front and its body behind it. -/
def Packed (platform : Platform) (userInfo : UserInfo) (flag : Flag) (body frame : Buffer) : Prop :=
  getIntLE frame 0 = .ok flag.ordinal ∧ unpackMessage platform userInfo frame = pure body ∧ 4 ≤ frame.length

theorem packMessage_ok (platform : Platform) {userInfo : UserInfo} (valid : AesKey userInfo.key) (flag : Flag)
    (body : Buffer) :
    ∃ frame, packMessage platform userInfo flag body = pure frame ∧ Packed platform userInfo flag body frame := by
  obtain ⟨encrypted,packed,unpacked⟩ := decrypt_encrypt platform valid body userInfo.doZip
  refine ⟨appendIntLE [] flag.ordinal ++ encrypted,by simp [packMessage,packed],getIntLE_appendIntLE _ _,?_,?_⟩
  · have behind := getBytes_between (appendIntLE [] flag.ordinal) encrypted [] (i := 4)
      (j := (appendIntLE [] flag.ordinal ++ encrypted).length) (by simp [appendIntLE]) (by simp)
    rw [List.append_nil] at behind
    simp only [unpackMessage,behind,attempt_lift_ok,pure_bind,unpacked]
  · simp [appendIntLE]

theorem packMessage_invalid (platform : Platform) {userInfo : UserInfo} (invalid : ¬ AesKey userInfo.key) (flag : Flag)
    (body : Buffer) : ∃ failure, packMessage platform userInfo flag body = throw failure := by
  obtain ⟨failure,refused⟩ := encrypt_invalid platform invalid body userInfo.doZip
  exact ⟨failure,by simp [packMessage,refused]⟩

/-! ### The classes of `me.wooy.proxy.data` -/

/-- `ClientConnect`: its getters read the decoded object. -/
structure ClientConnect where
  json : JsonObject

def ClientConnect.host (message : ClientConnect) : Except Failure (Option String) := message.json.getString "host"
def ClientConnect.port (message : ClientConnect) : Except Failure (Option Int32) := message.json.getInteger "port"
def ClientConnect.uuid (message : ClientConnect) : Except Failure (Option String) := message.json.getString "uuid"

def ClientConnect.create (platform : Platform) (userInfo : UserInfo) (uuid host : String) (port : Int32) :
    Attempt Failure Buffer :=
  packMessage platform userInfo .CONNECT (platform.json.toBuffer
    (((JsonObject.put [] "host" (.string host)).put "port" (.number port)).put "uuid" (.string uuid)))

def ClientConnect.ofBuffer (platform : Platform) (userInfo : UserInfo) (buffer : Buffer) :
    Attempt Failure ClientConnect := do
  let decrypted ← unpackMessage platform userInfo buffer
  let json ← platform.json.toJsonObject decrypted
  return ⟨json⟩

/-- `ConnectSuccess`. -/
structure ConnectSuccess where
  uuid : String

def ConnectSuccess.create (platform : Platform) (userInfo : UserInfo) (uuid : String) : Attempt Failure Buffer :=
  packMessage platform userInfo .CONNECT_SUCCESS (encodeUtf8 uuid)

def ConnectSuccess.ofBuffer (platform : Platform) (userInfo : UserInfo) (buffer : Buffer) :
    Attempt Failure ConnectSuccess := do
  let decrypted ← unpackMessage platform userInfo buffer
  return ⟨decodeUtf8 decrypted⟩

/-- `Exception`: its getters read the decoded object. -/
structure Exception where
  json : JsonObject

def Exception.message (e : Exception) : Except Failure (Option String) := e.json.getString "message"
def Exception.uuid (e : Exception) : Except Failure (Option String) := e.json.getString "uuid"

def Exception.create (platform : Platform) (userInfo : UserInfo) (uuid message : String) : Attempt Failure Buffer :=
  packMessage platform userInfo .EXCEPTION (platform.json.toBuffer
    ((JsonObject.put [] "message" (.string message)).put "uuid" (.string uuid)))

def Exception.ofBuffer (platform : Platform) (userInfo : UserInfo) (buffer : Buffer) :
    Attempt Failure Exception := do
  let decrypted ← unpackMessage platform userInfo buffer
  let json ← platform.json.toJsonObject decrypted
  return ⟨json⟩

/-- `RawData`. -/
structure RawData where
  uuid : String
  data : Buffer

/-- The length in front of the uuid counts UTF-16 units, the bytes behind it are UTF-8. -/
def RawData.create (platform : Platform) (userInfo : UserInfo) (uuid : String) (data : Buffer) :
    Attempt Failure Buffer :=
  packMessage platform userInfo .RAW
    (appendIntLE [] (Int32.ofNat (utf16Length uuid)) ++ encodeUtf8 uuid ++ data)

def RawData.ofBuffer (platform : Platform) (userInfo : UserInfo) (buffer : Buffer) : Attempt Failure RawData := do
  let decrypted ← unpackMessage platform userInfo buffer
  let uuidLength ← getIntLE decrypted 0
  let uuid ← getString decrypted 4 (4 + uuidLength.toInt)
  let data ← getBuffer decrypted (4 + uuidLength.toInt) decrypted.length
  return ⟨uuid,data⟩

/-- `DnsQuery`: the host is read at once, the uuid by a getter. -/
structure DnsQuery where
  json : JsonObject
  host : Option String

def DnsQuery.uuid (query : DnsQuery) : Except Failure (Option String) := query.json.getString "uuid"

def DnsQuery.create (platform : Platform) (userInfo : UserInfo) (uuid host : String) : Attempt Failure Buffer :=
  packMessage platform userInfo .DNS (platform.json.toBuffer
    ((JsonObject.put [] "host" (.string host)).put "uuid" (.string uuid)))

def DnsQuery.ofBuffer (platform : Platform) (userInfo : UserInfo) (buffer : Buffer) : Attempt Failure DnsQuery := do
  let decrypted ← unpackMessage platform userInfo buffer
  let json ← platform.json.toJsonObject decrypted
  let host ← json.getString "host"
  return ⟨json,host⟩

/-! ### What `create` writes, the constructor reads -/

section RoundTrip
variable (platform : Platform) {userInfo : UserInfo}

theorem clientConnect_ofBuffer_create (valid : AesKey userInfo.key) (uuid host : String) (port : Int32) :
    ∃ frame message, ClientConnect.create platform userInfo uuid host port = pure frame ∧ 4 ≤ frame.length ∧
      getIntLE frame 0 = .ok Flag.CONNECT.ordinal ∧
      ClientConnect.ofBuffer platform userInfo frame = pure message ∧
      message.host = .ok (some host) ∧ message.port = .ok (some port) ∧ message.uuid = .ok (some uuid) := by
  let json : JsonObject := [("host",.string host),("port",.number port),("uuid",.string uuid)]
  obtain ⟨frame,written,tag,body,long⟩ :=
    packMessage_ok platform valid .CONNECT (platform.json.toBuffer json)
  have decoded := platform.json.decode_encode json (by simp [json])
  exact ⟨frame,⟨json⟩,written,long,tag,by simp [ClientConnect.ofBuffer,body,decoded],rfl,rfl,rfl⟩

theorem connectSuccess_ofBuffer_create (valid : AesKey userInfo.key) (uuid : String) :
    ∃ frame, ConnectSuccess.create platform userInfo uuid = pure frame ∧ 4 ≤ frame.length ∧
      getIntLE frame 0 = .ok Flag.CONNECT_SUCCESS.ordinal ∧
      ConnectSuccess.ofBuffer platform userInfo frame = pure ⟨uuid⟩ := by
  obtain ⟨frame,written,tag,body,long⟩ := packMessage_ok platform valid .CONNECT_SUCCESS (encodeUtf8 uuid)
  exact ⟨frame,written,long,tag,by simp [ConnectSuccess.ofBuffer,body]⟩

/-- The uuid survives because it is ASCII: only then do both lengths agree. -/
theorem rawData_ofBuffer_create (valid : AesKey userInfo.key) {uuid : String} (canonical : CanonicalUuid uuid)
    (data : Buffer) :
    ∃ frame, RawData.create platform userInfo uuid data = pure frame ∧ 4 ≤ frame.length ∧
      getIntLE frame 0 = .ok Flag.RAW.ordinal ∧ RawData.ofBuffer platform userInfo frame = pure ⟨uuid,data⟩ := by
  obtain ⟨sameLength,length⟩ := utf16Length_ascii canonical.ascii
  rw [canonical.1] at length
  obtain ⟨frame,written,tag,body,long⟩ := packMessage_ok platform valid .RAW
    (appendIntLE [] (Int32.ofNat (utf16Length uuid)) ++ encodeUtf8 uuid ++ data)
  refine ⟨frame,written,long,tag,?_⟩
  rw [length] at body sameLength
  have prefixLength := getIntLE_appendIntLE (Int32.ofNat 36) (encodeUtf8 uuid ++ data)
  rw [← List.append_assoc] at prefixLength
  have four : (appendIntLE [] (Int32.ofNat 36)).length = 4 := by simp [appendIntLE]
  have name := getBytes_between (appendIntLE [] (Int32.ofNat 36)) (encodeUtf8 uuid) data (i := 4)
    (j := 40) (by rw [four]; rfl) (by rw [four,← sameLength]; rfl)
  have rest := getBytes_between (appendIntLE [] (Int32.ofNat 36) ++ encodeUtf8 uuid) data [] (i := 40)
    (j := (appendIntLE [] (Int32.ofNat 36) ++ encodeUtf8 uuid ++ data).length)
    (by rw [List.length_append,four,← sameLength]; rfl) (by simp only [List.length_append]; push_cast; ring)
  rw [List.append_nil] at rest
  simp only [RawData.ofBuffer,body,pure_bind,prefixLength,attempt_lift_ok,getString,getBuffer,
    show (4 : Int) + (Int32.ofNat 36).toInt = 40 from rfl,name,rest,Except.map,decodeUtf8_encodeUtf8]

theorem dnsQuery_ofBuffer_create (valid : AesKey userInfo.key) (uuid host : String) :
    ∃ frame query, DnsQuery.create platform userInfo uuid host = pure frame ∧ 4 ≤ frame.length ∧
      getIntLE frame 0 = .ok Flag.DNS.ordinal ∧ DnsQuery.ofBuffer platform userInfo frame = pure query ∧
      query.host = some host ∧ query.uuid = .ok (some uuid) := by
  let json : JsonObject := [("host",.string host),("uuid",.string uuid)]
  obtain ⟨frame,written,tag,body,long⟩ := packMessage_ok platform valid .DNS (platform.json.toBuffer json)
  have decoded := platform.json.decode_encode json (by simp [json])
  have hostRead : json.getString "host" = .ok (some host) := rfl
  exact ⟨frame,⟨json,some host⟩,written,long,tag,by simp [DnsQuery.ofBuffer,body,decoded,hostRead],rfl,rfl⟩

end RoundTrip

/-! ### What the server receives -/

/-- A message to the server, read with the constructors of the same classes. -/
inductive Upstream
  | connect (host : Option String) (port : Option Int32) (uuid : Option String)
  | raw (uuid : String) (data : Buffer)
  | dns (host uuid : Option String)
  deriving DecidableEq

/-- Strips the offset and reads the message behind it. -/
def Upstream.receive (platform : Platform) (userInfo : UserInfo) (message : Buffer) : Attempt Failure Upstream := do
  let buffer ← getBuffer message userInfo.offset message.length
  let tag ← getIntLE buffer 0
  if tag = Flag.CONNECT.ordinal then
    let connect ← ClientConnect.ofBuffer platform userInfo buffer
    return .connect (← connect.host) (← connect.port) (← connect.uuid)
  else if tag = Flag.RAW.ordinal then
    let raw ← RawData.ofBuffer platform userInfo buffer
    return .raw raw.uuid raw.data
  else if tag = Flag.DNS.ordinal then
    let query ← DnsQuery.ofBuffer platform userInfo buffer
    return .dns query.host (← query.uuid)
  else throw .illegalArgument

/-- The message that the server makes of a websocket message, if it can read it. -/
def upstream? (platform : Platform) (userInfo : UserInfo) (message : Buffer) : Option Upstream :=
  match (Upstream.receive platform userInfo message).run with
  | some (.ok received) => some received
  | _ => none

section Received
variable (platform : Platform) {userInfo : UserInfo} {pad : Buffer}

/-- As many bytes in front as the offset are stripped. -/
theorem getBuffer_behind (strips : userInfo.offset = pad.length) (frame : Buffer) :
    getBuffer (pad ++ frame) userInfo.offset (pad ++ frame).length = .ok frame := by
  have read := getBytes_between pad frame [] strips (j := (pad ++ frame).length) (by simp)
  rwa [List.append_nil] at read

theorem upstream?_connect (valid : AesKey userInfo.key) (strips : userInfo.offset = pad.length)
    (uuid host : String) (port : Int32) :
    ∃ frame, ClientConnect.create platform userInfo uuid host port = pure frame ∧
      upstream? platform userInfo (pad ++ frame) = some (.connect (some host) (some port) (some uuid)) := by
  obtain ⟨frame,message,written,-,tag,read,host',port',uuid'⟩ :=
    clientConnect_ofBuffer_create platform valid uuid host port
  refine ⟨frame,written,?_⟩
  rw [upstream?,Upstream.receive,getBuffer_behind strips]
  simp [tag,read,host',port',uuid']

theorem upstream?_raw (valid : AesKey userInfo.key) (strips : userInfo.offset = pad.length) {uuid : String}
    (canonical : CanonicalUuid uuid) (data : Buffer) :
    ∃ frame, RawData.create platform userInfo uuid data = pure frame ∧
      upstream? platform userInfo (pad ++ frame) = some (.raw uuid data) := by
  obtain ⟨frame,written,-,tag,read⟩ := rawData_ofBuffer_create platform valid canonical data
  refine ⟨frame,written,?_⟩
  rw [upstream?,Upstream.receive,getBuffer_behind strips]
  simp [tag,read,Flag.ordinal]

theorem upstream?_dns (valid : AesKey userInfo.key) (strips : userInfo.offset = pad.length) (uuid host : String) :
    ∃ frame, DnsQuery.create platform userInfo uuid host = pure frame ∧
      upstream? platform userInfo (pad ++ frame) = some (.dns (some host) (some uuid)) := by
  obtain ⟨frame,query,written,-,tag,read,host',uuid'⟩ := dnsQuery_ofBuffer_create platform valid uuid host
  refine ⟨frame,written,?_⟩
  rw [upstream?,Upstream.receive,getBuffer_behind strips]
  simp [tag,read,host',uuid',Flag.ordinal]

end Received

end WSocks.Messages
