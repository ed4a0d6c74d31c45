import WSocks.Platforms
import WSocks.Handlers
import WSocks.Launcher

/-!
# The key of a user

The key is the password in UTF-8, padded when it is too short and used as it is when it
is not. So AES accepts the keys of short passwords and of two lengths besides.
-/

namespace WSocks.Keys
open WSocks.Effects WSocks.Text WSocks.Buffers WSocks.Libraries WSocks.Messages WSocks.Client WSocks.Handlers
open WSocks.Launcher (Arguments)

/-- What `fromJson` makes of the bytes of a password. -/
def padKey (array : Buffer) : Buffer :=
  if 16 > array.length then array ++ List.replicate (16 - array.length) 0x06 else array

/-- `fromJson`. A missing password cannot be cast to a text, a missing name is no argument. -/
def fromJson (json : JsonObject) : Except Failure UserInfo := do
  let pass ← json.getString "pass"
  let array ←
    match pass with
    | some text => .ok (encodeUtf8 text)
    | none => .error .classCast
  let raw := padKey array
  let username ← json.getString "user"
  let password ← json.getString "pass"
  let doZip ← json.getBoolean "zip"
  let offset ← json.getInteger "offset"
  let _multiple ← json.getBoolean "multiple"
  let _limit ← json.getInteger "limit"
  match username,password with
  | some username,some password => return ⟨username,password,raw,doZip.getD false,(offset.getD 0).toInt⟩
  | _,_ => .error .illegalState

/-- The configuration that the launcher makes is complete. -/
theorem fromJson_config (arguments : Arguments) :
    fromJson arguments.config = .ok ⟨arguments.user,arguments.pass,padKey (encodeUtf8 arguments.pass),arguments.doZip,
      arguments.offset.toInt⟩ := rfl

/-- AES accepts the key, nothing that is encrypted fails, and every local event sends its
    message: a request for a connection, application data and a DNS query. -/
structure KeyWorks (env : Env) : Prop where
  key : AesKey env.userInfo.key
  encrypts : ∀ value doZip, ∃ encrypted, Aes.encrypt env.platform value env.userInfo.key doZip = pure encrypted
  connects : ∀ draw world w uuid s host port, Online world w → 0 ≤ env.userInfo.offset →
    ∃ m, (tryConnect env draw uuid s host port).run world = some (.ok (),world.connect uuid s,[.send w m])
  relays : ∀ draw world w uuid buffer, Online world w → 0 ≤ env.userInfo.offset →
    ∃ m, (relay env draw uuid buffer).run world = some (.ok (),world,[.send w m])
  asks : ∀ draw world w s buffer name, Online world w → 0 ≤ env.userInfo.offset → getName buffer 14 "" = .ok name →
    ∃ m, (handleQuery env draw s buffer).run world = some (.ok (),world.ask draw.uuid s buffer,[.send w m])

/-- A message that is made goes out. -/
private theorem sent_of_key {env : Env} {flag : Flag} {body : Buffer} {message : Except Failure Buffer} {world : World}
    {w : WebSocketId} (valid : AesKey env.userInfo.key) (draw : Draw)
    (made : (packMessage env.platform env.userInfo flag body).run = some message) (online : Online world w)
    (nonneg : 0 ≤ env.userInfo.offset) : ∃ m, transmission env draw world message = (.ok (),[.send w m]) := by
  obtain ⟨message',made',accepted⟩ := packMessage_run env flag body
  obtain rfl := Option.some.inj (made.symm.trans made')
  obtain ⟨frame,rfl⟩ := accepted.mpr valid
  exact ⟨_,transmission_online online nonneg draw frame⟩

/-- All that a key must do follows from its length. -/
theorem keyWorks_of_key {env : Env} (valid : AesKey env.userInfo.key) : KeyWorks env := by
  constructor
  · exact valid
  · intro value doZip
    obtain ⟨encrypted,made,-⟩ := decrypt_encrypt env.platform valid value doZip
    exact ⟨encrypted,made⟩
  · intro draw world w uuid s host port online nonneg
    obtain ⟨message,made⟩ := clientConnect_run env uuid host port
    obtain ⟨m,sent⟩ := sent_of_key valid draw made online nonneg
    exact ⟨m,by rw [tryConnect_run env draw uuid s host port world made,sent]⟩
  · intro draw world w uuid buffer online nonneg
    obtain ⟨message,made⟩ := rawData_run env uuid buffer
    obtain ⟨m,sent⟩ := sent_of_key valid draw made online nonneg
    exact ⟨m,by rw [relay_run env draw uuid buffer world made,sent]⟩
  · intro draw world w s buffer name online nonneg named
    rcases handleQuery_run env draw s buffer world with ⟨failure,unnamed,-⟩ | ⟨offset,sb,message,-,made,ran⟩
    · rw [named] at unnamed
      cases unnamed
    · obtain ⟨m,sent⟩ := sent_of_key valid draw made online nonneg
      exact ⟨m,by rw [ran,sent]⟩

/-- Passwords of at most 16 bytes are made 16 bytes long, all others stay as they are. -/
theorem padKey_length (array : Buffer) : (padKey array).length = max 16 array.length := by
  unfold padKey
  by_cases short : 16 > array.length
  · rw [if_pos short,List.length_append,List.length_replicate]
    omega
  · rw [if_neg short]
    omega

/-- The key made of a password works exactly when the password has at most 16 bytes in
    UTF-8, or 24, or 32. -/
theorem key_works_iff (platform : Platform) (arguments : Arguments) :
    ∃ userInfo, fromJson arguments.config = .ok userInfo ∧
      (KeyWorks ⟨platform,userInfo⟩ ↔ (encodeUtf8 arguments.pass).length ≤ 16 ∨
        (encodeUtf8 arguments.pass).length = 24 ∨ (encodeUtf8 arguments.pass).length = 32) := by
  refine ⟨_,fromJson_config arguments,?_⟩
  have lengths := padKey_length (encodeUtf8 arguments.pass)
  constructor
  · intro works
    rcases works.key with same | same | same <;>
      (have length := lengths.symm.trans same
       omega)
  · intro short
    refine keyWorks_of_key ?_
    show (padKey (encodeUtf8 arguments.pass)).length = 16 ∨ (padKey (encodeUtf8 arguments.pass)).length = 24 ∨
      (padKey (encodeUtf8 arguments.pass)).length = 32
    omega

/-- A password of 17 letters gives a key that AES refuses. -/
theorem long_password_refused : ∃ userInfo,
    fromJson (Arguments.config ⟨"10.0.0.1",1888,"user","12345678901234567",0,false⟩) = .ok userInfo ∧
    userInfo.key.length = 17 ∧ ¬ KeyWorks ⟨Platforms.platform,userInfo⟩ := by
  refine ⟨_,rfl,by decide,?_⟩
  rintro ⟨key,-,-,-,-⟩
  revert key
  decide

end WSocks.Keys
