import WSocks.Handlers
import WSocks.Platforms

/-!
# The wire format

What one side packs with `create`, behind as many bytes as the offset, the other
side takes apart again: every message reaches the handler of its own kind with
the fields it was made of.
-/

namespace WSocks.Wire
open WSocks.Effects WSocks.Text WSocks.Buffers WSocks.Libraries WSocks.Messages WSocks.Client WSocks.Handlers

/-- A frame with as many bytes in front of it as the offset. -/
def Prefixed (env : Env) (frame message : Buffer) : Prop :=
  ∃ front : Buffer, env.userInfo.offset = front.length ∧ message = front ++ frame

/-- `writeBinaryMessageWithOffset` sends a frame in that form and in no other. -/
theorem writeBinaryMessageWithOffset_prefixed (env : Env) (draw : Draw) (w : WebSocketId) (frame : Buffer)
    (world : World) :
    (writeBinaryMessageWithOffset env draw w frame).Ensures world (fun _ next outputs =>
      next = world ∧ ∀ o ∈ outputs, ∃ message, o = .send w message ∧ Prefixed env frame message) := by
  intro result next outputs ran
  rw [writeBinaryMessageWithOffset_run] at ran
  split_ifs at ran with negative isOpen
  · cases ran; simp
  · cases ran
    simpa using ⟨pad env draw,pad_length draw (not_lt.mp negative),rfl⟩
  · cases ran; simp

section Receive
variable {env : Env} {frame message : Buffer}

/-- The bytes in front are stripped, however many they are. -/
theorem receive_prefixed (prefixed : Prefixed env frame message) (long : 4 ≤ frame.length) :
    receive env message = receiveTagged env frame := by
  obtain ⟨front,strips,rfl⟩ := prefixed
  have enough : ¬ (front ++ frame).length < 4 := by simp; omega
  by_cases shifted : env.userInfo.offset ≠ 0
  · rw [receive,if_neg enough,if_pos shifted,getBuffer_behind strips]
    simp
  · push Not at shifted
    obtain rfl : front = [] := by rw [shifted] at strips; simpa using strips.symm
    rw [receive,if_neg enough,if_neg (by simp [shifted]),List.nil_append]

theorem received?_prefixed (prefixed : Prefixed env frame message) {r : Received}
    (readable : 4 ≤ frame.length ∧ receiveTagged env frame = pure r) : received? env message = some r := by
  rw [received?,receive_prefixed prefixed readable.1,readable.2]
  rfl

end Receive

section Readable
variable {env : Env} (valid : AesKey env.userInfo.key)
include valid

theorem connectSuccess_readable (uuid : String) :
    ∃ frame, ConnectSuccess.create env.platform env.userInfo uuid = pure frame ∧
      4 ≤ frame.length ∧ receiveTagged env frame = pure (.connected ⟨uuid⟩) := by
  obtain ⟨frame,written,long,tag,read⟩ := connectSuccess_ofBuffer_create env.platform valid uuid
  exact ⟨frame,written,long,by simp [receiveTagged,tag,read]⟩

theorem rawData_readable {uuid : String} (canonical : CanonicalUuid uuid) (data : Buffer) :
    ∃ frame, RawData.create env.platform env.userInfo uuid data = pure frame ∧
      4 ≤ frame.length ∧ receiveTagged env frame = pure (.raw ⟨uuid,data⟩) := by
  obtain ⟨frame,written,long,tag,read⟩ := rawData_ofBuffer_create env.platform valid canonical data
  exact ⟨frame,written,long,by simp [receiveTagged,tag,read,Flag.ordinal]⟩

theorem dnsQuery_readable (uuid host : String) :
    ∃ frame query, DnsQuery.create env.platform env.userInfo uuid host = pure frame ∧
      query.uuid = .ok (some uuid) ∧ query.host = some host ∧
      4 ≤ frame.length ∧ receiveTagged env frame = pure (.dns query) := by
  obtain ⟨frame,query,written,long,tag,read,asked,named⟩ := dnsQuery_ofBuffer_create env.platform valid uuid host
  exact ⟨frame,query,written,named,asked,long,by simp [receiveTagged,tag,read,Flag.ordinal]⟩

end Readable

end WSocks.Wire
