import WSocks.Streams
import WSocks.Effects
import WSocks.Buffers

/-!
# Libraries

What the proxy uses of the Java and Vert.x libraries and does not implement
itself: the block cipher in CBC mode, the zlib streams, JSON objects and the
resolution of host names. Each is a structure whose fields state the documented
behaviour that the code relies on.
-/

namespace WSocks.Libraries
open WSocks.Streams WSocks.Effects WSocks.Text WSocks.Buffers

/-! ### The cipher -/

/-- The key lengths of AES. -/
def AesKey (key : Buffer) : Prop := key.length = 16 ∨ key.length = 24 ∨ key.length = 32

instance (key : Buffer) : Decidable (AesKey key) := inferInstanceAs (Decidable (_ ∨ _ ∨ _))

/-- `Cipher.getInstance("AES/CBC/PKCS5Padding")`: `doFinal` in both modes, from a
    key, an initialization vector and the input. -/
structure Cipher where
  encrypt : Buffer → Buffer → Buffer → Buffer
  decrypt : Buffer → Buffer → Buffer → Except Failure Buffer
  decrypt_encrypt : ∀ key iv text, AesKey key → decrypt key iv (encrypt key iv text) = .ok text

/-! ### Compression -/

/-- `java.util.zip.Deflater` after `setInput` and `finish`. -/
structure Deflater where
  Stream : Type
  setInput : Buffer → Stream
  finished : Stream → Bool
  deflate : Stream → Nat → Buffer × Stream
  deflate_length : ∀ stream size, (deflate stream size).1.length ≤ size

/-- `java.util.zip.Inflater` after `setInput`. A `starved` stream needs more input
    or a preset dictionary: it gives nothing and stays as it is. -/
structure Inflater where
  Stream : Type
  setInput : Buffer → Stream
  finished : Stream → Bool
  inflate : Stream → Nat → Except Failure (Buffer × Stream)
  starved : Stream → Bool
  remaining : Stream → Nat
  inflate_length : ∀ stream size chunk next, inflate stream size = .ok (chunk,next) → chunk.length ≤ size
  inflate_starved : ∀ stream size, finished stream = false → starved stream = true →
    inflate stream size = .ok ([],stream)
  inflate_progress : ∀ stream size chunk next, 0 < size → finished stream = false → starved stream = false →
    inflate stream size = .ok (chunk,next) → remaining next < remaining stream

/-- The output of a deflater, read into a buffer of the given size. -/
def Deflater.source (deflater : Deflater) (size : Nat) : Source Failure UInt8 :=
  ⟨deflater.Stream,deflater.finished,fun stream => .ok (deflater.deflate stream size)⟩

/-- The output of an inflater, read into a buffer of the given size. -/
def Inflater.source (inflater : Inflater) (size : Nat) : Source Failure UInt8 :=
  ⟨inflater.Stream,inflater.finished,fun stream => inflater.inflate stream size⟩

/-- The two classes of `java.util.zip`: what one packs the other unpacks. -/
structure Zip where
  deflater : Deflater
  inflater : Inflater
  inflates : ∀ data, ∃ packed, ∀ size, 0 < size →
    Emits (deflater.source size) (deflater.setInput data) packed ∧
    Emits (inflater.source size) (inflater.setInput packed) data

/-! ### JSON -/

/-- A value of a JSON object, as far as the getters tell values apart; a number
    is its `intValue`. -/
inductive JsonValue
  | null
  | string (text : String)
  | number (value : Int32)
  | boolean (value : Bool)
  | other (tag : Nat)
  deriving DecidableEq

/-- The fields of an `io.vertx.core.json.JsonObject`, in order. -/
abbrev JsonObject := List (String × JsonValue)

/-- `put(key, value)` keeps the place of a key that is there. -/
def JsonObject.put (json : JsonObject) (key : String) (value : JsonValue) : JsonObject :=
  if (json.lookup key).isSome then json.map (fun field => if field.1 = key then (key,value) else field)
  else json ++ [(key,value)]

/-- `getString(key)`: `none` is Java's null. -/
def JsonObject.getString (json : JsonObject) (key : String) : Except Failure (Option String) :=
  match json.lookup key with
  | none => .ok none
  | some .null => .ok none
  | some (.string text) => .ok (some text)
  | some _ => .error .classCast

/-- `getInteger(key)`. -/
def JsonObject.getInteger (json : JsonObject) (key : String) : Except Failure (Option Int32) :=
  match json.lookup key with
  | none => .ok none
  | some .null => .ok none
  | some (.number value) => .ok (some value)
  | some _ => .error .classCast

/-- `getBoolean(key)`. -/
def JsonObject.getBoolean (json : JsonObject) (key : String) : Except Failure (Option Bool) :=
  match json.lookup key with
  | none => .ok none
  | some .null => .ok none
  | some (.boolean value) => .ok (some value)
  | some _ => .error .classCast

/-- Encoding to a buffer and decoding from one. -/
structure Json where
  toBuffer : JsonObject → Buffer
  toJsonObject : Buffer → Except Failure JsonObject
  decode_encode : ∀ json : JsonObject, (json.map Prod.fst).Nodup → toJsonObject (toBuffer json) = .ok json

/-! ### Addresses -/

/-- A `java.net.InetAddress`. -/
inductive InetAddress
  | inet4 (x : Ipv4)
  | inet6 (x : Ipv6)
  deriving DecidableEq

/-- `getAddress()`: four bytes or sixteen. -/
def InetAddress.address : InetAddress → Buffer
  | .inet4 x => x.bytes
  | .inet6 x => x.bytes

/-- `Inet4Address.getByAddress(bytes).toString().removePrefix("/")` for four bytes. -/
def hostAddress (x : Ipv4) : String := String.ofList (dottedQuad x)

/-- The address that a literal stands for; an IPv4-mapped one becomes an IPv4 address. -/
def literal? (host : String) : Option InetAddress :=
  match ipv4? host.toList with
  | some x => some (.inet4 x)
  | none => (ipv6? host.toList).map (fun x => match x.mapped? with
    | some y => .inet4 y
    | none => .inet6 x)

/-- Everything together. `lookup` resolves what is not an address literal, and
    `closeAgain` is what closing a closed websocket does. -/
structure Platform where
  cipher : Cipher
  zip : Zip
  json : Json
  lookup : String → Option InetAddress
  closeAgain : Except Failure Unit

/-- `Inet4Address.getByName(host)`. -/
def Platform.getByName (platform : Platform) (host : String) : Except Failure InetAddress :=
  match literal? host with
  | some x => .ok x
  | none =>
    match platform.lookup host with
    | some x => .ok x
    | none => .error .unknownHost

end WSocks.Libraries
