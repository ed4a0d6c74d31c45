import WSocks.Text

/-!
# UDP datagrams over IPv4

The two headers as tun2socks lays them out in memory, their checksums, and the
checks that a packet from the device has to pass. Numbers are read in network byte
order; `int` and `uint32_t` sums never come near their limits here, so they are
natural numbers.
-/

namespace WSocks.Datagrams
open WSocks.Endian WSocks.Text

/-! ### Two bytes -/

/-- The number that two bytes stand for, the high one first. -/
def word (high low : UInt8) : UInt16 := UInt16.ofNat (beValue [high,low])

theorem beBytes_two (n : Nat) : beBytes 2 n = [UInt8.ofNat (n / 256),UInt8.ofNat n] := rfl

@[simp] theorem word_bytes (x : UInt16) : word (UInt8.ofNat (x.toNat / 256)) x.toUInt8 = x := by
  have small := x.toNat_lt
  have whole := beValue_beBytes 2 x.toNat
  have low : UInt8.ofNat x.toNat = x.toUInt8 := by simp
  rw [beBytes_two,low,Nat.mod_eq_of_lt (by simpa using small)] at whole
  rw [word,whole,UInt16.ofNat_toNat]

/-! ### Headers -/

/-- `struct ipv4_header`: the header without its options. -/
structure Ipv4Header where
  version4_ihl4 : UInt8
  ds : UInt8
  total_length : UInt16
  identification : UInt16
  flags3_fragmentoffset13 : UInt16
  ttl : UInt8
  protocol : UInt8
  checksum : UInt16
  source_address : Ipv4
  destination_address : Ipv4
  deriving DecidableEq

/-- `struct udp_header`. -/
structure UdpHeader where
  source_port : UInt16
  dest_port : UInt16
  length : UInt16
  checksum : UInt16
  deriving DecidableEq

/-- The twenty bytes of the header. -/
def Ipv4Header.bytes (header : Ipv4Header) : List UInt8 :=
  [header.version4_ihl4,header.ds] ++ beBytes 2 header.total_length.toNat ++ beBytes 2 header.identification.toNat ++
    beBytes 2 header.flags3_fragmentoffset13.toNat ++ [header.ttl,header.protocol] ++
    beBytes 2 header.checksum.toNat ++ header.source_address.bytes ++ header.destination_address.bytes

/-- The eight bytes of the header. -/
def UdpHeader.bytes (header : UdpHeader) : List UInt8 :=
  beBytes 2 header.source_port.toNat ++ beBytes 2 header.dest_port.toNat ++ beBytes 2 header.length.toNat ++
    beBytes 2 header.checksum.toNat

/-- Copies a header out of the first twenty bytes; `none` when there are fewer. -/
def Ipv4Header.ofBytes : List UInt8 → Option Ipv4Header
  | b0 :: b1 :: b2 :: b3 :: b4 :: b5 :: b6 :: b7 :: b8 :: b9 :: b10 :: b11 :: b12 :: b13 :: b14 :: b15 :: b16 :: b17
      :: b18 :: b19 :: _ =>
    some ⟨b0,b1,word b2 b3,word b4 b5,word b6 b7,b8,b9,word b10 b11,⟨b12,b13,b14,b15⟩,⟨b16,b17,b18,b19⟩⟩
  | _ => none

/-- Copies a header out of the first eight bytes; `none` when there are fewer. -/
def UdpHeader.ofBytes : List UInt8 → Option UdpHeader
  | b0 :: b1 :: b2 :: b3 :: b4 :: b5 :: b6 :: b7 :: _ => some ⟨word b0 b1,word b2 b3,word b4 b5,word b6 b7⟩
  | _ => none

@[simp] theorem Ipv4Header.bytes_length (header : Ipv4Header) : header.bytes.length = 20 := by
  simp [Ipv4Header.bytes,Ipv4.bytes]
@[simp] theorem UdpHeader.bytes_length (header : UdpHeader) : header.bytes.length = 8 := by
  simp [UdpHeader.bytes]

/-- A header is read back from its bytes. -/
@[simp] theorem Ipv4Header.ofBytes_bytes (header : Ipv4Header) (rest : List UInt8) :
    Ipv4Header.ofBytes (header.bytes ++ rest) = some header := by
  simp [Ipv4Header.bytes,Ipv4Header.ofBytes,beBytes_two,Ipv4.bytes]
@[simp] theorem UdpHeader.ofBytes_bytes (header : UdpHeader) (rest : List UInt8) :
    UdpHeader.ofBytes (header.bytes ++ rest) = some header := by
  simp [UdpHeader.bytes,UdpHeader.ofBytes,beBytes_two]

def IPV4_PROTOCOL_UDP : UInt8 := 17

def IPV4_GET_VERSION (header : Ipv4Header) : UInt8 := (header.version4_ihl4 &&& 0xF0) >>> 4
def IPV4_GET_IHL (header : Ipv4Header) : UInt8 := header.version4_ihl4 &&& 0x0F

/-- The length of the header with its options. -/
def Ipv4Header.header_len (header : Ipv4Header) : Nat := (IPV4_GET_IHL header).toNat * 4

/-! ### Checksums -/

/-- The rounds of `while (t >> 16)`, at most `fuel` of them. -/
def foldCarries : Nat → Nat → Nat
  | 0,t => t
  | fuel + 1,t => if t / 65536 = 0 then t else foldCarries fuel (t % 65536 + t / 65536)

/-- A round with a carry makes the sum smaller, so the loop ends with 16 bits. -/
theorem foldCarries_lt {fuel t : Nat} (enough : t ≤ fuel) : foldCarries fuel t < 65536 := by
  induction fuel generalizing t with
  | zero =>
    obtain rfl : t = 0 := by omega
    decide
  | succ fuel ih =>
    unfold foldCarries
    split_ifs with carried
    · omega
    · exact ih (by omega)

/-- `hton16(~t)` after the carries of `t` have been folded in. -/
def complement (t : Nat) : UInt16 := UInt16.ofNat (65535 - t)

/-- The sum of the 16-bit numbers in a string of bytes. -/
def udp_checksum_summer : List UInt8 → Nat
  | high :: low :: rest => beValue [high,low] + udp_checksum_summer rest
  | _ => 0

/-- The checksum of a header whose options are `extra`. -/
def ipv4_checksum (header : Ipv4Header) (extra : List UInt8) : UInt16 :=
  let t := udp_checksum_summer header.bytes + udp_checksum_summer extra
  complement (foldCarries t t)

/-- What `udp_checksum` adds up: the addresses, the protocol and the length, the header
    and the payload, a last single byte being the high one. -/
def udpSum (header : UdpHeader) (payload : List UInt8) (source_addr dest_addr : Ipv4) : Nat :=
  udp_checksum_summer source_addr.bytes + udp_checksum_summer dest_addr.bytes +
    udp_checksum_summer (beBytes 2 IPV4_PROTOCOL_UDP.toNat) + udp_checksum_summer (beBytes 2 (8 + payload.length)) +
    udp_checksum_summer header.bytes +
    if payload.length % 2 = 0 then udp_checksum_summer payload
    else udp_checksum_summer payload.dropLast + udp_checksum_summer [payload.getLastD 0,0]

def udp_checksum (header : UdpHeader) (payload : List UInt8) (source_addr dest_addr : Ipv4) : UInt16 :=
  let t := udpSum header payload source_addr dest_addr
  let t := foldCarries t t
  complement (if t = 0 then 65535 else t)

/-! ### Checks -/

/-- The header and the payload of an IPv4 packet; bytes after its total length are left out. -/
def ipv4_check (data : List UInt8) : Option (Ipv4Header × List UInt8) :=
  match Ipv4Header.ofBytes data with
  | none => none
  | some header =>
    if IPV4_GET_VERSION header ≠ 4 then none
    else if header.header_len < 20 then none
    else if data.length < header.header_len then none
    else if header.total_length.toNat < header.header_len then none
    else if data.length < header.total_length.toNat then none
    else if header.checksum ≠ ipv4_checksum { header with checksum := 0 } ((data.take header.header_len).drop 20) then
      none
    else some (header,(data.take header.total_length.toNat).drop header.header_len)

/-- The header and the payload of a UDP datagram; stray data after it is left out. -/
def udp_check (data : List UInt8) : Option (UdpHeader × List UInt8) :=
  match UdpHeader.ofBytes data with
  | none => none
  | some header =>
    if header.length.toNat < 8 then none
    else if data.length < header.length.toNat then none
    else some (header,(data.take header.length.toNat).drop 8)

/-- A UDP datagram with the header of the packet that carried it. -/
structure Datagram where
  ip : Ipv4Header
  udp : UdpHeader
  payload : List UInt8
  deriving DecidableEq

/-- The UDP datagram in a packet from the device, its UDP checksum not compared yet. -/
def parse (data : List UInt8) : Option Datagram :=
  -- `switch (ip_version)`: IPv6 is not supported
  if data.headD 0 >>> 4 ≠ 4 then none
  else if data.length < 20 ∨ data.getD 9 0 ≠ IPV4_PROTOCOL_UDP then none
  else
    match ipv4_check data with
    | none => none
    | some (ip,rest) => (udp_check rest).map (fun parts => ⟨ip,parts.1,parts.2⟩)

/-- The UDP checksum in the packet is the one that `udp_checksum` computes. -/
def Datagram.Verified (d : Datagram) : Prop :=
  d.udp.checksum =
    udp_checksum { d.udp with checksum := 0 } d.payload d.ip.source_address d.ip.destination_address

instance (d : Datagram) : Decidable d.Verified := inferInstanceAs (Decidable (_ = _))

/-- The packet that is written for a datagram: the header without options, its checksums
    computed anew. -/
def Datagram.packet (d : Datagram) : List UInt8 :=
  let ip := { d.ip with checksum := 0 }
  let udp := { d.udp with checksum := 0 }
  { ip with checksum := ipv4_checksum ip [] }.bytes ++
    { udp with checksum := udp_checksum udp d.payload ip.source_address ip.destination_address }.bytes ++ d.payload

/-! ### Where a packet comes from and goes to -/

/-- A `BAddr` of the IPv4 type, as `BAddr_InitIPv4` makes it. -/
structure Endpoint where
  ip : Ipv4
  port : UInt16
  deriving DecidableEq

def Datagram.source (d : Datagram) : Endpoint := ⟨d.ip.source_address,d.udp.source_port⟩
def Datagram.destination (d : Datagram) : Endpoint := ⟨d.ip.destination_address,d.udp.dest_port⟩

/-- The datagram with other addresses and ports. -/
def Datagram.readdressed (d : Datagram) (source destination : Endpoint) : Datagram where
  ip := { d.ip with source_address := source.ip,destination_address := destination.ip }
  udp := { d.udp with source_port := source.port,dest_port := destination.port }
  payload := d.payload

/-- Source and destination as a receiver reads them: the UDP header stands where the IPv4
    header says that it ends. -/
def endpoints (data : List UInt8) : Option (Endpoint × Endpoint) := do
  let ip ← Ipv4Header.ofBytes data
  let udp ← UdpHeader.ofBytes (data.drop ip.header_len)
  some (⟨ip.source_address,udp.source_port⟩,⟨ip.destination_address,udp.dest_port⟩)

theorem endpoints_bytes (ip : Ipv4Header) (udp : UdpHeader) (payload : List UInt8) (plain : ip.header_len = 20) :
    endpoints (ip.bytes ++ udp.bytes ++ payload) =
      some (⟨ip.source_address,udp.source_port⟩,⟨ip.destination_address,udp.dest_port⟩) := by
  unfold endpoints
  simp only [List.append_assoc,Ipv4Header.ofBytes_bytes,Option.bind_eq_bind,Option.bind_some]
  rw [plain,List.drop_left' ip.bytes_length,UdpHeader.ofBytes_bytes]
  rfl

/-- Without IPv4 options, the packet of a readdressed datagram has the new addresses. -/
theorem endpoints_readdressed {d : Datagram} (plain : d.ip.header_len = 20) (source destination : Endpoint) :
    endpoints (d.readdressed source destination).packet = some (source,destination) := by
  unfold Datagram.packet
  rw [endpoints_bytes]
  · rfl
  · unfold Ipv4Header.header_len IPV4_GET_IHL at plain ⊢
    exact plain

end WSocks.Datagrams
