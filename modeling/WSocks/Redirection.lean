import WSocks.Gateway
import WSocks.OnesComplement

/-!
# What the gateway accepts and sends

A packet is well formed when it is as the standards for IPv4 and UDP say, whose
checksums are one's complement sums. The gateway sends a well-formed packet only for
one without options and without stray data, since it copies the lengths of the header
as they are, and it refuses the two special values that a UDP checksum may have.
-/

namespace WSocks.Redirection
open WSocks.Endian WSocks.Text WSocks.OnesComplement WSocks.Datagrams WSocks.Gateway

/-! ### Checksums -/

/-- What the UDP checksum covers: the pseudo header, the header and the payload. -/
def covered (source destination : Ipv4) (header : UdpHeader) (payload : List UInt8) : List UInt8 :=
  source.bytes ++ destination.bytes ++ [0,IPV4_PROTOCOL_UDP] ++ beBytes 2 header.length.toNat ++ header.bytes ++ payload

/-- A checksum of zero is transmitted as all ones, for zero means that there is none. -/
def transmitted (checksum : UInt16) : UInt16 := if checksum = 0 then 0xFFFF else checksum

/-- The checksum that a datagram should have, not looking at the one it has. -/
def computed (d : Datagram) : UInt16 :=
  checksum (covered d.ip.source_address d.ip.destination_address {d.udp with checksum := 0} d.payload)

private theorem summer_eq {bytes : List UInt8} (even : bytes.length % 2 = 0) :
    udp_checksum_summer bytes = (words bytes).sum := by
  fun_induction udp_checksum_summer bytes with
  | case1 high low rest ih =>
    rw [List.length_cons,List.length_cons] at even
    rw [ih (by omega),words,List.sum_cons]
  | case2 bytes short =>
    rcases bytes with _ | ⟨high,_ | ⟨low,rest⟩⟩
    · rfl
    · simp at even
    · exact absurd rfl (short high low rest)

private theorem foldCarries_eq {fuel t : Nat} (enough : t ≤ fuel) : foldCarries fuel t = residue 65536 t := by
  induction fuel generalizing t with
  | zero =>
    obtain rfl : t = 0 := by omega
    rfl
  | succ fuel ih =>
    unfold foldCarries
    split_ifs with carried
    · rw [residue_of_lt (by omega) (by omega)]
    · rw [ih (by omega),residue_carry (by omega)]

private theorem complement_eq {t : Nat} (small : t < 65536) : complement t = ~~~ UInt16.ofNat t := by
  apply UInt16.toNat_inj.mp
  rw [complement,UInt16.toNat_not,UInt16.toNat_ofNat',UInt16.toNat_ofNat',Nat.mod_eq_of_lt (by omega),
    Nat.mod_eq_of_lt (by omega)]
  rfl

/-- The checksum of a header is the one that the standard asks for. -/
theorem ipv4_checksum_eq (header : Ipv4Header) {extra : List UInt8} (even : extra.length % 2 = 0) :
    ipv4_checksum header extra = checksum (header.bytes ++ extra) := by
  have front : header.bytes.length % 2 = 0 := by rw [header.bytes_length]
  rw [ipv4_checksum,checksum_eq,words_append front,List.sum_append,← summer_eq front,← summer_eq even]
  exact (congrArg complement (foldCarries_eq le_rfl)).trans (complement_eq (residue_lt (by omega) _))

/-- A last single byte counts as the high one. -/
private theorem payload_eq (payload : List UInt8) :
    (if payload.length % 2 = 0 then udp_checksum_summer payload
      else udp_checksum_summer payload.dropLast + udp_checksum_summer [payload.getLastD 0,0]) = (words payload).sum := by
  by_cases even : payload.length % 2 = 0
  · rw [if_pos even,summer_eq even]
  · rw [if_neg even]
    have nonempty : payload ≠ [] := by
      rintro rfl
      exact even rfl
    have front : payload.dropLast.length % 2 = 0 := by
      rw [List.length_dropLast]
      omega
    have last : payload.getLastD 0 = payload.getLast nonempty := by
      rw [List.getLastD_eq_getLast?,List.getLast?_eq_getLast_of_ne_nil nonempty]
      rfl
    rw [summer_eq front,last]
    conv_rhs => rw [← List.dropLast_append_getLast nonempty,words_append front,List.sum_append]
    rfl

private theorem udpSum_eq {header : UdpHeader} {payload : List UInt8} (source destination : Ipv4)
    (length : header.length.toNat = 8 + payload.length) :
    udpSum header payload source destination = (words (covered source destination header payload)).sum := by
  have number : beBytes 2 IPV4_PROTOCOL_UDP.toNat = [0,IPV4_PROTOCOL_UDP] := by decide
  unfold udpSum covered
  rw [payload_eq,number,← length]
  rw [words_append (by simp [Ipv4.bytes]),words_append (by simp [Ipv4.bytes]),words_append (by simp [Ipv4.bytes]),
    words_append (by simp [Ipv4.bytes]),words_append (by simp [Ipv4.bytes])]
  simp only [List.sum_append]
  rw [summer_eq (by simp [Ipv4.bytes]),summer_eq (by simp [Ipv4.bytes]),summer_eq (by simp),summer_eq (by simp),
    summer_eq (by simp)]

private theorem udpSum_pos (header : UdpHeader) (payload : List UInt8) (source destination : Ipv4) :
    0 < udpSum header payload source destination := by
  have number : udp_checksum_summer (beBytes 2 IPV4_PROTOCOL_UDP.toNat) = 17 := by decide
  unfold udpSum
  omega

/-- So is the checksum of a datagram, but that zero stays zero. -/
theorem udp_checksum_eq {header : UdpHeader} {payload : List UInt8} (source destination : Ipv4)
    (length : header.length.toNat = 8 + payload.length) :
    udp_checksum header payload source destination = checksum (covered source destination header payload) := by
  have positive := udpSum_pos header payload source destination
  have folded : foldCarries (udpSum header payload source destination) (udpSum header payload source destination) =
      residue 65536 (udpSum header payload source destination) := foldCarries_eq le_rfl
  have carries : residue 65536 (udpSum header payload source destination) ≠ 0 := by
    rw [Ne,residue_eq_zero]
    exact positive.ne'
  rw [udp_checksum,folded]
  show complement (if _ = 0 then _ else _) = _
  rw [if_neg carries,complement_eq (residue_lt (by omega) _),checksum_eq,udpSum_eq source destination length]

/-- The sum of a datagram is not zero, so its checksum is not all ones. -/
theorem computed_ne {d : Datagram} (length : d.udp.length.toNat = 8 + d.payload.length) : computed d ≠ 0xFFFF := by
  refine checksum_ne ?_
  have header : ({d.udp with checksum := 0} : UdpHeader).length.toNat = 8 + d.payload.length := length
  rw [← udpSum_eq _ _ header]
  exact udpSum_pos _ _ _ _

/-! ### Well-formed packets -/

/-- The length of the header in 32-bit words. -/
def ihl (header : Ipv4Header) : Nat := header.version4_ihl4.toNat % 16

/-- What follows the header up to the total length. -/
def contents (data : List UInt8) (header : Ipv4Header) : List UInt8 :=
  (data.take header.total_length.toNat).drop (4 * ihl header)

/-- A packet that is well formed under the standard for IPv4, and the UDP datagram in it. -/
structure WellFormed (data : List UInt8) (d : Datagram) : Prop where
  header : Ipv4Header.ofBytes data = some d.ip
  version : d.ip.version4_ihl4.toNat / 16 = 4
  length : 5 ≤ ihl d.ip
  total : 4 * ihl d.ip ≤ d.ip.total_length.toNat
  complete : d.ip.total_length.toNat ≤ data.length
  protocol : d.ip.protocol = 17
  checksum : d.ip.checksum = checksum ({d.ip with checksum := 0}.bytes ++ (data.take (4 * ihl d.ip)).drop 20)
  udp : UdpHeader.ofBytes (contents data d.ip) = some d.udp
  udp_length : 8 ≤ d.udp.length.toNat
  fits : d.udp.length.toNat ≤ (contents data d.ip).length
  payload : d.payload = ((contents data d.ip).take d.udp.length.toNat).drop 8

private theorem version_iff (header : Ipv4Header) :
    IPV4_GET_VERSION header = 4 ↔ header.version4_ihl4.toNat / 16 = 4 := by
  unfold IPV4_GET_VERSION
  generalize header.version4_ihl4 = b
  obtain ⟨b⟩ := b
  revert b
  decide +kernel

private theorem first_iff (b : UInt8) : b >>> 4 = 4 ↔ b.toNat / 16 = 4 := by
  obtain ⟨b⟩ := b
  revert b
  decide +kernel

private theorem header_len_eq (header : Ipv4Header) : header.header_len = 4 * ihl header := by
  have low : (header.version4_ihl4 &&& 0x0F).toNat = header.version4_ihl4.toNat % 16 := by
    generalize header.version4_ihl4 = b
    obtain ⟨b⟩ := b
    revert b
    decide +kernel
  rw [Ipv4Header.header_len,IPV4_GET_IHL,low,ihl,Nat.mul_comm]

private theorem options_even {data : List UInt8} {header : Ipv4Header} (complete : 4 * ihl header ≤ data.length) :
    ((data.take (4 * ihl header)).drop 20).length % 2 = 0 := by
  rw [List.length_drop,List.length_take]
  omega

/-- What `ipv4_check` lets through. -/
theorem ipv4_check_iff {data rest : List UInt8} {header : Ipv4Header} : ipv4_check data = some (header,rest) ↔
    Ipv4Header.ofBytes data = some header ∧ header.version4_ihl4.toNat / 16 = 4 ∧ 5 ≤ ihl header ∧
      4 * ihl header ≤ header.total_length.toNat ∧ header.total_length.toNat ≤ data.length ∧
      header.checksum = checksum ({header with checksum := 0}.bytes ++ (data.take (4 * ihl header)).drop 20) ∧
      rest = contents data header := by
  unfold ipv4_check
  rcases Ipv4Header.ofBytes data with _ | h
  · simp
  simp only [header_len_eq,Ne,version_iff,Option.some.injEq]
  constructor
  · intro checked
    split_ifs at checked with version short cut total long mismatch
    obtain ⟨rfl,rfl⟩ := Prod.mk.inj (Option.some.inj checked)
    rw [ipv4_checksum_eq _ (options_even (by omega))] at mismatch
    exact ⟨rfl,version,by omega,by omega,by omega,mismatch,rfl⟩
  · rintro ⟨rfl,version,length,total,complete,right,rfl⟩
    rw [if_neg (not_not.mpr version),if_neg (by omega),if_neg (by omega),if_neg (by omega),if_neg (by omega),
      ipv4_checksum_eq _ (options_even (by omega)),if_neg (not_not.mpr right)]
    rfl

/-- What `udp_check` lets through. -/
theorem udp_check_iff {data payload : List UInt8} {header : UdpHeader} : udp_check data = some (header,payload) ↔
    UdpHeader.ofBytes data = some header ∧ 8 ≤ header.length.toNat ∧ header.length.toNat ≤ data.length ∧
      payload = (data.take header.length.toNat).drop 8 := by
  unfold udp_check
  rcases UdpHeader.ofBytes data with _ | h
  · simp
  simp only [Option.some.injEq]
  constructor
  · intro checked
    split_ifs at checked with short long
    obtain ⟨rfl,rfl⟩ := Prod.mk.inj (Option.some.inj checked)
    exact ⟨rfl,by omega,by omega,rfl⟩
  · rintro ⟨rfl,length,fits,rfl⟩
    rw [if_neg (by omega),if_neg (by omega)]

private theorem ofBytes_first {data : List UInt8} {header : Ipv4Header} (read : Ipv4Header.ofBytes data = some header) :
    data.headD 0 = header.version4_ihl4 ∧ data.getD 9 0 = header.protocol ∧ 20 ≤ data.length := by
  unfold Ipv4Header.ofBytes at read
  split at read
  · cases read
    exact ⟨rfl,rfl,by simp⟩
  · cases read

/-- The packets that are parsed are the well-formed ones. -/
theorem parse_iff {data : List UInt8} {d : Datagram} : parse data = some d ↔ WellFormed data d := by
  constructor
  · intro parsed
    unfold parse at parsed
    split_ifs at parsed with version kind
    rcases checked : ipv4_check data with _ | ⟨header,rest⟩
    · simp [checked] at parsed
    rw [checked] at parsed
    obtain ⟨⟨header',payload'⟩,inner,same⟩ := Option.map_eq_some_iff.mp parsed
    cases same
    obtain ⟨read,version,length,total,complete,right,rfl⟩ := ipv4_check_iff.mp checked
    obtain ⟨udp,udp_length,fits,rfl⟩ := udp_check_iff.mp inner
    have protocol : header.protocol = 17 := by
      rw [← (ofBytes_first read).2.1]
      by_contra other
      exact kind (.inr other)
    exact ⟨read,version,length,total,complete,protocol,right,udp,udp_length,fits,rfl⟩
  · rintro ⟨read,version,length,total,complete,protocol,right,udp,udp_length,fits,payload⟩
    obtain ⟨first,kind,twenty⟩ := ofBytes_first read
    have checked := ipv4_check_iff.mpr ⟨read,version,length,total,complete,right,rfl⟩
    have inner := udp_check_iff.mpr ⟨udp,udp_length,fits,payload⟩
    have ofUdp : ¬ (data.length < 20 ∨ d.ip.protocol ≠ IPV4_PROTOCOL_UDP) := by
      rintro (short | other)
      · omega
      · exact other protocol
    unfold parse
    rw [first,kind,if_neg (not_not.mpr ((first_iff _).mpr version)),if_neg ofUdp,checked]
    show (udp_check _).map _ = _
    rw [inner]
    rfl

variable {data sent rest : List UInt8} {d : Datagram}

theorem WellFormed.length_eq (formed : WellFormed data d) : d.udp.length.toNat = 8 + d.payload.length := by
  have fits := formed.fits
  have length := formed.udp_length
  rw [formed.payload,List.length_drop,List.length_take]
  omega

theorem WellFormed.contents_length (formed : WellFormed data d) :
    (contents data d.ip).length = d.ip.total_length.toNat - 4 * ihl d.ip := by
  have complete := formed.complete
  rw [contents,List.length_drop,List.length_take]
  omega

/-- The gateway compares with the checksum that the standard asks for, before zero is replaced. -/
theorem WellFormed.verified_iff (formed : WellFormed data d) : d.Verified ↔ d.udp.checksum = computed d := by
  rw [Datagram.Verified,udp_checksum_eq _ _ (show ({d.udp with checksum := 0} : UdpHeader).length.toNat = _ from
    formed.length_eq)]
  rfl

/-! ### What is sent -/

/-- What was sent for a datagram passes the checks as another datagram: as long as its
    header says, with right checksums, or none for UDP, and with the same payload; apart from
    addresses and ports only what depends on options and stray data may differ. -/
structure Rewritten (d : Datagram) (sent : List UInt8) (d' : Datagram) (rest : List UInt8) : Prop where
  ip_checked : ipv4_check sent = some (d'.ip,rest)
  udp_checked : udp_check rest = some (d'.udp,d'.payload)
  total : d'.ip.total_length.toNat = sent.length
  ip_checksum : d'.ip.checksum = checksum ({d'.ip with checksum := 0}.bytes ++ (sent.take (4 * ihl d'.ip)).drop 20)
  udp_checksum : d'.udp.checksum = 0 ∨ d'.udp.checksum = transmitted (computed d')
  payload : d'.payload = d.payload
  ip : d'.ip = {d.ip with
    version4_ihl4 := d'.ip.version4_ihl4,total_length := d'.ip.total_length,checksum := d'.ip.checksum,
    source_address := d'.ip.source_address,destination_address := d'.ip.destination_address}
  udp : d'.udp = {d.udp with
    source_port := d'.udp.source_port,dest_port := d'.udp.dest_port,checksum := d'.udp.checksum}

/-- The headers of the packet that is written for a datagram. -/
def rechecked (d : Datagram) : Datagram where
  ip := {d.ip with checksum := ipv4_checksum {d.ip with checksum := 0} []}
  udp := {d.udp with
    checksum := udp_checksum {d.udp with checksum := 0} d.payload d.ip.source_address d.ip.destination_address}
  payload := d.payload

-- By `rfl` the checksums of both sides would be compared as well.
@[simp] theorem rechecked_version (d : Datagram) : (rechecked d).ip.version4_ihl4 = d.ip.version4_ihl4 := by
  simp only [rechecked]
@[simp] theorem rechecked_total (d : Datagram) : (rechecked d).ip.total_length = d.ip.total_length := by
  simp only [rechecked]
@[simp] theorem rechecked_ihl (d : Datagram) : ihl (rechecked d).ip = ihl d.ip := by
  simp only [rechecked,ihl]
@[simp] theorem rechecked_length (d : Datagram) : (rechecked d).udp.length = d.udp.length := by
  simp only [rechecked]

private theorem rechecked_ip (d : Datagram) :
    (rechecked d).ip.checksum = checksum ({(rechecked d).ip with checksum := 0}.bytes ++ []) := by
  have even : ([] : List UInt8).length % 2 = 0 := rfl
  simp only [rechecked]
  exact ipv4_checksum_eq {d.ip with checksum := 0} even

private theorem rechecked_udp {d : Datagram} (length : d.udp.length.toNat = 8 + d.payload.length) :
    (rechecked d).udp.checksum = computed (rechecked d) := by
  simp only [rechecked,computed]
  exact udp_checksum_eq _ _ (show ({d.udp with checksum := 0} : UdpHeader).length.toNat = _ from length)

theorem packet_eq (d : Datagram) : d.packet = (rechecked d).ip.bytes ++ ((rechecked d).udp.bytes ++ d.payload) := by
  rw [← List.append_assoc]
  rfl

theorem packet_length (d : Datagram) : d.packet.length = 28 + d.payload.length := by
  rw [packet_eq,List.length_append,List.length_append,Ipv4Header.bytes_length,UdpHeader.bytes_length]
  omega

/-- Whatever is sent is the packet of a datagram that was received, with other addresses. -/
theorem sent_cases {options : Options} {s s' : State}
    (accepted : process_device_dns_packet options s data = (s',some sent)) :
    ∃ d source destination, parse data = some d ∧ sent = (d.readdressed source destination).packet := by
  obtain ⟨dnsgw,netif⟩ := options
  rcases dnsgw with _ | gateway
  · cases accepted
  rcases parsed : parse data with _ | d
  · simp [process_device_dns_packet,parsed] at accepted
  refine ⟨d,?_⟩
  by_cases verified : d.Verified
  · by_cases query : d.udp.dest_port = 53
    · simp only [process_device_dns_packet,parsed,verified,query,not_true_eq_false,if_false,if_true,Prod.mk.injEq,
        Option.some.injEq] at accepted
      exact ⟨_,_,rfl,accepted.2.symm⟩
    · by_cases reply : d.udp.source_port = gateway.port
      · by_cases init : s.init = true
        · rcases found : find_connection s d.udp.dest_port with _ | con
          · simp [process_device_dns_packet,parsed,verified,query,reply,init,found] at accepted
          · rw [process_reply parsed verified query reply init found] at accepted
            exact ⟨_,_,rfl,(Option.some.inj (Prod.mk.inj accepted).2).symm⟩
        · simp [process_device_dns_packet,parsed,verified,query,reply,init] at accepted
      · simp [process_device_dns_packet,parsed,verified,query,reply] at accepted
  · simp [process_device_dns_packet,parsed,verified] at accepted

/-- The packet of a datagram without options passes both checks. -/
theorem packet_checked {d : Datagram} (version : d.ip.version4_ihl4.toNat / 16 = 4) (plain : ihl d.ip = 5)
    (total : d.ip.total_length.toNat = 28 + d.payload.length) (length : d.udp.length.toNat = 8 + d.payload.length) :
    ipv4_check d.packet = some ((rechecked d).ip,(rechecked d).udp.bytes ++ d.payload) ∧
      udp_check ((rechecked d).udp.bytes ++ d.payload) = some ((rechecked d).udp,d.payload) := by
  have whole := packet_length d
  have bare : (d.packet.take (4 * ihl (rechecked d).ip)).drop 20 = [] := by
    apply List.drop_eq_nil_of_le
    rw [List.length_take,rechecked_ihl,plain]
    omega
  constructor
  · refine ipv4_check_iff.mpr ⟨?_,?_,?_,?_,?_,?_,?_⟩
    · rw [packet_eq,Ipv4Header.ofBytes_bytes]
    · rw [rechecked_version,version]
    · rw [rechecked_ihl,plain]
    · rw [rechecked_ihl,rechecked_total]
      omega
    · rw [rechecked_total]
      omega
    · rw [bare,← rechecked_ip]
    · rw [contents,rechecked_ihl,rechecked_total,plain,List.take_of_length_le (by omega),packet_eq]
      exact (List.drop_left' (rechecked d).ip.bytes_length).symm
  · have whole' : ((rechecked d).udp.bytes ++ d.payload).length = 8 + d.payload.length := by
      rw [List.length_append,UdpHeader.bytes_length]
    rw [udp_check_iff,rechecked_length,List.take_of_length_le (by omega)]
    exact ⟨UdpHeader.ofBytes_bytes _ _,by omega,by omega,(List.drop_left' (rechecked d).udp.bytes_length).symm⟩

/-- The gateway sends a packet that is as it should be exactly for a packet without options
    and without stray data after the datagram. -/
theorem rewritten_iff {options : Options} {s s' : State}
    (accepted : process_device_dns_packet options s data = (s',some sent)) :
    ∃ d, WellFormed data d ∧ ((∃ d' rest, Rewritten d sent d' rest) ↔
      ihl d.ip = 5 ∧ d.ip.total_length.toNat = 20 + d.udp.length.toNat) := by
  obtain ⟨d,source,destination,parsed,rfl⟩ := sent_cases accepted
  have formed := parse_iff.mp parsed
  have length := formed.length_eq
  refine ⟨d,formed,?_⟩
  constructor
  · rintro ⟨d',rest,rewritten⟩
    have read := (ipv4_check_iff.mp rewritten.ip_checked).1
    have total := rewritten.total
    rw [packet_length] at total
    rw [packet_eq,Ipv4Header.ofBytes_bytes,Option.some.injEq] at read
    rw [← read,rechecked_total] at total
    have same : d.ip.total_length.toNat = 28 + d.payload.length := total
    have contents := formed.contents_length
    have fits := formed.fits
    have five := formed.length
    have inside := formed.total
    omega
  · rintro ⟨plain,whole⟩
    have total : d.ip.total_length.toNat = 28 + d.payload.length := by omega
    obtain ⟨ip_checked,udp_checked⟩ :=
      packet_checked (d := d.readdressed source destination) formed.version plain total length
    refine ⟨rechecked (d.readdressed source destination),_,ip_checked,udp_checked,?_,?_,?_,?_,?_,?_⟩
    · rw [rechecked_total,packet_length]
      exact total
    · exact (ipv4_check_iff.mp ip_checked).2.2.2.2.2.1
    · rw [rechecked_udp (d := d.readdressed source destination) length,transmitted]
      split_ifs with zero
      · exact .inl zero
      · exact .inr rfl
    · simp only [rechecked,Datagram.readdressed]
    · simp only [rechecked,Datagram.readdressed]
    · simp only [rechecked,Datagram.readdressed]

/-! ### What is accepted -/

/-- A valid packet: the UDP checksum is the right one, or there is none. -/
structure Valid (data : List UInt8) (d : Datagram) : Prop extends WellFormed data d where
  udp_checksum : d.udp.checksum = 0 ∨ d.udp.checksum = transmitted (computed d)

/-- A valid query is sent to the gateway exactly when its UDP checksum is neither of the two
    special values, or when it has none and the computed one is zero as well. -/
theorem redirected_iff {gateway : Endpoint} {netif : Ipv4} {s : State} (valid : Valid data d)
    (query : d.udp.dest_port = 53) :
    (process_device_dns_packet ⟨some gateway,netif⟩ s data).2 =
        some (d.readdressed ⟨netif,d.udp.source_port⟩ gateway).packet ↔
      (d.udp.checksum ≠ 0 ∧ d.udp.checksum ≠ 0xFFFF) ∨ (d.udp.checksum = 0 ∧ computed d = 0) := by
  have parsed := parse_iff.mpr valid.toWellFormed
  have verified := valid.toWellFormed.verified_iff
  have accepted : (process_device_dns_packet ⟨some gateway,netif⟩ s data).2 =
      some (d.readdressed ⟨netif,d.udp.source_port⟩ gateway).packet ↔ d.Verified := by
    by_cases right : d.Verified <;> simp [process_device_dns_packet,parsed,right,query]
  rw [accepted,verified]
  have ones := computed_ne valid.length_eq
  rcases valid.udp_checksum with none | right
  · rw [none]
    simp [eq_comm]
  · rw [right,transmitted]
    by_cases nothing : computed d = 0
    · simp [nothing]
    · simp [nothing,ones]

/-! ### Some packets -/

private def dns : Endpoint := ⟨⟨26,26,26,1⟩,8091⟩
private def tun : Ipv4 := ⟨26,26,26,2⟩

/-- An empty query from a port, with the given UDP checksum. -/
private def emptyQuery (port checksum : UInt16) : Datagram :=
  ⟨⟨69,0,28,0,0,64,17,13991,⟨26,26,26,1⟩,⟨8,8,8,8⟩⟩,⟨port,53,8,checksum⟩,[]⟩

private def emptyPacket (port checksum : UInt16) : List UInt8 :=
  (emptyQuery port checksum).ip.bytes ++ (emptyQuery port checksum).udp.bytes

/-- The same packet with one stray byte, which the total length includes. -/
private def strayPacket : List UInt8 :=
  [69,0,0,29,0,0,0,0,64,17,54,166,26,26,26,1,8,8,8,8,156,64,0,53,0,8,31,62,0]

private def strayQuery : Datagram :=
  ⟨⟨69,0,29,0,0,64,17,13990,⟨26,26,26,1⟩,⟨8,8,8,8⟩⟩,⟨40000,53,8,7998⟩,[]⟩

theorem rewritten_query : ∃ sent d' rest,
    (process_device_dns_packet ⟨some dns,tun⟩ start (emptyPacket 40000 7998)).2 = some sent ∧
      WellFormed (emptyPacket 40000 7998) (emptyQuery 40000 7998) ∧ Rewritten (emptyQuery 40000 7998) sent d' rest := by
  obtain ⟨sent,accepted⟩ : ∃ sent,
      (process_device_dns_packet ⟨some dns,tun⟩ start (emptyPacket 40000 7998)).2 = some sent :=
    Option.isSome_iff_exists.mp (by decide +kernel)
  obtain ⟨d,formed,rewritten⟩ := rewritten_iff (Prod.ext rfl accepted)
  have parsed : parse (emptyPacket 40000 7998) = some (emptyQuery 40000 7998) := by decide +kernel
  obtain rfl := Option.some.inj (parsed.symm.trans (parse_iff.mpr formed))
  obtain ⟨d',rest,right⟩ := rewritten.mpr (by decide)
  exact ⟨sent,d',rest,accepted,formed,right⟩

/-- With a stray byte the packet that is sent is shorter than its header says. -/
theorem stray_sent : ∃ sent, (process_device_dns_packet ⟨some dns,tun⟩ start strayPacket).2 = some sent ∧
    WellFormed strayPacket strayQuery ∧ sent.length = 28 ∧ ∀ d' rest, ¬ Rewritten strayQuery sent d' rest := by
  have parsed : parse strayPacket = some strayQuery := by decide +kernel
  refine ⟨(strayQuery.readdressed ⟨tun,40000⟩ dns).packet,by decide +kernel,parse_iff.mp parsed,packet_length _,?_⟩
  intro d' rest rewritten
  have refused : ipv4_check (strayQuery.readdressed ⟨tun,40000⟩ dns).packet = none := by decide +kernel
  have checked := rewritten.ip_checked
  rw [refused] at checked
  cases checked

theorem redirected_query :
    (process_device_dns_packet ⟨some dns,tun⟩ start (emptyPacket 40000 7998)).2 =
      some ((emptyQuery 40000 7998).readdressed ⟨tun,40000⟩ dns).packet := by
  have parsed : parse (emptyPacket 40000 7998) = some (emptyQuery 40000 7998) := by decide +kernel
  have right : (emptyQuery 40000 7998).udp.checksum = transmitted (computed (emptyQuery 40000 7998)) := by decide +kernel
  exact (redirected_iff ⟨parse_iff.mp parsed,.inr right⟩ rfl).mpr (.inl (by decide))

/-- Neither a query without a checksum nor one with a checksum of all ones is sent on. -/
theorem special_refused :
    (Valid (emptyPacket 40000 0) (emptyQuery 40000 0) ∧
      (process_device_dns_packet ⟨some dns,tun⟩ start (emptyPacket 40000 0)).2 = none) ∧
    (Valid (emptyPacket 47998 0xFFFF) (emptyQuery 47998 0xFFFF) ∧
      (process_device_dns_packet ⟨some dns,tun⟩ start (emptyPacket 47998 0xFFFF)).2 = none) := by
  have plain : parse (emptyPacket 40000 0) = some (emptyQuery 40000 0) := by decide +kernel
  have ones : parse (emptyPacket 47998 0xFFFF) = some (emptyQuery 47998 0xFFFF) := by decide +kernel
  have right : (emptyQuery 47998 0xFFFF).udp.checksum = transmitted (computed (emptyQuery 47998 0xFFFF)) := by
    decide +kernel
  exact ⟨⟨⟨parse_iff.mp plain,.inl rfl⟩,by decide +kernel⟩,⟨parse_iff.mp ones,.inr right⟩,by decide +kernel⟩

end WSocks.Redirection
