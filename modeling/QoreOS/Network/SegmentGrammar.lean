import QoreOS.Network.Handshake

/-! Which of the packets that the responder answers are TCP segments at all: the
tests of the code against the rules of IPv4 and TCP. -/

namespace QoreOS.Network

open QoreOS.Library

def Ipv4Header.version (ip : Ipv4Header) : Nat := ip.versionIhl.toNat >>> 4

def Ipv4Header.fragmentOffset (ip : Ipv4Header) : Nat := ip.flagsFragmentOffset.toNat &&& 0x1FFF

/-- Headers of IPv4 and TCP which are long enough, at the start of a datagram. -/
structure Genuine (ip : Ipv4Header) (tcp : TcpHeader) : Prop where
  version : ip.version = 4
  ipHeader : 20 ≤ ip.headerLength
  unfragmented : ip.fragmentOffset = 0
  tcpHeader : 20 ≤ tcp.headerLength

/-- The datagram ends in the packet, and the TCP header in the datagram. -/
structure Inside (packet : List UInt8) (ip : Ipv4Header) (tcp : TcpHeader) : Prop where
  datagram : ip.totalLength.toNat ≤ packet.length - EthernetHeader.size
  header : ip.headerLength + tcp.headerLength ≤ ip.totalLength.toNat

structure IsSegment (packet : List UInt8) (ip : Ipv4Header) (tcp : TcpHeader) : Prop
    extends Carries packet ip tcp where
  ethertype : ∃ eth, EthernetHeader.read packet = some eth ∧ eth.ethertype = 0x0800
  protocol : ip.protocol = 0x06
  genuine : Genuine ip tcp
  inside : Inside packet ip tcp

/-- The packets the kernel queues a reply to are TCP segments. -/
def Kernel.AnswersSegments (kernel : Kernel) (packet : List UInt8) : Prop :=
  ∀ after, kernel.handleIncomingPacket packet = some after → ¬ kernel.QueuedNone after →
    ∃ ip tcp, IsSegment packet ip tcp

/-- What the code tests on both of its paths. -/
structure ForServer (packet : List UInt8) (ip : Ipv4Header) (tcp : TcpHeader) : Prop
    extends Carries packet ip tcp where
  ethertype : ∃ eth, EthernetHeader.read packet = some eth ∧ eth.ethertype = 0x0800
  destination : ip.destIp = #v[10, 0, 2, 15]
  protocol : ip.protocol = 0x06
  port : tcp.destPort = 80

/-- What it tests besides before it serves data. -/
structure CarriesGet (packet : List UInt8) (ip : Ipv4Header) (tcp : TcpHeader) : Prop where
  psh : tcp.isPsh
  whole : (segmentData packet ip tcp).length =
    ip.totalLength.toNat - ip.headerLength - tcp.headerLength
  get : utf8 "GET" <+: segmentData packet ip tcp

variable {packet : List UInt8} {ip : Ipv4Header} {tcp : TcpHeader} {kernel : Kernel} {nic : E1000}

theorem ForServer.readRequest_isSome (server : ForServer packet ip tcp)
    (asks : tcp.isSyn ∨ CarriesGet packet ip tcp) : ∃ request, readRequest packet = some request := by
  obtain ⟨eth, ethRead, ethertype⟩ := server.ethertype
  simp only [readRequest, ethRead, server.ipHeader, server.tcpHeader, ethertype, server.destination,
    server.protocol, server.port, Option.bind_eq_bind, Option.bind_some, and_self, ↓reduceIte]
  by_cases syn : tcp.isSyn
  · rw [if_pos syn]
    exact ⟨_, rfl⟩
  · obtain ⟨psh, whole, get⟩ := asks.resolve_left syn
    rw [if_neg syn, if_pos ⟨psh, whole, get⟩]
    exact ⟨_, rfl⟩

theorem readRequest_forServer {request : Request} (read : readRequest packet = some request) :
    ∃ ip tcp, ForServer packet ip tcp ∧ (tcp.isSyn ∨ ¬ tcp.isSyn ∧ CarriesGet packet ip tcp) := by
  simp only [readRequest, Option.bind_eq_bind, Option.bind_eq_some_iff] at read
  obtain ⟨eth, ethRead, ip, ipRead, tcp, tcpRead, read⟩ := read
  split at read
  case isFalse => cases read
  case isTrue tests =>
    obtain ⟨ethertype, destination, protocol, port⟩ := tests
    refine ⟨ip, tcp, ⟨⟨ipRead, tcpRead⟩, ⟨eth, ethRead, ethertype⟩, destination, protocol, port⟩, ?_⟩
    split at read
    case isTrue syn => exact .inl syn
    case isFalse noSyn =>
      split at read
      case isTrue data => exact .inr ⟨noSyn, data.1, data.2.1, data.2.2⟩
      case isFalse => cases read

/-- The kernel answers just the requests. -/
theorem queuedNone_iff (ready : kernel.Ready nic) {after : Kernel}
    (handled : kernel.handleIncomingPacket packet = some after) :
    kernel.QueuedNone after ↔ readRequest packet = none := by
  obtain ⟨same, _, again, _, answered⟩ := handleIncomingPacket_answered ready packet
  cases handled.symm.trans again
  constructor
  · intro nothing
    cases read : readRequest packet with
    | none => rfl
    | some request =>
      rw [read] at answered
      cases request with
      | syn => exact absurd nothing (Kernel.Sends.not_queuedNone answered)
      | get => exact absurd nothing (Kernel.Sends.not_queuedNone answered)
  · intro read
    rw [read] at answered
    exact answered

theorem answersSegments_iff_readRequest (ready : kernel.Ready nic) :
    kernel.AnswersSegments packet ↔
      ((∃ request, readRequest packet = some request) → ∃ ip tcp, IsSegment packet ip tcp) := by
  obtain ⟨after, _, handled, _⟩ := handleIncomingPacket_answered ready packet
  have decides := queuedNone_iff ready handled
  constructor
  · rintro answers ⟨request, read⟩
    refine answers after handled fun nothing => ?_
    rw [decides.mp nothing] at read
    cases read
  · rintro segments other again answered
    cases handled.symm.trans again
    rw [decides, ← ne_eq, Option.ne_none_iff_exists'] at answered
    exact segments answered

/-- Data that is all there ends in the packet, so its header does as well. -/
theorem CarriesGet.inside (carries : CarriesGet packet ip tcp) : Inside packet ip tcp := by
  obtain ⟨some, whole⟩ := segmentData_complete carries.whole carries.get
  constructor <;> omega

theorem ForServer.isSegment (server : ForServer packet ip tcp) (genuine : Genuine ip tcp)
    (inside : Inside packet ip tcp) : IsSegment packet ip tcp :=
  ⟨server.toCarries, server.ethertype, server.protocol, genuine, inside⟩

theorem ForServer.genuine (server : ForServer packet ip tcp)
    (segment : ∃ ip tcp, IsSegment packet ip tcp) : Genuine ip tcp ∧ Inside packet ip tcp := by
  obtain ⟨_, _, segment⟩ := segment
  obtain ⟨rfl, rfl⟩ := segment.toCarries.unique server.toCarries
  exact ⟨segment.genuine, segment.inside⟩

section Decoding

/-- The fields of a segment are those of its headers. -/
structure Segment.Stands (segment : Segment) (packet : List UInt8) (ip : Ipv4Header)
    (tcp : TcpHeader) : Prop where
  fragment : segment.fragment = ip.flagsFragmentOffset
  sourceIp : segment.sourceIp = ip.srcIp
  destinationIp : segment.destinationIp = ip.destIp
  sourcePort : segment.sourcePort = tcp.srcPort
  destinationPort : segment.destinationPort = tcp.destPort
  sequence : segment.sequence = tcp.seqNum
  acknowledgment : segment.acknowledgment = tcp.ackNum
  flags : segment.flags.val = tcp.dataOffsetFlags.toNat % 512
  payload : segment.payload = segmentData packet ip tcp

theorem low_nibble (byte : UInt8) : byte.toNat &&& 0x0F = byte.toNat % 16 :=
  Nat.and_two_pow_sub_one_eq_mod _ 4

theorem dataOffset_be16 (high low : UInt8) :
    ((be16 high low).toNat >>> 12) &&& 0x0F = high.toNat / 16 := by
  have top := high.toNat_lt
  have bottom := low.toNat_lt
  rw [be16_toNat, word_eq, show 0x0F = 2 ^ 4 - 1 from rfl, Nat.and_two_pow_sub_one_eq_mod,
    Nat.shiftRight_eq_div_pow]
  omega

theorem be16_ipv4_iff (high low : UInt8) : be16 high low = 0x0800 ↔ high = 0x08 ∧ low = 0x00 := by
  have top := high.toNat_lt
  have bottom := low.toNat_lt
  rw [← UInt16.toNat_inj, be16_toNat, word_eq, ← UInt8.toNat_inj, ← UInt8.toNat_inj]
  change _ = 2048 ↔ _ = 8 ∧ _ = 0
  omega

/-- A segment is read as such, with the fields of its headers. -/
theorem IsSegment.decode (real : IsSegment packet ip tcp) :
    ∃ segment, Segment.decode packet = some segment ∧ segment.Stands packet ip tcp := by
  obtain ⟨⟨ipRead, tcpRead⟩, ⟨eth, ethRead, ethertype⟩, protocol, genuine, inside⟩ := real
  obtain ⟨ethernet, castEthernet, sameEth⟩ := Option.bind_eq_some_iff.mp ethRead
  obtain ⟨rawIp, castIp, sameIp⟩ := Option.bind_eq_some_iff.mp ipRead
  obtain ⟨rawTcp, castTcp, sameTcp⟩ := Option.bind_eq_some_iff.mp tcpRead
  cases sameEth
  cases sameIp
  cases sameTcp
  obtain ⟨version, ipHeader, unfragmented, tcpHeader⟩ := genuine
  obtain ⟨datagram, headers⟩ := inside
  simp only [Ipv4Header.version, Ipv4Header.headerLength, TcpHeader.headerLength, low_nibble,
    dataOffset_be16, be16_ipv4_iff] at ethertype version ipHeader tcpHeader headers castTcp
  rw [Nat.shiftRight_eq_div_pow] at version
  have low := rawIp[0].toNat_lt
  have high := rawTcp[12].toNat_lt
  have total := (be16 rawIp[2] rawIp[3]).toNat_lt
  have place : 14 + 20 + (rawIp[0].toNat % 16 * 4 - 20) = 14 + rawIp[0].toNat % 16 * 4 := by omega
  simp only [Segment.decode, castEthernet, castIp, Option.bind_eq_bind, Option.bind_some,
    List.drop_drop, place, castTcp]
  have room : (be16 rawIp[2] rawIp[3]).toNat ≤ packet.length - 14 := datagram
  rw [if_pos ⟨ethertype, ⟨version, by omega, protocol⟩, by omega, by omega, by
      rw [List.length_drop]; exact room⟩, dif_pos]
  · refine ⟨_, rfl, rfl, rfl, rfl, rfl, rfl, rfl, rfl, rfl, ?_⟩
    have start : 14 + rawIp[0].toNat % 16 * 4 + 20 + (rawTcp[12].toNat / 16 * 4 - 20) =
        14 + rawIp[0].toNat % 16 * 4 + rawTcp[12].toNat / 16 * 4 := by omega
    have size : (be16 rawIp[2] rawIp[3]).toNat -
        (40 + (rawIp[0].toNat % 16 * 4 - 20) + (rawTcp[12].toNat / 16 * 4 - 20)) =
          (be16 rawIp[2] rawIp[3]).toNat - rawIp[0].toNat % 16 * 4 -
            rawTcp[12].toNat / 16 * 4 := by omega
    simp only [segmentData, Ipv4Header.headerLength, TcpHeader.headerLength, low_nibble,
      dataOffset_be16, start, size]
  · simp only [List.length_take, List.length_drop]
    omega

/-- What is read as a segment, and not as a later fragment, is one. -/
theorem isSegment_of_decode {segment : Segment} (decoded : Segment.decode packet = some segment)
    (first : segment.fragment.toNat &&& 0x1FFF = 0) : ∃ ip tcp, IsSegment packet ip tcp := by
  obtain ⟨ethernet, rawIp, rawTcp, castEthernet, castIp, castTcp, ethertype,
    ⟨version, ipHeader, protocol⟩, tcpHeader, headers, datagram, fragmented⟩ :=
    Segment.decode_some decoded
  rw [fragmented] at first
  obtain ⟨eth, ethRead, type⟩ : ∃ eth, EthernetHeader.read packet = some eth ∧
      eth.ethertype = be16 ethernet[12] ethernet[13] := by
    rw [EthernetHeader.read, castEthernet]
    exact ⟨_, rfl, rfl⟩
  obtain ⟨ip, ipRead, ihl, length, fragment, number⟩ :
      ∃ ip, Ipv4Header.read (packet.drop 14) = some ip ∧ ip.versionIhl = rawIp[0] ∧
        ip.totalLength = be16 rawIp[2] rawIp[3] ∧
        ip.flagsFragmentOffset = be16 rawIp[6] rawIp[7] ∧ ip.protocol = rawIp[9] := by
    rw [Ipv4Header.read, castIp]
    exact ⟨_, rfl, rfl, rfl, rfl, rfl⟩
  have ipLength : ip.headerLength = rawIp[0].toNat % 16 * 4 := by
    rw [Ipv4Header.headerLength, ihl, low_nibble]
  obtain ⟨tcp, tcpRead, offset⟩ :
      ∃ tcp, TcpHeader.read (packet.drop (14 + ip.headerLength)) = some tcp ∧
        tcp.dataOffsetFlags = be16 rawTcp[12] rawTcp[13] := by
    rw [ipLength, TcpHeader.read, castTcp]
    exact ⟨_, rfl, rfl⟩
  have tcpLength : tcp.headerLength = rawTcp[12].toNat / 16 * 4 := by
    rw [TcpHeader.headerLength, offset, dataOffset_be16]
  refine ⟨ip, tcp, ⟨⟨ipRead, tcpRead⟩, ⟨eth, ethRead, ?_⟩, number.trans protocol, ⟨?_, ?_, ?_, ?_⟩,
    ⟨length ▸ datagram, ?_⟩⟩⟩
  · rw [type, be16_ipv4_iff]
    exact ethertype
  · rw [Ipv4Header.version, ihl, Nat.shiftRight_eq_div_pow]
    exact version
  · omega
  · rw [Ipv4Header.fragmentOffset, fragment]
    exact first
  · omega
  · rw [ipLength, tcpLength, length]
    omega

theorem flags_testBit (word bit : Nat) :
    (word &&& 0x01FF) &&& 2 ^ bit ≠ 0 ↔ (word % 512).testBit bit = true := by
  rw [show 0x01FF = 2 ^ 9 - 1 from rfl, Nat.and_two_pow_sub_one_eq_mod, Nat.and_two_pow]
  cases (word % 2 ^ 9).testBit bit with
  | true => simp
  | false => simp

theorem Segment.Stands.syn {segment : Segment} (stands : segment.Stands packet ip tcp) :
    segment.syn = true ↔ tcp.isSyn := by
  rw [Segment.syn, stands.flags]
  exact (flags_testBit tcp.dataOffsetFlags.toNat 1).symm

theorem Segment.Stands.psh {segment : Segment} (stands : segment.Stands packet ip tcp) :
    segment.psh = true ↔ tcp.isPsh := by
  rw [Segment.psh, stands.flags]
  exact (flags_testBit tcp.dataOffsetFlags.toNat 3).symm

end Decoding

/-- The code tests none of the rules before it answers a `SYN`, and before it
serves data those alone which say where the datagram ends. -/
theorem answersSegments_iff {boot : Boot} {events : List Event} {kernel : Kernel}
    (reached : run Kernel.step events boot.kernel = some kernel) (packet : List UInt8) :
    kernel.AnswersSegments packet ↔ ∀ ip tcp, ForServer packet ip tcp →
      (tcp.isSyn → Genuine ip tcp ∧ Inside packet ip tcp) ∧
      (¬ tcp.isSyn → CarriesGet packet ip tcp → Genuine ip tcp) := by
  obtain ⟨nic, ready⟩ := Kernel.reached_ready reached
  rw [answersSegments_iff_readRequest ready]
  constructor
  · intro segments ip tcp server
    constructor
    · intro syn
      exact server.genuine (segments (server.readRequest_isSome (.inl syn)))
    · intro _ data
      exact (server.genuine (segments (server.readRequest_isSome (.inr data)))).1
  · rintro rules ⟨request, read⟩
    obtain ⟨ip, tcp, server, asks⟩ := readRequest_forServer read
    refine ⟨ip, tcp, ?_⟩
    rcases asks with syn | ⟨noSyn, data⟩
    · obtain ⟨genuine, inside⟩ := (rules ip tcp server).1 syn
      exact server.isSegment genuine inside
    · exact server.isSegment ((rules ip tcp server).2 noSyn data) data.inside

theorem answersSegments_iff_syn : Boot.driveless.kernel.AnswersSegments clientSyn.encode ↔
    ∀ ip tcp, ForServer clientSyn.encode ip tcp →
      (tcp.isSyn → Genuine ip tcp ∧ Inside clientSyn.encode ip tcp) ∧
      (¬ tcp.isSyn → CarriesGet clientSyn.encode ip tcp → Genuine ip tcp) :=
  @answersSegments_iff Boot.driveless [] Boot.driveless.kernel rfl clientSyn.encode

/-- The client's segment in the place of the second fragment of a datagram. -/
def laterFragment : Segment := { clientSyn with fragment := 1 }

theorem laterFragment_read :
    readRequest laterFragment.encode = some (.syn ⟨#v[10, 0, 2, 2], 40000⟩ 0xFFFFFFFF) ∧
      (Ipv4Header.read (laterFragment.encode.drop EthernetHeader.size)).map
        Ipv4Header.fragmentOffset = some 1 := by
  decide +kernel

theorem answersSegments_fragment : ¬ ∀ (boot : Boot) (events : List Event) (kernel : Kernel),
    run Kernel.step events boot.kernel = some kernel →
      ∀ packet, kernel.AnswersSegments packet := by
  intro always
  obtain ⟨asks, offset⟩ := laterFragment_read
  have answers := always Boot.driveless [] _ rfl laterFragment.encode
  rw [answersSegments_iff_readRequest Boot.driveless.kernel_ready] at answers
  obtain ⟨ip, tcp, segment⟩ := answers ⟨_, asks⟩
  rw [segment.ipHeader, Option.map_some, segment.genuine.unfragmented] at offset
  cases offset

end QoreOS.Network
