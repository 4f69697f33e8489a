import QoreOS.Network.SegmentGrammar
import QoreOS.Network.Wire

/-! The conversation on the wire, in terms of the protocols: what the node owes for each
frame that it hears, and to whom. -/

namespace QoreOS.Network

open QoreOS.Library

/-- The address that the driver programs. -/
def ownMac : Mac := .of 0x52 0x54 0x00 0x12 0x34 0x56

/-- A frame which the node owes, with the address it goes to. -/
inductive Duty where
  | announce
  | ask (targetIp : Ip)
  | tell (mac : Mac) (ip : Ip)
  | accept (mac : Mac) (peer : Peer) (sequence : UInt32)
  | serve (mac : Mac) (peer : Peer) (sequence acknowledgment : UInt32) (length : Nat)

namespace Protocol

/-- What the sender of an ARP message says of itself. -/
def announced (frame : List UInt8) : Option (Ip × Mac) := do
  let message ← ArpMessage.read frame
  if message.ethertype = 0x0806 ∧ message.hardwareType = 1 ∧ message.protocolType = 0x0800 then
    some (message.senderIp, message.senderMac)
  else none

/-- Where a peer was last heard of. Only the first sixteen peers are remembered, and the
others are called by broadcast. -/
def whereabouts (history : List (Ip × Mac)) (ip : Ip) : Mac :=
  (if ip ∈ admitted 16 history then latest history ip else none).getD (Vector.replicate 6 0xFF)

def asked (frame : List UInt8) : Option Duty := do
  let message ← ArpMessage.read frame
  if message = .request message.senderMac message.senderIp ownIp then
    some (.tell message.senderMac message.senderIp)
  else none

/-- What a segment to the server asks of it: the first of a connection, or a `GET`. Parts of a
datagram ask nothing. -/
def request (frame : List UInt8) : Option Request := do
  let segment ← Segment.decode frame
  let peer : Peer := ⟨segment.sourceIp, segment.sourcePort⟩
  if segment.fragment.toNat &&& 0x3FFF = 0 ∧ segment.destinationIp = ownIp ∧
      segment.destinationPort = 80 then
    if segment.syn then some (.syn peer segment.sequence)
    else if segment.psh ∧ utf8 "GET" <+: segment.payload then
      some (.get peer segment.sequence segment.acknowledgment segment.payload.length)
    else none
  else none

/-- What the kernel takes for a request is a segment by the rules, in a datagram of its own. -/
def Proper (frame : List UInt8) : Prop :=
  ∀ ip tcp, ForServer frame ip tcp → tcp.isSyn ∨ CarriesGet frame ip tcp →
    Genuine ip tcp ∧ Inside frame ip tcp ∧ ip.flagsFragmentOffset.toNat &&& 0x3FFF = 0

def requested (history : List (Ip × Mac)) : Request → Duty
  | .syn peer sequence => .accept (whereabouts history peer.ip) peer sequence
  | .get peer sequence acknowledgment length =>
    .serve (whereabouts history peer.ip) peer sequence acknowledgment length

def next (history : List (Ip × Mac)) : Act → List (Ip × Mac)
  | .hears frame => history ++ (announced frame).toList
  | _ => history

def owes (history : List (Ip × Mac)) : Act → List Duty
  | .hears frame => ((asked frame).or ((request frame).map (requested history))).toList
  | .broadcasts => [.announce]
  | .asks targetIp => [.ask targetIp]

/-- All that a node of the network need remember is who announced what. -/
def machine : Transducer (List (Ip × Mac)) Act Duty where
  next := next
  speaks := owes

end Protocol

/-- Frames from outside that are as the rules demand. -/
def Event.Proper : Event → Prop
  | .receive frame => Protocol.Proper frame
  | _ => True

/-- The segment goes from the server's port to the peer. -/
structure Addressed (mac : Mac) (peer : Peer) (segment : Segment) : Prop where
  destinationMac : segment.destinationMac = mac
  sourceIp : segment.sourceIp = ownIp
  destinationIp : segment.destinationIp = peer.ip
  sourcePort : segment.sourcePort = 80
  destinationPort : segment.destinationPort = peer.port

/-- The frame, read back, is what was owed. -/
def Duty.Fulfilled (payload : String) (frame : List UInt8) : Duty → Prop
  | .announce => frame = Kernel.udpBroadcastFrame
  | .ask targetIp => ArpMessage.read frame = some (.request ownMac ownIp targetIp)
  | .tell mac ip => ArpMessage.read frame = some (.reply ownMac ownIp ip) ∧
    (EthernetHeader.read frame).map EthernetHeader.destMac = some mac
  | .accept mac peer sequence => ChecksumsVerify frame ∧ ∃ segment,
    Segment.decode frame = some segment ∧ Addressed mac peer segment ∧ segment.flags = 0x12 ∧
    segment.sequence = 0xCAFEBABE ∧ segment.acknowledgment = sequence + 1 ∧ segment.payload = []
  | .serve mac peer sequence acknowledgment length => ChecksumsVerify frame ∧ ∃ segment,
    Segment.decode frame = some segment ∧ Addressed mac peer segment ∧ segment.flags = 0x18 ∧
    segment.sequence = acknowledgment ∧
    segment.acknowledgment = sequence + UInt32.ofNat length ∧
    ∃ lines, readHead [] segment.payload = some (lines, utf8 payload) ∧
      contentLength lines = some (utf8 payload).length

/-- The node knows what has been announced. -/
structure Knows (payload : String) (history : List (Ip × Mac)) (node : Node) : Prop where
  records : Records history node.arpTable
  macAddress : node.macAddress = ownMac
  httpPayload : node.httpPayload = some payload

variable {payload : String} {history : List (Ip × Mac)} {node : Node} {frame : List UInt8}

theorem Knows.macOf (knows : Knows payload history node) (ip : Ip) :
    node.macOf ip = Protocol.whereabouts history ip := by
  rw [Node.macOf, knows.records.lookup]
  rfl

theorem Knows.hears (knows : Knows payload history node) (frame : List UInt8) :
    Knows payload (history ++ (Protocol.announced frame).toList) (node.hears frame) := by
  unfold Protocol.announced Node.hears Node.learns ArpMessage.learn
  cases ArpMessage.read frame with
  | none => simpa using knows
  | some message =>
    simp only [Option.bind_eq_bind, Option.bind_some, Option.map_some, Option.getD_some]
    by_cases arp : message.ethertype = 0x0806
    · by_cases types : message.hardwareType = 1 ∧ message.protocolType = 0x0800
      · rw [if_pos ⟨arp, types⟩, if_pos arp, if_pos types]
        exact ⟨knows.records.insert _ _, knows.macAddress, knows.httpPayload⟩
      · rw [if_neg fun both => types both.2, if_pos arp, if_neg types]
        simpa using knows
    · rw [if_neg fun both => arp both.1, if_neg arp]
      simpa using knows

section Requests

variable {ip : Ipv4Header} {tcp : TcpHeader}

theorem IsSegment.request (real : IsSegment frame ip tcp)
    (whole : ip.flagsFragmentOffset.toNat &&& 0x3FFF = 0) :
    Protocol.request frame = readRequest frame := by
  obtain ⟨segment, decoded, stands⟩ := real.decode
  obtain ⟨eth, ethRead, ethertype⟩ := real.ethertype
  obtain ⟨datagram, header⟩ := real.inside
  have full : (segmentData frame ip tcp).length =
      ip.totalLength.toNat - ip.headerLength - tcp.headerLength := by
    rw [segmentData, List.length_take, List.length_drop]
    omega
  have fragment : segment.fragment.toNat &&& 0x3FFF = 0 := stands.fragment ▸ whole
  simp only [Protocol.request, decoded, readRequest, ethRead, real.ipHeader, real.tcpHeader,
    Option.bind_eq_bind, Option.bind_some, fragment, ethertype, real.protocol, true_and, stands.syn,
    stands.psh, stands.sourceIp, stands.sourcePort, stands.destinationIp, stands.destinationPort,
    stands.sequence, stands.acknowledgment, stands.payload, full]
  rfl

/-- A frame read as a segment, not as a part of a datagram, is one. -/
theorem Segment.decoded_whole {segment : Segment} (decoded : Segment.decode frame = some segment)
    (whole : segment.fragment.toNat &&& 0x3FFF = 0) :
    ∃ ip tcp, IsSegment frame ip tcp ∧ ip.flagsFragmentOffset.toNat &&& 0x3FFF = 0 := by
  have first : segment.fragment.toNat &&& 0x1FFF = 0 := by
    rw [show 0x1FFF = 0x3FFF &&& 0x1FFF from rfl, ← Nat.and_assoc, whole, Nat.zero_and]
  obtain ⟨ip, tcp, real⟩ := isSegment_of_decode decoded first
  obtain ⟨again, found, stands⟩ := real.decode
  cases decoded.symm.trans found
  exact ⟨ip, tcp, real, stands.fragment ▸ whole⟩

namespace Protocol

/-- The kernel's reading of a proper frame is that of the protocols. -/
theorem request_eq (proper : Proper frame) : request frame = readRequest frame := by
  cases asks : readRequest frame with
  | some asked =>
    obtain ⟨ip, tcp, server, carries⟩ := readRequest_forServer asks
    obtain ⟨genuine, inside, whole⟩ := proper ip tcp server (carries.imp_right And.right)
    rw [(server.isSegment genuine inside).request whole, asks]
  | none =>
    cases owed : request frame with
    | none => rfl
    | some asked =>
      obtain ⟨segment, decoded, read⟩ := Option.bind_eq_some_iff.mp owed
      dsimp only at read
      rw [Option.ite_none_right_eq_some] at read
      obtain ⟨⟨whole, -⟩, -⟩ := read
      obtain ⟨ip, tcp, real, alone⟩ := Segment.decoded_whole decoded whole
      rw [real.request alone, asks] at owed
      cases owed

theorem Proper.of_decode {segment : Segment} (decoded : Segment.decode frame = some segment)
    (whole : segment.fragment.toNat &&& 0x3FFF = 0) : Proper frame := by
  intro ip tcp server _
  obtain ⟨other, header, real, alone⟩ := Segment.decoded_whole decoded whole
  obtain ⟨rfl, rfl⟩ := real.toCarries.unique server.toCarries
  exact ⟨real.genuine, real.inside, alone⟩

end Protocol

end Requests

/-- Behind its checksums a crafted frame is still the frame of its segment. -/
theorem stamped_segment {flags : Fin 512} {options body : List UInt8} (mac : Mac) (peer : Peer)
    (seq ack : UInt32) (aligned : options.length % 4 = 0 ∧ options.length ≤ 40)
    (fits : 40 + options.length + body.length ≤ 65535)
    (stamped : recalculateChecksums (baseSegment mac peer.ip peer.port seq ack flags 0 0 options body
      aligned fits).encode = some frame) :
    ChecksumsVerify frame ∧ ∃ segment, Segment.decode frame = some segment ∧
      Addressed mac peer segment ∧ segment.flags = flags ∧ segment.sequence = seq ∧
      segment.acknowledgment = ack ∧ segment.payload = body := by
  have length := baseSegment_length mac peer.ip peer.port seq ack flags options body aligned fits 0 0
  refine ⟨recalculateChecksums_verify (by omega) (by omega) stamped, ?_⟩
  obtain ⟨ipChecksum, tcpChecksum, encoded⟩ :=
    recalculateChecksums_encode mac peer.ip peer.port seq ack flags options body aligned fits 0 0
  cases stamped.symm.trans encoded
  exact ⟨_, Segment.decode_encode _, ⟨rfl, rfl, rfl, rfl, rfl⟩, rfl, rfl, rfl, rfl⟩

/-- A request is answered by the frame which it deserves. -/
theorem Knows.answersTcp (knows : Knows payload history node)
    (small : (utf8 payload).length ≤ 14 + 512) (request : Request) :
    ∃ frame, node.answersTcp request = some frame ∧
      (Protocol.requested history request).Fulfilled payload frame := by
  cases request with
  | syn peer sequence =>
    obtain ⟨_, _, built⟩ := synAckFrame_encode (node.macOf peer.ip) peer.ip peer.port sequence
    have stamped := (synAckFrame_eq ..).symm.trans built
    refine ⟨_, built, ?_⟩
    rw [Protocol.requested, ← knows.macOf]
    exact stamped_segment (node.macOf peer.ip) peer 0xCAFEBABE (sequence + 1) _ _ stamped
  | get peer sequence acknowledgment length =>
    have short : (utf8 (Kernel.httpBody node.httpPayload)).length ≤ 1000 := by
      apply Kernel.httpBody_length
      rw [knows.httpPayload]
      rintro text ⟨⟩
      exact small
    have fits : 40 + (utf8 (Kernel.httpBody node.httpPayload)).length ≤ 65535 := by omega
    obtain ⟨_, _, built⟩ := httpFrame_encode (node.macOf peer.ip) peer.ip peer.port acknowledgment
      (sequence + UInt32.ofNat length) (utf8 (Kernel.httpBody node.httpPayload)) fits
    have stamped := (httpFrame_eq _ _ _ _ _ _ fits).symm.trans built
    refine ⟨_, built, ?_⟩
    rw [Protocol.requested, ← knows.macOf]
    obtain ⟨verify, segment, decoded, addressed, flags, seq, ack, body⟩ :=
      stamped_segment (node.macOf peer.ip) peer acknowledgment (sequence + UInt32.ofNat length) _ _
        stamped
    refine ⟨verify, segment, decoded, addressed, flags, seq, ack, ?_⟩
    have text := httpBody_read node.httpPayload
    rw [knows.httpPayload, Option.getD_some] at text
    rw [body, knows.httpPayload]
    exact text

/-- What the node says to an act is what it owes for it. -/
theorem Knows.acts (knows : Knows payload history node)
    (small : (utf8 payload).length ≤ 14 + 512) {act : Act}
    (proper : ∀ frame, act = .hears frame → Protocol.Proper frame) :
    List.Forall₂ (fun duty frame => Duty.Fulfilled payload frame duty)
        (Protocol.machine.speaks history act) (Node.machine.speaks node act) ∧
      Knows payload (Protocol.machine.next history act) (Node.machine.next node act) := by
  cases act with
  | broadcasts => exact ⟨.cons rfl .nil, knows⟩
  | asks targetIp =>
    refine ⟨.cons ?_ .nil, knows⟩
    rw [knows.macAddress]
    exact arpRequestFrame_read ownMac targetIp
  | hears heard =>
    refine ⟨?_, knows.hears heard⟩
    change List.Forall₂ _ ((Protocol.asked heard).or _).toList (node.answers heard).toList
    have asks : Protocol.asked heard = none ∧ (ArpMessage.read heard).bind node.answersArp = none ∨
        ∃ mac ip, Protocol.asked heard = some (.tell mac ip) ∧
          (ArpMessage.read heard).bind node.answersArp =
            some (Kernel.arpReplyFrame node.macAddress mac ip) := by
      unfold Protocol.asked
      cases ArpMessage.read heard with
      | none => exact .inl ⟨rfl, rfl⟩
      | some message =>
        simp only [Option.bind_eq_bind, Option.bind_some, Node.answersArp]
        split
        · exact .inr ⟨_, _, rfl, rfl⟩
        · exact .inl ⟨rfl, rfl⟩
    rw [Node.answers]
    rcases asks with ⟨quiet, silent⟩ | ⟨mac, ip, asks, replies⟩
    · rw [quiet, silent, Option.none_or, Option.none_or, Protocol.request_eq (proper heard rfl)]
      cases readRequest heard with
      | none => exact .nil
      | some request =>
        obtain ⟨frame, answered, fulfilled⟩ := knows.answersTcp small request
        rw [Option.bind_some, answered]
        exact .cons fulfilled .nil
    · rw [asks, replies, Option.some_or, Option.some_or, knows.macAddress]
      exact .cons ⟨arpReplyFrame_read .., arpReplyFrame_destination ..⟩ .nil

theorem Boot.node_knows (boot : Boot) : Knows boot.payload [] boot.node :=
  ⟨Records.initial, rfl, rfl⟩

/-- What the node says in a run is what it owes for what it has heard. -/
theorem OnWire.fulfils {boot : Boot} {events : List Event} {wire : Wire} {nic : E1000}
    (onWire : OnWire boot wire nic) (reached : run Wire.step events (Wire.start boot) = some wire)
    (proper : ∀ event ∈ events, event.Proper) :
    List.Forall₂ (fun duty frame => Duty.Fulfilled boot.payload frame duty)
      (Protocol.machine.transcript [] wire.acts) (Node.machine.transcript boot.node wire.acts) := by
  refine Node.machine.transcript_refines Protocol.machine (fun act member _ _ knows => ?_)
    boot.node_knows
  refine knows.acts (Storage.sectorDataStr_length boot.installed) fun frame hears => ?_
  subst hears
  exact proper _ (onWire.faithful.received reached member)

/-- While no frame meets a full transmit ring and what the kernel takes for a request is one, the
frames on the wire and those that the card will still take are one by one what the protocols ask of
the node: each request of each frame is answered once and in its turn, to the peer that made it, at
the address where it was last heard of, and nothing is said unasked. -/
theorem conversation_kept (boot : Boot) (events : List Event)
    (long : ∀ event ∈ events, event.LongEnough) (proper : ∀ event ∈ events, event.Proper) :
    ∃ wire, run Wire.step events (Wire.start boot) = some wire ∧
      (wire.crowded = false → ∃ nic said, wire.traffic.kernel.netCard = some nic ∧
        wire.sent.map some ++ nic.txWindow.map (nic.frameAt wire.traffic.kernel.heap) =
          said.map some ∧
        List.Forall₂ (fun duty frame => Duty.Fulfilled boot.payload frame duty)
          (Protocol.machine.transcript [] wire.acts) said) := by
  obtain ⟨wire, reached, nic, onWire⟩ := Wire.run_onWire boot events long
  refine ⟨wire, reached, fun calm => ?_⟩
  obtain ⟨card, same, sent⟩ := onWire.faithful.spoken calm
  exact ⟨card, _, same, sent, onWire.fulfils reached proper⟩

/-- A request of the stored sector, from a peer never heard of, and the ARP request that the
desktop sends behind it. -/
theorem conversation_kept_get :
    ∃ wire, run Wire.step [.receive strayGet.encode, .arpRequest #v[10, 0, 2, 2], .poll,
        .fetch] (Wire.start Boot.driveless) = some wire ∧
      (wire.crowded = false → ∃ nic said, wire.traffic.kernel.netCard = some nic ∧
        wire.sent.map some ++ nic.txWindow.map (nic.frameAt wire.traffic.kernel.heap) =
          said.map some ∧
        List.Forall₂ (fun duty frame => Duty.Fulfilled Boot.driveless.payload frame duty)
          (Protocol.machine.transcript [] wire.acts) said) :=
  conversation_kept Boot.driveless _ (by
    intro event member
    simp only [List.mem_cons, List.not_mem_nil, or_false] at member
    rcases member with rfl | rfl | rfl | rfl
    · change 42 ≤ strayGet.encode.length
      decide
    · exact trivial
    · exact trivial
    · exact trivial) (by
    intro event member
    simp only [List.mem_cons, List.not_mem_nil, or_false] at member
    rcases member with rfl | rfl | rfl | rfl
    · exact Protocol.Proper.of_decode (Segment.decode_encode strayGet) rfl
    · exact trivial
    · exact trivial
    · exact trivial)

end QoreOS.Network
