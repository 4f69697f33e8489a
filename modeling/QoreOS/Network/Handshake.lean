import QoreOS.Network.Responder

/-! The three-way handshake. The responder keeps no table of connections, so
whether its data goes out on an established one is up to the packets it gets. -/

namespace QoreOS.Network

open QoreOS.Library

/-- The other end of a connection to port 80. -/
structure Peer where
  ip : Ip
  port : UInt16
  deriving DecidableEq

def Ipv4Header.headerLength (ip : Ipv4Header) : Nat := (ip.versionIhl.toNat &&& 0x0F) * 4

namespace TcpHeader

def headerLength (tcp : TcpHeader) : Nat := ((tcp.dataOffsetFlags.toNat >>> 12) &&& 0x0F) * 4

def isSyn (tcp : TcpHeader) : Prop := (tcp.dataOffsetFlags.toNat &&& 0x01FF) &&& 0x02 ≠ 0
def isPsh (tcp : TcpHeader) : Prop := (tcp.dataOffsetFlags.toNat &&& 0x01FF) &&& 0x08 ≠ 0

instance (tcp : TcpHeader) : Decidable tcp.isSyn := inferInstanceAs (Decidable (_ ≠ _))
instance (tcp : TcpHeader) : Decidable tcp.isPsh := inferInstanceAs (Decidable (_ ≠ _))

end TcpHeader

/-- The headers of the packet, the second at the offset which the first gives. -/
structure Carries (packet : List UInt8) (ip : Ipv4Header) (tcp : TcpHeader) : Prop where
  ipHeader : Ipv4Header.read (packet.drop EthernetHeader.size) = some ip
  tcpHeader : TcpHeader.read (packet.drop (EthernetHeader.size + ip.headerLength)) = some tcp

/-- The data of a segment, as far as the lengths in its headers go. -/
def segmentData (packet : List UInt8) (ip : Ipv4Header) (tcp : TcpHeader) : List UInt8 :=
  (packet.drop (EthernetHeader.size + ip.headerLength + tcp.headerLength)).take
    (ip.totalLength.toNat - ip.headerLength - tcp.headerLength)

/-- What a packet asks of the server on port 80. -/
inductive Request where
  | syn (peer : Peer) (sequence : UInt32)
  | get (peer : Peer) (sequence acknowledgment : UInt32) (length : Nat)
  deriving DecidableEq

/-- A packet read as a request, which takes nothing but its headers and the
first bytes of its data. -/
def readRequest (packet : List UInt8) : Option Request := do
  let eth ← EthernetHeader.read packet
  let ip ← Ipv4Header.read (packet.drop EthernetHeader.size)
  let tcp ← TcpHeader.read (packet.drop (EthernetHeader.size + ip.headerLength))
  let length := ip.totalLength.toNat - ip.headerLength - tcp.headerLength
  if eth.ethertype = 0x0800 ∧ ip.destIp = .of 10 0 2 15 ∧ ip.protocol = 0x06 ∧
      tcp.destPort = 80 then
    if tcp.isSyn then some (.syn ⟨ip.srcIp, tcp.srcPort⟩ tcp.seqNum)
    else if tcp.isPsh ∧ (segmentData packet ip tcp).length = length ∧
        utf8 "GET" <+: segmentData packet ip tcp then
      some (.get ⟨ip.srcIp, tcp.srcPort⟩ tcp.seqNum tcp.ackNum length)
    else none
  else none

/-- The server's reaction to a request. -/
def Kernel.answer (kernel : Kernel) : Option Request → Option Kernel
  | none => some kernel
  | some (.syn peer sequence) =>
    (kernel.terminalPrint s!"> NET: TCP [SYN] RCV'D. PORT {peer.port} -> {(80 : UInt16)}\n"
      0xF59E0B).sendTcpSynAck (kernel.targetMac peer.ip) peer.ip peer.port sequence
  | some (.get peer sequence acknowledgment length) =>
    (kernel.terminalPrint "> NET: HTTP [GET] REQUEST INTERCEPTED!\n" 0x10B981).sendHttpResponse
      (kernel.targetMac peer.ip) peer.ip peer.port acknowledgment sequence (UInt32.ofNat length)

/-- The code's slice is the data, wherever the code takes it. -/
theorem segmentData_slice {packet : List UInt8} {ip : Ipv4Header} {tcp : TcpHeader}
    (inside : EthernetHeader.size + ip.headerLength + tcp.headerLength +
      (ip.totalLength.toNat - ip.headerLength - tcp.headerLength) ≤ packet.length) :
    slice packet (EthernetHeader.size + ip.headerLength + tcp.headerLength)
      (EthernetHeader.size + ip.headerLength + tcp.headerLength +
        (ip.totalLength.toNat - ip.headerLength - tcp.headerLength)) =
      some (segmentData packet ip tcp) := by
  rw [slice_of_le (Nat.le_add_right ..) inside, List.drop_take, Nat.add_sub_cancel_left]
  rfl

/-- Data of the announced length that starts with a method name is neither
empty nor cut off. -/
theorem segmentData_complete {packet : List UInt8} {ip : Ipv4Header} {tcp : TcpHeader}
    (length : (segmentData packet ip tcp).length =
      ip.totalLength.toNat - ip.headerLength - tcp.headerLength)
    (get : utf8 "GET" <+: segmentData packet ip tcp) :
    0 < ip.totalLength.toNat - ip.headerLength - tcp.headerLength ∧
      EthernetHeader.size + ip.headerLength + tcp.headerLength +
        (ip.totalLength.toNat - ip.headerLength - tcp.headerLength) ≤ packet.length := by
  have three : 3 ≤ (segmentData packet ip tcp).length := get.length_le
  have inside : (segmentData packet ip tcp).length ≤
      packet.length - (EthernetHeader.size + ip.headerLength + tcp.headerLength) := by
    rw [segmentData, List.length_take, List.length_drop]
    exact Nat.min_le_right ..
  constructor <;> omega

theorem handleTcp_answer (kernel : Kernel) (packet : List UInt8) (ip : Ipv4Header)
    (tcp : TcpHeader) :
    kernel.handleTcp packet ip tcp ip.headerLength (EthernetHeader.size + ip.headerLength) =
      kernel.answer (if tcp.destPort = 80 then
        if tcp.isSyn then some (.syn ⟨ip.srcIp, tcp.srcPort⟩ tcp.seqNum)
        else if tcp.isPsh ∧ (segmentData packet ip tcp).length =
            ip.totalLength.toNat - ip.headerLength - tcp.headerLength ∧
            utf8 "GET" <+: segmentData packet ip tcp then
          some (.get ⟨ip.srcIp, tcp.srcPort⟩ tcp.seqNum tcp.ackNum
            (ip.totalLength.toNat - ip.headerLength - tcp.headerLength))
        else none
      else none) := by
  have nibble : (tcp.dataOffsetFlags.toNat >>> 12) &&& 0x0F ≤ 0x0F := Nat.and_le_right
  have header : checked (2 ^ 16) (((tcp.dataOffsetFlags.toNat >>> 12) &&& 0x0F) * 4) =
      some tcp.headerLength := checked_of_lt (by omega)
  have ignored : (some kernel : Option Kernel) = kernel.answer none := rfl
  simp only [Kernel.handleTcp, header, Option.bind_eq_bind, Option.bind_some]
  by_cases port : tcp.destPort = 80
  · by_cases syn : tcp.isSyn
    · have isSyn : (tcp.dataOffsetFlags.toNat &&& 0x01FF) &&& 0x02 ≠ 0 := syn
      simp only [port, syn, if_pos isSyn, ↓reduceIte]
      rfl
    · have noSyn : ¬ (tcp.dataOffsetFlags.toNat &&& 0x01FF) &&& 0x02 ≠ 0 := syn
      by_cases psh : tcp.isPsh
      · have isPsh : (tcp.dataOffsetFlags.toNat &&& 0x01FF) &&& 0x08 ≠ 0 := psh
        simp only [port, syn, psh, true_and, if_neg noSyn, if_pos isPsh, ↓reduceIte]
        by_cases data : (segmentData packet ip tcp).length =
            ip.totalLength.toNat - ip.headerLength - tcp.headerLength ∧
            utf8 "GET" <+: segmentData packet ip tcp
        · obtain ⟨some, inside⟩ := segmentData_complete data.1 data.2
          rw [if_pos (by omega), checkedSub_of_le (by omega), Option.bind_some,
            checkedSub_of_le (by omega), Option.bind_some, if_pos ⟨some, inside⟩,
            segmentData_slice inside, Option.bind_some, if_pos (List.isPrefixOf_iff_prefix.mpr data.2),
            if_pos data]
          rfl
        · rw [if_neg data]
          split
          · rw [checkedSub_of_le (by omega), Option.bind_some, checkedSub_of_le (by omega),
              Option.bind_some]
            split
            · rename_i enough
              rw [segmentData_slice enough.2, Option.bind_some, if_neg, ignored]
              intro get
              refine data ⟨?_, List.isPrefixOf_iff_prefix.mp get⟩
              rw [segmentData, List.length_take, List.length_drop]
              omega
            · exact ignored
          · exact ignored
      · have noPsh : ¬ (tcp.dataOffsetFlags.toNat &&& 0x01FF) &&& 0x08 ≠ 0 := psh
        simp only [port, syn, psh, false_and, if_neg noSyn, if_neg noPsh, ↓reduceIte]
        rfl
  · simp only [port, ↓reduceIte]
    rfl

/-- The handler looks at nothing but the packet to decide what to do: it reads
the request and answers it. -/
theorem handleIncomingPacket_answer (kernel : Kernel) (packet : List UInt8) :
    kernel.handleIncomingPacket packet = kernel.answer (readRequest packet) := by
  have ignored : (some kernel : Option Kernel) = kernel.answer none := rfl
  unfold Kernel.handleIncomingPacket readRequest
  by_cases frame : packet.length < EthernetHeader.size
  · rw [if_pos frame, EthernetHeader.read, castRef_of_lt frame]
    exact ignored
  · obtain ⟨rawEthernet, ethernetRead⟩ := castRef_of_le _ _ (Nat.le_of_not_lt frame)
    obtain ⟨eth, ethRead⟩ : ∃ eth, EthernetHeader.read packet = some eth :=
      ⟨_, by rw [EthernetHeader.read, ethernetRead]; rfl⟩
    simp only [if_neg frame, ethRead, Option.bind_eq_bind, Option.bind_some]
    by_cases datagram : packet.length < EthernetHeader.size + Ipv4Header.size
    · have short : Ipv4Header.read (packet.drop EthernetHeader.size) = none := by
        rw [Ipv4Header.read, castRef_of_lt (by rw [List.length_drop]; omega)]
        rfl
      simp only [if_pos datagram, short, Option.bind_none]
      split <;> exact ignored
    · obtain ⟨rawIp, rawIpRead⟩ := castRef_of_le Ipv4Header.size
        (packet.drop EthernetHeader.size) (by rw [List.length_drop]; omega)
      obtain ⟨ip, ipRead⟩ : ∃ ip, Ipv4Header.read (packet.drop EthernetHeader.size) = some ip :=
        ⟨_, by rw [Ipv4Header.read, rawIpRead]; rfl⟩
      have nibble : ip.versionIhl.toNat &&& 0x0F ≤ 0x0F := Nat.and_le_right
      have ihl : checked (2 ^ 8) ((ip.versionIhl.toNat &&& 0x0F) * 4) = some ip.headerLength :=
        checked_of_lt (by omega)
      simp only [if_neg datagram, slice_to_end (Nat.le_of_not_lt frame), ipRead, ihl,
        Option.bind_some]
      by_cases segment : packet.length < EthernetHeader.size + ip.headerLength + TcpHeader.size
      · have short : TcpHeader.read (packet.drop (EthernetHeader.size + ip.headerLength)) = none := by
          have some : 0 < TcpHeader.size := by decide
          rw [TcpHeader.read, castRef_of_lt (by rw [List.length_drop]; omega)]
          rfl
        simp only [if_pos segment, short, Option.bind_none]
        split
        · split
          · exact ignored
          · split <;> exact ignored
        · exact ignored
      · obtain ⟨rawTcp, rawTcpRead⟩ := castRef_of_le TcpHeader.size
          (packet.drop (EthernetHeader.size + ip.headerLength)) (by rw [List.length_drop]; omega)
        obtain ⟨tcp, tcpRead⟩ : ∃ tcp,
            TcpHeader.read (packet.drop (EthernetHeader.size + ip.headerLength)) = some tcp :=
          ⟨_, by rw [TcpHeader.read, rawTcpRead]; rfl⟩
        simp only [if_neg segment, slice_to_end (show EthernetHeader.size + ip.headerLength ≤
          packet.length by omega), tcpRead, Option.bind_some, handleTcp_answer]
        by_cases ethertype : eth.ethertype = 0x0800
        · by_cases destination : ip.destIp = #v[10, 0, 2, 15]
          · by_cases protocol : ip.protocol = 0x06
            · simp only [ethertype, destination, protocol, ne_eq, not_true_eq_false, ↓reduceIte,
                true_and]
            · simp only [ethertype, destination, protocol, ne_eq, not_true_eq_false, ↓reduceIte,
                false_and, and_false]
              exact ignored
          · simp only [ethertype, destination, ne_eq, not_false_eq_true, ↓reduceIte, false_and,
              and_false]
            exact ignored
        · simp only [ethertype, ↓reduceIte, false_and]
          exact ignored

theorem Carries.unique {packet : List UInt8} {ip ip' : Ipv4Header} {tcp tcp' : TcpHeader}
    (first : Carries packet ip tcp) (second : Carries packet ip' tcp') : ip = ip' ∧ tcp = tcp' := by
  cases first.ipHeader.symm.trans second.ipHeader
  cases first.tcpHeader.symm.trans second.tcpHeader
  exact ⟨rfl, rfl⟩

theorem readRequest_carries {packet : List UInt8} {request : Request}
    (read : readRequest packet = some request) : ∃ ip tcp, Carries packet ip tcp ∧
      match request with
      | .syn peer _ => peer = ⟨ip.srcIp, tcp.srcPort⟩ ∧ tcp.isSyn
      | .get peer _ acknowledgment _ =>
        peer = ⟨ip.srcIp, tcp.srcPort⟩ ∧ acknowledgment = tcp.ackNum := by
  simp only [readRequest, Option.bind_eq_bind, Option.bind_eq_some_iff] at read
  obtain ⟨eth, -, ip, ipRead, tcp, tcpRead, read⟩ := read
  refine ⟨ip, tcp, ⟨ipRead, tcpRead⟩, ?_⟩
  split at read
  · split at read
    · rename_i syn
      cases read
      exact ⟨rfl, syn⟩
    · split at read
      · cases read
        exact ⟨rfl, rfl⟩
      · cases read
  · cases read

/-- The step put one segment for the peer on the transmit ring. -/
def Kernel.Sends (before after : Kernel) (peer : Peer) (flags : Fin 512) (sequence : UInt32) : Prop :=
  ∃ frame reply, before.QueuedOne after frame ∧ Segment.decode frame = some reply ∧
    reply.destinationIp = peer.ip ∧ reply.destinationPort = peer.port ∧ reply.flags = flags ∧
    reply.sequence = sequence

/-- What the kernel sends on a request. -/
def Kernel.Answered (before after : Kernel) : Option Request → Prop
  | none => before.QueuedNone after
  | some (.syn peer _) => before.Sends after peer 0x12 0xCAFEBABE
  | some (.get peer _ acknowledgment _) => before.Sends after peer 0x18 acknowledgment

theorem handleIncomingPacket_answered {kernel : Kernel} {nic : E1000} (ready : kernel.Ready nic)
    (packet : List UInt8) : ∃ after next, kernel.handleIncomingPacket packet = some after ∧
      after.Ready next ∧ kernel.Answered after (readRequest packet) := by
  obtain ⟨after, next, handled, sends⟩ := Kernel.handleIncomingPacket_safely ready packet
  refine ⟨after, next, handled, sends.ready, ?_⟩
  rw [handleIncomingPacket_answer] at handled
  generalize readRequest packet = reading at *
  cases reading with
  | none =>
    cases handled
    exact ⟨rfl, rfl⟩
  | some request =>
    cases request with
    | syn peer sequence =>
      obtain ⟨same, frame, reply, sent, queued, decoded, -, -, ip, -, port, flags, number, -⟩ :=
        sendTcpSynAck_replies (ready.print
          s!"> NET: TCP [SYN] RCV'D. PORT {peer.port} -> {(80 : UInt16)}\n" 0xF59E0B)
          (kernel.targetMac peer.ip) peer.ip peer.port sequence
      cases handled.symm.trans sent
      exact ⟨frame, reply, queued, decoded, ip, port, flags, number⟩
    | get peer sequence acknowledgment length =>
      obtain ⟨same, frame, reply, sent, queued, decoded, -, -, ip, -, port, flags, number, -⟩ :=
        sendHttpResponse_replies (ready.print "> NET: HTTP [GET] REQUEST INTERCEPTED!\n" 0x10B981)
          (kernel.targetMac peer.ip) peer.ip peer.port acknowledgment sequence (UInt32.ofNat length)
      cases handled.symm.trans sent
      exact ⟨frame, reply, queued, decoded, ip, port, flags, number⟩

theorem Kernel.Sends.unique {before after : Kernel} {peer other : Peer} {flags marks : Fin 512}
    {sequence number : UInt32} (first : before.Sends after peer flags sequence)
    (second : before.Sends after other marks number) :
    peer = other ∧ flags = marks ∧ sequence = number := by
  obtain ⟨frame, reply, ⟨_, _, _, _, _, _, _, _, _, _, heap, _⟩, decoded, ip, port, rfl, rfl⟩ := first
  obtain ⟨box, answer, ⟨_, _, _, _, _, _, _, _, _, _, same, _⟩, read, address, mark, rfl, rfl⟩ := second
  have frames : frame = box := by
    rw [heap, List.append_cancel_left_eq, List.cons.injEq] at same
    exact same.1
  rw [frames, read, Option.some.injEq] at decoded
  subst decoded
  refine ⟨?_, rfl, rfl⟩
  cases peer
  cases other
  simp_all

theorem Kernel.Sends.not_queuedNone {before after : Kernel} {peer : Peer} {flags : Fin 512}
    {sequence : UInt32} (sent : before.Sends after peer flags sequence) :
    ¬ before.QueuedNone after := by
  obtain ⟨frame, reply, ⟨_, _, _, _, _, _, _, _, _, _, heap, _⟩, -⟩ := sent
  intro nothing
  have longer := congrArg List.length (heap.symm.trans nothing.2)
  simp at longer

/-- Only a `SYN` is answered by a `SYN-ACK`. -/
theorem Kernel.Answered.syn {before after : Kernel} {request : Option Request} {peer : Peer}
    (answered : before.Answered after request) (sent : before.Sends after peer 0x12 0xCAFEBABE) :
    ∃ sequence, request = some (.syn peer sequence) := by
  cases request with
  | none => exact absurd answered sent.not_queuedNone
  | some request =>
    cases request with
    | syn other sequence =>
      obtain ⟨rfl, -, -⟩ := Kernel.Sends.unique answered sent
      exact ⟨sequence, rfl⟩
    | get other sequence acknowledgment length =>
      obtain ⟨-, flags, -⟩ := Kernel.Sends.unique answered sent
      exact absurd flags (by decide)

/-- Only a `GET` is answered by data. -/
theorem Kernel.Answered.get {before after : Kernel} {request : Option Request} {peer : Peer}
    {number : UInt32} (answered : before.Answered after request)
    (sent : before.Sends after peer 0x18 number) :
    ∃ sequence length, request = some (.get peer sequence number length) := by
  cases request with
  | none => exact absurd answered sent.not_queuedNone
  | some request =>
    cases request with
    | syn other sequence =>
      obtain ⟨-, flags, -⟩ := Kernel.Sends.unique answered sent
      exact absurd flags (by decide)
    | get other sequence acknowledgment length =>
      obtain ⟨rfl, -, rfl⟩ := Kernel.Sends.unique answered sent
      exact ⟨sequence, length, rfl⟩

/-- The sequence number lies in the half of the sequence space from `start` on. -/
def fromOn (start number : UInt32) : Prop := (number - start).toNat < 2 ^ 31

instance (start number : UInt32) : Decidable (fromOn start number) :=
  inferInstanceAs (Decidable (_ < _))

/-- The server that the packets would need: it remembers which peers have asked
for a connection, and takes data from no other and not before its own `SYN-ACK`
is acknowledged. -/
def Listener.step (opened : List Peer) (packet : List UInt8) : Option (List Peer) :=
  match readRequest packet with
  | none => some opened
  | some (.syn peer _) => some (peer :: opened)
  | some (.get peer _ acknowledgment _) =>
    if peer ∈ opened ∧ fromOn 0xCAFEBABF acknowledgment then some opened else none

/-- The peer's `SYN` is among the packets and was answered with a `SYN-ACK`. -/
def Kernel.Accepted (kernel : Kernel) (packets : List (List UInt8)) (peer : Peer) : Prop :=
  ∃ earlier packet before after ip tcp, earlier ++ [packet] <+: packets ∧
    run Kernel.handleIncomingPacket earlier kernel = some before ∧
    before.handleIncomingPacket packet = some after ∧ Carries packet ip tcp ∧ tcp.isSyn ∧
    peer = ⟨ip.srcIp, tcp.srcPort⟩ ∧ before.Sends after peer 0x12 0xCAFEBABE

/-- Data goes out on established connections only: each packet answered with
data comes from an accepted peer and acknowledges the kernel's `SYN-ACK`. -/
def Kernel.ServesEstablished (kernel : Kernel) (packets : List (List UInt8)) : Prop :=
  ∀ earlier packet, earlier ++ [packet] <+: packets → ∃ before after,
    run Kernel.handleIncomingPacket earlier kernel = some before ∧
    before.handleIncomingPacket packet = some after ∧
    ∀ peer number, before.Sends after peer 0x18 number → kernel.Accepted earlier peer ∧
      ∃ ip tcp, Carries packet ip tcp ∧ fromOn 0xCAFEBABF tcp.ackNum

theorem Listener.run_opened {packets : List (List UInt8)} {start opened : List Peer}
    (heard : run Listener.step packets start = some opened) (peer : Peer) :
    peer ∈ opened ↔ peer ∈ start ∨
      ∃ packet ∈ packets, ∃ sequence, readRequest packet = some (.syn peer sequence) := by
  induction packets generalizing start with
  | nil =>
    cases heard
    simp
  | cons packet packets ih =>
    rw [run_cons, Option.bind_eq_some_iff] at heard
    obtain ⟨next, stepped, rest⟩ := heard
    rw [ih rest]
    unfold Listener.step at stepped
    split at stepped
    · rename_i quiet
      cases stepped
      simp [quiet]
    · rename_i other sequence syn
      cases stepped
      simp only [List.mem_cons, exists_eq_or_imp, syn, Option.some.injEq, Request.syn.injEq,
        exists_and_left, exists_eq', and_true]
      constructor
      · rintro ((rfl | old) | later)
        · exact Or.inr (Or.inl rfl)
        · exact Or.inl old
        · exact Or.inr (Or.inr later)
      · rintro (old | (rfl | later))
        · exact Or.inl (Or.inr old)
        · exact Or.inl (Or.inl rfl)
        · exact Or.inr later
    · rename_i other sequence acknowledgment length get
      split at stepped
      · cases stepped
        simp [get]
      · cases stepped

theorem Boot.handled_ready (boot : Boot) (packets : List (List UInt8)) :
    ∃ kernel, run Kernel.handleIncomingPacket packets boot.kernel = some kernel ∧
      ∃ nic, kernel.Ready nic := by
  have preserved : ∀ (kernel : Kernel) (packet : List UInt8), (∃ nic, kernel.Ready nic) → True →
      ∃ after, kernel.handleIncomingPacket packet = some after ∧ ∃ nic, after.Ready nic := by
    rintro kernel packet ⟨nic, ready⟩ -
    obtain ⟨after, next, handled, kept, -⟩ := handleIncomingPacket_answered ready packet
    exact ⟨after, handled, next, kept⟩
  exact run_invariant preserved packets (fun _ _ => trivial) ⟨boot.card, boot.kernel_ready⟩

theorem Boot.handled_answered (boot : Boot) {earlier : List (List UInt8)} {packet : List UInt8}
    {before after : Kernel} (reached : run Kernel.handleIncomingPacket earlier boot.kernel = some before)
    (handled : before.handleIncomingPacket packet = some after) :
    before.Answered after (readRequest packet) := by
  obtain ⟨same, again, nic, ready⟩ := boot.handled_ready earlier
  cases reached.symm.trans again
  obtain ⟨other, -, repeated, -, answered⟩ := handleIncomingPacket_answered ready packet
  cases handled.symm.trans repeated
  exact answered

/-- A peer is accepted exactly if a `SYN` of it is among the packets. -/
theorem Boot.accepted_iff (boot : Boot) (packets : List (List UInt8)) (peer : Peer) :
    boot.kernel.Accepted packets peer ↔
      ∃ packet ∈ packets, ∃ sequence, readRequest packet = some (.syn peer sequence) := by
  constructor
  · rintro ⟨earlier, packet, before, after, ip, tcp, early, reached, handled, -, -, -, sent⟩
    have answered := boot.handled_answered reached handled
    exact ⟨packet, early.subset (by simp), answered.syn sent⟩
  · rintro ⟨packet, member, sequence, syn⟩
    obtain ⟨earlier, later, rfl⟩ := List.append_of_mem member
    obtain ⟨before, reached, nic, ready⟩ := boot.handled_ready earlier
    obtain ⟨after, next, handled, -, answered⟩ := handleIncomingPacket_answered ready packet
    obtain ⟨ip, tcp, carries, source, isSyn⟩ := readRequest_carries syn
    rw [syn] at answered
    exact ⟨earlier, packet, before, after, ip, tcp, ⟨later, by simp⟩, reached, handled, carries,
      isSyn, source, answered⟩

/-- The kernel serves established connections only as long as the packets are
such that a server with a table of connections refuses none of them. -/
theorem servesEstablished_iff (boot : Boot) (packets : List (List UInt8)) :
    boot.kernel.ServesEstablished packets ↔
      ∃ opened, run Listener.step packets [] = some opened := by
  constructor
  · intro serves
    rw [run_succeeds_iff]
    intro earlier packet early opened heard
    obtain ⟨before, after, reached, handled, established⟩ := serves earlier packet early
    have answered := boot.handled_answered reached handled
    unfold Listener.step
    split
    · exact ⟨opened, rfl⟩
    · exact ⟨_, rfl⟩
    · rename_i peer sequence acknowledgment length get
      rw [get] at answered
      obtain ⟨accepted, ip, tcp, carries, acknowledged⟩ := established peer acknowledgment answered
      obtain ⟨ip', tcp', carries', -, rfl⟩ := readRequest_carries get
      obtain ⟨-, rfl⟩ := carries.unique carries'
      rw [boot.accepted_iff] at accepted
      have known : peer ∈ opened := (Listener.run_opened heard peer).mpr (Or.inr accepted)
      exact ⟨opened, if_pos ⟨known, acknowledged⟩⟩
  · intro success earlier packet early
    obtain ⟨opened, heard⟩ := run_prefix ((List.prefix_append ..).trans early) success.choose_spec
    obtain ⟨next, stepped⟩ := (run_succeeds_iff packets []).mp success earlier packet early opened heard
    obtain ⟨before, reached, nic, ready⟩ := boot.handled_ready earlier
    obtain ⟨after, -, handled, -, answered⟩ := handleIncomingPacket_answered ready packet
    refine ⟨before, after, reached, handled, ?_⟩
    intro peer number sent
    obtain ⟨sequence, length, get⟩ := answered.get sent
    obtain ⟨ip, tcp, carries, -, rfl⟩ := readRequest_carries get
    simp only [Listener.step, get] at stepped
    split at stepped
    · rename_i admitted
      rcases (Listener.run_opened heard peer).mp admitted.1 with impossible | knocked
      · cases impossible
      · exact ⟨(boot.accepted_iff earlier peer).mpr knocked, ip, tcp, carries, admitted.2⟩
    · cases stepped

/-- A request for data as the first segment of all, acknowledging nothing. -/
def strayGet : Segment where
  destinationMac := .of 0x52 0x54 0x00 0x12 0x34 0x56
  sourceMac := .of 0x52 0x55 0x0A 0x00 0x02 0x02
  typeOfService := 0
  identification := 7
  fragment := 0
  timeToLive := 64
  headerChecksum := 0
  sourceIp := .of 10 0 2 2
  destinationIp := .of 10 0 2 15
  ipOptions := []
  sourcePort := 40000
  destinationPort := 80
  sequence := 1
  acknowledgment := 0
  reserved := 0
  flags := 0x18
  window := 65535
  checksum := 0
  urgent := 0
  tcpOptions := []
  payload := utf8 "GET / HTTP/1.1\r\n\r\n"
  padding := []
  ipAligned := noOptions_aligned
  tcpAligned := by decide
  fits := by decide

theorem strayGet_read :
    readRequest strayGet.encode = some (.get ⟨#v[10, 0, 2, 2], 40000⟩ 1 0 18) := by
  decide +kernel

example : run Listener.step
    [clientSyn.encode, { strayGet with acknowledgment := 0xCAFEBABF }.encode] [] =
      some [⟨#v[10, 0, 2, 2], 40000⟩] := by
  decide +kernel

/-- The stray request is served. -/
theorem servesEstablished_stray : ¬ Boot.driveless.kernel.ServesEstablished [strayGet.encode] := by
  intro serves
  obtain ⟨before, after, reached, handled, established⟩ := serves [] strayGet.encode (by simp)
  have answered := Boot.driveless.handled_answered reached handled
  rw [strayGet_read] at answered
  obtain ⟨accepted, -⟩ := established _ _ answered
  obtain ⟨packet, member, -⟩ := (Boot.driveless.accepted_iff [] _).mp accepted
  cases member

end QoreOS.Network
