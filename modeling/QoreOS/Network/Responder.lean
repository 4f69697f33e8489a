import Mathlib.Data.Nat.Bitwise
import QoreOS.Network.Safety

/-! The responder as a party of the TCP protocol: which segments it answers,
and what its answers say, read back by the protocol's own decoder. -/

namespace QoreOS.Network

open QoreOS.Library

/-- `after` is `before` with exactly one more frame in the transmit ring. -/
def Kernel.QueuedOne (before after : Kernel) (frame : List UInt8) : Prop :=
  ∃ nic next descriptor, before.netCard = some nic ∧ after.netCard = some next ∧
    nic.currentTxBucket < nic.txRing.length ∧
    next.txRing = nic.txRing.set nic.currentTxBucket descriptor ∧
    next.currentTxBucket = (nic.currentTxBucket + 1) % 8 ∧
    next.registers = Function.update nic.registers 0x3818 next.currentTxBucket ∧
    descriptor.length.toNat = frame.length ∧ after.heap = before.heap ++ [frame] ∧
    after.heap[descriptor.bufferAddress]? = some frame

def Kernel.QueuedNone (before after : Kernel) : Prop :=
  after.netCard = before.netCard ∧ after.heap = before.heap

/-- The reply goes back to where the request came from. -/
structure RepliesTo (kernel : Kernel) (request reply : Segment) : Prop where
  destinationMac : reply.destinationMac =
    (kernel.arpTable.lookup request.sourceIp).getD (Vector.replicate 6 0xFF)
  sourceIp : reply.sourceIp = #v[10, 0, 2, 15]
  destinationIp : reply.destinationIp = request.sourceIp
  sourcePort : reply.sourcePort = 80
  destinationPort : reply.destinationPort = request.sourcePort

structure SynAck (kernel : Kernel) (request reply : Segment) : Prop
    extends RepliesTo kernel request reply where
  flags : reply.flags = 0x12
  sequence : reply.sequence = 0xCAFEBABE
  acknowledgment : reply.acknowledgment = request.sequence + 1

structure HttpResponse (kernel : Kernel) (request reply : Segment) : Prop
    extends RepliesTo kernel request reply where
  flags : reply.flags = 0x18
  sequence : reply.sequence = request.acknowledgment
  acknowledgment : reply.acknowledgment =
    request.sequence + UInt32.ofNat request.payload.length
  content : ∃ lines body, readHead [] reply.payload = some (lines, body) ∧
    contentLength lines = some body.length

/-- What the responder owes a segment to its port. -/
def Responds (kernel : Kernel) (request : Segment) (after : Kernel) : Prop :=
  if request.syn then
    ∃ frame reply, kernel.QueuedOne after frame ∧ Segment.decode frame = some reply ∧
      SynAck kernel request reply
  else if request.psh ∧ utf8 "GET" <+: request.payload then
    ∃ frame reply, kernel.QueuedOne after frame ∧ Segment.decode frame = some reply ∧
      HttpResponse kernel request reply
  else kernel.QueuedNone after

section Request

variable (request : Segment)

theorem Segment.encode_length : request.encode.length =
    14 + request.totalLength + request.padding.length := by
  simp only [Segment.encode, List.length_append, Vector.length_toList, Segment.totalLength,
    Segment.ipHeaderLength, Segment.tcpHeaderLength]
  omega

/-- The `IHL` nibble, times four. -/
theorem Segment.ihl_encoded :
    (UInt8.ofNat (4 * 16 + request.ipHeaderLength / 4)).toNat &&& 0x0F =
      request.ipHeaderLength / 4 := by
  obtain ⟨aligned, short⟩ := request.ipAligned
  rw [show 0x0F = 2 ^ 4 - 1 from rfl, Nat.and_two_pow_sub_one_eq_mod, UInt8.toNat_ofNat']
  simp only [Segment.ipHeaderLength]
  omega

theorem Segment.ipHeaderLength_mul : request.ipHeaderLength / 4 * 4 = request.ipHeaderLength := by
  obtain ⟨aligned, short⟩ := request.ipAligned
  simp only [Segment.ipHeaderLength]
  omega

/-- The bytes of the frame from the IP header and from the TCP header on. -/
theorem Segment.drop_ethernet : request.encode.drop 14 = request.ipHeader.toList ++
    (request.ipOptions ++ (request.tcpHeader.toList ++ (request.tcpOptions ++
      (request.payload ++ request.padding)))) :=
  drop_header ..

theorem Segment.drop_ip : request.encode.drop (14 + request.ipHeaderLength) =
    request.tcpHeader.toList ++ (request.tcpOptions ++ (request.payload ++ request.padding)) := by
  rw [← List.drop_drop, Segment.drop_ethernet, Segment.ipHeaderLength, ← List.drop_drop, drop_header,
    List.drop_left]

theorem ethernetHeader_read : ∃ eth, EthernetHeader.read request.encode = some eth ∧
    eth.ethertype = 0x0800 := by
  have header : castRef 14 request.encode = some request.ethernetHeader := castRef_append ..
  exact ⟨_, by rw [EthernetHeader.read, header]; rfl, show be16 0x08 0x00 = 0x0800 by decide⟩

theorem ipv4Header_read : ∃ ip, Ipv4Header.read (request.encode.drop 14) = some ip ∧
    ip.srcIp = request.sourceIp ∧ ip.destIp = request.destinationIp ∧
    ip.totalLength = UInt16.ofNat request.totalLength ∧ ip.protocol = 6 ∧
    (ip.versionIhl.toNat &&& 0x0F) * 4 = request.ipHeaderLength := by
  have header : castRef 20 (request.encode.drop 14) = some request.ipHeader := by
    rw [Segment.drop_ethernet, castRef_append]
  refine ⟨_, by rw [Ipv4Header.read, header]; rfl, eta_four _, eta_four _, be16_bytes16 _, rfl, ?_⟩
  exact (congrArg (· * 4) request.ihl_encoded).trans request.ipHeaderLength_mul

theorem tcpHeader_read :
    ∃ tcp, TcpHeader.read (request.encode.drop (14 + request.ipHeaderLength)) = some tcp ∧
      tcp.srcPort = request.sourcePort ∧ tcp.destPort = request.destinationPort ∧
      tcp.seqNum = request.sequence ∧ tcp.ackNum = request.acknowledgment ∧
      tcp.dataOffsetFlags = request.offsetAndFlags := by
  have header : castRef 20 (request.encode.drop (14 + request.ipHeaderLength)) =
      some request.tcpHeader := by
    rw [Segment.drop_ip, castRef_append]
  refine ⟨_, by rw [TcpHeader.read, header]; rfl, ?_, ?_, ?_, ?_, ?_⟩
  · exact be16_bytes16 request.sourcePort
  · exact be16_bytes16 request.destinationPort
  · exact be32_bytes32 request.sequence
  · exact be32_bytes32 request.acknowledgment
  · exact be16_bytes16 request.offsetAndFlags

/-- The parser of the kernel finds the header fields of an encoded segment. -/
theorem handleIncomingPacket_encode (kernel : Kernel)
    (destinationIp : request.destinationIp = #v[10, 0, 2, 15]) :
    ∃ ip tcp, kernel.handleIncomingPacket request.encode =
        kernel.handleTcp request.encode ip tcp request.ipHeaderLength (14 + request.ipHeaderLength) ∧
      ip.srcIp = request.sourceIp ∧ ip.totalLength = UInt16.ofNat request.totalLength ∧
      tcp.srcPort = request.sourcePort ∧ tcp.destPort = request.destinationPort ∧
      tcp.seqNum = request.sequence ∧ tcp.ackNum = request.acknowledgment ∧
      tcp.dataOffsetFlags = request.offsetAndFlags := by
  have length := request.encode_length
  obtain ⟨-, short⟩ := request.ipAligned
  have ipLength : request.ipHeaderLength = 20 + request.ipOptions.length := rfl
  have tcpLength : request.tcpHeaderLength = 20 + request.tcpOptions.length := rfl
  have total : request.totalLength =
    request.ipHeaderLength + request.tcpHeaderLength + request.payload.length := rfl
  obtain ⟨eth, ethRead, ethertype⟩ := ethernetHeader_read request
  obtain ⟨ip, ipRead, srcIp, destIp, totalLength, protocol, ihl⟩ := ipv4Header_read request
  obtain ⟨tcp, tcpRead, tcpFields⟩ := tcpHeader_read request
  refine ⟨ip, tcp, ?_, srcIp, totalLength, tcpFields⟩
  have frame : ¬ request.encode.length < EthernetHeader.size := by
    change ¬ _ < 14
    omega
  have datagram : ¬ request.encode.length < EthernetHeader.size + Ipv4Header.size := by
    change ¬ _ < 34
    omega
  have segment : ¬ request.encode.length < EthernetHeader.size + request.ipHeaderLength +
      TcpHeader.size := by
    change ¬ _ < 14 + request.ipHeaderLength + 20
    omega
  rw [Kernel.handleIncomingPacket, if_neg frame, ethRead]
  simp only [Option.bind_eq_bind, Option.bind_some, ethertype, ↓reduceIte, if_neg datagram,
    slice_to_end (show EthernetHeader.size ≤ request.encode.length from Nat.le_of_not_lt frame),
    ipRead, destIp, destinationIp, ne_eq, not_true_eq_false, protocol, ihl,
    checked_of_lt (show request.ipHeaderLength < 2 ^ 8 by omega), if_neg segment,
    slice_to_end (show EthernetHeader.size + request.ipHeaderLength ≤ request.encode.length by omega),
    tcpRead]

/-- The code's flag test reads the flag bit of the segment. -/
theorem flag_encoded (bit : Nat) :
    (request.offsetAndFlags.toNat &&& 0x01FF) &&& 2 ^ bit ≠ 0 ↔ request.flags.val.testBit bit := by
  have nine := request.flags.isLt
  have low : request.offsetAndFlags.toNat &&& 0x01FF = request.flags := by
    rw [show 0x01FF = 2 ^ 9 - 1 from rfl, Nat.and_two_pow_sub_one_eq_mod,
      Segment.offsetAndFlags_toNat]
    omega
  rw [low, Nat.and_two_pow]
  cases request.flags.val.testBit bit with
  | true => simp
  | false => simp

theorem tcpHeaderLen_encoded :
    ((request.offsetAndFlags.toNat >>> 12) &&& 0x0F) * 4 = request.tcpHeaderLength := by
  obtain ⟨aligned, short⟩ := request.tcpAligned
  have three := request.reserved.isLt
  have nine := request.flags.isLt
  rw [show 0x0F = 2 ^ 4 - 1 from rfl, Nat.and_two_pow_sub_one_eq_mod, Nat.shiftRight_eq_div_pow,
    Segment.offsetAndFlags_toNat]
  simp only [Segment.tcpHeaderLength]
  omega

/-- The slice which the code takes for the payload is the payload: neither
options nor padding belong to it. -/
theorem payload_slice : slice request.encode (14 + request.ipHeaderLength + request.tcpHeaderLength)
    (14 + request.ipHeaderLength + request.tcpHeaderLength + request.payload.length) =
      some request.payload := by
  have split : request.encode = (request.encode.take
      (14 + request.ipHeaderLength + request.tcpHeaderLength)) ++
        (request.payload ++ request.padding) := by
    have rest : request.encode.drop (14 + request.ipHeaderLength + request.tcpHeaderLength) =
        request.payload ++ request.padding := by
      rw [← List.drop_drop, Segment.drop_ip, Segment.tcpHeaderLength, ← List.drop_drop, drop_header,
        List.drop_left]
    rw [← rest, List.take_append_drop]
  have size : (request.encode.take (14 + request.ipHeaderLength + request.tcpHeaderLength)).length =
      14 + request.ipHeaderLength + request.tcpHeaderLength := by
    rw [List.length_take, Segment.encode_length, Segment.totalLength]
    omega
  have middle := slice_append (request.encode.take
    (14 + request.ipHeaderLength + request.tcpHeaderLength)) request.payload request.padding
  rwa [← split, size] at middle

theorem targetMac_print (kernel : Kernel) (text : String) (color : UInt32) (ip : Ip) :
    (kernel.terminalPrint text color).targetMac ip = kernel.targetMac ip := rfl

/-- The decision of the kernel for a segment to its port. -/
theorem handleTcp_encode (kernel : Kernel) (ip : Ipv4Header) (tcp : TcpHeader)
    (srcIp : ip.srcIp = request.sourceIp)
    (totalLength : ip.totalLength = UInt16.ofNat request.totalLength)
    (srcPort : tcp.srcPort = request.sourcePort) (destPort : tcp.destPort = 80)
    (seqNum : tcp.seqNum = request.sequence) (ackNum : tcp.ackNum = request.acknowledgment)
    (offset : tcp.dataOffsetFlags = request.offsetAndFlags) :
    kernel.handleTcp request.encode ip tcp request.ipHeaderLength (14 + request.ipHeaderLength) =
      if request.syn then
        (kernel.terminalPrint
          s!"> NET: TCP [SYN] RCV'D. PORT {request.sourcePort} -> {(80 : UInt16)}\n"
            0xF59E0B).sendTcpSynAck (kernel.targetMac request.sourceIp) request.sourceIp
              request.sourcePort request.sequence
      else if request.psh ∧ utf8 "GET" <+: request.payload then
        (kernel.terminalPrint "> NET: HTTP [GET] REQUEST INTERCEPTED!\n" 0x10B981).sendHttpResponse
          (kernel.targetMac request.sourceIp) request.sourceIp request.sourcePort
            request.acknowledgment request.sequence (UInt32.ofNat request.payload.length)
      else some kernel := by
  obtain ⟨-, ipShort⟩ := request.ipAligned
  obtain ⟨-, tcpShort⟩ := request.tcpAligned
  have ipLength : request.ipHeaderLength = 20 + request.ipOptions.length := rfl
  have tcpLength : request.tcpHeaderLength = 20 + request.tcpOptions.length := rfl
  have total : request.totalLength =
    request.ipHeaderLength + request.tcpHeaderLength + request.payload.length := rfl
  have syn : (request.offsetAndFlags.toNat &&& 0x01FF) &&& 0x02 ≠ 0 ↔ request.syn = true :=
    flag_encoded request 1
  have psh : (request.offsetAndFlags.toNat &&& 0x01FF) &&& 0x08 ≠ 0 ↔ request.psh = true :=
    flag_encoded request 3
  have length := request.encode_length
  simp only [Kernel.handleTcp, offset, tcpHeaderLen_encoded, syn, psh, destPort, srcPort, srcIp,
    totalLength, seqNum, ackNum, Segment.totalLength_toNat, targetMac_print, Option.bind_eq_bind,
    Option.bind_some, checked_of_lt (show request.tcpHeaderLength < 2 ^ 16 by omega), ↓reduceIte]
  by_cases isSyn : request.syn = true
  · simp only [isSyn, ↓reduceIte]
  · by_cases isPsh : request.psh = true
    · have dataLen : request.totalLength - request.ipHeaderLength - request.tcpHeaderLength =
          request.payload.length := by omega
      simp only [isSyn, isPsh, ↓reduceIte, true_and, Bool.false_eq_true,
        if_pos (show request.totalLength ≥ request.ipHeaderLength + request.tcpHeaderLength by omega),
        checkedSub_of_le (show request.ipHeaderLength ≤ request.totalLength by omega),
        checkedSub_of_le (show request.tcpHeaderLength ≤ request.totalLength - request.ipHeaderLength
          by omega), dataLen, Option.bind_some, payload_slice, List.isPrefixOf_iff_prefix]
      by_cases get : utf8 "GET" <+: request.payload
      · have some : 0 < request.payload.length := Nat.lt_of_lt_of_le (by decide) get.length_le
        rw [if_pos ⟨some, by omega⟩, if_pos get]
      · simp only [get, ↓reduceIte, ite_self]
    · simp only [isSyn, isPsh, false_and, ↓reduceIte, Bool.false_eq_true]

end Request

section Reply

variable {kernel : Kernel} {nic : E1000}

/-- Injecting a frame queues exactly that frame. -/
theorem injectFrame_queues (ready : kernel.Ready nic) {frame : List UInt8}
    (short : frame.length < 2 ^ 16) (text : String) (color : UInt32) :
    ∃ after, (kernel.injectFrame frame).bind (fun kernel => some (kernel.terminalPrint text color)) =
      some after ∧ kernel.QueuedOne after frame := by
  obtain ⟨descriptor, -, sent⟩ := Kernel.transmit_eq ready frame (UInt16.ofNat frame.length)
  rw [Kernel.injectFrame, ready.card]
  dsimp only
  rw [sent]
  refine ⟨_, rfl, nic, _, _, ready.card, rfl, ?_, rfl, rfl, rfl, ?_, rfl, ?_⟩
  · rw [ready.transmit.slots]
    exact ready.transmit.bucket
  · exact (UInt16.toNat_ofNat' ..).trans (Nat.mod_eq_of_lt short)
  · exact List.getElem?_concat_length

/-- The text follows the blank line, and its length is announced. -/
theorem httpBody_read (payload : Option String) :
    ∃ lines, readHead [] (utf8 (Kernel.httpBody payload)) = some (lines,
        utf8 (payload.getD "ERROR: NO PAYLOAD FOUND IN RING-0 MEMORY")) ∧
      contentLength lines =
        some (utf8 (payload.getD "ERROR: NO PAYLOAD FOUND IN RING-0 MEMORY")).length := by
  unfold Kernel.httpBody
  generalize payload.getD "ERROR: NO PAYLOAD FOUND IN RING-0 MEMORY" = content
  have start : utf8 "HTTP/1.1 200 OK\r\nContent-Type: text/plain\r\nContent-Length: " =
      utf8 "HTTP/1.1 200 OK" ++ (13 :: 10 :: (utf8 "Content-Type: text/plain" ++
        (13 :: 10 :: utf8 "Content-Length: "))) := by decide
  have blank : utf8 "\r\nConnection: close\r\n\r\n" =
      13 :: 10 :: (utf8 "Connection: close" ++ [13, 10, 13, 10]) := by decide
  have digits : 13 ∉ utf8 "Content-Length: " ++ utf8 (toString content.utf8ByteSize) := by
    rw [List.mem_append, not_or]
    constructor
    · decide
    · intro member
      have digit := mem_utf8_toString member
      exact absurd digit.1 (by decide)
  refine ⟨[utf8 "HTTP/1.1 200 OK", utf8 "Content-Type: text/plain",
    utf8 "Content-Length: " ++ utf8 (toString content.utf8ByteSize), utf8 "Connection: close"],
    ?_, ?_⟩
  · have shape : utf8 ("HTTP/1.1 200 OK\r\nContent-Type: text/plain\r\nContent-Length: " ++
        toString content.utf8ByteSize ++ "\r\nConnection: close\r\n\r\n" ++ content) =
        utf8 "HTTP/1.1 200 OK" ++ (13 :: 10 :: (utf8 "Content-Type: text/plain" ++ (13 :: 10 ::
          ((utf8 "Content-Length: " ++ utf8 (toString content.utf8ByteSize)) ++ (13 :: 10 ::
            (utf8 "Connection: close" ++ (13 :: 10 :: (13 :: 10 :: utf8 content)))))))) := by
      simp only [utf8_append, start, blank, List.append_assoc, List.cons_append, List.nil_append]
    rw [shape, readHead_line (by decide) (by decide), readHead_line (by decide) (by decide),
      readHead_line digits (List.append_ne_nil_of_left_ne_nil (by decide) _),
      readHead_line (by decide) (by decide), readHead_blank]
    rfl
  · have status : (utf8 "Content-Length: ").isPrefixOf (utf8 "HTTP/1.1 200 OK") = false := by decide
    have kind : (utf8 "Content-Length: ").isPrefixOf (utf8 "Content-Type: text/plain") = false := by
      decide
    have field : (utf8 "Content-Length: ").isPrefixOf
        (utf8 "Content-Length: " ++ utf8 (toString content.utf8ByteSize)) = true :=
      List.isPrefixOf_iff_prefix.mpr (List.prefix_append ..)
    have number : (utf8 "Content-Length: " ++ utf8 (toString content.utf8ByteSize)).drop 16 =
        utf8 (toString content.utf8ByteSize) := List.drop_left' (by decide)
    simp only [contentLength, List.findSome?_cons, status, kind, field, number, decimal_toString,
      utf8_length, ↓reduceIte, Bool.false_eq_true]

/-- The response frames its body: the announced length is the length of what
follows the blank line. -/
theorem httpBody_content (payload : Option String) :
    ∃ lines body, readHead [] (utf8 (Kernel.httpBody payload)) = some (lines, body) ∧
      contentLength lines = some body.length := by
  obtain ⟨lines, read, length⟩ := httpBody_read payload
  exact ⟨lines, _, read, length⟩

theorem sendTcpSynAck_replies (ready : kernel.Ready nic) (targetMac : Mac) (targetIp : Ip)
    (targetPort : UInt16) (clientSeq : UInt32) : ∃ after frame reply,
      kernel.sendTcpSynAck targetMac targetIp targetPort clientSeq = some after ∧
      kernel.QueuedOne after frame ∧ Segment.decode frame = some reply ∧
      reply.destinationMac = targetMac ∧ reply.sourceIp = #v[10, 0, 2, 15] ∧
      reply.destinationIp = targetIp ∧ reply.sourcePort = 80 ∧ reply.destinationPort = targetPort ∧
      reply.flags = 0x12 ∧ reply.sequence = 0xCAFEBABE ∧ reply.acknowledgment = clientSeq + 1 := by
  obtain ⟨ipChecksum, tcpChecksum, built⟩ := synAckFrame_encode targetMac targetIp targetPort
    clientSeq
  have length := baseSegment_length targetMac targetIp targetPort 0xCAFEBABE (clientSeq + 1) 0x12
    segmentSizeOption [] (by decide) (by decide) ipChecksum tcpChecksum
  have short : segmentSizeOption.length = 4 := rfl
  obtain ⟨after, sent, queued⟩ := injectFrame_queues ready (by rw [length, short]; decide)
    "> NET: [SYN-ACK] TRANSMITTED TO HOST.\n" 0x3B82F6
  refine ⟨after, _, _, ?_, queued, Segment.decode_encode _, rfl, rfl, rfl, rfl, rfl, rfl, rfl, rfl⟩
  rw [Kernel.sendTcpSynAck_frame, built, Option.bind_some, sent]

theorem sendHttpResponse_replies (ready : kernel.Ready nic) (targetMac : Mac) (targetIp : Ip)
    (targetPort : UInt16) (mySeq clientSeq clientDataLen : UInt32) : ∃ after frame reply,
      kernel.sendHttpResponse targetMac targetIp targetPort mySeq clientSeq clientDataLen =
        some after ∧
      kernel.QueuedOne after frame ∧ Segment.decode frame = some reply ∧
      reply.destinationMac = targetMac ∧ reply.sourceIp = #v[10, 0, 2, 15] ∧
      reply.destinationIp = targetIp ∧ reply.sourcePort = 80 ∧ reply.destinationPort = targetPort ∧
      reply.flags = 0x18 ∧ reply.sequence = mySeq ∧
      reply.acknowledgment = clientSeq + clientDataLen ∧
      reply.payload = utf8 (Kernel.httpBody kernel.httpPayload) := by
  have short := Kernel.httpBody_length ready.payload
  have fits : 40 + (utf8 (Kernel.httpBody kernel.httpPayload)).length ≤ 65535 := by omega
  obtain ⟨ipChecksum, tcpChecksum, response⟩ := Kernel.sendHttpResponse_eq
    (rfl : kernel.httpPayload = kernel.httpPayload) fits targetMac targetIp targetPort mySeq clientSeq
    clientDataLen
  have length := baseSegment_length targetMac targetIp targetPort mySeq (clientSeq + clientDataLen)
    0x18 [] (utf8 (Kernel.httpBody kernel.httpPayload)) (by decide) (by simpa using fits) ipChecksum
    tcpChecksum
  obtain ⟨after, sent, queued⟩ := injectFrame_queues ready
    (by rw [length, List.length_nil]; omega)
    "> NET: HTTP 200 OK RESPONSE SERVED. SOCKET CLOSED.\n" 0x10B981
  exact ⟨after, _, _, response.trans sent, queued, Segment.decode_encode _, rfl, rfl, rfl, rfl, rfl,
    rfl, rfl, rfl, rfl⟩

end Reply

/-- On any kernel reached since boot, every segment to port 80 of this host is
answered as the protocol asks, or not at all. -/
theorem handleIncomingPacket_responds (boot : Boot) (events : List Event) (kernel : Kernel)
    (reached : run Kernel.step events boot.kernel = some kernel) (request : Segment)
    (destinationIp : request.destinationIp = #v[10, 0, 2, 15])
    (destinationPort : request.destinationPort = 80) :
    ∃ after, kernel.handleIncomingPacket request.encode = some after ∧
      Responds kernel request after := by
  obtain ⟨nic, ready⟩ := Kernel.reached_ready reached
  obtain ⟨ip, tcp, parsed, srcIp, totalLength, srcPort, destPort, seqNum, ackNum, offset⟩ :=
    handleIncomingPacket_encode request kernel destinationIp
  rw [parsed, handleTcp_encode request kernel ip tcp srcIp totalLength srcPort
    (destPort.trans destinationPort) seqNum ackNum offset]
  unfold Responds
  by_cases isSyn : request.syn = true
  · simp only [isSyn, ↓reduceIte]
    obtain ⟨after, frame, reply, sent, queued, decoded, mac, source, destination, port, target,
      flags, sequence, acknowledgment⟩ := sendTcpSynAck_replies (ready.print _ _)
        (kernel.targetMac request.sourceIp) request.sourceIp request.sourcePort request.sequence
    exact ⟨after, sent, frame, reply, queued, decoded, ⟨mac, source, destination, port, target⟩,
      flags, sequence, acknowledgment⟩
  · simp only [isSyn, ↓reduceIte, Bool.false_eq_true]
    by_cases get : request.psh = true ∧ utf8 "GET" <+: request.payload
    · simp only [get, and_self, ↓reduceIte]
      obtain ⟨after, frame, reply, sent, queued, decoded, mac, source, destination, port, target,
        flags, sequence, acknowledgment, body⟩ := sendHttpResponse_replies (ready.print _ _)
          (kernel.targetMac request.sourceIp) request.sourceIp request.sourcePort
            request.acknowledgment request.sequence (UInt32.ofNat request.payload.length)
      exact ⟨after, sent, frame, reply, queued, decoded, ⟨mac, source, destination, port, target⟩,
        flags, sequence, acknowledgment, by rw [body]; exact httpBody_content _⟩
    · rw [if_neg get]
      refine ⟨kernel, rfl, ?_⟩
      rw [if_neg get]
      exact ⟨rfl, rfl⟩

/-- A client's first segment, with the usual option and Ethernet padding. -/
def clientSyn : Segment where
  destinationMac := .of 0x52 0x54 0x00 0x12 0x34 0x56
  sourceMac := .of 0x52 0x55 0x0A 0x00 0x02 0x02
  typeOfService := 0
  identification := 7
  fragment := 0
  timeToLive := 64
  headerChecksum := 0
  sourceIp := .of 10 0 2 2
  destinationIp := .of 10 0 2 15
  ipOptions := []
  sourcePort := 40000
  destinationPort := 80
  sequence := 0xFFFFFFFF
  acknowledgment := 0
  reserved := 0
  flags := 2
  window := 65535
  checksum := 0
  urgent := 0
  tcpOptions := segmentSizeOption
  payload := []
  padding := [0, 0]
  ipAligned := noOptions_aligned
  tcpAligned := by decide
  fits := by decide

theorem handleIncomingPacket_responds_syn :
    ∃ after, Boot.driveless.kernel.handleIncomingPacket clientSyn.encode = some after ∧
      Responds Boot.driveless.kernel clientSyn after :=
  handleIncomingPacket_responds Boot.driveless [] Boot.driveless.kernel rfl clientSyn rfl rfl

end QoreOS.Network
