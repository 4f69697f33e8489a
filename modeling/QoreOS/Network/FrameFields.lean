import QoreOS.Network.TransmitRing

/-! The fields of the frames which the kernel sends: whether lengths and
checksum agree with the frame they stand in. -/

namespace QoreOS.Network

open QoreOS.Library

/-- The functions that build a frame and hand it to the card. `arpReply` is the
part of `poll` that answers a request. -/
inductive Builder where
  | arpRequest (targetIp : Ip)
  | arpReply (senderMac : Mac) (senderIp : Ip)
  | udpBroadcast
  | sendTcpSynAck (targetMac : Mac) (targetIp : Ip) (targetPort : UInt16) (clientSeq : UInt32)
  | sendHttpResponse (targetMac : Mac) (targetIp : Ip) (targetPort : UInt16)
      (mySeq clientSeq clientDataLen : UInt32)

def Builder.fire (kernel : Kernel) : Builder → Option Kernel
  | .arpRequest targetIp => kernel.arpRequest targetIp
  | .arpReply senderMac senderIp => kernel.arpReply senderMac senderIp
  | .udpBroadcast => kernel.udpBroadcast
  | .sendTcpSynAck targetMac targetIp targetPort clientSeq =>
    kernel.sendTcpSynAck targetMac targetIp targetPort clientSeq
  | .sendHttpResponse targetMac targetIp targetPort mySeq clientSeq clientDataLen =>
    kernel.sendHttpResponse targetMac targetIp targetPort mySeq clientSeq clientDataLen

/-- The descriptor that was current before a call as it is after the call, with
the leaked buffer it points to. -/
def Kernel.handedOver (before after : Kernel) : Option (TxDescriptor × List UInt8) := do
  let nic ← before.netCard
  let next ← after.netCard
  let descriptor ← next.txRing[nic.currentTxBucket]?
  let buffer ← after.heap[descriptor.bufferAddress]?
  some (descriptor, buffer)

/-- A big-endian field of two bytes. -/
def field16 (frame : List UInt8) (index : Nat) : Option Nat := do
  let high ← frame[index]?
  let low ← frame[index + 1]?
  some (word high low)

/-- What an IPv4 frame says of itself holds: its total length, the length of a
UDP datagram in it, and its header's checksum. -/
structure Ipv4Consistent (frame : List UInt8) : Prop where
  totalLength : ∃ total, field16 frame 16 = some total ∧ total + 14 = frame.length ∧
    (frame[23]? = some 17 → field16 frame 38 = some (total - 20))
  headerChecksum : onesSum (2 ^ 16) (wordsOf ((frame.take 34).drop 14)) = 0xFFFF

/-- The length in the descriptor is that of the buffer, and fits an Ethernet
frame, whose fields are consistent. -/
structure SelfConsistent (length : UInt16) (frame : List UInt8) : Prop where
  length : length.toNat = frame.length
  short : frame.length ≤ 1514
  ipv4 : field16 frame 12 = some 0x0800 → Ipv4Consistent frame

variable {kernel : Kernel} {nic : E1000}

theorem Published.handedOver {frame : List UInt8} {length : UInt16} {after : Kernel} {next : E1000}
    (published : Published kernel nic frame length after next) (ready : kernel.Ready nic) :
    ∃ descriptor, kernel.handedOver after = some (descriptor, frame) ∧
      descriptor.length = length := by
  obtain ⟨descriptor, ring, address, same⟩ := published.txRing
  have inside : nic.currentTxBucket < nic.txRing.length := by
    rw [ready.transmit.slots]
    exact ready.transmit.bucket
  refine ⟨descriptor, ?_, same⟩
  simp only [Kernel.handedOver, ready.card, published.ready.card, ring,
    List.getElem?_set_self inside, published.heap, address, List.getElem?_concat_length,
    Option.bind_eq_bind, Option.bind_some]

theorem arpRequestFrame_selfConsistent (macAddress : Mac) (targetIp : Ip) :
    SelfConsistent 60 (Kernel.arpRequestFrame macAddress targetIp) := by
  have length : (Kernel.arpRequestFrame macAddress targetIp).length = 60 := Kernel.resize_length ..
  refine ⟨length.symm, by omega, fun ipv4 => ?_⟩
  have arp : field16 (Kernel.arpRequestFrame macAddress targetIp) 12 = some 0x0806 := by
    rw [Kernel.arpRequestFrame, Kernel.arpRequestBytes, toList_six]
    rfl
  rw [arp] at ipv4
  cases ipv4

theorem arpReplyFrame_selfConsistent (macAddress senderMac : Mac) (senderIp : Ip) :
    SelfConsistent 60 (Kernel.arpReplyFrame macAddress senderMac senderIp) := by
  have length : (Kernel.arpReplyFrame macAddress senderMac senderIp).length = 60 :=
    Kernel.resize_length ..
  refine ⟨length.symm, by omega, fun ipv4 => ?_⟩
  have arp : field16 (Kernel.arpReplyFrame macAddress senderMac senderIp) 12 = some 0x0806 := by
    rw [Kernel.arpReplyFrame, Kernel.arpReplyBytes, toList_six, toList_six]
    rfl
  rw [arp] at ipv4
  cases ipv4

/-- The broadcast announces 58 bytes of IPv4, 12 more than it has. -/
theorem udpBroadcastFrame_not_selfConsistent (length : UInt16) :
    ¬ SelfConsistent length Kernel.udpBroadcastFrame := by
  intro consistent
  obtain ⟨total, announced, whole, -⟩ := (consistent.ipv4 (by decide)).totalLength
  have field : field16 Kernel.udpBroadcastFrame 16 = some 58 := by decide
  rw [field, Option.some.injEq] at announced
  rw [udpBroadcastFrame_length] at whole
  omega

/-- A segment's frame with valid checksums is consistent up to the limit of
Ethernet. -/
theorem baseSegment_selfConsistent (targetMac : Mac) (targetIp : Ip) (targetPort : UInt16)
    (seq ack : UInt32) (flags : Fin 512) (ipChecksum tcpChecksum : UInt16)
    (options payload : List UInt8) (aligned : options.length % 4 = 0 ∧ options.length ≤ 40)
    (fits : 40 + options.length + payload.length ≤ 65535)
    (short : 54 + options.length + payload.length ≤ 1514)
    (verify : ChecksumsVerify (baseSegment targetMac targetIp targetPort seq ack flags ipChecksum
      tcpChecksum options payload aligned fits).encode) :
    SelfConsistent (UInt16.ofNat (baseSegment targetMac targetIp targetPort seq ack flags ipChecksum
      tcpChecksum options payload aligned fits).encode.length)
      (baseSegment targetMac targetIp targetPort seq ack flags ipChecksum tcpChecksum options payload
        aligned fits).encode := by
  have length := baseSegment_length targetMac targetIp targetPort seq ack flags options payload
    aligned fits ipChecksum tcpChecksum
  have total : word (high16 (UInt16.ofNat (40 + options.length + payload.length)))
      (low16 (UInt16.ofNat (40 + options.length + payload.length))) =
        40 + options.length + payload.length := by
    rw [← be16_toNat, be16_bytes16, UInt16.toNat_ofNat']
    exact Nat.mod_eq_of_lt (by omega)
  refine ⟨?_, by omega, fun _ => ⟨⟨40 + options.length + payload.length, ?_, by omega, ?_⟩,
    verify.ipHeader⟩⟩
  · rw [length, UInt16.toNat_ofNat']
    exact Nat.mod_eq_of_lt (by omega)
  · rw [baseSegment_encode]
    exact congrArg some total
  · intro udp
    rw [baseSegment_encode] at udp
    cases udp

/-- So is the frame which the checksum routine makes of it. -/
theorem recalculateChecksums_selfConsistent (targetMac : Mac) (targetIp : Ip) (targetPort : UInt16)
    (seq ack : UInt32) (flags : Fin 512) (oldIp oldTcp : UInt16) (options payload : List UInt8)
    (aligned : options.length % 4 = 0 ∧ options.length ≤ 40)
    (fits : 40 + options.length + payload.length ≤ 65535)
    (short : 54 + options.length + payload.length ≤ 1514) :
    ∃ frame, recalculateChecksums (baseSegment targetMac targetIp targetPort seq ack flags oldIp oldTcp
      options payload aligned fits).encode = some frame ∧
      SelfConsistent (UInt16.ofNat frame.length) frame := by
  obtain ⟨ipChecksum, tcpChecksum, stamped⟩ := recalculateChecksums_encode targetMac targetIp
    targetPort seq ack flags options payload aligned fits oldIp oldTcp
  have length := baseSegment_length targetMac targetIp targetPort seq ack flags options payload
    aligned fits oldIp oldTcp
  have verify := recalculateChecksums_verify (by omega) (by omega) stamped
  exact ⟨_, stamped, baseSegment_selfConsistent _ _ _ _ _ _ _ _ _ _ _ _ short verify⟩

/-- The builders of TCP frames inject the frame they built and print. -/
theorem injectFrame_handsOver (ready : kernel.Ready nic) (frame : List UInt8) (text : String)
    (color : UInt32) : ∃ after descriptor,
      (kernel.injectFrame frame).bind (fun kernel => some (kernel.terminalPrint text color)) =
        some after ∧
      kernel.handedOver after = some (descriptor, frame) ∧
      descriptor.length = UInt16.ofNat frame.length := by
  obtain ⟨after, next, sent, published⟩ :=
    Transmission.fire_published ready (.injectFrame frame)
  obtain ⟨descriptor, handed, length⟩ := (published.print text color).handedOver ready
  refine ⟨_, descriptor, ?_, handed, length⟩
  exact congrArg (Option.bind · _) sent

/-- Every builder hands a frame to the card, which is consistent unless it is the
broadcast. -/
theorem Builder.fire_handsOver (ready : kernel.Ready nic) (builder : Builder) :
    ∃ after descriptor frame, builder.fire kernel = some after ∧
      kernel.handedOver after = some (descriptor, frame) ∧
      (SelfConsistent descriptor.length frame ↔ builder ≠ .udpBroadcast) := by
  cases builder with
  | arpRequest targetIp =>
    obtain ⟨after, next, sent, published⟩ :=
      Transmission.fire_published ready (.arpRequest targetIp)
    obtain ⟨descriptor, handed, length⟩ := published.handedOver ready
    refine ⟨after, descriptor, _, sent, handed, iff_of_true ?_ (by rintro ⟨⟩)⟩
    exact length ▸ arpRequestFrame_selfConsistent nic.macAddress targetIp
  | arpReply senderMac senderIp =>
    obtain ⟨after, next, sent, published⟩ :=
      Transmission.fire_published ready (.arpReply senderMac senderIp)
    obtain ⟨descriptor, handed, length⟩ := published.handedOver ready
    refine ⟨after, descriptor, _, sent, handed, iff_of_true ?_ (by rintro ⟨⟩)⟩
    exact length ▸ arpReplyFrame_selfConsistent nic.macAddress senderMac senderIp
  | udpBroadcast =>
    obtain ⟨after, next, sent, published⟩ := Transmission.fire_published ready .udpBroadcast
    obtain ⟨descriptor, handed, length⟩ := published.handedOver ready
    exact ⟨after, descriptor, _, sent, handed,
      iff_of_false (udpBroadcastFrame_not_selfConsistent _) fun other => other rfl⟩
  | sendTcpSynAck targetMac targetIp targetPort clientSeq =>
    obtain ⟨frame, stamped, consistent⟩ := recalculateChecksums_selfConsistent targetMac targetIp
      targetPort 0xCAFEBABE (clientSeq + 1) 0x12 0 0 segmentSizeOption [] (by decide) (by decide)
      (by decide)
    rw [← synAckFrame_eq] at stamped
    obtain ⟨after, descriptor, sent, handed, length⟩ := injectFrame_handsOver ready frame
      "> NET: [SYN-ACK] TRANSMITTED TO HOST.\n" 0x3B82F6
    refine ⟨after, descriptor, frame, ?_, handed, iff_of_true (length ▸ consistent) (by rintro ⟨⟩)⟩
    rw [Builder.fire, Kernel.sendTcpSynAck_frame, stamped, Option.bind_some, sent]
  | sendHttpResponse targetMac targetIp targetPort mySeq clientSeq clientDataLen =>
    have short := Kernel.httpBody_length ready.payload
    obtain ⟨frame, stamped, consistent⟩ := recalculateChecksums_selfConsistent targetMac targetIp
      targetPort mySeq (clientSeq + clientDataLen) 0x18 0 0 [] (utf8 (Kernel.httpBody kernel.httpPayload))
      (by decide) (by rw [List.length_nil]; omega) (by rw [List.length_nil]; omega)
    rw [← httpFrame_eq _ _ _ _ _ _ (by omega)] at stamped
    obtain ⟨after, descriptor, sent, handed, length⟩ := injectFrame_handsOver ready frame
      "> NET: HTTP 200 OK RESPONSE SERVED. SOCKET CLOSED.\n" 0x10B981
    refine ⟨after, descriptor, frame, ?_, handed, iff_of_true (length ▸ consistent) (by rintro ⟨⟩)⟩
    rw [Builder.fire, Kernel.sendHttpResponse_frame, stamped, Option.bind_some, sent]

/-- Of the frames a kernel with an installed card sends, with any payload that
fits the sector it comes from, exactly the broadcasts disagree with themselves. -/
theorem transmitFrames_selfConsistent_iff (ready : kernel.Ready nic) (builder : Builder) :
    (∃ after descriptor frame, builder.fire kernel = some after ∧
      kernel.handedOver after = some (descriptor, frame) ∧
      SelfConsistent descriptor.length frame) ↔ builder ≠ .udpBroadcast := by
  obtain ⟨after, descriptor, frame, fired, handed, exact⟩ := builder.fire_handsOver ready
  constructor
  · rintro ⟨other, card, buffer, again, seen, consistent⟩
    cases fired.symm.trans again
    cases handed.symm.trans seen
    exact exact.mp consistent
  · intro apart
    exact ⟨after, descriptor, frame, fired, handed, exact.mpr apart⟩

theorem transmitFrames_selfConsistent_driveless :
    (∃ after descriptor frame,
      (Builder.arpRequest #v[10, 0, 2, 2]).fire Boot.driveless.kernel = some after ∧
      Boot.driveless.kernel.handedOver after = some (descriptor, frame) ∧
      SelfConsistent descriptor.length frame) ↔ Builder.arpRequest #v[10, 0, 2, 2] ≠ .udpBroadcast :=
  transmitFrames_selfConsistent_iff Boot.driveless.kernel_ready _

/-- The broadcast on a machine that has just come up. -/
theorem transmitFrames_broadcast :
    ¬ ∃ after descriptor frame, Builder.udpBroadcast.fire Boot.driveless.kernel = some after ∧
      Boot.driveless.kernel.handedOver after = some (descriptor, frame) ∧
      SelfConsistent descriptor.length frame := by
  rintro ⟨after, descriptor, frame, fired, handed, consistent⟩
  obtain ⟨other, card, buffer, again, seen, exact⟩ :=
    Builder.fire_handsOver Boot.driveless.kernel_ready .udpBroadcast
  cases fired.symm.trans again
  cases handed.symm.trans seen
  exact exact.mp consistent rfl

end QoreOS.Network
