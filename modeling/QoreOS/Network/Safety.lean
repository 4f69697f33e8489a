import QoreOS.Library.Http
import QoreOS.Network.Device
import QoreOS.Network.Frames

/-! No received frame makes the packet code panic, and all that it may do to
the card is to transmit. -/

namespace QoreOS.Network

open QoreOS.Library

/-- The transmit side of a card between two transmissions. -/
structure E1000.TxReady (nic : E1000) (heap : List (List UInt8)) : Prop where
  slots : nic.txRing.length = 8
  bucket : nic.currentTxBucket < 8
  buffers : ∀ descriptor ∈ nic.txRing, ∃ box,
    heap[descriptor.bufferAddress]? = some box ∧ descriptor.length.toNat ≤ box.length

/-- A kernel that serves the network with the card `nic`. -/
structure Kernel.Ready (kernel : Kernel) (nic : E1000) : Prop where
  card : kernel.netCard = some nic
  transmit : nic.TxReady kernel.heap
  payload : ∀ text, kernel.httpPayload = some text → (utf8 text).length ≤ 14 + 512

/-- What stays the same when the kernel transmits. -/
structure Kernel.Transmits (before : Kernel) (nic : E1000) (after : Kernel) (next : E1000) :
    Prop where
  ready : after.Ready next
  rxRing : next.rxRing = nic.rxRing
  currentRxBucket : next.currentRxBucket = nic.currentRxBucket
  registers : ∀ offset, offset ≠ 0x3818 → next.registers offset = nic.registers offset
  heap : before.heap <+: after.heap
  httpPayload : after.httpPayload = before.httpPayload

/-- The code does not panic, and only transmits. -/
def Kernel.Safely (before : Kernel) (nic : E1000) (result : Option Kernel) : Prop :=
  ∃ after next, result = some after ∧ before.Transmits nic after next

namespace Kernel

variable {kernel before : Kernel} {nic : E1000} {result : Option Kernel}

theorem Safely.stay (ready : kernel.Ready nic) : kernel.Safely nic (some kernel) :=
  ⟨kernel, nic, rfl, ready, rfl, rfl, fun _ _ => rfl, List.prefix_rfl, rfl⟩

theorem Ready.print (ready : kernel.Ready nic) (text : String) (color : UInt32) :
    (kernel.terminalPrint text color).Ready nic :=
  ⟨ready.card, ready.transmit, ready.payload⟩

theorem Ready.learn (ready : kernel.Ready nic) (table : ArpCache) :
    { kernel with arpTable := table }.Ready nic :=
  ⟨ready.card, ready.transmit, ready.payload⟩

/-- Printing and learning an address before the rest of the code changes nothing
that matters here. -/
theorem Safely.after_print {text : String} {color : UInt32}
    (safe : (kernel.terminalPrint text color).Safely nic result) : kernel.Safely nic result := by
  obtain ⟨after, next, same, sends⟩ := safe
  exact ⟨after, next, same, sends.ready, sends.rxRing, sends.currentRxBucket, sends.registers,
    sends.heap, sends.httpPayload⟩

theorem Safely.after_learn {table : ArpCache}
    (safe : { kernel with arpTable := table }.Safely nic result) : kernel.Safely nic result := by
  obtain ⟨after, next, same, sends⟩ := safe
  exact ⟨after, next, same, sends.ready, sends.rxRing, sends.currentRxBucket, sends.registers,
    sends.heap, sends.httpPayload⟩

theorem Safely.print (safe : before.Safely nic result) (text : String) (color : UInt32) :
    before.Safely nic (result.bind fun kernel => some (kernel.terminalPrint text color)) := by
  obtain ⟨after, next, rfl, sends⟩ := safe
  exact ⟨after.terminalPrint text color, next, rfl, sends.ready.print text color, sends.rxRing,
    sends.currentRxBucket, sends.registers, sends.heap, sends.httpPayload⟩

/-- What one transmission does to the card and the heap. -/
theorem transmit_eq (ready : kernel.Ready nic) (frame : List UInt8) (length : UInt16) :
    ∃ descriptor, nic.txRing[nic.currentTxBucket]? = some descriptor ∧
      kernel.transmit nic frame length = some { kernel with
        netCard := some { nic with
          txRing := nic.txRing.set nic.currentTxBucket { descriptor with
            bufferAddress := kernel.heap.length
            length := length
            cmd := 0x0B }
          currentTxBucket := (nic.currentTxBucket + 1) % 8
          registers := Function.update nic.registers 0x3818 ((nic.currentTxBucket + 1) % 8) }
        heap := kernel.heap ++ [frame] } := by
  have inside : nic.currentTxBucket < nic.txRing.length := by
    rw [ready.transmit.slots]
    exact ready.transmit.bucket
  refine ⟨nic.txRing[nic.currentTxBucket], List.getElem?_eq_getElem inside, ?_⟩
  simp only [Kernel.transmit, E1000.transmit, List.getElem?_eq_getElem inside, Option.bind_eq_bind,
    Option.bind_some]
  rfl

theorem transmit_safely (ready : kernel.Ready nic) {frame : List UInt8} {length : UInt16}
    (fits : length.toNat ≤ frame.length) : kernel.Safely nic (kernel.transmit nic frame length) := by
  obtain ⟨descriptor, -, sent⟩ := transmit_eq ready frame length
  refine ⟨_, _, sent, ⟨rfl, ⟨?_, ?_, ?_⟩, ready.payload⟩, rfl, rfl, ?_, ?_, rfl⟩
  · simpa using ready.transmit.slots
  · exact Nat.mod_lt _ (by decide)
  · intro other member
    rcases List.mem_or_eq_of_mem_set member with old | rfl
    · obtain ⟨box, found, long⟩ := ready.transmit.buffers other old
      obtain ⟨inside, -⟩ := List.getElem?_eq_some_iff.mp found
      exact ⟨box, by rw [List.getElem?_append_left inside, found], long⟩
    · exact ⟨frame, List.getElem?_concat_length, fits⟩
  · intro offset other
    exact Function.update_of_ne other _ _
  · exact List.prefix_append ..

theorem injectFrame_safely (ready : kernel.Ready nic) (frame : List UInt8) :
    kernel.Safely nic (kernel.injectFrame frame) := by
  rw [injectFrame, ready.card]
  apply transmit_safely ready
  rw [UInt16.toNat_ofNat']
  exact Nat.mod_le ..

theorem udpBroadcast_safely (ready : kernel.Ready nic) : kernel.Safely nic kernel.udpBroadcast := by
  rw [udpBroadcast, ready.card]
  exact (transmit_safely ready (by decide)).print ..

theorem resize_length (frame : List UInt8) (size : Nat) : (resize frame size).length = size := by
  rw [resize, List.length_append, List.length_take, List.length_replicate]
  omega

theorem arpRequestBytes_length (macAddress : Mac) (targetIp : Ip) :
    (arpRequestBytes macAddress targetIp).length = 42 := by
  simp only [arpRequestBytes, List.length_append, List.length_cons, List.length_nil,
    Vector.length_toList]

theorem arpReplyBytes_length (macAddress senderMac : Mac) (senderIp : Ip) :
    (arpReplyBytes macAddress senderMac senderIp).length = 42 := by
  simp only [arpReplyBytes, List.length_append, List.length_cons, List.length_nil,
    Vector.length_toList]

theorem arpRequest_safely (ready : kernel.Ready nic) (targetIp : Ip) :
    kernel.Safely nic (kernel.arpRequest targetIp) := by
  rw [arpRequest, ready.card]
  exact (transmit_safely ready (by rw [arpRequestFrame, resize_length]; decide)).print ..

theorem arpReply_safely (ready : kernel.Ready nic) (senderMac : Mac) (senderIp : Ip) :
    kernel.Safely nic (kernel.arpReply senderMac senderIp) := by
  rw [arpReply, ready.card]
  exact transmit_safely ready (by rw [arpReplyFrame, resize_length]; decide)

theorem sendTcpSynAck_frame (kernel : Kernel) (targetMac : Mac) (targetIp : Ip)
    (targetPort : UInt16) (clientSeq : UInt32) :
    kernel.sendTcpSynAck targetMac targetIp targetPort clientSeq =
      (synAckFrame targetMac targetIp targetPort clientSeq).bind fun frame =>
        (kernel.injectFrame frame).bind fun kernel =>
          some (kernel.terminalPrint "> NET: [SYN-ACK] TRANSMITTED TO HOST.\n" 0x3B82F6) := by
  simp only [sendTcpSynAck, synAckFrame, Option.bind_eq_bind, Option.bind_assoc]

theorem sendTcpSynAck_safely (ready : kernel.Ready nic) (targetMac : Mac) (targetIp : Ip)
    (targetPort : UInt16) (clientSeq : UInt32) :
    kernel.Safely nic (kernel.sendTcpSynAck targetMac targetIp targetPort clientSeq) := by
  obtain ⟨ipChecksum, tcpChecksum, built⟩ := synAckFrame_encode targetMac targetIp targetPort
    clientSeq
  rw [sendTcpSynAck_frame, built, Option.bind_some]
  exact (injectFrame_safely ready _).print ..

/-- The text served never exceeds a small frame. -/
theorem httpBody_length {payload : Option String}
    (short : ∀ text, payload = some text → (utf8 text).length ≤ 14 + 512) :
    (utf8 (httpBody payload)).length ≤ 1000 := by
  have text : (utf8 (payload.getD "ERROR: NO PAYLOAD FOUND IN RING-0 MEMORY")).length ≤ 14 + 512 := by
    cases payload with
    | none => decide
    | some text => exact short text rfl
  unfold httpBody
  generalize payload.getD "ERROR: NO PAYLOAD FOUND IN RING-0 MEMORY" = content at *
  have number : (utf8 (toString content.utf8ByteSize)).length ≤ 3 := by
    apply utf8_toString_length (by decide)
    rw [← utf8_length]
    omega
  have start : (utf8 "HTTP/1.1 200 OK\r\nContent-Type: text/plain\r\nContent-Length: ").length = 59 := by
    decide
  have blank : (utf8 "\r\nConnection: close\r\n\r\n").length = 23 := by decide
  simp only [utf8_append, List.length_append, start, blank]
  omega

theorem sendHttpResponse_frame (kernel : Kernel) (targetMac : Mac) (targetIp : Ip)
    (targetPort : UInt16) (mySeq clientSeq clientDataLen : UInt32) :
    kernel.sendHttpResponse targetMac targetIp targetPort mySeq clientSeq clientDataLen =
      (httpFrame targetMac targetIp targetPort mySeq (clientSeq + clientDataLen)
        (utf8 (httpBody kernel.httpPayload))).bind fun frame =>
        (kernel.injectFrame frame).bind fun kernel =>
          some (kernel.terminalPrint "> NET: HTTP 200 OK RESPONSE SERVED. SOCKET CLOSED.\n"
            0x10B981) := by
  simp only [sendHttpResponse, httpFrame, Option.bind_eq_bind, Option.bind_assoc]

/-- The data frame which the response code hands to the card. -/
theorem sendHttpResponse_eq {payload : Option String} (same : kernel.httpPayload = payload)
    (short : 40 + (utf8 (httpBody payload)).length ≤ 65535) (targetMac : Mac) (targetIp : Ip)
    (targetPort : UInt16) (mySeq clientSeq clientDataLen : UInt32) :
    ∃ ipChecksum tcpChecksum,
      kernel.sendHttpResponse targetMac targetIp targetPort mySeq clientSeq clientDataLen =
      (kernel.injectFrame (baseSegment targetMac targetIp targetPort mySeq (clientSeq + clientDataLen)
        0x18 ipChecksum tcpChecksum [] (utf8 (httpBody payload)) (by decide)
        (by simpa using short)).encode).bind fun kernel =>
          some (kernel.terminalPrint "> NET: HTTP 200 OK RESPONSE SERVED. SOCKET CLOSED.\n" 0x10B981) := by
  subst same
  obtain ⟨ipChecksum, tcpChecksum, built⟩ := httpFrame_encode targetMac targetIp targetPort mySeq
    (clientSeq + clientDataLen) (utf8 (httpBody kernel.httpPayload)) short
  exact ⟨ipChecksum, tcpChecksum, by rw [sendHttpResponse_frame, built, Option.bind_some]⟩

theorem sendHttpResponse_safely (ready : kernel.Ready nic) (targetMac : Mac) (targetIp : Ip)
    (targetPort : UInt16) (mySeq clientSeq clientDataLen : UInt32) :
    kernel.Safely nic
      (kernel.sendHttpResponse targetMac targetIp targetPort mySeq clientSeq clientDataLen) := by
  have short := httpBody_length ready.payload
  obtain ⟨ipChecksum, tcpChecksum, sent⟩ := sendHttpResponse_eq
    (rfl : kernel.httpPayload = kernel.httpPayload) (by omega) targetMac targetIp
    targetPort mySeq clientSeq clientDataLen
  rw [sent]
  exact (injectFrame_safely ready _).print ..

theorem handleTcp_safely (ready : kernel.Ready nic) (packet : List UInt8) (ip : Ipv4Header)
    (tcp : TcpHeader) (ihl tcpOffset : Nat) :
    kernel.Safely nic (kernel.handleTcp packet ip tcp ihl tcpOffset) := by
  have nibble : (tcp.dataOffsetFlags.toNat >>> 12) &&& 0x0F ≤ 0x0F := Nat.and_le_right
  simp only [handleTcp, checked_of_lt
    (show ((tcp.dataOffsetFlags.toNat >>> 12) &&& 0x0F) * 4 < 2 ^ 16 by omega),
    Option.bind_eq_bind, Option.bind_some]
  generalize ((tcp.dataOffsetFlags.toNat >>> 12) &&& 0x0F) * 4 = tcpHeaderLen
  split
  · split
    · exact (sendTcpSynAck_safely (ready.print _ _) ..).after_print
    · split
      · split
        · rename_i headers
          rw [checkedSub_of_le (by omega), Option.bind_some, checkedSub_of_le (by omega),
            Option.bind_some]
          split
          · rename_i enough
            rw [slice_of_le (by omega) enough.2, Option.bind_some]
            split
            · exact (sendHttpResponse_safely (ready.print _ _) ..).after_print
            · exact Safely.stay ready
          · exact Safely.stay ready
        · exact Safely.stay ready
      · exact Safely.stay ready
  · exact Safely.stay ready

/-- Any byte slice at all may be handed to `handle_incoming_packet`. -/
theorem handleIncomingPacket_safely (ready : kernel.Ready nic) (packet : List UInt8) :
    kernel.Safely nic (kernel.handleIncomingPacket packet) := by
  unfold handleIncomingPacket
  by_cases frame : packet.length < EthernetHeader.size
  · rw [if_pos frame]
    exact Safely.stay ready
  · obtain ⟨rawEthernet, ethernetRead⟩ := castRef_of_le _ _ (Nat.le_of_not_lt frame)
    simp only [if_neg frame, EthernetHeader.read, ethernetRead, Option.bind_eq_bind,
      Option.bind_some]
    split
    · by_cases datagram : packet.length < EthernetHeader.size + Ipv4Header.size
      · rw [if_pos datagram]
        exact Safely.stay ready
      · obtain ⟨rawIp, ipRead⟩ := castRef_of_le Ipv4Header.size
          (packet.drop EthernetHeader.size) (by rw [List.length_drop]; omega)
        simp only [if_neg datagram, slice_to_end (Nat.le_of_not_lt frame), Ipv4Header.read, ipRead,
          Option.bind_eq_bind, Option.bind_some]
        split
        · exact Safely.stay ready
        · split
          · have nibble : rawIp[0].toNat &&& 0x0F ≤ 0x0F := Nat.and_le_right
            rw [checked_of_lt (by omega), Option.bind_some]
            generalize (rawIp[0].toNat &&& 0x0F) * 4 = ihl
            by_cases segment : packet.length < EthernetHeader.size + ihl + TcpHeader.size
            · rw [if_pos segment]
              exact Safely.stay ready
            · obtain ⟨rawTcp, tcpRead⟩ := castRef_of_le TcpHeader.size
                (packet.drop (EthernetHeader.size + ihl)) (by rw [List.length_drop]; omega)
              simp only [if_neg segment, slice_to_end (show EthernetHeader.size + ihl ≤ packet.length by
                omega), TcpHeader.read, tcpRead, Option.bind_eq_bind, Option.bind_some]
              exact handleTcp_safely ready ..
          · exact Safely.stay ready
    · exact Safely.stay ready

theorem handleArp_safely (ready : kernel.Ready nic) {packetSlice : List UInt8}
    (long : 42 ≤ packetSlice.length) : kernel.Safely nic (kernel.handleArp packetSlice) := by
  have read : ∀ i, i < 42 → ∃ byte, packetSlice[i]? = some byte :=
    fun i small => ⟨packetSlice[i], List.getElem?_eq_getElem (by omega)⟩
  choose byte found using read
  simp only [handleArp, found _ (by decide : 14 < 42), found _ (by decide : 15 < 42),
    found _ (by decide : 16 < 42), found _ (by decide : 17 < 42), found _ (by decide : 20 < 42),
    found _ (by decide : 21 < 42), found _ (by decide : 22 < 42), found _ (by decide : 23 < 42),
    found _ (by decide : 24 < 42), found _ (by decide : 25 < 42), found _ (by decide : 26 < 42),
    found _ (by decide : 27 < 42), found _ (by decide : 28 < 42), found _ (by decide : 29 < 42),
    found _ (by decide : 30 < 42), found _ (by decide : 31 < 42), found _ (by decide : 38 < 42),
    found _ (by decide : 39 < 42), found _ (by decide : 40 < 42), found _ (by decide : 41 < 42),
    Option.bind_eq_bind, Option.bind_some]
  split
  · split
    · split
      · exact (arpReply_safely ((ready.learn _).print _ _ |>.print _ _) ..).after_print.after_print.after_learn
      · exact (Safely.stay ((ready.learn _).print _ _)).after_print.after_learn
    · exact (Safely.stay (ready.learn _)).after_learn
  · exact Safely.stay ready

/-- Every frame of at least 42 bytes is dispatched without a panic. -/
theorem dispatch_safely (ready : kernel.Ready nic) {packetSlice : List UInt8}
    (long : 42 ≤ packetSlice.length) : kernel.Safely nic (kernel.dispatch packetSlice) := by
  have high := List.getElem?_eq_getElem (show 12 < packetSlice.length by omega)
  have low := List.getElem?_eq_getElem (show 13 < packetSlice.length by omega)
  simp only [dispatch, high, low, Option.bind_eq_bind, Option.bind_some]
  split
  · exact (handleArp_safely (ready.print _ _) long).after_print
  · split
    · exact (handleIncomingPacket_safely (ready.print _ _) packetSlice).after_print
    · exact (Safely.stay (ready.print _ _)).after_print

/-- The types and the opcode are read from every ARP frame. -/
theorem handleArp_short (kernel : Kernel) {packetSlice : List UInt8}
    (short : packetSlice.length < 22) : kernel.handleArp packetSlice = none := by
  have missing : packetSlice[21]? = none := List.getElem?_eq_none (by omega)
  unfold handleArp
  rw [missing]
  -- Five fields are read before the one that is missing.
  iterate 5 refine Option.bind_eq_none_iff.mpr fun _ _ => ?_
  rfl

/-- A frame without addresses is ignored, or panics where they are read. -/
theorem handleArp_cut (kernel : Kernel) {packetSlice : List UInt8} (header : 22 ≤ packetSlice.length)
    (short : packetSlice.length < 42) {b14 b15 b16 b17 : UInt8} (at14 : packetSlice[14]? = some b14)
    (at15 : packetSlice[15]? = some b15) (at16 : packetSlice[16]? = some b16)
    (at17 : packetSlice[17]? = some b17) : kernel.handleArp packetSlice =
      if be16 b14 b15 = 1 ∧ be16 b16 b17 = 0x0800 then none else some kernel := by
  have at20 := List.getElem?_eq_getElem (show 20 < packetSlice.length by omega)
  have at21 := List.getElem?_eq_getElem (show 21 < packetSlice.length by omega)
  have last : packetSlice[41]? = none := List.getElem?_eq_none (by omega)
  simp only [handleArp, at14, at15, at16, at17, at20, at21, last, Option.bind_eq_bind,
    Option.bind_some, Option.bind_none, Option.bind_fun_none]

/-- A shorter ARP frame makes `poll` panic or stops it before it answers. -/
theorem handleArp_guarded (ready : kernel.Ready nic) (packetSlice : List UInt8) :
    kernel.handleArp packetSlice = none ∨ kernel.Safely nic (kernel.handleArp packetSlice) := by
  by_cases long : 42 ≤ packetSlice.length
  · exact Or.inr (handleArp_safely ready long)
  · by_cases header : 22 ≤ packetSlice.length
    · have inside : ∀ index, index < 22 → packetSlice[index]? = some (packetSlice[index]?.getD 0) := by
        intro index small
        rw [List.getElem?_eq_getElem (by omega), Option.getD_some]
      rw [handleArp_cut kernel header (Nat.lt_of_not_le long) (inside 14 (by decide))
        (inside 15 (by decide)) (inside 16 (by decide)) (inside 17 (by decide))]
      split
      · exact Or.inl rfl
      · exact Or.inr (Safely.stay ready)
    · exact Or.inl (handleArp_short kernel (Nat.lt_of_not_le header))

theorem dispatch_guarded (ready : kernel.Ready nic) (packetSlice : List UInt8) :
    kernel.dispatch packetSlice = none ∨ kernel.Safely nic (kernel.dispatch packetSlice) := by
  unfold dispatch
  cases packetSlice[12]? with
  | none => exact Or.inl rfl
  | some high => cases packetSlice[13]? with
    | none => exact Or.inl rfl
    | some low =>
      simp only [Option.bind_eq_bind, Option.bind_some]
      split
      · rcases handleArp_guarded (ready.print _ _) packetSlice with panic | safe
        · exact Or.inl panic
        · exact Or.inr safe.after_print
      · split
        · exact Or.inr (handleIncomingPacket_safely (ready.print _ _) packetSlice).after_print
        · exact Or.inr (Safely.stay (ready.print _ _)).after_print

end Kernel

/-- Overwriting a box by one that is no shorter keeps every box in place. -/
theorem heap_set_box {heap : List (List UInt8)} {target address : Nat} {old new box : List UInt8}
    (there : heap[target]? = some old) (longer : old.length ≤ new.length)
    (found : heap[address]? = some box) :
    ∃ after, (heap.set target new)[address]? = some after ∧ box.length ≤ after.length := by
  obtain ⟨inside, -⟩ := List.getElem?_eq_some_iff.mp there
  by_cases same : target = address
  · subst same
    rw [there, Option.some.injEq] at found
    exact ⟨new, by rw [List.getElem?_set_self inside], found ▸ longer⟩
  · exact ⟨box, by rw [List.getElem?_set_ne same, found], Nat.le_refl _⟩

namespace Kernel.Ready

variable {kernel : Kernel} {nic next : E1000}

/-- What the card does when it stores a frame. -/
theorem receive (ready : kernel.Ready nic) {heap : List (List UInt8)} {frame : List UInt8}
    (received : nic.receive kernel.heap frame = some (next, heap)) :
    { kernel with netCard := some next, heap := heap }.Ready next := by
  unfold E1000.receive at received
  split at received
  · simp only [Option.bind_eq_bind, Option.bind_eq_some_iff, Option.some.injEq, Prod.mk.injEq]
      at received
    obtain ⟨descriptor, -, buffer, found, rfl, rfl⟩ := received
    refine ⟨rfl, ⟨ready.transmit.slots, ready.transmit.bucket, ?_⟩, ready.payload⟩
    intro other member
    obtain ⟨box, old, fits⟩ := ready.transmit.buffers other member
    have longer : buffer.length ≤ (frame ++ buffer.drop frame.length).length := by
      rw [List.length_append, List.length_drop]
      omega
    obtain ⟨after, kept, length⟩ := heap_set_box found longer old
    exact ⟨after, kept, Nat.le_trans fits length⟩
  · cases received
    exact ⟨rfl, ready.transmit, ready.payload⟩

/-- What the card does when it takes a frame. -/
theorem fetch (ready : kernel.Ready nic) {wire : List (List UInt8)}
    (fetched : nic.fetch kernel.heap = some (next, wire)) :
    { kernel with netCard := some next }.Ready next := by
  simp only [E1000.fetch] at fetched
  split at fetched
  · cases fetched
    exact ⟨rfl, ready.transmit, ready.payload⟩
  · simp only [Option.bind_eq_bind, Option.bind_eq_some_iff, Option.some.injEq, Prod.mk.injEq]
      at fetched
    obtain ⟨descriptor, read, buffer, found, frame, -, rfl, -⟩ := fetched
    refine ⟨rfl, ⟨?_, ready.transmit.bucket, ?_⟩, ready.payload⟩
    · exact List.length_set.trans ready.transmit.slots
    · intro other member
      rcases List.mem_or_eq_of_mem_set member with old | rfl
      · exact ready.transmit.buffers other old
      · exact ready.transmit.buffers descriptor (List.mem_of_getElem? read)

theorem poll (ready : kernel.Ready nic) {busy : Bool} {after : Kernel}
    (polled : kernel.poll = some (busy, after)) : ∃ next, after.Ready next := by
  simp only [Kernel.poll, ready.card, Option.bind_eq_bind, Option.bind_some,
    Option.bind_eq_some_iff] at polled
  obtain ⟨slice, -, polled⟩ := polled
  cases slice with
  | none =>
    cases polled
    exact ⟨nic, ready⟩
  | some packetSlice =>
    simp only [Option.bind_eq_some_iff] at polled
    obtain ⟨middle, dispatched, card, same, released, released_eq, final⟩ := polled
    rcases dispatch_guarded ready packetSlice with panic | ⟨_, sent, reached, transmits⟩
    · rw [dispatched] at panic
      cases panic
    · rw [dispatched, Option.some.injEq] at reached
      subst reached
      rw [transmits.ready.card, Option.some.injEq] at same
      subst same
      simp only [E1000.release, Option.bind_eq_bind, Option.bind_eq_some_iff, Option.some.injEq]
        at released_eq
      obtain ⟨descriptor, -, rfl⟩ := released_eq
      cases final
      exact ⟨_, rfl, ⟨transmits.ready.transmit.slots, transmits.ready.transmit.bucket,
        transmits.ready.transmit.buffers⟩, transmits.ready.payload⟩

end Kernel.Ready

/-- Every step that does not panic leaves the kernel ready to transmit. -/
theorem Kernel.step_ready {kernel after : Kernel} {event : Event}
    (ready : ∃ nic, kernel.Ready nic) (stepped : kernel.step event = some after) :
    ∃ nic, after.Ready nic := by
  obtain ⟨nic, ready⟩ := ready
  cases event with
  | receive frame =>
    simp only [Kernel.step, ready.card, Option.bind_eq_bind, Option.bind_some,
      Option.bind_eq_some_iff] at stepped
    obtain ⟨⟨next, heap⟩, received, same⟩ := stepped
    cases same
    exact ⟨next, ready.receive received⟩
  | fetch =>
    simp only [Kernel.step, ready.card, Option.bind_eq_bind, Option.bind_some,
      Option.bind_eq_some_iff] at stepped
    obtain ⟨⟨next, wire⟩, fetched, same⟩ := stepped
    cases same
    exact ⟨next, ready.fetch fetched⟩
  | poll =>
    simp only [Kernel.step, Option.bind_eq_bind, Option.bind_eq_some_iff] at stepped
    obtain ⟨⟨busy, polled⟩, same, result⟩ := stepped
    cases result
    exact ready.poll same
  | udpBroadcast =>
    obtain ⟨_, next, sent, transmits⟩ := Kernel.udpBroadcast_safely ready
    rw [Kernel.step, sent, Option.some.injEq] at stepped
    exact ⟨next, stepped ▸ transmits.ready⟩
  | arpRequest targetIp =>
    obtain ⟨_, next, sent, transmits⟩ := Kernel.arpRequest_safely ready targetIp
    rw [Kernel.step, sent, Option.some.injEq] at stepped
    exact ⟨next, stepped ▸ transmits.ready⟩

theorem Boot.card_rxRing (boot : Boot) : boot.card.rxRing = (List.range 32).map fun bucket =>
    { bufferAddress := boot.heap.length + bucket, length := 0, checksum := 0, status := 0,
      errors := 0, special := 0 } := rfl

theorem Boot.card_txRing (boot : Boot) : boot.card.txRing = List.replicate 8
    { bufferAddress := 0, length := 0, cso := 0, cmd := 0, status := 0, css := 0, special := 0 } := rfl

theorem Boot.card_registers (boot : Boot) : boot.card.registers 0x2808 = 512 ∧
    boot.card.registers 0x2810 = 0 ∧ boot.card.registers 0x2818 = 31 ∧
    boot.card.registers 0x3808 = 128 ∧ boot.card.registers 0x3810 = 0 ∧
    boot.card.registers 0x3818 = 0 :=
  ⟨rfl, rfl, rfl, rfl, rfl, rfl⟩

theorem Boot.kernel_heap (boot : Boot) :
    boot.kernel.heap = boot.heap ++ List.replicate 32 (List.replicate 2048 0) := rfl

theorem Boot.kernel_ready (boot : Boot) : boot.kernel.Ready boot.card := by
  refine ⟨rfl, ⟨?_, by change 0 < 8; decide, ?_⟩, ?_⟩
  · rw [boot.card_txRing, List.length_replicate]
  · intro descriptor member
    rw [boot.card_txRing] at member
    obtain rfl := List.eq_of_mem_replicate member
    have inside : 0 < boot.kernel.heap.length := by
      rw [boot.kernel_heap, List.length_append, List.length_replicate]
      omega
    exact ⟨_, List.getElem?_eq_getElem inside, Nat.zero_le _⟩
  · intro text same
    obtain rfl : boot.payload = text := Option.some.inj same
    exact Storage.sectorDataStr_length boot.installed

/-- A kernel reached from the boot by any steps is ready. -/
theorem Kernel.reached_ready {boot : Boot} {events : List Event} {kernel : Kernel}
    (reached : run Kernel.step events boot.kernel = some kernel) : ∃ nic, kernel.Ready nic :=
  run_preserves (fun _ _ _ ready stepped => Kernel.step_ready ready stepped) events
    ⟨boot.card, boot.kernel_ready⟩ reached

/-- In every state that the kernel reaches, the packet code returns for every byte
slice: no index, slice or cast leaves it and no sum overflows. -/
theorem Kernel.handleIncomingPacket_returns {boot : Boot} {events : List Event} {kernel : Kernel}
    (reached : run Kernel.step events boot.kernel = some kernel) (packet : List UInt8) :
    ∃ after, kernel.handleIncomingPacket packet = some after := by
  obtain ⟨nic, ready⟩ := Kernel.reached_ready reached
  obtain ⟨after, _, returned, _⟩ := handleIncomingPacket_safely ready packet
  exact ⟨after, returned⟩

/-- Header lengths and a total length of the largest values. -/
theorem Kernel.handleIncomingPacket_returns_ones :
    ∃ after, Boot.driveless.kernel.handleIncomingPacket (List.replicate 94 0xFF) = some after :=
  @Kernel.handleIncomingPacket_returns Boot.driveless [] _ rfl _

end QoreOS.Network
