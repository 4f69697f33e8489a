import QoreOS.Library.Transducer
import QoreOS.Network.ArpMessages
import QoreOS.Network.SegmentGrammar

/-! The kernel as a node of the network: what it has learnt, and what it says to each frame.
The packet code does just that, and hands over one frame at most. -/

namespace QoreOS.Network

open QoreOS.Library

/-- What the neighbours know a kernel by. -/
structure Node where
  arpTable : ArpCache
  macAddress : Mac
  httpPayload : Option String

/-- The frame taken from the receive ring, or what the keys and the programs ask for. -/
inductive Act where
  | hears (frame : List UInt8)
  | broadcasts
  | asks (targetIp : Ip)

def Act.heard : Act → Option (List UInt8)
  | .hears frame => some frame
  | _ => none

namespace Node

def macOf (node : Node) (ip : Ip) : Mac := (node.arpTable.lookup ip).getD (Vector.replicate 6 0xFF)

def learns (node : Node) (message : ArpMessage) : Node :=
  if message.ethertype = 0x0806 then { node with arpTable := message.learn node.arpTable } else node

/-- The answer to an ARP request for the node. -/
def answersArp (node : Node) (message : ArpMessage) : Option (List UInt8) :=
  if message = .request message.senderMac message.senderIp ownIp then
    some (Kernel.arpReplyFrame node.macAddress message.senderMac message.senderIp)
  else none

def answersTcp (node : Node) : Request → Option (List UInt8)
  | .syn peer sequence => synAckFrame (node.macOf peer.ip) peer.ip peer.port sequence
  | .get peer sequence acknowledgment length =>
    httpFrame (node.macOf peer.ip) peer.ip peer.port acknowledgment
      (sequence + UInt32.ofNat length) (utf8 (Kernel.httpBody node.httpPayload))

def answers (node : Node) (frame : List UInt8) : Option (List UInt8) :=
  ((ArpMessage.read frame).bind node.answersArp).or ((readRequest frame).bind node.answersTcp)

def hears (node : Node) (frame : List UInt8) : Node :=
  ((ArpMessage.read frame).map node.learns).getD node

def next (node : Node) : Act → Node
  | .hears frame => node.hears frame
  | _ => node

def speaks (node : Node) : Act → List (List UInt8)
  | .hears frame => (node.answers frame).toList
  | .broadcasts => [Kernel.udpBroadcastFrame]
  | .asks targetIp => [Kernel.arpRequestFrame node.macAddress targetIp]

/-- An act changes nothing but the ARP cache. -/
theorem next_kept (node : Node) (act : Act) :
    node.next act = { node with arpTable := (node.next act).arpTable } := by
  cases act with
  | hears frame =>
    change node.hears frame = { node with arpTable := (node.hears frame).arpTable }
    unfold hears learns
    cases ArpMessage.read frame with
    | none => rfl
    | some message =>
      rw [Option.map_some, Option.getD_some]
      split <;> rfl
  | _ => rfl

def machine : Transducer Node Act (List UInt8) where
  next := next
  speaks := speaks

end Node

def Kernel.node (kernel : Kernel) (nic : E1000) : Node where
  arpTable := kernel.arpTable
  macAddress := nic.macAddress
  httpPayload := kernel.httpPayload

/-- The code hands over the frame if there is one, and leaves the rest of the card alone. -/
structure Kernel.Utters (before : Kernel) (nic : E1000) (utterance : Option (List UInt8))
    (after : Kernel) (next : E1000) : Prop where
  transmits : before.Transmits nic after next
  macAddress : next.macAddress = nic.macAddress
  silent : utterance = none → next = nic ∧ after.heap = before.heap
  spoken : ∀ frame, utterance = some frame → frame.length < 2 ^ 16 ∧
    Published before nic frame (UInt16.ofNat frame.length) after next

/-- The code returns, with what it says and what it has learnt. -/
def Kernel.Speaks (before : Kernel) (nic : E1000) (utterance : Option (List UInt8))
    (arpTable : ArpCache) (result : Option Kernel) : Prop :=
  ∃ after next, result = some after ∧ before.Utters nic utterance after next ∧
    after.arpTable = arpTable

namespace Kernel

variable {kernel before : Kernel} {nic : E1000} {utterance : Option (List UInt8)}
  {frame : List UInt8} {arpTable : ArpCache} {result : Option Kernel}

theorem Speaks.stay (ready : kernel.Ready nic) :
    kernel.Speaks nic none kernel.arpTable (some kernel) :=
  ⟨kernel, nic, rfl, ⟨⟨ready, rfl, rfl, fun _ _ => rfl, List.prefix_rfl, rfl⟩, rfl,
    fun _ => ⟨rfl, rfl⟩, nofun⟩, rfl⟩

/-- What the kernel prints and learns before it speaks does not matter. -/
theorem Speaks.earlier (speaks : kernel.Speaks nic utterance arpTable result)
    (heap : kernel.heap = before.heap) (payload : kernel.httpPayload = before.httpPayload) :
    before.Speaks nic utterance arpTable result := by
  obtain ⟨after, next, returned, ⟨transmits, macAddress, silent, spoken⟩, learnt⟩ := speaks
  obtain ⟨ready, rxRing, bucket, registers, extended, kept⟩ := transmits
  refine ⟨after, next, returned, ⟨⟨ready, rxRing, bucket, registers, heap ▸ extended,
    kept.trans payload⟩, macAddress, heap ▸ silent, ?_⟩, learnt⟩
  intro frame said
  obtain ⟨short, ready, txRing, bucket, registers, grown⟩ := spoken frame said
  exact ⟨short, ready, heap ▸ txRing, bucket, registers, heap ▸ grown⟩

theorem Speaks.print (speaks : before.Speaks nic utterance arpTable result) (text : String)
    (color : UInt32) : before.Speaks nic utterance arpTable
      (result.bind fun kernel => some (kernel.terminalPrint text color)) := by
  obtain ⟨after, next, rfl, ⟨transmits, macAddress, silent, spoken⟩, learnt⟩ := speaks
  refine ⟨after.terminalPrint text color, next, rfl, ⟨⟨transmits.ready.print text color,
    transmits.rxRing, transmits.currentRxBucket, transmits.registers, transmits.heap,
    transmits.httpPayload⟩, macAddress, silent, ?_⟩, learnt⟩
  intro frame said
  exact ⟨(spoken frame said).1, (spoken frame said).2.print text color⟩

theorem transmit_speaks (ready : kernel.Ready nic) {length : UInt16} (short : frame.length < 2 ^ 16)
    (whole : length = UInt16.ofNat frame.length) :
    kernel.Speaks nic (some frame) kernel.arpTable (kernel.transmit nic frame length) := by
  subst whole
  have fits : (UInt16.ofNat frame.length).toNat ≤ frame.length :=
    (UInt16.toNat_ofNat' ..).trans_le (Nat.mod_le ..)
  obtain ⟨descriptor, -, sent⟩ := transmit_eq ready frame (UInt16.ofNat frame.length)
  obtain ⟨after, next, same, transmits⟩ := transmit_safely ready fits
  obtain ⟨other, last, again, published⟩ := transmit_published ready fits
  cases sent.symm.trans same
  cases same.symm.trans again
  cases transmits.ready.card
  cases published.ready.card
  refine ⟨_, _, sent, ⟨transmits, rfl, nofun, ?_⟩, rfl⟩
  rintro other ⟨⟩
  exact ⟨short, published⟩

theorem injectFrame_speaks (ready : kernel.Ready nic) (short : frame.length < 2 ^ 16) :
    kernel.Speaks nic (some frame) kernel.arpTable (kernel.injectFrame frame) := by
  rw [injectFrame, ready.card]
  exact transmit_speaks ready short rfl

theorem arpReply_speaks (ready : kernel.Ready nic) (senderMac : Mac) (senderIp : Ip) :
    kernel.Speaks nic (some (arpReplyFrame nic.macAddress senderMac senderIp)) kernel.arpTable
      (kernel.arpReply senderMac senderIp) := by
  have size : (arpReplyFrame nic.macAddress senderMac senderIp).length = 60 := resize_length ..
  rw [arpReply, ready.card]
  exact transmit_speaks ready (by omega) (by rw [size]; rfl)

theorem arpRequest_speaks (ready : kernel.Ready nic) (targetIp : Ip) :
    kernel.Speaks nic (some (arpRequestFrame nic.macAddress targetIp)) kernel.arpTable
      (kernel.arpRequest targetIp) := by
  have size : (arpRequestFrame nic.macAddress targetIp).length = 60 := resize_length ..
  rw [arpRequest, ready.card]
  exact (transmit_speaks ready (by omega) (by rw [size]; rfl)).print ..

theorem udpBroadcast_speaks (ready : kernel.Ready nic) :
    kernel.Speaks nic (some udpBroadcastFrame) kernel.arpTable kernel.udpBroadcast := by
  rw [udpBroadcast, ready.card]
  exact (transmit_speaks ready (by decide) (by decide)).print ..

theorem onMessage_speaks (ready : kernel.Ready nic) {message : ArpMessage}
    (arp : message.ethertype = 0x0806) :
    kernel.Speaks nic ((kernel.node nic).answersArp message) (message.learn kernel.arpTable)
      (kernel.onMessage message) := by
  unfold Kernel.onMessage ArpMessage.learn Node.answersArp
  obtain ⟨ethertype, hardwareType, protocolType, opcode, senderMac, senderIp, targetIp⟩ := message
  simp only [ArpMessage.request, ArpMessage.ipv4, ArpMessage.mk.injEq, true_and] at arp ⊢
  by_cases types : hardwareType = 1 ∧ protocolType = 0x0800
  · have learnt := ready.learn (kernel.arpTable.insert senderIp senderMac)
    rw [if_pos types, if_pos types]
    by_cases asks : opcode = 1
    · rw [if_pos asks]
      by_cases own : targetIp = ownIp
      · rw [if_pos own, if_pos ⟨arp, types.1, types.2, asks, own⟩]
        exact (arpReply_speaks ((learnt.print _ _).print _ _) senderMac senderIp).earlier rfl rfl
      · rw [if_neg own, if_neg fun request => own request.2.2.2.2]
        exact (Speaks.stay (learnt.print _ _)).earlier rfl rfl
    · rw [if_neg asks, if_neg fun request => asks request.2.2.2.1]
      exact (Speaks.stay learnt).earlier rfl rfl
  · rw [if_neg types, if_neg types, if_neg fun request => types ⟨request.2.1, request.2.2.1⟩]
    exact Speaks.stay ready

theorem answer_speaks (ready : kernel.Ready nic) (request : Option Request) :
    kernel.Speaks nic (request.bind (kernel.node nic).answersTcp) kernel.arpTable
      (kernel.answer request) := by
  cases request with
  | none => exact Speaks.stay ready
  | some request =>
    cases request with
    | syn peer sequence =>
      obtain ⟨ipChecksum, tcpChecksum, built⟩ :=
        synAckFrame_encode (kernel.targetMac peer.ip) peer.ip peer.port sequence
      have length := baseSegment_length (kernel.targetMac peer.ip) peer.ip peer.port 0xCAFEBABE
        (sequence + 1) 0x12 segmentSizeOption [] (by decide) (by decide) ipChecksum tcpChecksum
      have short : segmentSizeOption.length = 4 := rfl
      change kernel.Speaks nic (synAckFrame (kernel.targetMac peer.ip) peer.ip peer.port sequence) _
        (Kernel.sendTcpSynAck _ (kernel.targetMac peer.ip) peer.ip peer.port sequence)
      rw [sendTcpSynAck_frame, built, Option.bind_some]
      refine ((injectFrame_speaks (ready.print _ _) ?_).print _ _).earlier rfl rfl
      rw [length, short, List.length_nil]
      decide
    | get peer sequence acknowledgment length =>
      have small := httpBody_length ready.payload
      obtain ⟨ipChecksum, tcpChecksum, built⟩ :=
        httpFrame_encode (kernel.targetMac peer.ip) peer.ip peer.port acknowledgment
          (sequence + UInt32.ofNat length) (utf8 (httpBody kernel.httpPayload)) (by omega)
      have size := baseSegment_length (kernel.targetMac peer.ip) peer.ip peer.port acknowledgment
        (sequence + UInt32.ofNat length) 0x18 [] (utf8 (httpBody kernel.httpPayload)) (by decide)
        (by simpa using by omega) ipChecksum tcpChecksum
      change kernel.Speaks nic (httpFrame (kernel.targetMac peer.ip) peer.ip peer.port acknowledgment
        (sequence + UInt32.ofNat length) (utf8 (httpBody kernel.httpPayload))) _
        (Kernel.sendHttpResponse _ (kernel.targetMac peer.ip) peer.ip peer.port acknowledgment sequence
          (UInt32.ofNat length))
      rw [sendHttpResponse_frame]
      change kernel.Speaks nic _ _ ((httpFrame (kernel.targetMac peer.ip) peer.ip peer.port
        acknowledgment (sequence + UInt32.ofNat length) (utf8 (httpBody kernel.httpPayload))).bind _)
      rw [built, Option.bind_some]
      refine ((injectFrame_speaks (ready.print _ _) ?_).print _ _).earlier rfl rfl
      rw [size, List.length_nil]
      omega

end Kernel

section Dispatch

variable {kernel : Kernel} {nic : E1000} {frame : List UInt8}

theorem ArpMessage.read_long (long : 42 ≤ frame.length) :
    ∃ message, ArpMessage.read frame = some message := by
  have present : ∀ i, i < 42 → ∃ byte, frame[i]? = some byte :=
    fun i small => ⟨frame[i], List.getElem?_eq_getElem (by omega)⟩
  choose byte found using present
  simp (disch := decide) only [ArpMessage.read, found, Option.bind_eq_bind, Option.bind_some,
    Option.pure_def]
  exact ⟨_, rfl⟩

/-- A request stands in a frame of the type IPv4. -/
theorem readRequest_ethertype {request : Request} (read : readRequest frame = some request)
    {high low : UInt8} (at12 : frame[12]? = some high) (at13 : frame[13]? = some low) :
    be16 high low = 0x0800 := by
  obtain ⟨ip, tcp, server, -⟩ := readRequest_forServer read
  obtain ⟨eth, ethRead, ethertype⟩ := server.ethertype
  simp only [EthernetHeader.read, castRef, Option.bind_eq_bind, Option.bind_eq_some_iff,
    Option.dite_none_right_eq_some, Option.some.injEq] at ethRead
  obtain ⟨raw, ⟨fits, rfl⟩, rfl⟩ := ethRead
  obtain ⟨_, rfl⟩ := List.getElem?_eq_some_iff.mp at12
  obtain ⟨_, rfl⟩ := List.getElem?_eq_some_iff.mp at13
  simpa using ethertype

theorem readRequest_arp {message : ArpMessage} (read : ArpMessage.read frame = some message)
    (arp : message.ethertype = 0x0806) : readRequest frame = none := by
  obtain ⟨⟨high, low, at12, at13, ethertype⟩, -⟩ := handleArp_message read
  refine Option.eq_none_iff_forall_not_mem.mpr fun request asks => ?_
  rw [ethertype, readRequest_ethertype asks at12 at13] at arp
  cases arp

/-- `poll` does with a frame what the node does. -/
theorem Kernel.dispatch_speaks (ready : kernel.Ready nic) (long : 42 ≤ frame.length) :
    kernel.Speaks nic ((kernel.node nic).answers frame) ((kernel.node nic).hears frame).arpTable
      (kernel.dispatch frame) := by
  obtain ⟨message, read⟩ := ArpMessage.read_long long
  obtain ⟨⟨high, low, at12, at13, ethertype⟩, -⟩ := handleArp_message read
  rw [Node.answers, Node.hears, read, Option.bind_some, Option.map_some, Option.getD_some]
  by_cases arp : message.ethertype = 0x0806
  · obtain ⟨text, dispatches⟩ := dispatch_message read arp kernel
    rw [dispatches, readRequest_arp read arp, Option.bind_none, Option.or_none, Node.learns, if_pos arp]
    exact (onMessage_speaks (ready.print _ _) arp).earlier rfl rfl
  · have noArp : (kernel.node nic).answersArp message = none :=
      if_neg fun request => arp (congrArg ArpMessage.ethertype request)
    rw [ethertype] at arp
    simp only [Kernel.dispatch, at12, at13, Option.bind_eq_bind, Option.bind_some, if_neg arp]
    rw [noArp, Option.none_or, Node.learns, if_neg (ethertype ▸ arp)]
    by_cases ipv4 : be16 high low = 0x0800
    · rw [if_pos ipv4, handleIncomingPacket_answer]
      exact (answer_speaks (ready.print _ _) (readRequest frame)).earlier rfl rfl
    · have noRequest : readRequest frame = none :=
        Option.eq_none_iff_forall_not_mem.mpr fun request asks =>
          ipv4 (readRequest_ethertype asks at12 at13)
      rw [if_neg ipv4, noRequest]
      exact (Speaks.stay (ready.print _ _)).earlier rfl rfl

end Dispatch

end QoreOS.Network
