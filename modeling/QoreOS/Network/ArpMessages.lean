import QoreOS.Network.ArpHistory
import QoreOS.Network.PollSurvival

/-! ARP from both ends: what the two frame builders write, `poll` reads, and what a
peer learns from the reply. -/

namespace QoreOS.Network

open QoreOS.Library

/-- The fields at the offsets of `poll`. -/
structure ArpMessage where
  ethertype : UInt16
  hardwareType : UInt16
  protocolType : UInt16
  opcode : UInt16
  senderMac : Mac
  senderIp : Ip
  targetIp : Ip
  deriving DecidableEq

namespace ArpMessage

def read (frame : List UInt8) : Option ArpMessage := do
  let ethertype := be16 (← frame[12]?) (← frame[13]?)
  let hardwareType := be16 (← frame[14]?) (← frame[15]?)
  let protocolType := be16 (← frame[16]?) (← frame[17]?)
  let opcode := be16 (← frame[20]?) (← frame[21]?)
  let senderMac := Mac.of (← frame[22]?) (← frame[23]?) (← frame[24]?) (← frame[25]?) (← frame[26]?)
    (← frame[27]?)
  let senderIp := Ip.of (← frame[28]?) (← frame[29]?) (← frame[30]?) (← frame[31]?)
  let targetIp := Ip.of (← frame[38]?) (← frame[39]?) (← frame[40]?) (← frame[41]?)
  return { ethertype, hardwareType, protocolType, opcode, senderMac, senderIp, targetIp }

/-- An ARP message between Ethernet and IPv4 addresses. -/
def ipv4 (opcode : UInt16) (senderMac : Mac) (senderIp targetIp : Ip) : ArpMessage where
  ethertype := 0x0806
  hardwareType := 1
  protocolType := 0x0800
  opcode := opcode
  senderMac := senderMac
  senderIp := senderIp
  targetIp := targetIp

def request (senderMac : Mac) (senderIp targetIp : Ip) : ArpMessage :=
  ipv4 1 senderMac senderIp targetIp

def reply (senderMac : Mac) (senderIp targetIp : Ip) : ArpMessage :=
  ipv4 2 senderMac senderIp targetIp

/-- The learning step of `poll`. -/
def learn (message : ArpMessage) (cache : ArpCache) : ArpCache :=
  if message.hardwareType = 1 ∧ message.protocolType = 0x0800 then
    cache.insert message.senderIp message.senderMac
  else cache

end ArpMessage

/-- The address of the kernel. -/
def ownIp : Ip := .of 10 0 2 15

variable {frame : List UInt8}

theorem ArpMessage.read_short (short : frame.length < 42) : ArpMessage.read frame = none := by
  have missing : frame[41]? = none := List.getElem?_eq_none (by omega)
  unfold ArpMessage.read
  rw [missing]
  -- All other fields are read before the last byte.
  iterate 21 refine Option.bind_eq_none_iff.mpr fun _ _ => ?_
  rfl

theorem ArpMessage.ipv4_eq (opcode : UInt16) (senderMac : Mac) (senderIp targetIp : Ip) :
    { ethertype := be16 0x08 0x06
      hardwareType := be16 0x00 0x01
      protocolType := be16 0x08 0x00
      opcode := opcode
      senderMac := .of (senderMac.get 0) (senderMac.get 1) (senderMac.get 2) (senderMac.get 3)
        (senderMac.get 4) (senderMac.get 5)
      senderIp := senderIp
      targetIp := .of (targetIp.get 0) (targetIp.get 1) (targetIp.get 2) (targetIp.get 3) } =
      ArpMessage.ipv4 opcode senderMac senderIp targetIp := by
  rw [Mac.of, Ip.of, eta_six, eta_four]
  rfl

/-- Every field of a request is where `poll` looks for it. -/
theorem arpRequestFrame_read (macAddress : Mac) (targetIp : Ip) :
    ArpMessage.read (Kernel.arpRequestFrame macAddress targetIp) =
      some (.request macAddress ownIp targetIp) := by
  rw [ArpMessage.request, ← ArpMessage.ipv4_eq, Kernel.arpRequestFrame, Kernel.arpRequestBytes,
    toList_six, toList_four]
  rfl

theorem arpReplyFrame_read (macAddress senderMac : Mac) (senderIp : Ip) :
    ArpMessage.read (Kernel.arpReplyFrame macAddress senderMac senderIp) =
      some (.reply macAddress ownIp senderIp) := by
  rw [ArpMessage.reply, ← ArpMessage.ipv4_eq, Kernel.arpReplyFrame, Kernel.arpReplyBytes,
    toList_six, toList_six, toList_four]
  rfl

/-- A reply goes straight to the requester. -/
theorem arpReplyFrame_destination (macAddress senderMac : Mac) (senderIp : Ip) :
    (EthernetHeader.read (Kernel.arpReplyFrame macAddress senderMac senderIp)).map
      EthernetHeader.destMac = some senderMac := by
  have mac := eta_six senderMac
  rw [Kernel.arpReplyFrame, Kernel.arpReplyBytes, toList_six, toList_six, toList_four]
  conv_rhs => rw [← mac]
  rfl

namespace ArpCache

/-- There is an entry that the address has, or can get. -/
def HasRoom (cache : ArpCache) (ip : Ip) : Prop :=
  ∃ slot, (cache.entries.get slot).ip = ip ∨ (cache.entries.get slot).active = false

variable {cache : ArpCache} {ip : Ip} {mac : Mac}

/-- The first active entry with the address answers. -/
theorem lookup_of_first (slot : Fin 16)
    (here : ((getElem cache.entries slot slot.isLt).active &&
      (getElem cache.entries slot slot.isLt).ip == ip) = true)
    (before : ∀ other : Fin 16, other < slot →
      ¬ ((getElem cache.entries other other.isLt).active &&
        (getElem cache.entries other other.isLt).ip == ip) = true) :
    cache.lookup ip = some (getElem cache.entries slot slot.isLt).mac := by
  have found : (cache.entries.find? fun entry => entry.active && entry.ip == ip) =
      some cache.entries[slot] := by
    refine Vector.find?_eq_some_iff_getElem.mpr ⟨here, slot, slot.isLt, rfl, fun other earlier => ?_⟩
    have differs := before ⟨other, Nat.lt_trans earlier slot.isLt⟩ earlier
    exact (Bool.not_eq_true' _).mpr (Bool.eq_false_of_not_eq_true differs)
  rw [lookup, found]
  rfl

/-- A peer caches what it is told just if it knows the address already or has room. -/
theorem insert_lookup_iff : (cache.insert ip mac).lookup ip = some mac ↔ cache.HasRoom ip := by
  unfold insert
  split
  case h_1 known found =>
    obtain ⟨passes, before⟩ := first_slot found
    obtain ⟨active, same⟩ := Bool.and_eq_true_iff.mp passes
    refine iff_of_true ?_ ⟨known, .inl (beq_iff_eq.mp same)⟩
    refine (lookup_of_first known ?_ fun other earlier => ?_).trans ?_
    · rw [Records.entry_set_self]
      exact passes
    · simpa only [Records.entry_set_ne (Fin.ne_of_lt earlier)] using before other earlier
    · rw [Records.entry_set_self]
  case h_2 missing =>
    split
    case h_1 free found =>
      have inactive : cache.entries[free].active = false := by simpa using (first_slot found).1
      refine iff_of_true ?_ ⟨free, .inr inactive⟩
      refine (lookup_of_first free ?_ fun other earlier => ?_).trans ?_
      · simp only [Records.entry_set_self, beq_self_eq_true, Bool.and_self]
      · simpa only [Records.entry_set_ne (Fin.ne_of_lt earlier)] using no_slot missing other
      · rw [Records.entry_set_self]
    case h_2 full =>
      refine iff_of_false (fun found => ?_) ?_
      · rw [lookup, Vector.find?_eq_map_findFinIdx?_getElem, missing] at found
        cases found
      · rintro ⟨slot, room⟩
        have active : cache.entries[slot].active = true := by simpa using no_slot full slot
        rcases room with same | inactive
        · apply no_slot missing slot
          have found : cache.entries[slot].ip = ip := same
          rw [active, found, beq_self_eq_true]
          rfl
        · cases inactive.symm.trans active

end ArpCache

/-- One more frame stands in the transmit ring, and the card has been told. -/
def Kernel.Queues (before after : Kernel) (frame : List UInt8) : Prop :=
  ∃ nic next descriptor, before.netCard = some nic ∧ after.netCard = some next ∧
    before.handedOver after = some (descriptor, frame) ∧
    descriptor.length.toNat = frame.length ∧
    next.currentTxBucket = (nic.currentTxBucket + 1) % 8 ∧
    next.registers 0x3818 = next.currentTxBucket

/-- The kernel with a card that has that address. -/
def Kernel.withMac (kernel : Kernel) (macAddress : Mac) : Kernel :=
  { kernel with netCard := kernel.netCard.map fun nic => { nic with macAddress } }

section Answers

variable {kernel : Kernel} {nic : E1000} {senderMac : Mac} {senderIp : Ip}

theorem Kernel.Polls.withMac (polls : kernel.Polls nic) (macAddress : Mac) :
    (kernel.withMac macAddress).Polls { nic with macAddress } := by
  refine ⟨⟨?_, ⟨polls.transmit.slots, polls.transmit.bucket, polls.transmit.buffers⟩,
    polls.payload⟩, ⟨polls.receive.slots, polls.receive.bucket, polls.receive.boxes⟩⟩
  rw [Kernel.withMac, polls.card]
  rfl

/-- The ARP branch of `poll` once the fields have been read. -/
def Kernel.onMessage (kernel : Kernel) (message : ArpMessage) : Option Kernel :=
  if message.hardwareType = 1 ∧ message.protocolType = 0x0800 then
    let arpTable := kernel.arpTable.insert message.senderIp message.senderMac
    let kernel := { kernel with arpTable }
    if message.opcode = 1 then
      let targetIp := message.targetIp
      let kernel := kernel.terminalPrint (arpMessage targetIp) 0xF59E0B
      if targetIp = ownIp then
        (kernel.terminalPrint "> NET: THAT IS US! TRANSMITTING ARP REPLY...\n" 0x10B981).arpReply
          message.senderMac message.senderIp
      else some kernel
    else some kernel
  else some kernel

/-- The code reads the fields which the decoder reads. -/
theorem handleArp_message {message : ArpMessage} (read : ArpMessage.read frame = some message) :
    (∃ high low, frame[12]? = some high ∧ frame[13]? = some low ∧
      message.ethertype = be16 high low) ∧
    ∀ kernel : Kernel, kernel.handleArp frame = kernel.onMessage message := by
  have long : 42 ≤ frame.length := by
    by_contra short
    rw [ArpMessage.read_short (Nat.lt_of_not_le short)] at read
    cases read
  have present : ∀ i, i < 42 → ∃ byte, frame[i]? = some byte :=
    fun i small => ⟨frame[i], List.getElem?_eq_getElem (by omega)⟩
  choose byte found using present
  simp (disch := decide) only [ArpMessage.read, found, Option.bind_eq_bind, Option.bind_some,
    Option.pure_def, Option.some.injEq] at read
  subst read
  refine ⟨⟨_, _, found 12 (by decide), found 13 (by decide), rfl⟩, fun kernel => ?_⟩
  simp only [Kernel.handleArp, found 14 (by decide), found 15 (by decide), found 16 (by decide),
    found 17 (by decide), found 20 (by decide), found 21 (by decide), found 22 (by decide),
    found 23 (by decide), found 24 (by decide), found 25 (by decide), found 26 (by decide),
    found 27 (by decide), found 28 (by decide), found 29 (by decide), found 30 (by decide),
    found 31 (by decide), found 38 (by decide), found 39 (by decide), found 40 (by decide),
    found 41 (by decide), Option.bind_eq_bind, Option.bind_some]
  rfl

theorem dispatch_message {message : ArpMessage} (read : ArpMessage.read frame = some message)
    (arp : message.ethertype = 0x0806) (kernel : Kernel) :
    ∃ text, kernel.dispatch frame = (kernel.terminalPrint text 0x8B5CF6).onMessage message := by
  obtain ⟨⟨high, low, at12, at13, ethertype⟩, handles⟩ := handleArp_message read
  rw [arp] at ethertype
  simp only [Kernel.dispatch, at12, at13, Option.bind_eq_bind, Option.bind_some]
  rw [if_pos ethertype.symm]
  exact ⟨_, handles _⟩

/-- A request for the kernel's address is answered. -/
theorem onMessage_request (kernel : Kernel) (senderMac : Mac) (senderIp : Ip) :
    ∃ printed : Kernel, printed.netCard = kernel.netCard ∧ printed.heap = kernel.heap ∧
      printed.httpPayload = kernel.httpPayload ∧
      kernel.onMessage (.request senderMac senderIp ownIp) =
        printed.arpReply senderMac senderIp := by
  refine ⟨_, ?_, ?_, ?_, rfl⟩
  all_goals rfl

theorem arpReply_arpTable (ready : kernel.Ready nic) (senderMac : Mac) (senderIp : Ip) :
    ∃ after, kernel.arpReply senderMac senderIp = some after ∧ after.arpTable = kernel.arpTable := by
  obtain ⟨descriptor, _, sent⟩ := Kernel.transmit_eq ready
    (Kernel.arpReplyFrame nic.macAddress senderMac senderIp) 60
  simp only [Kernel.arpReply, ready.card, Option.bind_eq_bind, Option.bind_some]
  exact ⟨_, sent, rfl⟩

/-- The learning step of `poll` is that of a peer which runs the same code. -/
theorem onMessage_learns (ready : kernel.Ready nic) (message : ArpMessage) :
    ∃ after, kernel.onMessage message = some after ∧
      after.arpTable = message.learn kernel.arpTable := by
  unfold Kernel.onMessage ArpMessage.learn
  split
  · split
    · dsimp only
      split
      · exact arpReply_arpTable (((ready.learn _).print _ _).print _ _) ..
      · exact ⟨_, rfl, rfl⟩
    · exact ⟨_, rfl, rfl⟩
  · exact ⟨_, rfl, rfl⟩

/-- What a published frame looks like from outside, whatever else the step did. -/
theorem Published.queues {printed before after final : Kernel} {next last : E1000}
    {length : UInt16} (published : Published printed nic frame length after next)
    (ready : printed.Ready nic) (same : length.toNat = frame.length)
    (start : before.netCard = printed.netCard) (card : final.netCard = some last)
    (heap : final.heap = after.heap) (txRing : last.txRing = next.txRing)
    (bucket : last.currentTxBucket = next.currentTxBucket)
    (tail : last.registers 0x3818 = next.registers 0x3818) : before.Queues final frame := by
  obtain ⟨descriptor, found, size⟩ := published.handedOver ready
  refine ⟨nic, last, descriptor, start.trans ready.card, card, ?_, by rw [size, same], ?_, ?_⟩
  · simp only [Kernel.handedOver, ready.card, published.ready.card, Option.bind_eq_bind,
      Option.bind_some] at found
    simp only [Kernel.handedOver, start, ready.card, card, heap, txRing, Option.bind_eq_bind,
      Option.bind_some]
    exact found
  · rw [bucket, published.currentTxBucket]
  · rw [tail, bucket, published.registers, published.currentTxBucket]
    exact Function.update_self 0x3818 _ nic.registers

theorem arpRequest_queues (ready : kernel.Ready nic) (targetIp : Ip) :
    ∃ after, kernel.arpRequest targetIp = some after ∧
      kernel.Queues after (Kernel.arpRequestFrame nic.macAddress targetIp) := by
  obtain ⟨after, next, sent, published⟩ := Transmission.fire_published ready (.arpRequest targetIp)
  have size : (60 : UInt16).toNat = (Kernel.arpRequestFrame nic.macAddress targetIp).length :=
    (Kernel.resize_length ..).symm
  exact ⟨after, sent, published.queues ready size rfl published.ready.card rfl rfl rfl rfl⟩

/-- `poll` answers the request in its current descriptor. -/
theorem Kernel.Polls.answers (polls : kernel.Polls nic)
    (found : kernel.packetSlice nic = some (some frame))
    (asks : ArpMessage.read frame = some (.request senderMac senderIp ownIp)) :
    ∃ after, kernel.poll = some (true, after) ∧
      kernel.Queues after (Kernel.arpReplyFrame nic.macAddress senderMac senderIp) := by
  obtain ⟨text, dispatches⟩ := dispatch_message asks rfl kernel
  obtain ⟨printed, card, heap, payload, answered⟩ :=
    onMessage_request (kernel.terminalPrint text 0x8B5CF6) senderMac senderIp
  rw [answered] at dispatches
  have ready : printed.Ready nic :=
    ⟨card.trans polls.card, by rw [heap]; exact polls.transmit, by rw [payload]; exact polls.payload⟩
  obtain ⟨after, next, sent, published⟩ :=
    Transmission.fire_published ready (.arpReply senderMac senderIp)
  replace dispatches := dispatches.trans sent
  have size : (60 : UInt16).toNat =
      (Kernel.arpReplyFrame nic.macAddress senderMac senderIp).length := (Kernel.resize_length ..).symm
  rcases polls.poll_done found with ⟨lacks, _⟩ |
    ⟨_, middle, other, descriptor, handled, transmits, _, polled⟩
  · have panic := (dispatch_eq_none polls.toReady).mpr lacks
    cases panic.symm.trans dispatches
  · cases dispatches.symm.trans handled
    cases transmits.ready.card.symm.trans published.ready.card
    refine ⟨_, polled, published.queues ready size card.symm rfl rfl rfl rfl ?_⟩
    exact Function.update_of_ne (show 0x3818 ≠ 0x2818 by decide) next.currentRxBucket next.registers

end Answers

/-- A request says who asks and for whom, and the reply to a request goes back to its
sender and says who answers. `learns` tells which peers know that afterwards. -/
structure Kernel.SpeaksArp (kernel : Kernel) (macAddress : Mac) (learns : ArpCache → Prop) :
    Prop where
  request : ∀ targetIp, ∃ after frame, kernel.arpRequest targetIp = some after ∧
    kernel.Queues after frame ∧
    ArpMessage.read frame = some (.request macAddress ownIp targetIp)
  reply : ∀ (delivery : Delivery) (senderMac : Mac) (senderIp : Ip),
    ArpMessage.read delivery.frame = some (.request senderMac senderIp ownIp) →
    ∃ delivered after frame message, kernel.deliver delivery = some delivered ∧
      delivered.poll = some (true, after) ∧ delivered.Queues after frame ∧
      (EthernetHeader.read frame).map EthernetHeader.destMac = some senderMac ∧
      ArpMessage.read frame = some message ∧ message = .reply macAddress ownIp senderIp ∧
      ∀ peer : ArpCache, (message.learn peer).lookup ownIp = some macAddress ↔ learns peer

/-- Both builders and the decoder of `poll` agree on every field, and a peer whose
cache has room for the kernel's address learns it from the reply. -/
theorem arp_agrees {boot : Boot} {events : List Event} {kernel : Kernel}
    (reached : run Kernel.step events boot.kernel = some kernel) (macAddress : Mac) :
    (kernel.withMac macAddress).SpeaksArp macAddress fun peer => peer.HasRoom ownIp := by
  obtain ⟨nic, polls⟩ := Kernel.reached_polls reached
  replace polls := polls.withMac macAddress
  constructor
  · intro targetIp
    obtain ⟨after, sent, queued⟩ := arpRequest_queues polls.toReady targetIp
    exact ⟨after, _, sent, queued, arpRequestFrame_read macAddress targetIp⟩
  · intro delivery senderMac senderIp asks
    obtain ⟨delivered, filled, delivers, ready, _, mac, found⟩ := polls.delivered delivery
    obtain ⟨after, polled, queued⟩ := ready.answers found asks
    rw [mac] at queued
    exact ⟨delivered, after, _, _, delivers, polled, queued, arpReplyFrame_destination ..,
      arpReplyFrame_read .., rfl, fun peer => ArpCache.insert_lookup_iff⟩

theorem arp_agrees_local :
    (Boot.driveless.kernel.withMac #v[2, 0, 0, 0, 0, 1]).SpeaksArp #v[2, 0, 0, 0, 0, 1]
      fun peer => peer.HasRoom ownIp :=
  @arp_agrees Boot.driveless [] _ rfl #v[2, 0, 0, 0, 0, 1]

/-- A peer that has heard of sixteen others. -/
def crowdedCache : ArpCache :=
  ArpCache.after ((List.range 16).map fun peer =>
    (#v[10, 0, 2, UInt8.ofNat (peer + 20)], #v[0x52, 0x54, 0, 0, 0, UInt8.ofNat peer]))

/-- The router asks for the kernel's address. -/
def routerRequest : Delivery where
  length := 42
  checksum := 0
  status := 1
  errors := 0
  special := 0
  contents := [0xFF, 0xFF, 0xFF, 0xFF, 0xFF, 0xFF, 0x52, 0x55, 10, 0, 2, 2, 0x08, 0x06, 0, 1, 0x08, 0,
    6, 4, 0, 1, 0x52, 0x55, 10, 0, 2, 2, 10, 0, 2, 2, 0, 0, 0, 0, 0, 0, 10, 0, 2, 15] ++
    List.replicate 2006 0
  done := runt.done
  short := by decide
  whole := by rw [List.length_append, List.length_replicate]; rfl

theorem routerRequest_read : ArpMessage.read routerRequest.frame =
    some (.request #v[0x52, 0x55, 10, 0, 2, 2] #v[10, 0, 2, 2] ownIp) := by
  decide +kernel

theorem arp_crowded : ¬ ∀ (boot : Boot) (events : List Event) (kernel : Kernel),
    run Kernel.step events boot.kernel = some kernel → ∀ macAddress,
      (kernel.withMac macAddress).SpeaksArp macAddress fun _ => True := by
  intro always
  have speaks := always Boot.driveless [] _ rfl (Vector.replicate 6 2)
  obtain ⟨_, _, _, message, _, _, _, _, _, rfl, learns⟩ := speaks.reply routerRequest _ _ routerRequest_read
  have learned := (learns crowdedCache).mpr trivial
  have forgotten : ((ArpMessage.reply (Vector.replicate 6 2) ownIp #v[10, 0, 2, 2]).learn
      crowdedCache).lookup ownIp = none := by
    decide +kernel
  cases forgotten.symm.trans learned

end QoreOS.Network
