import QoreOS.Network.FrameFields

/-! What a received frame must look like for `poll` to get through it: the card
may leave any length and any bytes in the current descriptor and its buffer. -/

namespace QoreOS.Network

open QoreOS.Library

/-- The receive side of a card between two polls. -/
structure E1000.RxReady (nic : E1000) (heap : List (List UInt8)) : Prop where
  slots : nic.rxRing.length = 32
  bucket : nic.currentRxBucket < 32
  boxes : ∀ descriptor ∈ nic.rxRing, ∃ box,
    heap[descriptor.bufferAddress]? = some box ∧ box.length = 2048

/-- A kernel that serves the network with both sides of the card. -/
structure Kernel.Polls (kernel : Kernel) (nic : E1000) : Prop extends kernel.Ready nic where
  receive : nic.RxReady kernel.heap

/-- A descriptor that is done, as the card may leave it, with its buffer. -/
structure Delivery where
  length : UInt16
  checksum : UInt16
  status : UInt8
  errors : UInt8
  special : UInt16
  contents : List UInt8
  done : status &&& 1 ≠ 0
  short : length.toNat ≤ 2048
  whole : contents.length = 2048

/-- The bytes that the descriptor announces. -/
def Delivery.frame (delivery : Delivery) : List UInt8 := delivery.contents.take delivery.length.toNat

def Delivery.fill (delivery : Delivery) (descriptor : RxDescriptor) : RxDescriptor where
  bufferAddress := descriptor.bufferAddress
  length := delivery.length
  checksum := delivery.checksum
  status := delivery.status
  errors := delivery.errors
  special := delivery.special

def E1000.deliver (nic : E1000) (descriptor : RxDescriptor) (delivery : Delivery) : E1000 :=
  { nic with rxRing := nic.rxRing.set nic.currentRxBucket (delivery.fill descriptor) }

/-- The kernel with that in the current descriptor. -/
def Kernel.deliver (kernel : Kernel) (delivery : Delivery) : Option Kernel := do
  let nic ← kernel.netCard
  let descriptor ← nic.rxRing[nic.currentRxBucket]?
  some { kernel with
    netCard := some (nic.deliver descriptor delivery)
    heap := kernel.heap.set descriptor.bufferAddress delivery.contents }

/-- `poll` handles the frame, clears the descriptor, steps on and moves the tail. -/
def Kernel.Survives (kernel : Kernel) (delivery : Delivery) : Prop :=
  ∃ delivered nic after next descriptor, kernel.deliver delivery = some delivered ∧
    kernel.netCard = some nic ∧ delivered.poll = some (true, after) ∧ after.netCard = some next ∧
    next.rxRing[nic.currentRxBucket]? = some descriptor ∧ descriptor.status = 0 ∧
    next.currentRxBucket = (nic.currentRxBucket + 1) % 32 ∧
    next.registers 0x2818 = nic.currentRxBucket

/-- The frame has the fields that are read from it. -/
structure Readable (frame : List UInt8) : Prop where
  ethernet : 14 ≤ frame.length
  arp : field16 frame 12 = some 0x0806 → 22 ≤ frame.length
  addresses : field16 frame 12 = some 0x0806 → field16 frame 14 = some 1 →
    field16 frame 16 = some 0x0800 → 42 ≤ frame.length

variable {kernel after : Kernel} {nic next : E1000} {frame : List UInt8}

theorem field16_of_lt {index : Nat} (inside : index + 1 < frame.length) :
    ∃ high low, frame[index]? = some high ∧ frame[index + 1]? = some low ∧
      field16 frame index = some (be16 high low).toNat := by
  have high := List.getElem?_eq_getElem (show index < frame.length by omega)
  have low := List.getElem?_eq_getElem inside
  exact ⟨_, _, high, low, by
    rw [field16, high, low, Option.bind_eq_bind, Option.bind_some, Option.bind_some, be16_toNat]⟩

theorem Kernel.Safely.ne_none {result : Option Kernel} (safe : kernel.Safely nic result) :
    result ≠ none := by
  obtain ⟨after, _, rfl, _⟩ := safe
  exact Option.some_ne_none after

/-- The ARP code panics just if a field it reads is missing. -/
theorem handleArp_eq_none (ready : kernel.Ready nic) : kernel.handleArp frame = none ↔
    ¬ (22 ≤ frame.length ∧ (field16 frame 14 = some 1 → field16 frame 16 = some 0x0800 →
      42 ≤ frame.length)) := by
  rcases Nat.lt_or_ge frame.length 22 with short | header
  · simp only [Kernel.handleArp_short kernel short, Nat.not_le.mpr short, false_and,
      not_false_eq_true]
  · rcases Nat.lt_or_ge frame.length 42 with cut | long
    · obtain ⟨b14, b15, at14, at15, hardware⟩ := field16_of_lt (show 14 + 1 < frame.length by omega)
      obtain ⟨b16, b17, at16, at17, protocol⟩ := field16_of_lt (show 16 + 1 < frame.length by omega)
      have types : be16 b14 b15 = 1 ∧ be16 b16 b17 = 0x0800 ↔
          (be16 b14 b15).toNat = 1 ∧ (be16 b16 b17).toNat = 0x0800 := by
        rw [← UInt16.toNat_inj, ← UInt16.toNat_inj]
        rfl
      rw [Kernel.handleArp_cut kernel header cut at14 at15 at16 at17, hardware, protocol]
      simp only [types, ite_eq_left_iff, reduceCtorEq, header, Nat.not_le.mpr cut, true_and,
        Option.some.injEq, imp_false]
      tauto
    · exact iff_of_false (Kernel.handleArp_safely ready long).ne_none
        (not_not_intro ⟨header, fun _ _ => long⟩)

/-- `poll` panics just if the frame lacks a field that is read from it. -/
theorem dispatch_eq_none (ready : kernel.Ready nic) :
    kernel.dispatch frame = none ↔ ¬ Readable frame := by
  rcases Nat.lt_or_ge frame.length 14 with short | header
  · have missing : frame[13]? = none := List.getElem?_eq_none (by omega)
    constructor
    · exact fun _ readable => absurd readable.ethernet (by omega)
    · intro _
      unfold Kernel.dispatch
      rw [missing]
      exact Option.bind_eq_none_iff.mpr fun _ _ => rfl
  · obtain ⟨b12, b13, at12, at13, ethertype⟩ := field16_of_lt (show 12 + 1 < frame.length by omega)
    simp only [Kernel.dispatch, at12, at13, Option.bind_eq_bind, Option.bind_some]
    split
    case isTrue arp =>
      have field : field16 frame 12 = some 0x0806 := by rw [ethertype, arp]; rfl
      rw [handleArp_eq_none (ready.print _ _)]
      refine not_congr ⟨fun fits => ⟨header, fun _ => fits.1, fun _ => fits.2⟩, fun readable => ?_⟩
      exact ⟨readable.arp field, readable.addresses field⟩
    case isFalse other =>
      have field : field16 frame 12 ≠ some 0x0806 := by
        rw [ethertype]
        intro same
        exact other (UInt16.toNat_inj.mp (Option.some.inj same))
      have readable : Readable frame := ⟨header, fun arp => absurd arp field, fun arp => absurd arp field⟩
      split
      · exact iff_of_false (Kernel.handleIncomingPacket_safely (ready.print _ _) frame).ne_none
          (not_not_intro readable)
      · exact iff_of_false (Option.some_ne_none _) (not_not_intro readable)

/-- Replacing a box by one of the same size keeps the sizes of all. -/
theorem heap_set_size {heap : List (List UInt8)} {target address size : Nat} {new box : List UInt8}
    (same : new.length = size) (found : heap[address]? = some box) (length : box.length = size) :
    ∃ after, (heap.set target new)[address]? = some after ∧ after.length = size := by
  obtain ⟨inside, _⟩ := List.getElem?_eq_some_iff.mp found
  by_cases here : target = address
  · subst here
    exact ⟨new, List.getElem?_set_self inside, same⟩
  · exact ⟨box, by rw [List.getElem?_set_ne here, found], length⟩

namespace E1000.RxReady

variable {heap : List (List UInt8)}

theorem current (receives : nic.RxReady heap) :
    ∃ descriptor, nic.rxRing[nic.currentRxBucket]? = some descriptor ∧ descriptor ∈ nic.rxRing := by
  have inside : nic.currentRxBucket < nic.rxRing.length := by
    rw [receives.slots]
    exact receives.bucket
  exact ⟨_, List.getElem?_eq_getElem inside, List.getElem_mem inside⟩

/-- A descriptor of the ring may change in all but its address. -/
theorem replaced (receives : nic.RxReady heap) {slot : Nat} {old new : RxDescriptor}
    (found : nic.rxRing[slot]? = some old) (rxRing : next.rxRing = nic.rxRing.set slot new)
    (address : new.bufferAddress = old.bufferAddress) (bucket : next.currentRxBucket < 32) :
    next.RxReady heap where
  slots := by rw [rxRing, List.length_set, receives.slots]
  bucket := bucket
  boxes := by
    intro descriptor member
    rw [rxRing] at member
    rcases List.mem_or_eq_of_mem_set member with kept | rfl
    · exact receives.boxes descriptor kept
    · rw [address]
      exact receives.boxes old (List.mem_of_getElem? found)

theorem overwritten (receives : nic.RxReady heap) {contents : List UInt8}
    (size : contents.length = 2048) (target : Nat) : nic.RxReady (heap.set target contents) where
  slots := receives.slots
  bucket := receives.bucket
  boxes := by
    intro descriptor member
    obtain ⟨box, there, length⟩ := receives.boxes descriptor member
    exact heap_set_size size there length

/-- More boxes do not matter. -/
theorem extended (receives : nic.RxReady heap) {more : List (List UInt8)} (longer : heap <+: more)
    (rxRing : next.rxRing = nic.rxRing) (bucket : next.currentRxBucket = nic.currentRxBucket) :
    next.RxReady more where
  slots := by rw [rxRing, receives.slots]
  bucket := by rw [bucket]; exact receives.bucket
  boxes := by
    intro descriptor member
    obtain ⟨box, found, length⟩ := receives.boxes descriptor (rxRing ▸ member)
    obtain ⟨rest, rfl⟩ := longer
    exact ⟨box, by rw [List.getElem?_append_left (List.getElem?_eq_some_iff.mp found).1, found],
      length⟩

end E1000.RxReady

namespace Kernel.Polls

theorem transmitted (polls : kernel.Polls nic) (transmits : kernel.Transmits nic after next) :
    after.Polls next :=
  ⟨transmits.ready, polls.receive.extended transmits.heap transmits.rxRing transmits.currentRxBucket⟩

theorem received (polls : kernel.Polls nic) {heap : List (List UInt8)}
    (stored : nic.receive kernel.heap frame = some (next, heap)) :
    { kernel with netCard := some next, heap := heap }.Polls next := by
  refine ⟨polls.toReady.receive stored, ?_⟩
  unfold E1000.receive at stored
  split at stored
  case isTrue accepted =>
    simp only [Option.bind_eq_bind, Option.bind_eq_some_iff, Option.some.injEq, Prod.mk.injEq]
      at stored
    obtain ⟨descriptor, found, buffer, there, rfl, rfl⟩ := stored
    obtain ⟨box, same, length⟩ := polls.receive.boxes descriptor (List.mem_of_getElem? found)
    cases there.symm.trans same
    simp only [E1000.accepts, Bool.and_eq_true, decide_eq_true_iff] at accepted
    refine (polls.receive.overwritten ?_ _).replaced found rfl rfl polls.receive.bucket
    rw [List.length_append, List.length_drop]
    omega
  case isFalse =>
    cases stored
    exact polls.receive

theorem fetched (polls : kernel.Polls nic) {wire : List (List UInt8)}
    (sent : nic.fetch kernel.heap = some (next, wire)) :
    { kernel with netCard := some next }.Polls next := by
  refine ⟨polls.toReady.fetch sent, ?_⟩
  simp only [E1000.fetch] at sent
  split at sent
  · cases sent
    exact polls.receive
  · simp only [Option.bind_eq_bind, Option.bind_eq_some_iff, Option.some.injEq, Prod.mk.injEq]
      at sent
    obtain ⟨descriptor, -, buffer, -, box, -, rfl, -⟩ := sent
    exact polls.receive.extended List.prefix_rfl rfl rfl

/-- A poll that finds a frame panics on it, or handles it and gives its
descriptor back. -/
theorem poll_done (polls : kernel.Polls nic) (found : kernel.packetSlice nic = some (some frame)) :
    ¬ Readable frame ∧ kernel.poll = none ∨
      Readable frame ∧ ∃ middle next descriptor, kernel.dispatch frame = some middle ∧
        kernel.Transmits nic middle next ∧ nic.rxRing[nic.currentRxBucket]? = some descriptor ∧
        kernel.poll = some (true, { middle with netCard := some (next.released descriptor) }) := by
  have decides : kernel.dispatch frame = none ↔ ¬ Readable frame := dispatch_eq_none polls.toReady
  rcases Kernel.dispatch_guarded polls.toReady frame with panic | ⟨middle, next, handled, transmits⟩
  · left
    refine ⟨decides.mp panic, ?_⟩
    simp only [Kernel.poll, polls.card, found, panic, Option.bind_eq_bind, Option.bind_some,
      Option.bind_none]
  · right
    rw [handled] at decides
    obtain ⟨descriptor, current, _⟩ := polls.receive.current
    have same : next.rxRing[nic.currentRxBucket]? = some descriptor := by
      rw [transmits.rxRing, current]
    refine ⟨Classical.not_not.mp fun lacks => ?_, middle, next, descriptor, handled, transmits,
      current, ?_⟩
    · exact Option.some_ne_none middle (decides.mpr lacks)
    · rw [← transmits.currentRxBucket] at same
      simp only [Kernel.poll, polls.card, found, handled, transmits.ready.card,
        ← transmits.currentRxBucket, E1000.release_current same, Option.bind_eq_bind,
        Option.bind_some]

theorem polled (polls : kernel.Polls nic) {busy : Bool} (done : kernel.poll = some (busy, after)) :
    ∃ next, after.Polls next := by
  cases found : kernel.packetSlice nic with
  | none =>
    simp only [Kernel.poll, polls.card, found, Option.bind_eq_bind, Option.bind_some,
      Option.bind_none, reduceCtorEq] at done
  | some packetSlice =>
    cases packetSlice with
    | none =>
      simp only [Kernel.poll, polls.card, found, Option.bind_eq_bind, Option.bind_some,
        Option.some.injEq, Prod.mk.injEq] at done
      exact ⟨nic, done.2 ▸ polls⟩
    | some frame =>
      rcases polls.poll_done found with ⟨_, panic⟩ |
        ⟨_, middle, next, descriptor, _, transmits, current, same⟩
      · cases done.symm.trans panic
      · cases done.symm.trans same
        have receive := (polls.transmitted transmits).receive
        refine ⟨next.released descriptor, ⟨rfl, ?_, transmits.ready.payload⟩, ?_⟩
        · exact ⟨transmits.ready.transmit.slots, transmits.ready.transmit.bucket,
            transmits.ready.transmit.buffers⟩
        · rw [← transmits.rxRing, ← transmits.currentRxBucket] at current
          exact receive.replaced current rfl rfl (Nat.mod_lt _ (by decide))

end Kernel.Polls

/-- Every step that does not panic leaves both sides of the card in order. -/
theorem Kernel.step_polls {event : Event} (polls : ∃ nic, kernel.Polls nic)
    (stepped : kernel.step event = some after) : ∃ next, after.Polls next := by
  obtain ⟨nic, polls⟩ := polls
  cases event with
  | receive frame =>
    simp only [Kernel.step, polls.card, Option.bind_eq_bind, Option.bind_some,
      Option.bind_eq_some_iff] at stepped
    obtain ⟨⟨next, heap⟩, stored, same⟩ := stepped
    cases same
    exact ⟨next, polls.received stored⟩
  | fetch =>
    simp only [Kernel.step, polls.card, Option.bind_eq_bind, Option.bind_some,
      Option.bind_eq_some_iff] at stepped
    obtain ⟨⟨next, wire⟩, sent, same⟩ := stepped
    cases same
    exact ⟨next, polls.fetched sent⟩
  | poll =>
    simp only [Kernel.step, Option.bind_eq_bind, Option.bind_eq_some_iff] at stepped
    obtain ⟨⟨busy, other⟩, done, same⟩ := stepped
    cases same
    exact polls.polled done
  | udpBroadcast =>
    obtain ⟨_, next, sent, transmits⟩ := Kernel.udpBroadcast_safely polls.toReady
    rw [Kernel.step, sent, Option.some.injEq] at stepped
    exact ⟨next, stepped ▸ polls.transmitted transmits⟩
  | arpRequest targetIp =>
    obtain ⟨_, next, sent, transmits⟩ := Kernel.arpRequest_safely polls.toReady targetIp
    rw [Kernel.step, sent, Option.some.injEq] at stepped
    exact ⟨next, stepped ▸ polls.transmitted transmits⟩

theorem Boot.kernel_polls (boot : Boot) : boot.kernel.Polls boot.card := by
  refine ⟨boot.kernel_ready, by rw [boot.card_rxRing]; simp, by change 0 < 32; decide, ?_⟩
  intro descriptor member
  rw [boot.card_rxRing, List.mem_map] at member
  obtain ⟨bucket, small, rfl⟩ := member
  rw [List.mem_range] at small
  refine ⟨List.replicate 2048 0, ?_, List.length_replicate⟩
  rw [boot.kernel_heap, List.getElem?_append_right (Nat.le_add_right ..), Nat.add_sub_cancel_left,
    List.getElem?_replicate_of_lt small]

theorem Kernel.reached_polls {boot : Boot} {events : List Event}
    (reached : run Kernel.step events boot.kernel = some kernel) : ∃ nic, kernel.Polls nic :=
  run_preserves (fun _ _ _ polls stepped => Kernel.step_polls polls stepped) events
    ⟨boot.card, boot.kernel_polls⟩ reached

/-- The card may deliver at any time, and `poll` then finds the frame. -/
theorem Kernel.Polls.delivered (polls : kernel.Polls nic) (delivery : Delivery) :
    ∃ delivered filled, kernel.deliver delivery = some delivered ∧ delivered.Polls filled ∧
      filled.currentRxBucket = nic.currentRxBucket ∧ filled.macAddress = nic.macAddress ∧
      delivered.packetSlice filled = some (some delivery.frame) := by
  obtain ⟨descriptor, current, member⟩ := polls.receive.current
  obtain ⟨old, found, size⟩ := polls.receive.boxes descriptor member
  obtain ⟨place, _⟩ := List.getElem?_eq_some_iff.mp found
  obtain ⟨inside, _⟩ := List.getElem?_eq_some_iff.mp current
  have longer : old.length ≤ delivery.contents.length := by rw [size, delivery.whole]
  refine ⟨{ kernel with
    netCard := some (nic.deliver descriptor delivery)
    heap := kernel.heap.set descriptor.bufferAddress delivery.contents },
    nic.deliver descriptor delivery, ?_, ⟨⟨rfl, ?_, polls.payload⟩, ?_⟩, rfl, rfl, ?_⟩
  · simp only [Kernel.deliver, polls.card, current, Option.bind_eq_bind, Option.bind_some]
  · refine ⟨polls.transmit.slots, polls.transmit.bucket, fun sent present => ?_⟩
    obtain ⟨box, there, fits⟩ := polls.transmit.buffers sent present
    obtain ⟨new, kept, length⟩ := heap_set_box found longer there
    exact ⟨new, kept, Nat.le_trans fits length⟩
  · exact (polls.receive.overwritten delivery.whole _).replaced current rfl rfl polls.receive.bucket
  · have filled : (nic.deliver descriptor delivery).rxRing[nic.currentRxBucket]? =
        some (delivery.fill descriptor) := List.getElem?_set_self inside
    have contents : (kernel.heap.set descriptor.bufferAddress delivery.contents)[
        (delivery.fill descriptor).bufferAddress]? = some delivery.contents :=
      List.getElem?_set_self place
    have cut : slice delivery.contents 0 (delivery.fill descriptor).length.toNat =
        some delivery.frame := slice_of_le (Nat.zero_le _) (delivery.whole.symm ▸ delivery.short)
    have same : (nic.deliver descriptor delivery).currentRxBucket = nic.currentRxBucket := rfl
    simp only [Kernel.packetSlice, same, filled, contents, cut, Option.bind_eq_bind,
      Option.bind_some]
    exact if_pos delivery.done

theorem Kernel.Polls.survives_iff (polls : kernel.Polls nic) (delivery : Delivery) :
    kernel.Survives delivery ↔ Readable delivery.frame := by
  obtain ⟨delivered, filled, delivers, ready, bucket, _, found⟩ := polls.delivered delivery
  rcases ready.poll_done found with ⟨lacks, panic⟩ |
    ⟨readable, middle, next, descriptor, _, transmits, current, handled⟩
  · refine iff_of_false ?_ lacks
    rintro ⟨other, _, _, _, _, again, _, survived, _⟩
    cases delivers.symm.trans again
    cases panic.symm.trans survived
  · refine iff_of_true ?_ readable
    rw [← transmits.rxRing, ← transmits.currentRxBucket] at current
    obtain ⟨inside, _⟩ := List.getElem?_eq_some_iff.mp current
    have slot : next.currentRxBucket = nic.currentRxBucket := transmits.currentRxBucket.trans bucket
    refine ⟨delivered, nic, _, _, { descriptor with status := 0 }, delivers, polls.card, handled, rfl,
      ?_, rfl, ?_, ?_⟩
    · rw [← slot]
      exact List.getElem?_set_self inside
    · rw [← slot]
      rfl
    · rw [← slot]
      exact Function.update_self 0x2818 _ next.registers

/-- In every state that the kernel reaches, `poll` gets through a frame just if the
frame has the fields that are read from it. -/
theorem poll_survives_iff {boot : Boot} {events : List Event} {kernel : Kernel}
    (reached : run Kernel.step events boot.kernel = some kernel) (delivery : Delivery) :
    kernel.Survives delivery ↔ Readable delivery.frame := by
  obtain ⟨nic, polls⟩ := Kernel.reached_polls reached
  exact polls.survives_iff delivery

/-- A frame of 13 bytes, which ends inside the EtherType. -/
def runt : Delivery where
  length := 13
  checksum := 0
  status := 1
  errors := 0
  special := 0
  contents := List.replicate 2048 0
  done := by decide
  short := by decide
  whole := List.length_replicate

theorem poll_survives_iff_runt :
    Boot.driveless.kernel.Survives runt ↔ Readable runt.frame :=
  @poll_survives_iff Boot.driveless [] _ rfl runt

theorem poll_runt_panics : ¬ ∀ (boot : Boot) (events : List Event) (kernel : Kernel),
    run Kernel.step events boot.kernel = some kernel → ∀ delivery, kernel.Survives delivery := by
  intro always
  have survives := always Boot.driveless [] _ rfl runt
  have readable := (Boot.driveless.kernel_polls.survives_iff runt).mp survives
  have short : runt.frame.length = 13 := by
    rw [Delivery.frame, List.length_take_of_le]
    · rfl
    · rw [runt.whole]; decide
  exact absurd readable.ethernet (by omega)

end QoreOS.Network
