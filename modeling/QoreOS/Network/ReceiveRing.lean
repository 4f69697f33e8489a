import QoreOS.Library.Ring
import QoreOS.Network.Safety

/-! The receive ring as a queue between the card and `poll`: whatever the order
of their steps, every accepted frame is dispatched once and in order. -/

namespace QoreOS.Network

open QoreOS.Library

/-- A kernel with two logs on the side: the frames the card has stored, with
the slots it stored them in, and the frames `poll` has handed on. -/
structure Traffic where
  kernel : Kernel
  accepted : List (Nat × List UInt8)
  dispatched : List (List UInt8)

def Traffic.start (boot : Boot) : Traffic where
  kernel := boot.kernel
  accepted := []
  dispatched := []

def Traffic.step (traffic : Traffic) (event : Event) : Option Traffic := do
  let nic ← traffic.kernel.netCard
  let kernel ← traffic.kernel.step event
  match event with
  | .receive frame =>
    let stored := if nic.accepts frame then [(nic.registers 0x2810, frame)] else []
    some { traffic with kernel := kernel, accepted := traffic.accepted ++ stored }
  | .poll => do
    let packetSlice ← traffic.kernel.packetSlice nic
    some { traffic with kernel := kernel, dispatched := traffic.dispatched ++ packetSlice.toList }
  | _ => some { traffic with kernel := kernel }

/-- The frames stored and not yet dispatched. -/
def Traffic.pending (traffic : Traffic) : List (Nat × List UInt8) :=
  traffic.accepted.drop traffic.dispatched.length

def RxDescriptor.done (descriptor : RxDescriptor) : Prop := descriptor.status &&& 1 ≠ 0

/-- What the driver and the card owe each other between two steps. -/
structure ReceiveLaws (traffic : Traffic) (nic : E1000) : Prop where
  card : traffic.kernel.netCard = some nic
  slots : nic.rxRing.length = 32
  noOverwrite : nic.registers 0x2810 ≠ nic.registers 0x2818 →
    ∀ entry ∈ traffic.pending, entry.1 ≠ nic.registers 0x2810
  tail : nic.registers 0x2818 = (nic.currentRxBucket + 31) % 32
  done : ∀ slot descriptor, nic.rxRing[slot]? = some descriptor →
    (descriptor.done ↔ slot ∈ Ring.window 32 nic.currentRxBucket (nic.registers 0x2810))
  inOrder : traffic.dispatched <+: traffic.accepted.map Prod.snd

/-- The slot holds the frame: its descriptor is done and gives its length, and
its buffer starts with it. -/
def HoldsFrame (nic : E1000) (heap : List (List UInt8)) (slot : Nat) (frame : List UInt8) : Prop :=
  ∃ descriptor buffer, nic.rxRing[slot]? = some descriptor ∧ descriptor.done ∧
    descriptor.length.toNat = frame.length ∧ heap[descriptor.bufferAddress]? = some buffer ∧
    frame.length ≤ buffer.length ∧ buffer.take frame.length = frame

/-- The receive buffers are 32 boxes in a row, one a slot. -/
structure Buffers (base : Nat) (nic : E1000) (heap : List (List UInt8)) : Prop where
  slots : nic.rxRing.length = 32
  length : nic.registers 0x2808 = 512
  address : ∀ slot descriptor, nic.rxRing[slot]? = some descriptor →
    descriptor.bufferAddress = base + slot
  boxes : ∀ slot, slot < 32 → ∃ box, heap[base + slot]? = some box ∧ 2048 ≤ box.length

/-- The transmit registers as the card needs them. -/
structure Fetching (nic : E1000) : Prop where
  head : nic.registers 0x3810 < 8
  length : nic.registers 0x3808 = 128

/-- The two log lengths, taken modulo 32, are the card's head and the driver's
bucket; the pending frames sit in the slots between them. -/
structure Queue (traffic : Traffic) (nic : E1000) : Prop where
  behind : traffic.dispatched.length ≤ traffic.accepted.length
  room : traffic.pending.length ≤ 31
  order : traffic.dispatched = (traffic.accepted.map Prod.snd).take traffic.dispatched.length
  logged : ∀ position entry, traffic.accepted[position]? = some entry → entry.1 = position % 32
  long : ∀ entry ∈ traffic.accepted, 42 ≤ entry.2.length
  head : nic.registers 0x2810 = traffic.accepted.length % 32
  bucket : nic.currentRxBucket = traffic.dispatched.length % 32
  tail : nic.registers 0x2818 = (traffic.dispatched.length + 31) % 32
  stored : Ring.Holds 32 (HoldsFrame nic traffic.kernel.heap) traffic.dispatched.length
    (traffic.pending.map Prod.snd)
  free : ∀ slot descriptor, nic.rxRing[slot]? = some descriptor → descriptor.done →
    slot ∈ Ring.window 32 nic.currentRxBucket (nic.registers 0x2810)

structure ReceiveInvariant (base : Nat) (traffic : Traffic) (nic : E1000) : Prop where
  ready : traffic.kernel.Ready nic
  fetching : Fetching nic
  buffers : Buffers base nic traffic.kernel.heap
  queue : Queue traffic nic

variable {base : Nat} {traffic : Traffic} {nic next : E1000}

theorem Traffic.pending_length (traffic : Traffic) :
    traffic.pending.length = traffic.accepted.length - traffic.dispatched.length :=
  List.length_drop

theorem Queue.mem_window (queue : Queue traffic nic) (slot : Nat) :
    slot ∈ Ring.window 32 nic.currentRxBucket (nic.registers 0x2810) ↔
      ∃ position, traffic.dispatched.length ≤ position ∧ position < traffic.accepted.length ∧
        position % 32 = slot := by
  have room := queue.room
  rw [Traffic.pending_length] at room
  rw [queue.bucket, queue.head, Ring.mem_window_mod queue.behind (by omega)]

/-- The laws follow from the invariant. -/
theorem ReceiveInvariant.laws (invariant : ReceiveInvariant base traffic nic) :
    ReceiveLaws traffic nic where
  card := invariant.ready.card
  slots := invariant.buffers.slots
  noOverwrite := by
    intro room entry member same
    obtain ⟨offset, found⟩ := List.mem_iff_getElem?.mp member
    have queue := invariant.queue
    rw [Traffic.pending, List.getElem?_drop] at found
    obtain ⟨inside, -⟩ := List.getElem?_eq_some_iff.mp found
    have few := queue.room
    rw [Traffic.pending_length] at few
    rw [queue.logged _ entry found, queue.head] at same
    exact Ring.slot_ne (by omega) (by omega) same
  tail := by
    rw [invariant.queue.tail, invariant.queue.bucket, Nat.mod_add_mod]
  done := by
    intro slot descriptor found
    constructor
    · exact invariant.queue.free slot descriptor found
    · intro member
      obtain ⟨position, after, before, rfl⟩ := (invariant.queue.mem_window slot).mp member
      have inside : position - traffic.dispatched.length < (traffic.pending.map Prod.snd).length := by
        rw [List.length_map, Traffic.pending_length]
        omega
      obtain ⟨held, buffer, read, done, -⟩ := invariant.queue.stored
        (position - traffic.dispatched.length) _ (List.getElem?_eq_getElem inside)
      rw [Nat.add_sub_cancel' after, found, Option.some.injEq] at read
      exact read ▸ done
  inOrder := by
    rw [invariant.queue.order]
    exact List.take_prefix ..

/-- Steps that leave the receive side alone keep the invariant. -/
theorem ReceiveInvariant.transport (invariant : ReceiveInvariant base traffic nic)
    {after : Kernel} (ready : after.Ready next) (fetching : Fetching next)
    (rxRing : next.rxRing = nic.rxRing) (bucket : next.currentRxBucket = nic.currentRxBucket)
    (registers : ∀ offset, offset = 0x2808 ∨ offset = 0x2810 ∨ offset = 0x2818 →
      next.registers offset = nic.registers offset)
    (heap : traffic.kernel.heap <+: after.heap) :
    ReceiveInvariant base { traffic with kernel := after } next := by
  have kept : ∀ {address : Nat} {box : List UInt8}, traffic.kernel.heap[address]? = some box →
      after.heap[address]? = some box := by
    intro address box found
    obtain ⟨inside, -⟩ := List.getElem?_eq_some_iff.mp found
    obtain ⟨more, same⟩ := heap
    rw [← same, List.getElem?_append_left inside, found]
  have queue := invariant.queue
  refine ⟨ready, fetching, ⟨?_, ?_, ?_, ?_⟩, ⟨queue.behind, queue.room, queue.order, queue.logged,
    queue.long, ?_, ?_, ?_, ?_, ?_⟩⟩
  · rw [rxRing, invariant.buffers.slots]
  · rw [registers _ (by decide), invariant.buffers.length]
  · rw [rxRing]
    exact invariant.buffers.address
  · intro slot small
    obtain ⟨box, found, size⟩ := invariant.buffers.boxes slot small
    exact ⟨box, kept found, size⟩
  · rw [registers _ (by decide), queue.head]
  · rw [bucket, queue.bucket]
  · rw [registers _ (by decide), queue.tail]
  · refine queue.stored.frame ?_
    rintro offset frame - ⟨descriptor, buffer, found, done, length, read, long, start⟩
    exact ⟨descriptor, buffer, by rw [rxRing, found], done, length, kept read, long, start⟩
  · rw [rxRing, bucket, registers _ (by decide)]
    exact queue.free

theorem ReceiveInvariant.transmitted (invariant : ReceiveInvariant base traffic nic)
    {after : Kernel} (transmits : traffic.kernel.Transmits nic after next) :
    ReceiveInvariant base { traffic with kernel := after } next := by
  apply invariant.transport transmits.ready _ transmits.rxRing transmits.currentRxBucket _
    transmits.heap
  · constructor
    · rw [transmits.registers _ (by decide)]
      exact invariant.fetching.head
    · rw [transmits.registers _ (by decide)]
      exact invariant.fetching.length
  · intro offset which
    exact transmits.registers offset (by omega)

/-- The descriptor and the buffer after the card has stored a frame in a slot. -/
def E1000.filled (nic : E1000) (descriptor : RxDescriptor) (frame : List UInt8) : E1000 :=
  { nic with
    rxRing := nic.rxRing.set (nic.registers 0x2810) { descriptor with
      length := UInt16.ofNat frame.length
      status := descriptor.status ||| 1 }
    registers := Function.update nic.registers 0x2810
      ((nic.registers 0x2810 + 1) % (nic.registers 0x2808 / 16)) }

theorem E1000.filled_head (nic : E1000) (descriptor : RxDescriptor) (frame : List UInt8) :
    (nic.filled descriptor frame).registers 0x2810 =
      (nic.registers 0x2810 + 1) % (nic.registers 0x2808 / 16) := by
  rw [E1000.filled]
  exact Function.update_self 0x2810 _ nic.registers

theorem done_filled (status : UInt8) : (status ||| 1) &&& 1 ≠ 0 := by
  have one : (status ||| 1) &&& 1 = 1 := by
    rw [← UInt8.toNat_inj, UInt8.toNat_and, UInt8.toNat_or]
    change (status.toNat ||| 1) &&& 1 = 1
    rw [Nat.and_or_distrib_right, Nat.and_one_is_mod]
    rcases Nat.mod_two_eq_zero_or_one status.toNat with even | odd
    · rw [even]; rfl
    · rw [odd]; rfl
  rw [one]
  decide

theorem E1000.filled_registers (nic : E1000) (descriptor : RxDescriptor) (frame : List UInt8)
    {offset : Nat} (apart : offset ≠ 0x2810) :
    (nic.filled descriptor frame).registers offset = nic.registers offset :=
  Function.update_of_ne apart _ _

/-- A descriptor that keeps its address can be replaced. -/
theorem Buffers.address_set {heap : List (List UInt8)} (buffers : Buffers base nic heap) {slot : Nat}
    {old new : RxDescriptor} (found : nic.rxRing[slot]? = some old)
    (same : new.bufferAddress = old.bufferAddress) (index : Nat) (descriptor : RxDescriptor)
    (read : (nic.rxRing.set slot new)[index]? = some descriptor) :
    descriptor.bufferAddress = base + index := by
  by_cases here : slot = index
  · subst here
    obtain ⟨inside, -⟩ := List.getElem?_eq_some_iff.mp found
    rw [List.getElem?_set_self inside, Option.some.injEq] at read
    rw [← read, same]
    exact buffers.address slot old found
  · rw [List.getElem?_set_ne here] at read
    exact buffers.address index descriptor read

theorem Buffers.filled {heap : List (List UInt8)} (buffers : Buffers base nic heap)
    {frame box content : List UInt8} {descriptor : RxDescriptor}
    (filling : nic.rxRing[nic.registers 0x2810]? = some descriptor)
    (buffer : heap[descriptor.bufferAddress]? = some box) (longer : box.length ≤ content.length) :
    Buffers base (nic.filled descriptor frame) (heap.set descriptor.bufferAddress content) where
  slots := by
    rw [E1000.filled, List.length_set, buffers.slots]
  length := by
    rw [E1000.filled_registers _ _ _ (by decide), buffers.length]
  address := buffers.address_set filling rfl
  boxes := by
    intro slot small
    obtain ⟨old, found, length⟩ := buffers.boxes slot small
    obtain ⟨after, kept, same⟩ := heap_set_box buffer longer found
    exact ⟨after, kept, Nat.le_trans length same⟩

/-- The frame is in its slot, and the pending ones are still in theirs. -/
theorem stored_filled {kernel : Kernel} {frames : List (List UInt8)} {first : Nat}
    (buffers : Buffers base nic kernel.heap) {frame box : List UInt8} {descriptor : RxDescriptor}
    (stored : Ring.Holds 32 (HoldsFrame nic kernel.heap) first frames)
    (few : frames.length < 32) (short : frame.length ≤ 2048)
    (slot : (first + frames.length) % 32 = nic.registers 0x2810)
    (filling : nic.rxRing[nic.registers 0x2810]? = some descriptor)
    (buffer : kernel.heap[descriptor.bufferAddress]? = some box) :
    Ring.Holds 32 (HoldsFrame (nic.filled descriptor frame)
      (kernel.heap.set descriptor.bufferAddress (frame ++ box.drop frame.length))) first
      (frames ++ [frame]) := by
  have inside : nic.registers 0x2810 < nic.rxRing.length :=
    (List.getElem?_eq_some_iff.mp filling).1
  have address := buffers.address _ descriptor filling
  refine stored.push few ?_ ?_
  · rw [slot]
    refine ⟨_, _, List.getElem?_set_self inside, done_filled _, ?_,
      List.getElem?_set_self (List.getElem?_eq_some_iff.mp buffer).1, ?_, ?_⟩
    · rw [UInt16.toNat_ofNat', Nat.mod_eq_of_lt (by omega)]
    · simp only [List.length_append]
      omega
    · exact List.take_left
  · rw [slot]
    rintro other item apart ⟨held, contents, read, done, length, found, fits, start⟩
    have elsewhere : descriptor.bufferAddress ≠ held.bufferAddress := by
      rw [address, buffers.address other held read]
      exact fun same => apart (Nat.add_left_cancel same).symm
    exact ⟨held, contents, by rw [E1000.filled, List.getElem?_set_ne (Ne.symm apart), read], done,
      length, by rw [List.getElem?_set_ne elsewhere, found], fits, start⟩

theorem Kernel.Ready.filled {kernel : Kernel} (ready : kernel.Ready nic) {frame box content : List UInt8}
    {descriptor : RxDescriptor} (buffer : kernel.heap[descriptor.bufferAddress]? = some box)
    (longer : box.length ≤ content.length) :
    Kernel.Ready { kernel with
      netCard := some (nic.filled descriptor frame)
      heap := kernel.heap.set descriptor.bufferAddress content } (nic.filled descriptor frame) := by
  refine ⟨rfl, ⟨ready.transmit.slots, ready.transmit.bucket, ?_⟩, ready.payload⟩
  intro other member
  obtain ⟨old, found, fits⟩ := ready.transmit.buffers other member
  obtain ⟨after, kept, length⟩ := heap_set_box buffer longer found
  exact ⟨after, kept, by omega⟩

/-- A done descriptor is the one just filled, or was done before. -/
theorem Queue.free_filled (queue : Queue traffic nic) (buffers : Buffers base nic traffic.kernel.heap)
    {frame : List UInt8} {descriptor : RxDescriptor} (room : traffic.pending.length < 31)
    (slot : Nat) (other : RxDescriptor)
    (found : (nic.filled descriptor frame).rxRing[slot]? = some other) (done : other.done) :
    slot ∈ Ring.window 32 (traffic.dispatched.length % 32)
      ((nic.filled descriptor frame).registers 0x2810) := by
  have behind := queue.behind
  have head := queue.head
  rw [Traffic.pending_length] at room
  have headAfter : (nic.filled descriptor frame).registers 0x2810 =
      (traffic.accepted.length + 1) % 32 := by
    rw [E1000.filled_head, head, buffers.length]
    omega
  rw [headAfter, Ring.mem_window_mod (by omega) (by omega)]
  by_cases same : nic.registers 0x2810 = slot
  · exact ⟨traffic.accepted.length, behind, by omega, by rw [← head, same]⟩
  · rw [E1000.filled, List.getElem?_set_ne same] at found
    obtain ⟨position, after, before, rfl⟩ :=
      (queue.mem_window slot).mp (queue.free slot other found done)
    exact ⟨position, after, by omega, rfl⟩

/-- The queue grows by the frame. -/
theorem Queue.filled (queue : Queue traffic nic) (buffers : Buffers base nic traffic.kernel.heap)
    {frame box : List UInt8} {descriptor : RxDescriptor} (long : 42 ≤ frame.length)
    (short : frame.length ≤ 2048) (room : traffic.pending.length < 31)
    (filling : nic.rxRing[nic.registers 0x2810]? = some descriptor)
    (buffer : traffic.kernel.heap[descriptor.bufferAddress]? = some box) :
    Queue { traffic with
        kernel := { traffic.kernel with
          netCard := some (nic.filled descriptor frame)
          heap := traffic.kernel.heap.set descriptor.bufferAddress (frame ++ box.drop frame.length) }
        accepted := traffic.accepted ++ [(nic.registers 0x2810, frame)] }
      (nic.filled descriptor frame) := by
  have behind := queue.behind
  have head := queue.head
  have pending : (traffic.accepted ++ [(nic.registers 0x2810, frame)]).drop traffic.dispatched.length
      = traffic.pending ++ [(nic.registers 0x2810, frame)] := List.drop_append_of_le_length behind
  constructor
  case behind =>
    simp only [List.length_append, List.length_singleton]
    omega
  case room =>
    rw [Traffic.pending, pending, List.length_append, List.length_singleton]
    omega
  case order =>
    rw [List.map_append, List.take_append_of_le_length (by simpa using behind)]
    exact queue.order
  case logged =>
    intro position entry found
    rcases Nat.lt_or_ge position traffic.accepted.length with earlier | later
    · rw [List.getElem?_append_left earlier] at found
      exact queue.logged position entry found
    · obtain ⟨within, -⟩ := List.getElem?_eq_some_iff.mp found
      rw [List.length_append, List.length_singleton] at within
      obtain rfl : position = traffic.accepted.length := by omega
      rw [List.getElem?_concat_length, Option.some.injEq] at found
      rw [← found, head]
  case long =>
    intro entry member
    rcases List.mem_append.mp member with old | new
    · exact queue.long entry old
    · rw [List.mem_singleton.mp new]
      exact long
  case head =>
    rw [E1000.filled_head, head, buffers.length, List.length_append, List.length_singleton]
    omega
  case bucket => exact queue.bucket
  case tail => rw [E1000.filled_registers _ _ _ (by decide), queue.tail]
  case stored =>
    rw [Traffic.pending_length] at room
    rw [Traffic.pending, pending, List.map_append]
    refine stored_filled buffers queue.stored ?_ short ?_ filling buffer
    · rw [List.length_map, Traffic.pending_length]
      omega
    · rw [List.length_map, Traffic.pending_length, Nat.add_sub_cancel' behind, head]
  case free =>
    have bucket : (nic.filled descriptor frame).currentRxBucket = traffic.dispatched.length % 32 :=
      queue.bucket
    rw [bucket]
    exact queue.free_filled buffers room

/-- The card stores a frame: its slot was free, and the queue grows by it. -/
theorem ReceiveInvariant.stores (invariant : ReceiveInvariant base traffic nic)
    {frame box : List UInt8} {descriptor : RxDescriptor} (long : 42 ≤ frame.length)
    (short : frame.length ≤ 2048) (room : traffic.pending.length < 31)
    (filling : nic.rxRing[nic.registers 0x2810]? = some descriptor)
    (buffer : traffic.kernel.heap[descriptor.bufferAddress]? = some box) :
    ReceiveInvariant base
      { traffic with
        kernel := { traffic.kernel with
          netCard := some (nic.filled descriptor frame)
          heap := traffic.kernel.heap.set descriptor.bufferAddress (frame ++ box.drop frame.length) }
        accepted := traffic.accepted ++ [(nic.registers 0x2810, frame)] }
      (nic.filled descriptor frame) := by
  have longer : box.length ≤ (frame ++ box.drop frame.length).length := by
    rw [List.length_append, List.length_drop]
    omega
  have fetching : Fetching (nic.filled descriptor frame) := by
    constructor
    · rw [E1000.filled_registers _ _ _ (by decide)]
      exact invariant.fetching.head
    · rw [E1000.filled_registers _ _ _ (by decide)]
      exact invariant.fetching.length
  exact ⟨invariant.ready.filled buffer longer, fetching,
    invariant.buffers.filled filling buffer longer,
    invariant.queue.filled invariant.buffers long short room filling buffer⟩

theorem Traffic.step_receive (invariant : ReceiveInvariant base traffic nic) {frame : List UInt8}
    (long : 42 ≤ frame.length) : ∃ after next, traffic.step (.receive frame) = some after ∧
      ReceiveInvariant base after next := by
  have card := invariant.ready.card
  have queue := invariant.queue
  by_cases accepts : nic.accepts frame = true
  · have admitted := accepts
    simp only [E1000.accepts, Bool.and_eq_true, bne_iff_ne, ne_eq, decide_eq_true_eq] at admitted
    obtain ⟨apart, short⟩ := admitted
    -- head and tail meet exactly when 31 frames are pending
    have notFull : traffic.pending.length ≠ 31 := by
      intro full
      have behind := queue.behind
      rw [Traffic.pending_length] at full
      apply apart
      rw [queue.head, queue.tail]
      omega
    have room := queue.room
    have inside : nic.registers 0x2810 < 32 := by
      rw [queue.head]
      exact Nat.mod_lt _ (by decide)
    obtain ⟨descriptor, filling⟩ : ∃ descriptor, nic.rxRing[nic.registers 0x2810]? =
        some descriptor := by
      rw [← invariant.buffers.slots] at inside
      exact ⟨_, List.getElem?_eq_getElem inside⟩
    obtain ⟨box, found, -⟩ := invariant.buffers.boxes _ inside
    rw [← invariant.buffers.address _ descriptor filling] at found
    refine ⟨_, _, ?_, invariant.stores long short (by omega) filling found⟩
    simp only [Traffic.step, card, Kernel.step, E1000.receive, accepts, ↓reduceIte, filling, found,
      Option.bind_eq_bind, Option.bind_some]
    rfl
  · refine ⟨traffic, nic, ?_, invariant⟩
    have same : { traffic.kernel with netCard := some nic } = traffic.kernel := by
      rw [← card]
    simp only [Traffic.step, card, Kernel.step, E1000.receive, accepts, Option.bind_eq_bind,
      Option.bind_some, List.append_nil, same, Bool.false_eq_true, ↓reduceIte]

/-- The slice `poll` reads from a filled slot is the frame. -/
theorem HoldsFrame.packetSlice {kernel : Kernel} {frame : List UInt8}
    (holds : HoldsFrame nic kernel.heap nic.currentRxBucket frame) :
    kernel.packetSlice nic = some (some frame) := by
  obtain ⟨descriptor, buffer, read, done, length, found, fits, start⟩ := holds
  simp only [Kernel.packetSlice, read, Option.bind_eq_bind, Option.bind_some, found, length,
    slice_of_le (Nat.zero_le _) fits, List.drop_zero, start]
  exact if_pos done

theorem Buffers.released {heap : List (List UInt8)} (buffers : Buffers base nic heap)
    {descriptor : RxDescriptor} (current : nic.rxRing[nic.currentRxBucket]? = some descriptor) :
    Buffers base (nic.released descriptor) heap where
  slots := by
    rw [E1000.released, List.length_set, buffers.slots]
  length := by
    rw [E1000.released_registers _ _ (by decide), buffers.length]
  address := buffers.address_set current rfl
  boxes := buffers.boxes

/-- The frames behind the oldest are still in their slots. -/
theorem Queue.stored_released (queue : Queue traffic nic) (descriptor : RxDescriptor)
    {oldest : Nat × List UInt8} {rest : List (Nat × List UInt8)}
    (pending : traffic.pending = oldest :: rest) :
    Ring.Holds 32 (HoldsFrame (nic.released descriptor) traffic.kernel.heap)
      (traffic.dispatched.length + 1) (rest.map Prod.snd) := by
  have held := queue.stored
  have room := queue.room
  rw [pending, List.map_cons] at held
  rw [pending, List.length_cons] at room
  refine held.pop.frame ?_
  rintro offset item close ⟨other, buffer, read, done, length, stored, fits, start⟩
  rw [List.length_map] at close
  have apart : nic.currentRxBucket ≠ (traffic.dispatched.length + 1 + offset) % 32 := by
    rw [queue.bucket]
    exact Ring.slot_ne (by omega) (by omega)
  exact ⟨other, buffer, by rw [E1000.released, List.getElem?_set_ne apart, read], done, length,
    stored, fits, start⟩

/-- No descriptor is done but those behind the released one. -/
theorem Queue.free_released (queue : Queue traffic nic) {descriptor : RxDescriptor}
    (waiting : traffic.dispatched.length < traffic.accepted.length)
    (inside : nic.currentRxBucket < nic.rxRing.length) (slot : Nat) (other : RxDescriptor)
    (found : (nic.released descriptor).rxRing[slot]? = some other) (done : other.done) :
    slot ∈ Ring.window 32 ((traffic.dispatched.length + 1) % 32) (nic.registers 0x2810) := by
  have room := queue.room
  rw [Traffic.pending_length] at room
  rw [queue.head, Ring.mem_window_mod (by omega) (by omega)]
  by_cases same : nic.currentRxBucket = slot
  · subst same
    rw [E1000.released, List.getElem?_set_self inside, Option.some.injEq] at found
    rw [← found] at done
    exact absurd (show (0 : UInt8) &&& 1 = 0 from rfl) done
  · rw [E1000.released, List.getElem?_set_ne same] at found
    obtain ⟨position, after, before, rfl⟩ := (queue.mem_window slot).mp
      (queue.free slot other found done)
    have later : position ≠ traffic.dispatched.length := by
      rintro rfl
      exact same queue.bucket
    exact ⟨position, by omega, before, rfl⟩

/-- The queue loses its oldest frame. -/
theorem Queue.released (queue : Queue traffic nic) {descriptor : RxDescriptor} {slot : Nat}
    {frame : List UInt8} (inside : nic.currentRxBucket < nic.rxRing.length)
    (waiting : traffic.dispatched.length < traffic.accepted.length)
    (oldest : traffic.accepted[traffic.dispatched.length]? = some (slot, frame)) :
    Queue { traffic with
        kernel := { traffic.kernel with netCard := some (nic.released descriptor) }
        dispatched := traffic.dispatched ++ [frame] } (nic.released descriptor) := by
  have length : (traffic.dispatched ++ [frame]).length = traffic.dispatched.length + 1 := by
    rw [List.length_append, List.length_singleton]
  have pending : traffic.pending =
      (slot, frame) :: traffic.accepted.drop (traffic.dispatched.length + 1) := by
    rw [List.getElem?_eq_getElem waiting, Option.some.injEq] at oldest
    rw [Traffic.pending, List.drop_eq_getElem_cons waiting, oldest]
  have bucket : (nic.released descriptor).currentRxBucket =
      (traffic.dispatched.length + 1) % 32 := by
    change (nic.currentRxBucket + 1) % 32 = _
    rw [queue.bucket, Nat.mod_add_mod]
  have head : (nic.released descriptor).registers 0x2810 = nic.registers 0x2810 :=
    nic.released_registers descriptor (by decide)
  constructor
  case behind =>
    rw [length]
    exact waiting
  case room =>
    have room := queue.room
    rw [pending, List.length_cons] at room
    rw [Traffic.pending, length]
    exact Nat.le_of_succ_le room
  case order =>
    rw [length, List.take_add_one, ← queue.order, List.getElem?_map, oldest]
    rfl
  case logged => exact queue.logged
  case long => exact queue.long
  case head => rw [head, queue.head]
  case bucket => rw [bucket, length]
  case tail =>
    change Function.update nic.registers 0x2818 nic.currentRxBucket 0x2818 = _
    rw [Function.update_self, queue.bucket, length]
    omega
  case stored =>
    rw [Traffic.pending, length]
    exact queue.stored_released descriptor pending
  case free =>
    rw [bucket, head]
    exact queue.free_released waiting inside

/-- `poll` hands on the oldest frame and gives its slot back. -/
theorem ReceiveInvariant.releases (invariant : ReceiveInvariant base traffic nic)
    (waiting : traffic.dispatched.length < traffic.accepted.length) {slot : Nat} {frame : List UInt8}
    (oldest : traffic.accepted[traffic.dispatched.length]? = some (slot, frame)) :
    ∃ released, nic.release nic.currentRxBucket = some released ∧
      ReceiveInvariant base
        { traffic with
          kernel := { traffic.kernel with netCard := some released }
          dispatched := traffic.dispatched ++ [frame] } released := by
  have inside : nic.currentRxBucket < nic.rxRing.length := by
    rw [invariant.queue.bucket, invariant.buffers.slots]
    exact Nat.mod_lt _ (by decide)
  have found := List.getElem?_eq_getElem inside
  generalize nic.rxRing[nic.currentRxBucket] = descriptor at found
  have transmit := invariant.ready.transmit
  have fetching : Fetching (nic.released descriptor) := by
    constructor
    · rw [E1000.released_registers _ _ (by decide)]
      exact invariant.fetching.head
    · rw [E1000.released_registers _ _ (by decide)]
      exact invariant.fetching.length
  exact ⟨nic.released descriptor, E1000.release_current found,
    ⟨rfl, ⟨transmit.slots, transmit.bucket, transmit.buffers⟩, invariant.ready.payload⟩, fetching,
    invariant.buffers.released found, invariant.queue.released inside waiting oldest⟩

theorem Traffic.step_poll (invariant : ReceiveInvariant base traffic nic) :
    ∃ after next, traffic.step .poll = some after ∧ ReceiveInvariant base after next := by
  have card := invariant.ready.card
  have queue := invariant.queue
  rcases Nat.lt_or_ge traffic.dispatched.length traffic.accepted.length with waiting | idle
  · have oldest := List.getElem?_eq_getElem waiting
    generalize traffic.accepted[traffic.dispatched.length] = entry at oldest
    obtain ⟨slot, frame⟩ := entry
    have held : HoldsFrame nic traffic.kernel.heap nic.currentRxBucket frame := by
      rw [queue.bucket]
      refine queue.stored 0 frame ?_
      rw [List.getElem?_map, Traffic.pending, List.getElem?_drop, Nat.add_zero, oldest]
      rfl
    have long := queue.long _ (List.mem_of_getElem? oldest)
    obtain ⟨after, next, dispatched, transmits⟩ := Kernel.dispatch_safely invariant.ready long
    obtain ⟨released, gaveBack, kept⟩ := (invariant.transmitted transmits).releases waiting oldest
    refine ⟨_, released, ?_, kept⟩
    rw [transmits.currentRxBucket] at gaveBack
    simp only [Traffic.step, card, Kernel.step, Kernel.poll, held.packetSlice, dispatched,
      transmits.ready.card, gaveBack, Option.bind_eq_bind, Option.bind_some, Option.toList_some]
  · refine ⟨traffic, nic, ?_, invariant⟩
    have inside : nic.currentRxBucket < nic.rxRing.length := by
      rw [queue.bucket, invariant.buffers.slots]
      exact Nat.mod_lt _ (by decide)
    have notDone : ¬ nic.rxRing[nic.currentRxBucket].done := by
      intro done
      obtain ⟨position, after, before, -⟩ := (queue.mem_window _).mp
        (queue.free _ _ (List.getElem?_eq_getElem inside) done)
      omega
    have nothing : traffic.kernel.packetSlice nic = some none := by
      simp only [Kernel.packetSlice, List.getElem?_eq_getElem inside, Option.bind_eq_bind,
        Option.bind_some]
      exact if_neg notDone
    simp only [Traffic.step, card, Kernel.step, Kernel.poll, nothing, Option.bind_eq_bind,
      Option.bind_some, Option.toList_none, List.append_nil]

/-- The card takes a frame from the transmit ring; the receive side is untouched. -/
theorem Traffic.step_fetch (invariant : ReceiveInvariant base traffic nic) :
    ∃ after next, traffic.step .fetch = some after ∧ ReceiveInvariant base after next := by
  have card := invariant.ready.card
  have transmit := invariant.ready.transmit
  by_cases idle : nic.registers 0x3810 = nic.registers 0x3818
  · refine ⟨traffic, nic, ?_, invariant⟩
    have same : { traffic.kernel with netCard := some nic } = traffic.kernel := by
      rw [← card]
    simp only [Traffic.step, card, Kernel.step, E1000.fetch, if_pos idle, Option.bind_eq_bind,
      Option.bind_some, same]
  · have inside : nic.registers 0x3810 < nic.txRing.length := by
      rw [transmit.slots]
      exact invariant.fetching.head
    have read := List.getElem?_eq_getElem inside
    have member := List.getElem_mem inside
    generalize nic.txRing[nic.registers 0x3810] = descriptor at read member
    obtain ⟨box, found, fits⟩ := transmit.buffers descriptor member
    let fetched := { nic with
      txRing := nic.txRing.set (nic.registers 0x3810) { descriptor with
        status := descriptor.status ||| 1 }
      registers := Function.update nic.registers 0x3810
        ((nic.registers 0x3810 + 1) % (nic.registers 0x3808 / 16)) }
    have others : ∀ offset, offset ≠ 0x3810 → fetched.registers offset = nic.registers offset :=
      fun offset apart => Function.update_of_ne apart _ _
    have head : fetched.registers 0x3810 =
        (nic.registers 0x3810 + 1) % (nic.registers 0x3808 / 16) :=
      Function.update_self 0x3810 _ nic.registers
    let after : Kernel := { traffic.kernel with netCard := some fetched }
    have ready : after.Ready fetched := by
      refine ⟨rfl, ⟨by rw [List.length_set, transmit.slots], transmit.bucket, ?_⟩,
        invariant.ready.payload⟩
      intro other present
      rcases List.mem_or_eq_of_mem_set present with old | rfl
      · exact transmit.buffers other old
      · exact ⟨box, found, fits⟩
    refine ⟨_, fetched, ?_, invariant.transport ready ⟨?_, ?_⟩ rfl rfl ?_ List.prefix_rfl⟩
    · simp only [Traffic.step, card, Kernel.step, E1000.fetch, if_neg idle, read, found,
        slice_of_le (Nat.zero_le _) fits, Option.bind_eq_bind, Option.bind_some]
      rfl
    · rw [head, invariant.fetching.length]
      exact Nat.mod_lt _ (by decide)
    · rw [others _ (by decide), invariant.fetching.length]
    · intro offset which
      exact others offset (by omega)

/-- A frame must be long enough for the fields `poll` reads from any frame. -/
def Event.LongEnough : Event → Prop
  | .receive frame => 42 ≤ frame.length
  | _ => True

/-- One step of either side keeps the invariant. -/
theorem Traffic.step_preserves (invariant : ReceiveInvariant base traffic nic) (event : Event)
    (long : event.LongEnough) :
    ∃ after next, traffic.step event = some after ∧ ReceiveInvariant base after next := by
  have card := invariant.ready.card
  cases event with
  | receive frame => exact Traffic.step_receive invariant long
  | fetch => exact Traffic.step_fetch invariant
  | poll => exact Traffic.step_poll invariant
  | udpBroadcast =>
    obtain ⟨after, next, sent, transmits⟩ := Kernel.udpBroadcast_safely invariant.ready
    refine ⟨_, next, ?_, invariant.transmitted transmits⟩
    simp only [Traffic.step, card, Kernel.step, sent, Option.bind_eq_bind, Option.bind_some]
  | arpRequest targetIp =>
    obtain ⟨after, next, sent, transmits⟩ := Kernel.arpRequest_safely invariant.ready targetIp
    refine ⟨_, next, ?_, invariant.transmitted transmits⟩
    simp only [Traffic.step, card, Kernel.step, sent, Option.bind_eq_bind, Option.bind_some]

/-- The rings as `init_rx_ring` and `init_tx_ring` leave them. -/
theorem Traffic.start_invariant (boot : Boot) :
    ReceiveInvariant boot.heap.length (Traffic.start boot) boot.card := by
  obtain ⟨rxLength, rxHead, rxTail, txLength, txHead, -⟩ := boot.card_registers
  have descriptors : ∀ slot descriptor, boot.card.rxRing[slot]? = some descriptor →
      slot < 32 ∧ descriptor.bufferAddress = boot.heap.length + slot ∧ descriptor.status = 0 := by
    intro slot descriptor found
    have small : slot < 32 := by
      have inside := (List.getElem?_eq_some_iff.mp found).1
      rwa [boot.card_rxRing, List.length_map, List.length_range] at inside
    rw [boot.card_rxRing, List.getElem?_map, List.getElem?_range small] at found
    cases found
    exact ⟨small, rfl, rfl⟩
  refine ⟨boot.kernel_ready, ⟨by rw [txHead]; decide, txLength⟩, ⟨?_, rxLength, ?_, ?_⟩,
    ⟨Nat.le_refl _, Nat.zero_le _, rfl, ?_, ?_, rxHead, rfl, rxTail, Ring.Holds.nil, ?_⟩⟩
  · rw [boot.card_rxRing, List.length_map, List.length_range]
  · intro slot descriptor found
    exact (descriptors slot descriptor found).2.1
  · intro slot small
    refine ⟨List.replicate 2048 0, ?_, by rw [List.length_replicate]⟩
    change boot.kernel.heap[_]? = _
    rw [boot.kernel_heap, List.getElem?_append_right (Nat.le_add_right ..), Nat.add_sub_cancel_left,
      List.getElem?_replicate, if_pos small]
  · intro position entry found
    cases found
  · intro entry member
    cases member
  · intro slot descriptor found done
    rw [RxDescriptor.done, (descriptors slot descriptor found).2.2] at done
    exact absurd rfl done

/-- Every run of the driver and the card, in any order of their steps, goes on
without a panic and keeps the laws of the receive ring. -/
theorem receiveRing_run (boot : Boot) (events : List Event)
    (long : ∀ event ∈ events, event.LongEnough) :
    ∃ traffic nic, run Traffic.step events (Traffic.start boot) = some traffic ∧
      ReceiveLaws traffic nic := by
  have preserved : ∀ traffic event, (∃ nic, ReceiveInvariant boot.heap.length traffic nic) →
      event.LongEnough → ∃ after, traffic.step event = some after ∧
        ∃ nic, ReceiveInvariant boot.heap.length after nic := by
    rintro traffic event ⟨nic, invariant⟩ long
    obtain ⟨after, next, stepped, kept⟩ := Traffic.step_preserves invariant event long
    exact ⟨after, stepped, next, kept⟩
  obtain ⟨traffic, reached, nic, invariant⟩ :=
    run_invariant preserved events long ⟨boot.card, Traffic.start_invariant boot⟩
  exact ⟨traffic, nic, reached, invariant.laws⟩

/-- A frame, its dispatch, and a poll that finds nothing. -/
theorem receiveRing_run_one_frame : ∃ traffic nic,
    run Traffic.step [.receive (List.replicate 42 0), .poll, .poll] (Traffic.start Boot.driveless) =
      some traffic ∧ ReceiveLaws traffic nic :=
  receiveRing_run Boot.driveless [.receive (List.replicate 42 0), .poll, .poll] (by
    intro event member
    simp only [List.mem_cons, List.not_mem_nil, or_false] at member
    rcases member with rfl | rfl | rfl
    · exact Nat.le_of_eq List.length_replicate.symm
    · exact trivial
    · exact trivial)

end QoreOS.Network
