import QoreOS.Library.Ring
import QoreOS.Network.Safety

/-! The transmit ring as a queue between the driver and the card. No path of
the driver asks how far the card has come, so the queue is only faithful while
fewer than seven descriptors are outstanding. -/

namespace QoreOS.Network

open QoreOS.Library

/-- The paths that end in the shared transmit sequence. -/
inductive Transmission where
  | arpRequest (targetIp : Ip)
  | udpBroadcast
  | arpReply (senderMac : Mac) (senderIp : Ip)
  | injectFrame (frame : List UInt8)

def Transmission.fire (kernel : Kernel) : Transmission → Option Kernel
  | .arpRequest targetIp => kernel.arpRequest targetIp
  | .udpBroadcast => kernel.udpBroadcast
  | .arpReply senderMac senderIp => kernel.arpReply senderMac senderIp
  | .injectFrame frame => kernel.injectFrame frame

/-- The frame which the caller wants on the wire. -/
def Transmission.frame (macAddress : Mac) : Transmission → List UInt8
  | .arpRequest targetIp => Kernel.arpRequestFrame macAddress targetIp
  | .udpBroadcast => Kernel.udpBroadcastFrame
  | .arpReply senderMac senderIp => Kernel.arpReplyFrame macAddress senderMac senderIp
  | .injectFrame frame => frame

/-- The length which the path writes into the descriptor. -/
def Transmission.length : Transmission → UInt16
  | .injectFrame frame => UInt16.ofNat frame.length
  | _ => 60

/-- The descriptor's length field can hold the length of the frame. -/
def Transmission.Fits : Transmission → Prop
  | .injectFrame frame => frame.length < 2 ^ 16
  | _ => True

/-- The kernel and the wire, with what has been submitted, the slots submitted
to and not yet fetched, and whether one of these was ever written again. -/
structure Link where
  kernel : Kernel
  wire : List (List UInt8)
  submitted : List (List UInt8)
  unfetched : List Nat
  rewritten : Bool

inductive LinkEvent where
  | transmit (transmission : Transmission)
  | fetch

def Link.start (boot : Boot) : Link where
  kernel := boot.kernel
  wire := []
  submitted := []
  unfetched := []
  rewritten := false

def Link.step (link : Link) : LinkEvent → Option Link
  | .transmit transmission => do
    let nic ← link.kernel.netCard
    let kernel ← transmission.fire link.kernel
    some { link with
      kernel := kernel
      submitted := link.submitted ++ [transmission.frame nic.macAddress]
      unfetched := link.unfetched ++ [nic.currentTxBucket]
      rewritten := link.rewritten || link.unfetched.contains nic.currentTxBucket }
  | .fetch => do
    let nic ← link.kernel.netCard
    let (next, frames) ← nic.fetch link.kernel.heap
    some { link with
      kernel := { link.kernel with netCard := some next }
      wire := link.wire ++ frames
      unfetched := if frames.isEmpty then link.unfetched
        else link.unfetched.erase (nic.registers 0x3810) }

/-- What the card would put on the wire for a slot. -/
def E1000.frameAt (nic : E1000) (heap : List (List UInt8)) (slot : Nat) : Option (List UInt8) := do
  let descriptor ← nic.txRing[slot]?
  let buffer ← heap[descriptor.bufferAddress]?
  slice buffer 0 descriptor.length.toNat

/-- The slots from the card's head up to the tail. -/
def E1000.txWindow (nic : E1000) : List Nat :=
  Ring.window 8 (nic.registers 0x3810) (nic.registers 0x3818)

/-- Nothing was written twice, and the wire together with what the card will
still take from the ring is what has been submitted, in order. -/
def Link.Faithful (link : Link) : Prop :=
  ∃ nic, link.kernel.netCard = some nic ∧ link.rewritten = false ∧
    link.wire.map some ++ nic.txWindow.map (nic.frameAt link.kernel.heap) =
      link.submitted.map some

/-- The descriptors between head and tail. -/
def Link.Outstanding (link : Link) (count : Nat) : Prop :=
  ∃ nic, link.kernel.netCard = some nic ∧
    Ring.distance 8 (nic.registers 0x3810) (nic.registers 0x3818) = count

/-- The step may be taken: a transmission finds fewer than seven descriptors
outstanding, and its frame fits. -/
def Link.HasRoom (link : Link) : LinkEvent → Prop
  | .transmit transmission => transmission.Fits ∧ ∃ count, count < 7 ∧ link.Outstanding count
  | .fetch => True

/-- While the driver keeps its distance, both indices count the same frames. -/
structure LinkInvariant (link : Link) (nic : E1000) : Prop where
  ready : link.kernel.Ready nic
  length : nic.registers 0x3808 = 128
  behind : link.wire.length ≤ link.submitted.length
  room : link.submitted.length - link.wire.length ≤ 7
  order : link.wire = link.submitted.take link.wire.length
  head : nic.registers 0x3810 = link.wire.length % 8
  tail : nic.registers 0x3818 = link.submitted.length % 8
  bucket : nic.currentTxBucket = link.submitted.length % 8
  stored : Ring.Holds 8 (fun slot frame => nic.frameAt link.kernel.heap slot = some frame)
    link.wire.length (link.submitted.drop link.wire.length)
  slots : link.unfetched = nic.txWindow
  once : link.rewritten = false

/-- What every path does: the frame is boxed and published in the next slot. -/
structure Published (kernel : Kernel) (nic : E1000) (frame : List UInt8) (length : UInt16)
    (after : Kernel) (next : E1000) : Prop where
  ready : after.Ready next
  txRing : ∃ descriptor, next.txRing = nic.txRing.set nic.currentTxBucket descriptor ∧
    descriptor.bufferAddress = kernel.heap.length ∧ descriptor.length = length
  currentTxBucket : next.currentTxBucket = (nic.currentTxBucket + 1) % 8
  registers : next.registers =
    Function.update nic.registers 0x3818 ((nic.currentTxBucket + 1) % 8)
  heap : after.heap = kernel.heap ++ [frame]

variable {link : Link} {kernel : Kernel} {nic next : E1000}

theorem Kernel.transmit_published (ready : kernel.Ready nic) {frame : List UInt8} {length : UInt16}
    (fits : length.toNat ≤ frame.length) : ∃ after next,
      kernel.transmit nic frame length = some after ∧ Published kernel nic frame length after next := by
  obtain ⟨descriptor, -, sent⟩ := transmit_eq ready frame length
  obtain ⟨after, next, same, transmits⟩ := transmit_safely ready fits
  rw [sent, Option.some.injEq] at same
  have card := transmits.ready.card
  rw [← same] at card
  cases card
  subst same
  exact ⟨_, _, sent, transmits.ready, ⟨_, rfl, rfl, rfl⟩, rfl, rfl, rfl⟩

theorem Published.print {frame : List UInt8} {length : UInt16} {after : Kernel}
    (published : Published kernel nic frame length after next) (text : String) (color : UInt32) :
    Published kernel nic frame length (after.terminalPrint text color) next :=
  ⟨published.ready.print text color, published.txRing, published.currentTxBucket,
    published.registers, published.heap⟩

theorem udpBroadcastFrame_length : Kernel.udpBroadcastFrame.length = 60 := by decide

/-- The length field never exceeds the frame; it is the frame's length as long
as it fits. -/
theorem Transmission.length_le (transmission : Transmission) (macAddress : Mac) :
    transmission.length.toNat ≤ (transmission.frame macAddress).length := by
  cases transmission with
  | arpRequest targetIp => exact Nat.le_of_eq (Kernel.resize_length _ 60).symm
  | udpBroadcast => exact Nat.le_of_eq udpBroadcastFrame_length.symm
  | arpReply senderMac senderIp => exact Nat.le_of_eq (Kernel.resize_length _ 60).symm
  | injectFrame frame => exact (UInt16.toNat_ofNat' ..).trans_le (Nat.mod_le ..)

theorem Transmission.length_eq_iff (transmission : Transmission) (macAddress : Mac) :
    transmission.length.toNat = (transmission.frame macAddress).length ↔ transmission.Fits := by
  cases transmission with
  | arpRequest targetIp => exact iff_of_true (Kernel.resize_length _ 60).symm trivial
  | udpBroadcast => exact iff_of_true udpBroadcastFrame_length.symm trivial
  | arpReply senderMac senderIp => exact iff_of_true (Kernel.resize_length _ 60).symm trivial
  | injectFrame frame =>
    change (UInt16.ofNat frame.length).toNat = frame.length ↔ frame.length < 2 ^ 16
    rw [UInt16.toNat_ofNat']
    omega

theorem Transmission.fire_published (ready : kernel.Ready nic) (transmission : Transmission) :
    ∃ after next, transmission.fire kernel = some after ∧
      Published kernel nic (transmission.frame nic.macAddress) transmission.length after next := by
  obtain ⟨after, next, sent, published⟩ :=
    Kernel.transmit_published ready (transmission.length_le nic.macAddress)
  cases transmission with
  | arpRequest targetIp =>
    refine ⟨_, next, ?_,
      published.print "\nNET: ARP Request Broadcasted to Network.\n" 0x3B82F6⟩
    simp only [Transmission.fire, Kernel.arpRequest, ready.card, Option.bind_eq_bind,
      Option.bind_some]
    exact congrArg (Option.bind · _) sent
  | udpBroadcast =>
    refine ⟨_, next, ?_, published.print "\nSYS NET TX: UDP BROADCAST FIRED!\n" 0xEF4444⟩
    simp only [Transmission.fire, Kernel.udpBroadcast, ready.card, Option.bind_eq_bind,
      Option.bind_some]
    exact congrArg (Option.bind · _) sent
  | arpReply senderMac senderIp =>
    refine ⟨after, next, ?_, published⟩
    simp only [Transmission.fire, Kernel.arpReply, ready.card, Option.bind_eq_bind,
      Option.bind_some]
    exact sent
  | injectFrame frame =>
    refine ⟨after, next, ?_, published⟩
    simp only [Transmission.fire, Kernel.injectFrame, ready.card]
    exact sent

theorem Link.step_transmit (ready : link.kernel.Ready nic) (transmission : Transmission) :
    ∃ after next,
      link.step (.transmit transmission) = some { link with
        kernel := after
        submitted := link.submitted ++ [transmission.frame nic.macAddress]
        unfetched := link.unfetched ++ [nic.currentTxBucket]
        rewritten := link.rewritten || link.unfetched.contains nic.currentTxBucket } ∧
      Published link.kernel nic (transmission.frame nic.macAddress) transmission.length after next := by
  obtain ⟨after, next, fired, published⟩ := transmission.fire_published ready
  refine ⟨after, next, ?_, published⟩
  simp only [Link.step, ready.card, fired, Option.bind_eq_bind, Option.bind_some]

/-- The slot just filled holds as much of the frame as the length field says. -/
theorem Published.frameAt_bucket {frame : List UInt8} {length : UInt16} {after : Kernel}
    (published : Published kernel nic frame length after next) (ready : kernel.Ready nic)
    (fits : length.toNat ≤ frame.length) :
    next.frameAt after.heap nic.currentTxBucket = some (frame.take length.toNat) := by
  obtain ⟨descriptor, ring, address, same⟩ := published.txRing
  have inside : nic.currentTxBucket < nic.txRing.length := by
    rw [ready.transmit.slots]
    exact ready.transmit.bucket
  simp only [E1000.frameAt, ring, List.getElem?_set_self inside, published.heap, address, same,
    List.getElem?_concat_length, slice_of_le (Nat.zero_le _) fits, Option.bind_eq_bind,
    Option.bind_some]
  rfl

/-- The other slots keep their frames. -/
theorem Published.frameAt_of_ne {frame other : List UInt8} {length : UInt16} {after : Kernel}
    (published : Published kernel nic frame length after next) {slot : Nat}
    (apart : slot ≠ nic.currentTxBucket) (held : nic.frameAt kernel.heap slot = some other) :
    next.frameAt after.heap slot = some other := by
  obtain ⟨descriptor, ring, -, -⟩ := published.txRing
  simp only [E1000.frameAt, Option.bind_eq_bind, Option.bind_eq_some_iff] at held ⊢
  obtain ⟨old, read, box, found, sliced⟩ := held
  obtain ⟨inside, -⟩ := List.getElem?_eq_some_iff.mp found
  refine ⟨old, ?_, box, ?_, sliced⟩
  · rw [ring, List.getElem?_set_ne (Ne.symm apart), read]
  · rw [published.heap, List.getElem?_append_left inside, found]

/-- What the card does with a slot whose frame it can read. -/
theorem E1000.fetch_of_frameAt {heap : List (List UInt8)} {frame : List UInt8}
    (busy : nic.registers 0x3810 ≠ nic.registers 0x3818)
    (held : nic.frameAt heap (nic.registers 0x3810) = some frame) :
    ∃ next, nic.fetch heap = some (next, [frame]) ∧
      (∀ slot, next.frameAt heap slot = nic.frameAt heap slot) ∧
      next.currentTxBucket = nic.currentTxBucket ∧
      next.registers = Function.update nic.registers 0x3810
        ((nic.registers 0x3810 + 1) % (nic.registers 0x3808 / 16)) := by
  simp only [E1000.frameAt, Option.bind_eq_bind, Option.bind_eq_some_iff] at held
  obtain ⟨descriptor, read, box, found, sliced⟩ := held
  obtain ⟨inside, -⟩ := List.getElem?_eq_some_iff.mp read
  let done : TxDescriptor := { descriptor with status := descriptor.status ||| 1 }
  let fetched : E1000 := { nic with
    txRing := nic.txRing.set (nic.registers 0x3810) done
    registers := Function.update nic.registers 0x3810
      ((nic.registers 0x3810 + 1) % (nic.registers 0x3808 / 16)) }
  refine ⟨fetched, ?_, ?_, rfl, rfl⟩
  · simp only [E1000.fetch, if_neg busy, read, found, sliced, Option.bind_eq_bind,
      Option.bind_some]
    rfl
  · intro slot
    have ring : fetched.txRing = nic.txRing.set (nic.registers 0x3810) done := rfl
    by_cases same : nic.registers 0x3810 = slot
    · subst same
      simp only [E1000.frameAt, ring, List.getElem?_set_self inside, read, Option.bind_eq_bind,
        Option.bind_some]
      rfl
    · simp only [E1000.frameAt, ring, List.getElem?_set_ne same]

theorem LinkInvariant.txWindow (invariant : LinkInvariant link nic) :
    nic.txWindow = Ring.window 8 (link.wire.length % 8) (link.submitted.length % 8) := by
  rw [E1000.txWindow, invariant.head, invariant.tail]

theorem LinkInvariant.outstanding (invariant : LinkInvariant link nic) :
    Ring.distance 8 (nic.registers 0x3810) (nic.registers 0x3818) =
      link.submitted.length - link.wire.length := by
  have room := invariant.room
  rw [invariant.head, invariant.tail, Ring.distance_mod invariant.behind (by omega)]

theorem LinkInvariant.faithful (invariant : LinkInvariant link nic) : link.Faithful := by
  have room := invariant.room
  refine ⟨nic, invariant.ready.card, invariant.once, ?_⟩
  have ahead : nic.txWindow.map (nic.frameAt link.kernel.heap) =
      (link.submitted.drop link.wire.length).map some := by
    rw [invariant.txWindow, Ring.window_mod invariant.behind (by omega), List.map_map]
    apply List.ext_getElem?
    intro offset
    rcases Nat.lt_or_ge offset (link.submitted.length - link.wire.length) with inside | beyond
    · have within : offset < (link.submitted.drop link.wire.length).length := by
        rwa [List.length_drop]
      have found := List.getElem?_eq_getElem within
      rw [List.getElem?_map, List.getElem?_map, List.getElem?_range inside, found]
      exact congrArg some (invariant.stored offset _ found)
    · rw [List.getElem?_eq_none (by simpa using beyond),
        List.getElem?_eq_none (by simpa using beyond)]
  have order := congrArg (List.map some) invariant.order
  rw [ahead, order, ← List.map_append, List.take_append_drop]

/-- A frame submitted while fewer than seven descriptors are outstanding goes
into a free slot, which joins the window of the card. -/
theorem LinkInvariant.transmits (invariant : LinkInvariant link nic) {frame : List UInt8}
    {length : UInt16} {after : Kernel} (published : Published link.kernel nic frame length after next)
    (room : link.submitted.length - link.wire.length < 7) (whole : length.toNat = frame.length) :
    LinkInvariant { link with
      kernel := after
      submitted := link.submitted ++ [frame]
      unfetched := link.unfetched ++ [nic.currentTxBucket]
      rewritten := link.rewritten || link.unfetched.contains nic.currentTxBucket } next := by
  have behind := invariant.behind
  have bucket := invariant.bucket
  have others : ∀ offset, offset ≠ 0x3818 → next.registers offset = nic.registers offset := by
    intro offset apart
    rw [published.registers]
    exact Function.update_of_ne apart _ _
  have grown : (link.submitted ++ [frame]).length = link.submitted.length + 1 := by
    rw [List.length_append, List.length_singleton]
  have few : link.submitted.length + 1 - link.wire.length ≤ 7 := by omega
  have tail : next.registers 0x3818 = (link.submitted.length + 1) % 8 := by
    rw [published.registers, bucket, Nat.mod_add_mod]
    exact Function.update_self 0x3818 _ nic.registers
  have window : next.txWindow = nic.txWindow ++ [nic.currentTxBucket] := by
    rw [E1000.txWindow, others _ (by decide), tail, invariant.head, invariant.txWindow, bucket]
    exact Ring.window_mod_push behind (by omega)
  have free : nic.currentTxBucket ∉ link.unfetched := by
    rw [invariant.slots, invariant.txWindow, bucket, Ring.mem_window_mod behind (by omega)]
    rintro ⟨position, after, before, same⟩
    exact Ring.slot_ne before (by omega) same
  constructor
  case ready => exact published.ready
  case length => rw [others _ (by decide), invariant.length]
  case behind => exact grown ▸ Nat.le_succ_of_le behind
  case room => exact grown ▸ few
  case order =>
    rw [List.take_append_of_le_length behind]
    exact invariant.order
  case head => rw [others _ (by decide), invariant.head]
  case tail => rw [tail, grown]
  case bucket => rw [published.currentTxBucket, bucket, Nat.mod_add_mod, grown]
  case stored =>
    rw [List.drop_append_of_le_length behind]
    have slot : (link.wire.length + (link.submitted.drop link.wire.length).length) % 8 =
        nic.currentTxBucket := by
      rw [List.length_drop, Nat.add_sub_cancel' behind, bucket]
    refine invariant.stored.push (by rw [List.length_drop]; omega) ?_ ?_
    · rw [slot, published.frameAt_bucket invariant.ready (Nat.le_of_eq whole), whole,
        List.take_length]
    · rw [slot]
      intro other item apart held
      exact published.frameAt_of_ne apart held
  case slots => rw [window, invariant.slots]
  case once =>
    rw [invariant.once, Bool.false_or, List.contains_eq_mem]
    exact decide_eq_false free

/-- The oldest frame goes onto the wire, and its slot leaves the window of the
card. -/
theorem LinkInvariant.sends (invariant : LinkInvariant link nic) {frame : List UInt8}
    {rest : List (List UInt8)} (pending : link.submitted.drop link.wire.length = frame :: rest)
    (fetched : nic.fetch link.kernel.heap = some (next, [frame]))
    (frameAt : ∀ slot, next.frameAt link.kernel.heap slot = nic.frameAt link.kernel.heap slot)
    (bucket : next.currentTxBucket = nic.currentTxBucket)
    (registers : next.registers = Function.update nic.registers 0x3810
      ((nic.registers 0x3810 + 1) % (nic.registers 0x3808 / 16))) :
    LinkInvariant { link with
      kernel := { link.kernel with netCard := some next }
      wire := link.wire ++ [frame]
      unfetched := link.unfetched.erase (nic.registers 0x3810) } next := by
  have room := invariant.room
  have busy : link.wire.length < link.submitted.length := by
    have lengths := congrArg List.length pending
    rw [List.length_drop, List.length_cons] at lengths
    omega
  have others : ∀ offset, offset ≠ 0x3810 → next.registers offset = nic.registers offset := by
    intro offset apart
    rw [registers]
    exact Function.update_of_ne apart _ _
  have head : next.registers 0x3810 = (link.wire.length + 1) % 8 := by
    rw [registers, invariant.length, invariant.head]
    refine (Function.update_self 0x3810 _ nic.registers).trans ?_
    exact Nat.mod_add_mod ..
  have grown : (link.wire ++ [frame]).length = link.wire.length + 1 := by
    rw [List.length_append, List.length_singleton]
  have few : link.submitted.length - (link.wire.length + 1) ≤ 7 := by omega
  have found : link.submitted[link.wire.length]? = some frame := by
    have first := congrArg (·[0]?) pending
    rwa [List.getElem?_drop] at first
  constructor
  case ready => exact invariant.ready.fetch fetched
  case length => rw [others _ (by decide), invariant.length]
  case behind => exact grown ▸ busy
  case room => exact grown ▸ few
  case order =>
    rw [grown, List.take_add_one, ← invariant.order, found]
    rfl
  case head => rw [head, grown]
  case tail => rw [others _ (by decide), invariant.tail]
  case bucket => rw [bucket, invariant.bucket]
  case stored =>
    have left : link.submitted.drop (link.wire.length + 1) = rest := by
      rw [← List.drop_drop, pending]
      rfl
    have stored := invariant.stored
    rw [pending] at stored
    rw [grown, left]
    exact stored.pop.frame fun offset item _ kept => (frameAt _).trans kept
  case slots =>
    have window : nic.txWindow = nic.registers 0x3810 :: next.txWindow := by
      rw [invariant.txWindow, Ring.window_mod_pop busy (by omega), E1000.txWindow, head,
        others _ (by decide), invariant.tail, invariant.head]
    change link.unfetched.erase _ = _
    rw [invariant.slots, window, List.erase_cons_head]
  case once => exact invariant.once

/-- A fetch of the card. -/
theorem LinkInvariant.fetches (invariant : LinkInvariant link nic) :
    ∃ after next, link.step .fetch = some after ∧ LinkInvariant after next := by
  have card := invariant.ready.card
  by_cases idle : nic.registers 0x3810 = nic.registers 0x3818
  · refine ⟨link, nic, ?_, invariant⟩
    have same : { link.kernel with netCard := some nic } = link.kernel := by
      rw [← card]
    simp only [Link.step, card, E1000.fetch, if_pos idle, Option.bind_eq_bind, Option.bind_some,
      same, List.append_nil, List.isEmpty_nil, if_true]
  · cases pending : link.submitted.drop link.wire.length with
    | nil =>
      have all : link.wire.length = link.submitted.length :=
        Nat.le_antisymm invariant.behind (List.drop_eq_nil_iff.mp pending)
      rw [invariant.head, invariant.tail, all] at idle
      exact absurd rfl idle
    | cons frame rest =>
      have stored := invariant.stored
      rw [pending] at stored
      have held := stored.head
      rw [← invariant.head] at held
      obtain ⟨next, fetched, frameAt, bucket, registers⟩ := E1000.fetch_of_frameAt idle held
      refine ⟨_, next, ?_, invariant.sends pending fetched frameAt bucket registers⟩
      simp only [Link.step, card, fetched, Option.bind_eq_bind, Option.bind_some]
      rfl

/-- Without room the ring runs full, which the card takes for empty; with a
frame that does not fit the card sends only a part of it. -/
theorem LinkInvariant.room_of_faithful (invariant : LinkInvariant link nic) {frame : List UInt8}
    {length : UInt16} {after : Kernel} {unfetched : List Nat} {rewritten : Bool}
    (published : Published link.kernel nic frame length after next)
    (fits : length.toNat ≤ frame.length)
    (faithful : Link.Faithful { link with
      kernel := after
      submitted := link.submitted ++ [frame]
      unfetched := unfetched
      rewritten := rewritten }) :
    link.submitted.length - link.wire.length < 7 ∧ length.toNat = frame.length := by
  obtain ⟨card, same, -, sent⟩ := faithful
  have behind := invariant.behind
  have bucket := invariant.bucket
  obtain rfl : next = card := by
    rw [published.ready.card, Option.some.injEq] at same
    exact same
  have head : next.registers 0x3810 = link.wire.length % 8 := by
    rw [published.registers, ← invariant.head]
    exact Function.update_of_ne (by decide) _ _
  have tail : next.registers 0x3818 = (link.submitted.length + 1) % 8 := by
    rw [published.registers, bucket, Nat.mod_add_mod]
    exact Function.update_self 0x3818 _ nic.registers
  rcases Nat.lt_or_ge (link.submitted.length - link.wire.length) 7 with room | full
  · refine ⟨room, ?_⟩
    have window : next.txWindow = nic.txWindow ++ [nic.currentTxBucket] := by
      rw [E1000.txWindow, head, tail, invariant.txWindow, bucket]
      exact Ring.window_mod_push behind (by omega)
    rw [window, List.map_append, List.map_append, ← List.append_assoc] at sent
    have last := List.append_inj_right' sent rfl
    change [next.frameAt after.heap nic.currentTxBucket] = [some frame] at last
    rw [published.frameAt_bucket invariant.ready fits, List.singleton_inj, Option.some.injEq] at last
    have whole := congrArg List.length last
    rw [List.length_take] at whole
    omega
  · have room := invariant.room
    have lapped : link.submitted.length + 1 = link.wire.length + 8 := by omega
    have window : next.txWindow = [] := by
      rw [E1000.txWindow, head, tail, lapped, Nat.add_mod_right, Ring.window_mod (Nat.le_refl _)
        (by omega), Nat.sub_self]
      rfl
    have lengths := congrArg List.length sent
    rw [window, List.map_nil, List.append_nil, List.length_map, List.length_map,
      List.length_append] at lengths
    change link.wire.length = link.submitted.length + 1 at lengths
    omega

theorem LinkInvariant.outstanding_iff (invariant : LinkInvariant link nic) :
    (∃ count, count < 7 ∧ link.Outstanding count) ↔
      link.submitted.length - link.wire.length < 7 := by
  rw [← invariant.outstanding]
  constructor
  · rintro ⟨count, few, card, same, distance⟩
    rw [invariant.ready.card, Option.some.injEq] at same
    subst same
    exact distance ▸ few
  · intro few
    exact ⟨_, few, nic, invariant.ready.card, rfl⟩

/-- One step is faithful exactly when it finds room. -/
theorem Link.step_exact (invariant : LinkInvariant link nic) (event : LinkEvent) :
    ∃ after, link.step event = some after ∧
      (link.HasRoom event → ∃ next, LinkInvariant after next) ∧
      (after.Faithful → link.HasRoom event) := by
  cases event with
  | transmit transmission =>
    obtain ⟨after, next, stepped, published⟩ := link.step_transmit invariant.ready transmission
    refine ⟨_, stepped, ?_, ?_⟩
    · rintro ⟨whole, few⟩
      rw [← transmission.length_eq_iff nic.macAddress] at whole
      exact ⟨next, invariant.transmits published (invariant.outstanding_iff.mp few) whole⟩
    · intro faithful
      obtain ⟨few, whole⟩ := invariant.room_of_faithful published
        (transmission.length_le nic.macAddress) faithful
      exact ⟨(transmission.length_eq_iff nic.macAddress).mp whole,
        invariant.outstanding_iff.mpr few⟩
  | fetch =>
    obtain ⟨after, next, stepped, kept⟩ := invariant.fetches
    exact ⟨after, stepped, fun _ => ⟨next, kept⟩, fun _ => trivial⟩

theorem Link.start_invariant (boot : Boot) : LinkInvariant (Link.start boot) boot.card := by
  obtain ⟨-, -, -, length, head, tail⟩ := boot.card_registers
  exact ⟨boot.kernel_ready, length, Nat.le_refl _, Nat.zero_le _, rfl, head, tail, rfl,
    Ring.Holds.nil, by rw [E1000.txWindow, head, tail]; rfl, rfl⟩

/-- In any interleaving of transmissions and fetches, the link is faithful all
along exactly when every step finds room. -/
theorem transmitRing_run (boot : Boot) (events : List LinkEvent) :
    (∀ first, first <+: events →
      ∃ link, run Link.step first (Link.start boot) = some link ∧ link.Faithful) ↔
    ∀ first event, first ++ [event] <+: events →
      ∃ link, run Link.step first (Link.start boot) = some link ∧ link.HasRoom event := by
  have sound : ∀ link : Link, (∃ nic, LinkInvariant link nic) → link.Faithful := by
    rintro link ⟨nic, invariant⟩
    exact invariant.faithful
  refine run_good_iff sound ?_ events ⟨boot.card, Link.start_invariant boot⟩
  rintro link event ⟨nic, invariant⟩
  exact Link.step_exact invariant event

/-- Eight broadcasts in a burst leave head and tail equal, so none is ever sent;
the ninth writes over the first. -/
theorem transmitRing_burst :
    (∃ link, run Link.step (List.replicate 8 (.transmit .udpBroadcast)) (Link.start Boot.driveless) =
      some link ∧ ¬ link.Faithful) ∧
    ∃ link, run Link.step (List.replicate 9 (.transmit .udpBroadcast)) (Link.start Boot.driveless) =
      some link ∧ link.rewritten = true := by
  constructor
  · have seen : (run Link.step (List.replicate 8 (.transmit .udpBroadcast))
        (Link.start Boot.driveless)).map (fun link =>
          (link.wire, link.submitted.length, link.kernel.netCard.map E1000.txWindow)) =
        some ([], 8, some []) := rfl
    rw [Option.map_eq_some_iff] at seen
    obtain ⟨link, reached, seen⟩ := seen
    simp only [Prod.mk.injEq, Option.map_eq_some_iff] at seen
    obtain ⟨wire, submitted, nic, card, window⟩ := seen
    refine ⟨link, reached, ?_⟩
    rintro ⟨other, same, -, sent⟩
    rw [card, Option.some.injEq] at same
    subst same
    have lengths := congrArg List.length sent
    rw [wire, window, List.length_map, submitted] at lengths
    cases lengths
  · have seen : (run Link.step (List.replicate 9 (.transmit .udpBroadcast))
        (Link.start Boot.driveless)).map Link.rewritten = some true := rfl
    rw [Option.map_eq_some_iff] at seen
    exact seen

end QoreOS.Network
