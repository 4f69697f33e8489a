import QoreOS.Network.Node
import QoreOS.Network.ReceiveRing

/-! The node behind its card: whatever the order in which frames arrive, are polled and are
fetched, the wire carries what the node says to the frames that it was sent. -/

namespace QoreOS.Network

open QoreOS.Library

/-- What a step takes from the receive ring, or is asked for. -/
def Kernel.acts (kernel : Kernel) (nic : E1000) : Event → Option (List Act)
  | .poll => do
    let packetSlice ← kernel.packetSlice nic
    some (packetSlice.toList.map .hears)
  | .udpBroadcast => some [.broadcasts]
  | .arpRequest targetIp => some [.asks targetIp]
  | _ => some []

/-- What the card puts on the wire in a step. -/
def E1000.puts (nic : E1000) (heap : List (List UInt8)) : Event → Option (List (List UInt8))
  | .fetch => do
    let (_, frames) ← nic.fetch heap
    some frames
  | _ => some []

/-- Seven descriptors wait for the card, as many as the ring can hold. -/
def E1000.Full (nic : E1000) : Prop := 7 ≤ Ring.distance 8 (nic.registers 0x3810) (nic.registers 0x3818)

instance (nic : E1000) : Decidable nic.Full := inferInstanceAs (Decidable (_ ≤ _))

/-- The kernel with its card, the acts so far, what has been sent, and whether a frame was
ever handed over to a full ring. -/
structure Wire where
  traffic : Traffic
  acts : List Act
  sent : List (List UInt8)
  crowded : Bool

def Wire.start (boot : Boot) : Wire where
  traffic := Traffic.start boot
  acts := []
  sent := []
  crowded := false

def Wire.step (wire : Wire) (event : Event) : Option Wire := do
  let nic ← wire.traffic.kernel.netCard
  let acts ← wire.traffic.kernel.acts nic event
  let sent ← nic.puts wire.traffic.kernel.heap event
  let traffic ← wire.traffic.step event
  let next ← traffic.kernel.netCard
  let crowds := nic.Full ∧ next.registers 0x3818 ≠ nic.registers 0x3818
  some {
    traffic := traffic
    acts := wire.acts ++ acts
    sent := wire.sent ++ sent
    crowded := wire.crowded || crowds }

/-- The node that the kernel starts as. -/
def Boot.node (boot : Boot) : Node := boot.kernel.node boot.card

/-- Frames are heard in the order in which the card stored them, and what has been sent
with what the card will still take is what the node says to them. -/
structure Wire.Faithful (boot : Boot) (wire : Wire) : Prop where
  heard : wire.acts.filterMap Act.heard <+: wire.traffic.accepted.map Prod.snd
  learnt : ∃ nic, wire.traffic.kernel.netCard = some nic ∧
    wire.traffic.kernel.node nic = Node.machine.after boot.node wire.acts
  spoken : wire.crowded = false → ∃ nic, wire.traffic.kernel.netCard = some nic ∧
    wire.sent.map some ++ nic.txWindow.map (nic.frameAt wire.traffic.kernel.heap) =
      (Node.machine.transcript boot.node wire.acts).map some

/-- The transmit ring holds the frames that are not on the wire yet, in boxes apart from
those of the receive ring. -/
structure Linked (base : Nat) (kernel : Kernel) (nic : E1000) (sent frames : List (List UInt8)) :
    Prop where
  link : LinkInvariant {
    kernel := kernel
    wire := sent
    submitted := frames
    unfetched := nic.txWindow
    rewritten := false } nic
  apart : ∀ slot ∈ nic.txWindow, ∀ descriptor, nic.txRing[slot]? = some descriptor →
    base + 32 ≤ descriptor.bufferAddress

/-- What holds between two steps. -/
structure OnWire (boot : Boot) (wire : Wire) (nic : E1000) : Prop where
  receive : ReceiveInvariant boot.heap.length wire.traffic nic
  learnt : wire.traffic.kernel.node nic = Node.machine.after boot.node wire.acts
  heard : wire.traffic.dispatched = wire.acts.filterMap Act.heard
  linked : wire.crowded = false → Linked boot.heap.length wire.traffic.kernel nic wire.sent
    (Node.machine.transcript boot.node wire.acts)

section Linked

variable {base : Nat} {kernel after : Kernel} {nic next : E1000} {sent frames : List (List UInt8)}

/-- Steps that leave the transmit ring and the boxes behind it alone. -/
theorem Linked.kept (linked : Linked base kernel nic sent frames) (ready : after.Ready next)
    (txRing : next.txRing = nic.txRing) (bucket : next.currentTxBucket = nic.currentTxBucket)
    (registers : ∀ offset, offset = 0x3808 ∨ offset = 0x3810 ∨ offset = 0x3818 →
      next.registers offset = nic.registers offset)
    (boxes : ∀ address, base + 32 ≤ address → after.heap[address]? = kernel.heap[address]?) :
    Linked base after next sent frames := by
  have window : next.txWindow = nic.txWindow := by
    rw [E1000.txWindow, registers _ (by decide), registers _ (by decide), E1000.txWindow]
  have frameAt : ∀ slot ∈ nic.txWindow, next.frameAt after.heap slot = nic.frameAt kernel.heap slot := by
    intro slot member
    cases found : nic.txRing[slot]? with
    | none => simp only [E1000.frameAt, txRing, found, Option.bind_eq_bind, Option.bind_none]
    | some descriptor =>
      simp only [E1000.frameAt, txRing, found, boxes _ (linked.apart slot member descriptor found),
        Option.bind_eq_bind, Option.bind_some]
  have link := linked.link
  have room := link.room
  refine ⟨⟨ready, ?_, link.behind, room, link.order, ?_, ?_, ?_, ?_, window.symm ▸ rfl, rfl⟩, ?_⟩
  · rw [registers _ (by decide), link.length]
  · rw [registers _ (by decide), link.head]
  · rw [registers _ (by decide), link.tail]
  · rw [bucket, link.bucket]
  · refine link.stored.frame fun offset frame close held => (frameAt _ ?_).trans held
    rw [List.length_drop] at close
    change offset < frames.length - sent.length at close
    change frames.length - sent.length ≤ 7 at room
    rw [link.txWindow, Ring.mem_window_mod link.behind (by change frames.length - sent.length < 8; omega)]
    exact ⟨sent.length + offset, Nat.le_add_right .., by change _ < frames.length; omega, rfl⟩
  · rw [window, txRing]
    exact linked.apart

theorem Linked.full_iff (linked : Linked base kernel nic sent frames) :
    nic.Full ↔ 7 ≤ frames.length - sent.length := by
  rw [E1000.Full, linked.link.outstanding]

/-- A frame that is handed over while the ring is not full joins those that wait. -/
theorem Linked.utters (linked : Linked base kernel nic sent frames)
    {utterance : Option (List UInt8)} (utters : kernel.Utters nic utterance after next)
    (boxes : base + 32 ≤ kernel.heap.length)
    (room : ¬ (nic.Full ∧ next.registers 0x3818 ≠ nic.registers 0x3818)) :
    Linked base after next sent (frames ++ utterance.toList) := by
  cases utterance with
  | none =>
    obtain ⟨rfl, heap⟩ := utters.silent rfl
    rw [Option.toList_none, List.append_nil]
    exact linked.kept utters.transmits.ready rfl rfl (fun _ _ => rfl) fun _ _ => by rw [heap]
  | some frame =>
    obtain ⟨short, published⟩ := utters.spoken frame rfl
    have link := linked.link
    have tail : next.registers 0x3818 = (nic.currentTxBucket + 1) % 8 := by
      rw [published.registers]
      exact Function.update_self 0x3818 _ nic.registers
    have notFull : frames.length - sent.length < 7 := by
      refine Nat.lt_of_not_le fun full => room ⟨linked.full_iff.mpr full, ?_⟩
      rw [tail, link.tail, link.bucket]
      change (frames.length % 8 + 1) % 8 ≠ frames.length % 8
      omega
    have whole : (UInt16.ofNat frame.length).toNat = frame.length := by
      rw [UInt16.toNat_ofNat', Nat.mod_eq_of_lt short]
    have grown := link.transmits published notFull whole
    refine ⟨{ grown with slots := rfl, once := rfl }, ?_⟩
    intro slot member descriptor found
    obtain ⟨new, txRing, address, -⟩ := published.txRing
    rw [txRing] at found
    have window : nic.txWindow ++ [nic.currentTxBucket] = next.txWindow := grown.slots
    by_cases same : slot = nic.currentTxBucket
    · obtain ⟨inside, -⟩ := List.getElem?_eq_some_iff.mp found
      rw [same, List.getElem?_set_self (by rwa [List.length_set, same] at inside),
        Option.some.injEq] at found
      rw [← found, address]
      exact boxes
    · rw [List.getElem?_set_ne (Ne.symm same)] at found
      rw [← window, List.mem_append, List.mem_singleton] at member
      exact linked.apart slot (member.resolve_right same) descriptor found

/-- The card takes the oldest frame that waits, if there is one. -/
theorem Linked.fetched (linked : Linked base kernel nic sent frames) :
    ∃ next taken, nic.fetch kernel.heap = some (next, taken) ∧
      Linked base { kernel with netCard := some next } next (sent ++ taken) frames := by
  have link := linked.link
  have card : kernel.netCard = some nic := link.ready.card
  obtain ⟨after, next, stepped, kept⟩ := link.fetches
  simp only [Link.step, card, Option.bind_eq_bind, Option.bind_some,
    Option.bind_eq_some_iff, Option.some.injEq] at stepped
  obtain ⟨⟨fetched, taken⟩, took, rfl⟩ := stepped
  cases kept.ready.card
  refine ⟨fetched, taken, took, { kept with slots := rfl, once := rfl }, ?_⟩
  have window : (if taken.isEmpty then nic.txWindow
      else nic.txWindow.erase (nic.registers 0x3810)) = fetched.txWindow := kept.slots
  intro slot member descriptor found
  have before : slot ∈ nic.txWindow := by
    rw [← window] at member
    split at member
    · exact member
    · exact List.mem_of_mem_erase member
  simp only [E1000.fetch] at took
  split at took
  · cases took
    exact linked.apart slot before descriptor found
  · simp only [Option.bind_eq_bind, Option.bind_eq_some_iff, Option.some.injEq, Prod.mk.injEq]
      at took
    obtain ⟨old, read, buffer, -, frame, -, rfl, -⟩ := took
    by_cases same : nic.registers 0x3810 = slot
    · subst same
      obtain ⟨inside, -⟩ := List.getElem?_eq_some_iff.mp read
      change (nic.txRing.set _ _)[_]? = _ at found
      rw [List.getElem?_set_self inside, Option.some.injEq] at found
      rw [← found]
      exact linked.apart _ before old read
    · change (nic.txRing.set _ _)[_]? = _ at found
      rw [List.getElem?_set_ne same] at found
      exact linked.apart slot before descriptor found

end Linked

section Steps

variable {boot : Boot} {wire : Wire} {nic : E1000}

theorem OnWire.boxes (onWire : OnWire boot wire nic) :
    boot.heap.length + 32 ≤ wire.traffic.kernel.heap.length := by
  obtain ⟨box, found, -⟩ := onWire.receive.buffers.boxes 31 (by decide)
  obtain ⟨inside, -⟩ := List.getElem?_eq_some_iff.mp found
  omega

/-- The step of the kernel with its logs, and what the acts and the wire become by it. -/
theorem Wire.step_eq (card : wire.traffic.kernel.netCard = some nic) {event : Event}
    {acts : List Act} {sent : List (List UInt8)} {traffic : Traffic} {next : E1000}
    (acted : wire.traffic.kernel.acts nic event = some acts)
    (put : nic.puts wire.traffic.kernel.heap event = some sent)
    (stepped : wire.traffic.step event = some traffic) (after : traffic.kernel.netCard = some next) :
    wire.step event = some {
      traffic := traffic
      acts := wire.acts ++ acts
      sent := wire.sent ++ sent
      crowded := wire.crowded || (nic.Full ∧ next.registers 0x3818 ≠ nic.registers 0x3818 : Bool) } := by
  simp only [Wire.step, card, acted, put, stepped, after, Option.bind_eq_bind, Option.bind_some]

/-- The kernel acts as the node does. -/
theorem OnWire.acts (onWire : OnWire boot wire nic) (act : Act) {utterance : Option (List UInt8)}
    {after : Kernel} {next : E1000} (utters : wire.traffic.kernel.Utters nic utterance after next)
    (learnt : after.arpTable = ((wire.traffic.kernel.node nic).next act).arpTable)
    (spoken : (wire.traffic.kernel.node nic).speaks act = utterance.toList) :
    after.node next = Node.machine.after boot.node (wire.acts ++ [act]) ∧
      ((wire.crowded || (nic.Full ∧ next.registers 0x3818 ≠ nic.registers 0x3818 : Bool)) = false →
        Linked boot.heap.length after next wire.sent
          (Node.machine.transcript boot.node (wire.acts ++ [act]))) := by
  have node := onWire.learnt
  constructor
  · rw [Transducer.after_concat, ← node]
    change _ = (wire.traffic.kernel.node nic).next act
    rw [Node.next_kept, Kernel.node, learnt, utters.macAddress, utters.transmits.httpPayload]
    rfl
  · intro calm
    rw [Bool.or_eq_false_iff, decide_eq_false_iff_not] at calm
    have linked := (onWire.linked calm.1).utters utters onWire.boxes calm.2
    rw [Transducer.transcript_concat, ← node]
    change Linked _ _ _ _ (_ ++ (wire.traffic.kernel.node nic).speaks act)
    rw [spoken]
    exact linked

theorem OnWire.step_receive (onWire : OnWire boot wire nic) {frame : List UInt8}
    (long : 42 ≤ frame.length) :
    ∃ after next, wire.step (.receive frame) = some after ∧ OnWire boot after next := by
  have card := onWire.receive.ready.card
  obtain ⟨traffic, next, stepped, receive⟩ := Traffic.step_receive onWire.receive long
  have same := stepped
  simp only [Traffic.step, Kernel.step, card, Option.bind_eq_bind, Option.bind_some,
    Option.bind_eq_some_iff, Option.some.injEq] at same
  obtain ⟨_, ⟨⟨stored, heap⟩, received, rfl⟩, rfl⟩ := same
  cases receive.ready.card
  have boxes := onWire.receive.buffers
  have transmit : stored.txRing = nic.txRing ∧ stored.currentTxBucket = nic.currentTxBucket ∧
      stored.macAddress = nic.macAddress ∧
      (∀ offset, offset ≠ 0x2810 → stored.registers offset = nic.registers offset) ∧
      ∀ address, boot.heap.length + 32 ≤ address →
        heap[address]? = wire.traffic.kernel.heap[address]? := by
    unfold E1000.receive at received
    split at received
    · simp only [Option.bind_eq_bind, Option.bind_eq_some_iff, Option.some.injEq, Prod.mk.injEq]
        at received
      obtain ⟨descriptor, found, buffer, -, rfl, rfl⟩ := received
      refine ⟨rfl, rfl, rfl, fun offset other => Function.update_of_ne other _ _, ?_⟩
      intro address beyond
      obtain ⟨inside, -⟩ := List.getElem?_eq_some_iff.mp found
      rw [boxes.slots] at inside
      rw [boxes.address _ descriptor found, List.getElem?_set_ne (by omega)]
    · cases received
      exact ⟨rfl, rfl, rfl, fun _ _ => rfl, fun _ _ => rfl⟩
  obtain ⟨txRing, bucket, macAddress, registers, apart⟩ := transmit
  refine ⟨_, stored, Wire.step_eq card rfl rfl stepped rfl, receive, ?_, ?_, ?_⟩
  · rw [List.append_nil, ← onWire.learnt]
    exact congrArg (Node.mk _ · _) macAddress
  · rw [List.append_nil]
    exact onWire.heard
  · rw [List.append_nil, List.append_nil]
    intro calm
    exact (onWire.linked (Bool.or_eq_false_iff.mp calm).1).kept receive.ready txRing bucket
      (fun offset which => registers offset (by omega)) apart

theorem OnWire.step_fetch (onWire : OnWire boot wire nic) :
    ∃ after next, wire.step .fetch = some after ∧ OnWire boot after next := by
  have card := onWire.receive.ready.card
  obtain ⟨traffic, next, stepped, receive⟩ := Traffic.step_fetch onWire.receive
  have same := stepped
  simp only [Traffic.step, Kernel.step, card, Option.bind_eq_bind, Option.bind_some,
    Option.bind_eq_some_iff, Option.some.injEq] at same
  obtain ⟨_, ⟨⟨fetched, taken⟩, took, rfl⟩, rfl⟩ := same
  cases receive.ready.card
  have put : nic.puts wire.traffic.kernel.heap .fetch = some taken := by
    simp only [E1000.puts, took, Option.bind_eq_bind, Option.bind_some]
  have macAddress : fetched.macAddress = nic.macAddress := by
    simp only [E1000.fetch] at took
    split at took
    · cases took
      rfl
    · simp only [Option.bind_eq_bind, Option.bind_eq_some_iff, Option.some.injEq, Prod.mk.injEq]
        at took
      obtain ⟨_, _, _, _, _, _, rfl, -⟩ := took
      rfl
  refine ⟨_, fetched, Wire.step_eq card rfl put stepped rfl, receive, ?_, ?_, ?_⟩
  · rw [List.append_nil, ← onWire.learnt]
    exact congrArg (Node.mk _ · _) macAddress
  · rw [List.append_nil]
    exact onWire.heard
  · rw [List.append_nil]
    intro calm
    obtain ⟨again, frames, took', linked⟩ := (onWire.linked (Bool.or_eq_false_iff.mp calm).1).fetched
    cases took.symm.trans took'
    exact linked

/-- What the keys and the programs ask for. -/
theorem OnWire.step_asked (onWire : OnWire boot wire nic) {event : Event} {act : Act}
    {frame : List UInt8} (acted : wire.traffic.kernel.acts nic event = some [act])
    (put : nic.puts wire.traffic.kernel.heap event = some []) (unheard : act.heard = none)
    (logged : wire.traffic.step event = (wire.traffic.kernel.step event).bind fun kernel =>
      some { wire.traffic with kernel := kernel })
    (speaks : wire.traffic.kernel.Speaks nic (some frame) wire.traffic.kernel.arpTable
      (wire.traffic.kernel.step event))
    (unlearnt : (wire.traffic.kernel.node nic).next act = wire.traffic.kernel.node nic)
    (spoken : (wire.traffic.kernel.node nic).speaks act = [frame]) :
    ∃ after next, wire.step event = some after ∧ OnWire boot after next := by
  have card := onWire.receive.ready.card
  obtain ⟨after, next, returned, utters, learnt⟩ := speaks
  rw [returned, Option.bind_some] at logged
  obtain ⟨node, linked⟩ := onWire.acts act utters (by rw [learnt, unlearnt]; rfl) spoken
  refine ⟨_, next, Wire.step_eq card acted put logged utters.transmits.ready.card,
    onWire.receive.transmitted utters.transmits, node, ?_, ?_⟩
  · rw [List.filterMap_append, List.filterMap_cons_none unheard, List.filterMap_nil]
    exact onWire.heard.trans (List.append_nil _).symm
  · rw [List.append_nil]
    exact linked

/-- A poll hands the oldest frame to the packet code, or finds none. -/
theorem OnWire.step_poll (onWire : OnWire boot wire nic) :
    ∃ after next, wire.step .poll = some after ∧ OnWire boot after next := by
  have card := onWire.receive.ready.card
  have queue := onWire.receive.queue
  rcases Nat.lt_or_ge wire.traffic.dispatched.length wire.traffic.accepted.length with waiting | idle
  · have oldest := List.getElem?_eq_getElem waiting
    generalize wire.traffic.accepted[wire.traffic.dispatched.length] = entry at oldest
    obtain ⟨slot, frame⟩ := entry
    have held : HoldsFrame nic wire.traffic.kernel.heap nic.currentRxBucket frame := by
      rw [queue.bucket]
      refine queue.stored 0 frame ?_
      rw [List.getElem?_map, Traffic.pending, List.getElem?_drop, Nat.add_zero, oldest]
      rfl
    have long := queue.long _ (List.mem_of_getElem? oldest)
    obtain ⟨middle, spoken, dispatched, utters, learnt⟩ :=
      Kernel.dispatch_speaks onWire.receive.ready long
    have transmits := utters.transmits
    obtain ⟨released, gaveBack, kept⟩ :=
      (onWire.receive.transmitted transmits).releases waiting oldest
    have acted : wire.traffic.kernel.acts nic .poll = some [.hears frame] := by
      simp only [Kernel.acts, held.packetSlice, Option.bind_eq_bind, Option.bind_some]
      rfl
    have stepped : wire.traffic.step .poll = some { wire.traffic with
        kernel := { middle with netCard := some released }
        dispatched := wire.traffic.dispatched ++ [frame] } := by
      rw [transmits.currentRxBucket] at gaveBack
      simp only [Traffic.step, card, Kernel.step, Kernel.poll, held.packetSlice, dispatched,
        transmits.ready.card, gaveBack, Option.bind_eq_bind, Option.bind_some, Option.toList_some]
    obtain ⟨node, linked⟩ := onWire.acts (.hears frame) utters learnt rfl
    simp only [E1000.release, Option.bind_eq_bind, Option.bind_eq_some_iff, Option.some.injEq]
      at gaveBack
    obtain ⟨descriptor, -, rfl⟩ := gaveBack
    refine ⟨_, _, Wire.step_eq card acted rfl stepped rfl, kept, node, ?_, ?_⟩
    · rw [List.filterMap_append, ← onWire.heard]
      rfl
    · rw [List.append_nil]
      intro calm
      exact (linked calm).kept kept.ready rfl rfl
        (fun offset which => Function.update_of_ne (by omega) _ _) fun _ _ => rfl
  · have inside : nic.currentRxBucket < nic.rxRing.length := by
      rw [queue.bucket, onWire.receive.buffers.slots]
      exact Nat.mod_lt _ (by decide)
    have notDone : ¬ nic.rxRing[nic.currentRxBucket].done := by
      intro done
      obtain ⟨position, after, before, -⟩ := (queue.mem_window _).mp
        (queue.free _ _ (List.getElem?_eq_getElem inside) done)
      omega
    have nothing : wire.traffic.kernel.packetSlice nic = some none := by
      simp only [Kernel.packetSlice, List.getElem?_eq_getElem inside, Option.bind_eq_bind,
        Option.bind_some]
      exact if_neg notDone
    have acted : wire.traffic.kernel.acts nic .poll = some [] := by
      simp only [Kernel.acts, nothing, Option.bind_eq_bind, Option.bind_some]
      rfl
    have stepped : wire.traffic.step .poll = some wire.traffic := by
      simp only [Traffic.step, card, Kernel.step, Kernel.poll, nothing, Option.bind_eq_bind,
        Option.bind_some, Option.toList_none, List.append_nil]
    refine ⟨_, nic, Wire.step_eq card acted rfl stepped card, onWire.receive, ?_, ?_, ?_⟩
    · rw [List.append_nil]
      exact onWire.learnt
    · rw [List.append_nil]
      exact onWire.heard
    · rw [List.append_nil, List.append_nil]
      intro calm
      exact onWire.linked (Bool.or_eq_false_iff.mp calm).1

/-- One step of either side. -/
theorem OnWire.step (onWire : OnWire boot wire nic) (event : Event) (long : event.LongEnough) :
    ∃ after next, wire.step event = some after ∧ OnWire boot after next := by
  have ready := onWire.receive.ready
  cases event with
  | receive frame => exact onWire.step_receive long
  | fetch => exact onWire.step_fetch
  | poll => exact onWire.step_poll
  | udpBroadcast =>
    refine onWire.step_asked rfl rfl rfl ?_ (Kernel.udpBroadcast_speaks ready) rfl rfl
    simp only [Traffic.step, ready.card, Option.bind_eq_bind, Option.bind_some]
  | arpRequest targetIp =>
    refine onWire.step_asked rfl rfl rfl ?_ (Kernel.arpRequest_speaks ready targetIp) rfl rfl
    simp only [Traffic.step, ready.card, Option.bind_eq_bind, Option.bind_some]

theorem OnWire.faithful (onWire : OnWire boot wire nic) : wire.Faithful boot where
  heard := onWire.heard ▸ onWire.receive.queue.order ▸ List.take_prefix ..
  learnt := ⟨nic, onWire.receive.ready.card, onWire.learnt⟩
  spoken := by
    intro calm
    obtain ⟨card, same, -, sent⟩ := (onWire.linked calm).link.faithful
    exact ⟨card, same, sent⟩

end Steps

theorem Wire.start_onWire (boot : Boot) : OnWire boot (Wire.start boot) boot.card := by
  obtain ⟨-, -, -, -, head, tail⟩ := boot.card_registers
  have link := Link.start_invariant boot
  have empty : boot.card.txWindow = [] := by
    rw [E1000.txWindow, head, tail]
    rfl
  refine ⟨Traffic.start_invariant boot, rfl, rfl, fun _ => ⟨{ link with slots := rfl, once := rfl }, ?_⟩⟩
  intro slot member
  change slot ∈ boot.card.txWindow at member
  rw [empty] at member
  cases member

theorem Wire.run_onWire (boot : Boot) (events : List Event)
    (long : ∀ event ∈ events, event.LongEnough) :
    ∃ wire, run Wire.step events (Wire.start boot) = some wire ∧ ∃ nic, OnWire boot wire nic := by
  have preserved : ∀ wire event, (∃ nic, OnWire boot wire nic) → event.LongEnough →
      ∃ after, wire.step event = some after ∧ ∃ nic, OnWire boot after nic := by
    rintro wire event ⟨nic, onWire⟩ long
    obtain ⟨after, next, stepped, kept⟩ := onWire.step event long
    exact ⟨after, stepped, next, kept⟩
  exact run_invariant preserved events long ⟨boot.card, Wire.start_onWire boot⟩

theorem Traffic.step_accepted {traffic after : Traffic} {event : Event}
    (stepped : traffic.step event = some after) {entry : Nat × List UInt8}
    (member : entry ∈ after.accepted) : entry ∈ traffic.accepted ∨ event = .receive entry.2 := by
  simp only [Traffic.step, Option.bind_eq_bind, Option.bind_eq_some_iff] at stepped
  obtain ⟨nic, -, kernel, -, logged⟩ := stepped
  cases event with
  | receive frame =>
    cases logged
    rcases List.mem_append.mp member with old | stored
    · exact .inl old
    · split at stored
      · cases List.mem_singleton.mp stored
        exact .inr rfl
      · cases stored
  | poll =>
    obtain ⟨packetSlice, -, logged⟩ := Option.bind_eq_some_iff.mp logged
    cases logged
    exact .inl member
  | _ =>
    cases logged
    exact .inl member

/-- What the card has stored came from outside. -/
theorem Wire.run_accepted {events : List Event} {wire after : Wire}
    (reached : run Wire.step events wire = some after) {entry : Nat × List UInt8}
    (member : entry ∈ after.traffic.accepted) :
    entry ∈ wire.traffic.accepted ∨ .receive entry.2 ∈ events := by
  induction events generalizing wire with
  | nil =>
    cases reached
    exact .inl member
  | cons event later ih =>
    rw [run_cons, Option.bind_eq_some_iff] at reached
    obtain ⟨middle, stepped, reached⟩ := reached
    rcases ih reached with there | received
    · simp only [Wire.step, Option.bind_eq_bind, Option.bind_eq_some_iff, Option.some.injEq]
        at stepped
      obtain ⟨nic, -, acts, -, sent, -, traffic, moved, next, -, rfl⟩ := stepped
      rcases Traffic.step_accepted moved there with before | rfl
      · exact .inl before
      · exact .inr (.head later)
    · exact .inr (.tail event received)

/-- What the node hears was sent to it. -/
theorem Wire.Faithful.received {events : List Event} {wire : Wire} (faithful : wire.Faithful boot)
    (reached : run Wire.step events (Wire.start boot) = some wire) {frame : List UInt8}
    (hears : .hears frame ∈ wire.acts) : .receive frame ∈ events := by
  have heard : frame ∈ wire.acts.filterMap Act.heard := List.mem_filterMap.mpr ⟨_, hears, rfl⟩
  obtain ⟨entry, stored, rfl⟩ := List.mem_map.mp (faithful.heard.subset heard)
  exact (Wire.run_accepted reached stored).resolve_left List.not_mem_nil

/-- Every run goes on without a panic. The node hears the frames that the card stored, one
after the other, and while no frame meets a full transmit ring, all that it says to them
goes onto the wire, in order, whole and once, and nothing else does. -/
theorem wire_faithful (boot : Boot) (events : List Event)
    (long : ∀ event ∈ events, event.LongEnough) :
    ∃ wire, run Wire.step events (Wire.start boot) = some wire ∧ wire.Faithful boot := by
  obtain ⟨wire, reached, nic, onWire⟩ := Wire.run_onWire boot events long
  exact ⟨wire, reached, onWire.faithful⟩

/-- A client's first segment arrives and is answered. -/
theorem wire_faithful_syn :
    ∃ wire, run Wire.step [.receive clientSyn.encode, .poll, .fetch] (Wire.start Boot.driveless) =
      some wire ∧ wire.Faithful Boot.driveless :=
  wire_faithful Boot.driveless [.receive clientSyn.encode, .poll, .fetch] (by
    intro event member
    simp only [List.mem_cons, List.not_mem_nil, or_false] at member
    rcases member with rfl | rfl | rfl
    · change 42 ≤ clientSyn.encode.length
      decide
    · exact trivial
    · exact trivial)

example : (run Wire.step [.receive clientSyn.encode, .poll, .fetch] (Wire.start Boot.driveless)).map
    (fun wire => (wire.crowded, wire.sent.map List.length)) = some (false, [58]) := by
  decide +kernel

end QoreOS.Network
