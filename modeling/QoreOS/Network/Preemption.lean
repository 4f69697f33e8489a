import QoreOS.Library.Run
import QoreOS.Network.TransmitRing

/-! A transmission of the main loop, statement by statement, and the keyboard
interrupt whose Enter path broadcasts between two of the statements. -/

namespace QoreOS.Network

open QoreOS.Library

/-- The local variables of a transmission, and the argument of its `write_register`. -/
structure Locals where
  frame : List UInt8
  framePtr : BoxAddress
  descriptorAddr : Nat
  value : Nat

def Locals.holding (frame : List UInt8) : Locals :=
  { frame := frame, framePtr := 0, descriptorAddr := 0, value := 0 }

inductive Statement where
  | vec (bytes : Mac → List UInt8)
  | resize
  | leak
  | descriptorAddr
  | descriptorPtr
  | bufferAddress
  | length (value : UInt16)
  | cmd
  | advance
  | tailArgument
  | tailPtr
  | writeTail
  | print (text : String) (color : UInt32)

/-- A store into the descriptor at an address. -/
def E1000.store (nic : E1000) (descriptorAddr : Nat) (field : TxDescriptor → TxDescriptor) :
    Option E1000 := do
  let slot := (descriptorAddr - nic.txRingPtr) / 16
  let descriptor ← nic.txRing[slot]?
  some { nic with txRing := nic.txRing.set slot (field descriptor) }

/-- One statement; the pointers to the descriptor and to the register are casts that read
nothing. -/
def Statement.exec (state : Kernel × Locals) : Statement → Option (Kernel × Locals)
  | .vec bytes => do
    let nic ← state.1.netCard
    some (state.1, { state.2 with frame := bytes nic.macAddress })
  | .resize => some (state.1, { state.2 with frame := Kernel.resize state.2.frame 60 })
  | .leak => some ({ state.1 with heap := state.1.heap ++ [state.2.frame] },
      { state.2 with framePtr := state.1.heap.length })
  | .descriptorAddr => do
    let nic ← state.1.netCard
    some (state.1, { state.2 with descriptorAddr := nic.txRingPtr + nic.currentTxBucket * 16 })
  | .descriptorPtr => some state
  | .bufferAddress => do
    let nic ← state.1.netCard
    let nic ← nic.store state.2.descriptorAddr fun descriptor =>
      { descriptor with bufferAddress := state.2.framePtr }
    some ({ state.1 with netCard := some nic }, state.2)
  | .length value => do
    let nic ← state.1.netCard
    let nic ← nic.store state.2.descriptorAddr fun descriptor => { descriptor with length := value }
    some ({ state.1 with netCard := some nic }, state.2)
  | .cmd => do
    let nic ← state.1.netCard
    let nic ← nic.store state.2.descriptorAddr fun descriptor =>
      { descriptor with cmd := (1 : UInt8) <<< 0 ||| (1 : UInt8) <<< 1 ||| (1 : UInt8) <<< 3 }
    some ({ state.1 with netCard := some nic }, state.2)
  | .advance => do
    let nic ← state.1.netCard
    let nic := { nic with currentTxBucket := (nic.currentTxBucket + 1) % 8 }
    some ({ state.1 with netCard := some nic }, state.2)
  | .tailArgument => do
    let nic ← state.1.netCard
    some (state.1, { state.2 with value := nic.currentTxBucket })
  | .tailPtr => some state
  | .writeTail => do
    let nic ← state.1.netCard
    some ({ state.1 with netCard := some (nic.writeRegister 0x3818 state.2.value) }, state.2)
  | .print text color => some (state.1.terminalPrint text color, state.2)

namespace Transmission

/-- How a path builds its frame; `inject_frame` is given one. -/
def building : Transmission → List Statement
  | .arpRequest targetIp => [.vec (Kernel.arpRequestBytes · targetIp), .resize]
  | .udpBroadcast => [.vec fun _ => Kernel.udpBroadcastFrame]
  | .arpReply senderMac senderIp => [.vec (Kernel.arpReplyBytes · senderMac senderIp), .resize]
  | .injectFrame _ => []

/-- The statements before the one that reads the index for the descriptor's
address. -/
def addressed (transmission : Transmission) : Nat := transmission.building.length + 1

/-- The statements up to the one that advances the index. -/
def advanced (transmission : Transmission) : Nat := transmission.building.length + 7

/-- The statements up to the store into the tail register. -/
def stored (transmission : Transmission) : Nat := transmission.building.length + 10

def filling (length : UInt16) : List Statement :=
  [.descriptorAddr, .descriptorPtr, .bufferAddress, .length length, .cmd, .advance]

/-- From the descriptor's address to the tail register. -/
def publishing (length : UInt16) : List Statement :=
  filling length ++ [.tailArgument, .tailPtr, .writeTail]

def reporting : Transmission → List Statement
  | .arpRequest _ => [.print "\nNET: ARP Request Broadcasted to Network.\n" 0x3B82F6]
  | .udpBroadcast => [.print "\nSYS NET TX: UDP BROADCAST FIRED!\n" 0xEF4444]
  | _ => []

def statements (transmission : Transmission) : List Statement :=
  transmission.building ++ .leak :: (publishing transmission.length ++ transmission.reporting)

def locals : Transmission → Locals
  | .injectFrame frame => .holding frame
  | _ => .holding []

end Transmission

/-- The Enter path of the keyboard interrupt: `int 0x80`. -/
def Kernel.enter (kernel : Kernel) : Option Kernel :=
  let kernel := kernel.terminalPrint "\nSYS_NET_TX: UDP BROADCAST FIRED!\n" 0xEF4444
  match kernel.netCard with
  | some _ => kernel.udpBroadcast
  | none => some kernel

/-- The transmission with the interrupt after its first `point` statements. -/
def Transmission.interrupted (transmission : Transmission) (kernel : Kernel) (point : Nat) :
    Option Kernel := do
  let (kernel, locals) ← run Statement.exec (transmission.statements.take point)
    (kernel, transmission.locals)
  let kernel ← kernel.enter
  let (kernel, _) ← run Statement.exec (transmission.statements.drop point) (kernel, locals)
  some kernel

/-- The slot's descriptor announces the whole box, which holds the frame. -/
def E1000.Carries (nic : E1000) (heap : List (List UInt8)) (slot : Nat) (box : BoxAddress)
    (frame : List UInt8) : Prop :=
  heap[box]? = some frame ∧ ∃ descriptor, nic.txRing[slot]? = some descriptor ∧
    descriptor.bufferAddress = box ∧ descriptor.length.toNat = frame.length ∧
    descriptor.cmd = 0x0B

/-- Both frames, freshly boxed, have a slot of their own, no other slot has
changed, and the tail stands behind the two slots. -/
def BothSent (kernel : Kernel) (nic : E1000) (frame : List UInt8) (after : Kernel) : Prop :=
  let first := nic.currentTxBucket
  let second := (nic.currentTxBucket + 1) % 8
  ∃ next, after.netCard = some next ∧
    (∃ mainBox udpBox, kernel.heap.length ≤ mainBox ∧ kernel.heap.length ≤ udpBox ∧
      mainBox ≠ udpBox ∧
      (next.Carries after.heap first mainBox frame ∧
          next.Carries after.heap second udpBox Kernel.udpBroadcastFrame ∨
        next.Carries after.heap second mainBox frame ∧
          next.Carries after.heap first udpBox Kernel.udpBroadcastFrame)) ∧
    (∀ slot, slot ≠ first → slot ≠ second → next.txRing[slot]? = nic.txRing[slot]?) ∧
    next.registers 0x3818 = (nic.currentTxBucket + 2) % 8

variable {kernel : Kernel} {nic : E1000}

def Kernel.put (kernel : Kernel) (nic : E1000) (heap : List (List UInt8))
    (console : List (String × UInt32)) : Kernel :=
  { kernel with netCard := some nic, heap := heap, console := console }

/-- The card after a descriptor has been filled and the index advanced. -/
def E1000.handed (nic : E1000) (descriptor : TxDescriptor) (box : BoxAddress)
    (length : UInt16) : E1000 :=
  { nic with
    txRing := nic.txRing.set nic.currentTxBucket { descriptor with
      bufferAddress := box
      length := length
      cmd := 0x0B }
    currentTxBucket := (nic.currentTxBucket + 1) % 8 }

/-- The card after the descriptor has been published as well. -/
def E1000.published (nic : E1000) (descriptor : TxDescriptor) (box : BoxAddress)
    (length : UInt16) : E1000 :=
  (nic.handed descriptor box length).writeRegister 0x3818 ((nic.currentTxBucket + 1) % 8)

theorem second_ne_first (nic : E1000) :
    (nic.currentTxBucket + 1) % 8 ≠ nic.currentTxBucket := by omega

theorem E1000.handed_next (first : TxDescriptor) {second : TxDescriptor}
    (next : nic.txRing[(nic.currentTxBucket + 1) % 8]? = some second) (box : BoxAddress)
    (length : UInt16) :
    (nic.handed first box length).txRing[(nic.currentTxBucket + 1) % 8]? = some second := by
  rw [E1000.handed, List.getElem?_set_ne (Ne.symm (second_ne_first nic)), next]

theorem E1000.writeRegister_tail (nic : E1000) (value : Nat) :
    (nic.writeRegister 0x3818 value).registers 0x3818 = value := by
  simp only [E1000.writeRegister, Function.update_self]

theorem E1000.store_eq (nic : E1000) {slot : Nat} {descriptor : TxDescriptor}
    (found : nic.txRing[slot]? = some descriptor) (field : TxDescriptor → TxDescriptor) :
    nic.store (nic.txRingPtr + slot * 16) field =
      some { nic with txRing := nic.txRing.set slot (field descriptor) } := by
  have same : (nic.txRingPtr + slot * 16 - nic.txRingPtr) / 16 = slot := by
    rw [Nat.add_sub_cancel_left, Nat.mul_div_cancel slot (by decide)]
  rw [E1000.store, same, found]
  rfl

theorem run_filling (kernel : Kernel) (card : kernel.netCard = some nic) {descriptor : TxDescriptor}
    (found : nic.txRing[nic.currentTxBucket]? = some descriptor) (locals : Locals)
    (length : UInt16) :
    run Statement.exec (Transmission.filling length) (kernel, locals) =
      some ({ kernel with netCard := some (nic.handed descriptor locals.framePtr length) },
        { locals with descriptorAddr := nic.txRingPtr + nic.currentTxBucket * 16 }) := by
  obtain ⟨inside, -⟩ := List.getElem?_eq_some_iff.mp found
  have again : ∀ (ring : List TxDescriptor) (changed : TxDescriptor)
      (field : TxDescriptor → TxDescriptor), ring.length = nic.txRing.length →
      E1000.store { nic with txRing := ring.set nic.currentTxBucket changed }
        (nic.txRingPtr + nic.currentTxBucket * 16) field =
      some { nic with txRing := ring.set nic.currentTxBucket (field changed) } := by
    intro ring changed field size
    have stored := E1000.store_eq { nic with txRing := ring.set nic.currentTxBucket changed }
      (List.getElem?_set_self (by omega)) field
    rw [stored, List.set_set]
  simp only [Transmission.filling, run_cons, run_nil, Statement.exec, card, Option.bind_eq_bind,
    Option.bind_some, E1000.store_eq nic found, again _ _ _ rfl]
  rfl

/-- The statements that publish a frame, run without an interrupt. -/
theorem run_publishing (kernel : Kernel) (card : kernel.netCard = some nic)
    {descriptor : TxDescriptor} (found : nic.txRing[nic.currentTxBucket]? = some descriptor)
    (locals : Locals) (length : UInt16) :
    run Statement.exec (Transmission.publishing length) (kernel, locals) =
      some ({ kernel with netCard := some (nic.published descriptor locals.framePtr length) },
        { locals with
          descriptorAddr := nic.txRingPtr + nic.currentTxBucket * 16
          value := (nic.currentTxBucket + 1) % 8 }) := by
  rw [Transmission.publishing, run_append, run_filling kernel card found]
  rfl

theorem Kernel.enter_eq (kernel : Kernel) (card : kernel.netCard = some nic) {descriptor : TxDescriptor}
    (found : nic.txRing[nic.currentTxBucket]? = some descriptor) :
    ∃ console, kernel.enter = some (kernel.put (nic.published descriptor kernel.heap.length 60)
      (kernel.heap ++ [Kernel.udpBroadcastFrame]) console) := by
  simp only [Kernel.enter, Kernel.terminalPrint, card, Kernel.udpBroadcast, Kernel.transmit,
    E1000.transmit, found, Option.bind_eq_bind, Option.bind_some]
  exact ⟨_, rfl⟩

theorem Transmission.reporting_prints (transmission : Transmission) :
    ∀ statement ∈ transmission.reporting, ∃ text color, statement = .print text color := by
  cases transmission with
  | arpRequest targetIp => exact fun statement member => ⟨_, _, List.mem_singleton.mp member⟩
  | udpBroadcast => exact fun statement member => ⟨_, _, List.mem_singleton.mp member⟩
  | arpReply senderMac senderIp => exact fun statement member => nomatch member
  | injectFrame frame => exact fun statement member => nomatch member

theorem run_printing {statements : List Statement}
    (prints : ∀ statement ∈ statements, ∃ text color, statement = .print text color)
    (kernel : Kernel) (locals : Locals) :
    ∃ console, run Statement.exec statements (kernel, locals) =
      some ({ kernel with console := console }, locals) := by
  induction statements generalizing kernel with
  | nil => exact ⟨kernel.console, rfl⟩
  | cons statement rest ih =>
    obtain ⟨text, color, rfl⟩ := prints statement List.mem_cons_self
    exact ih (fun other member => prints other (List.mem_cons_of_mem _ member))
      (kernel.terminalPrint text color)

/-- The rest of a transmission whose frame has been boxed. -/
theorem run_boxed (kernel : Kernel) (card : kernel.netCard = some nic) {descriptor : TxDescriptor}
    (found : nic.txRing[nic.currentTxBucket]? = some descriptor) (transmission : Transmission)
    (locals : Locals) :
    ∃ console final, run Statement.exec
        (Transmission.publishing transmission.length ++ transmission.reporting) (kernel, locals) =
      some (kernel.put (nic.published descriptor locals.framePtr transmission.length) kernel.heap
        console, final) := by
  have published := run_publishing kernel card found locals transmission.length
  obtain ⟨console, reported⟩ := run_printing transmission.reporting_prints
    { kernel with netCard := some (nic.published descriptor locals.framePtr transmission.length) }
    { locals with
      descriptorAddr := nic.txRingPtr + nic.currentTxBucket * 16
      value := (nic.currentTxBucket + 1) % 8 }
  refine ⟨console, { locals with
    descriptorAddr := nic.txRingPtr + nic.currentTxBucket * 16
    value := (nic.currentTxBucket + 1) % 8 }, ?_⟩
  rw [run_append, published, Option.bind_some, reported]
  rfl

/-- The rest of a transmission whose frame has been built. -/
theorem run_built (kernel : Kernel) (card : kernel.netCard = some nic) {descriptor : TxDescriptor}
    (found : nic.txRing[nic.currentTxBucket]? = some descriptor) (transmission : Transmission)
    (locals : Locals) :
    ∃ console final, run Statement.exec
        (.leak :: (Transmission.publishing transmission.length ++ transmission.reporting))
        (kernel, locals) =
      some (kernel.put (nic.published descriptor kernel.heap.length transmission.length)
        (kernel.heap ++ [locals.frame]) console, final) := by
  obtain ⟨console, final, sent⟩ := run_boxed
    { kernel with heap := kernel.heap ++ [locals.frame] } card found transmission
    { locals with framePtr := kernel.heap.length }
  refine ⟨console, final, ?_⟩
  rw [run_cons]
  exact sent

/-- Building the frame touches nothing but local variables, so it may be
interrupted. -/
theorem run_building (transmission : Transmission) (other : Kernel) {next : E1000}
    (card : kernel.netCard = some nic) (otherCard : other.netCard = some next)
    (mac : next.macAddress = nic.macAddress) (point : Nat) :
    ∃ locals, run Statement.exec (transmission.building.take point)
        (kernel, transmission.locals) = some (kernel, locals) ∧
      ∃ built, run Statement.exec (transmission.building.drop point) (other, locals) =
          some (other, built) ∧
        built.frame = transmission.frame nic.macAddress := by
  have two : ∀ bytes : Mac → List UInt8, ∃ locals,
      run Statement.exec ([Statement.vec bytes, .resize].take point)
        (kernel, .holding []) = some (kernel, locals) ∧
      ∃ built, run Statement.exec ([Statement.vec bytes, .resize].drop point) (other, locals) =
          some (other, built) ∧ built.frame = Kernel.resize (bytes nic.macAddress) 60 := by
    intro bytes
    rcases point with _ | _ | point
    · refine ⟨Locals.holding [], rfl, Locals.holding (Kernel.resize (bytes nic.macAddress) 60), ?_,
        rfl⟩
      simp only [List.drop_zero, run_cons, run_nil, Statement.exec, Locals.holding, otherCard, mac,
        Option.bind_eq_bind, Option.bind_some]
    · refine ⟨Locals.holding (bytes nic.macAddress), ?_, _, rfl, rfl⟩
      simp only [List.take_succ_cons, List.take_zero, run_cons, run_nil, Statement.exec,
        Locals.holding, card, Option.bind_eq_bind, Option.bind_some]
    · refine ⟨Locals.holding (Kernel.resize (bytes nic.macAddress) 60), ?_,
        Locals.holding (Kernel.resize (bytes nic.macAddress) 60), ?_, rfl⟩
      · simp only [List.take_succ_cons, List.take_nil, run_cons, run_nil, Statement.exec,
          Locals.holding, card, Option.bind_eq_bind, Option.bind_some]
      · simp only [List.drop_succ_cons, List.drop_nil, run_nil]
  cases transmission with
  | arpRequest targetIp => exact two (Kernel.arpRequestBytes · targetIp)
  | arpReply senderMac senderIp => exact two (Kernel.arpReplyBytes · senderMac senderIp)
  | udpBroadcast =>
    rcases point with _ | point
    · refine ⟨Locals.holding [], rfl, Locals.holding Kernel.udpBroadcastFrame, ?_, rfl⟩
      simp only [Transmission.building, List.drop_zero, run_cons, run_nil, Statement.exec,
        Locals.holding, otherCard, Option.bind_eq_bind, Option.bind_some]
    · refine ⟨Locals.holding Kernel.udpBroadcastFrame, ?_,
        Locals.holding Kernel.udpBroadcastFrame, ?_, rfl⟩
      · simp only [Transmission.building, Transmission.locals, List.take_succ_cons, List.take_nil,
          run_cons, run_nil, Statement.exec, Locals.holding, card, Option.bind_eq_bind,
          Option.bind_some]
      · simp only [Transmission.building, List.drop_succ_cons, List.drop_nil, run_nil]
  | injectFrame frame =>
    refine ⟨Locals.holding frame, ?_, Locals.holding frame, ?_, rfl⟩
    · simp only [Transmission.building, List.take_nil, run_nil]
      rfl
    · simp only [Transmission.building, List.drop_nil, run_nil]

/-- Two descriptors filled one after the other carry both frames. -/
theorem bothSent_of_ring (ready : kernel.Ready nic) {after : Kernel} {next : E1000}
    {frame : List UInt8} {first second : TxDescriptor} (card : after.netCard = some next)
    (ring : next.txRing =
      (nic.txRing.set nic.currentTxBucket first).set ((nic.currentTxBucket + 1) % 8) second)
    (tail : next.registers 0x3818 = (nic.currentTxBucket + 2) % 8)
    (commands : first.cmd = 0x0B ∧ second.cmd = 0x0B)
    (firstFresh : kernel.heap.length ≤ first.bufferAddress)
    (secondFresh : kernel.heap.length ≤ second.bufferAddress)
    (apart : first.bufferAddress ≠ second.bufferAddress)
    (contents : after.heap[first.bufferAddress]? = some frame ∧
        first.length.toNat = frame.length ∧
        after.heap[second.bufferAddress]? = some Kernel.udpBroadcastFrame ∧
        second.length.toNat = Kernel.udpBroadcastFrame.length ∨
      after.heap[second.bufferAddress]? = some frame ∧
        second.length.toNat = frame.length ∧
        after.heap[first.bufferAddress]? = some Kernel.udpBroadcastFrame ∧
        first.length.toNat = Kernel.udpBroadcastFrame.length) :
    BothSent kernel nic frame after := by
  have slots := ready.transmit.slots
  have small := ready.transmit.bucket
  have other := second_ne_first nic
  have atFirst : next.txRing[nic.currentTxBucket]? = some first := by
    rw [ring, List.getElem?_set_ne other, List.getElem?_set_self (by omega)]
  have atSecond : next.txRing[(nic.currentTxBucket + 1) % 8]? = some second := by
    rw [ring, List.getElem?_set_self (by rw [List.length_set]; omega)]
  refine ⟨next, card, ?_, ?_, tail⟩
  · rcases contents with ⟨main, mainLength, udp, udpLength⟩ | ⟨main, mainLength, udp, udpLength⟩
    · exact ⟨_, _, firstFresh, secondFresh, apart, Or.inl
        ⟨⟨main, first, atFirst, rfl, mainLength, commands.1⟩,
          ⟨udp, second, atSecond, rfl, udpLength, commands.2⟩⟩⟩
    · exact ⟨_, _, secondFresh, firstFresh, Ne.symm apart, Or.inr
        ⟨⟨main, second, atSecond, rfl, mainLength, commands.2⟩,
          ⟨udp, first, atFirst, rfl, udpLength, commands.1⟩⟩⟩
  · intro slot notFirst notSecond
    rw [ring, List.getElem?_set_ne (Ne.symm notSecond), List.getElem?_set_ne (Ne.symm notFirst)]

/-- The frame has been built and boxed. -/
theorem run_leaked (ready : kernel.Ready nic) (transmission : Transmission) :
    ∃ locals, run Statement.exec (transmission.building ++ [.leak])
        (kernel, transmission.locals) = some ({ kernel with
          heap := kernel.heap ++ [transmission.frame nic.macAddress] }, locals) ∧
      locals.framePtr = kernel.heap.length := by
  obtain ⟨locals, started, built, finished, frame⟩ :=
    run_building transmission kernel ready.card ready.card rfl transmission.building.length
  rw [List.take_length] at started
  rw [List.drop_length, run_nil, Option.some.injEq, Prod.mk.injEq] at finished
  refine ⟨{ built with framePtr := kernel.heap.length }, ?_, rfl⟩
  rw [run_append, started, finished.2, ← frame]
  rfl

/-- Without an interrupt the statements are the transmission. -/
theorem run_statements (ready : kernel.Ready nic) (transmission : Transmission) :
    ∃ after final, run Statement.exec transmission.statements (kernel, transmission.locals) =
      some (after, final) ∧ transmission.fire kernel = some after := by
  obtain ⟨first, found, sent⟩ := Kernel.transmit_eq ready (transmission.frame nic.macAddress)
    transmission.length
  obtain ⟨locals, boxed, box⟩ := run_leaked ready transmission
  have published := run_publishing
    { kernel with heap := kernel.heap ++ [transmission.frame nic.macAddress] } ready.card found
    locals transmission.length
  rw [box] at published
  have parts : transmission.statements = (transmission.building ++ [.leak]) ++
      (Transmission.publishing transmission.length ++ transmission.reporting) := by
    rw [Transmission.statements, List.append_assoc]
    rfl
  rw [parts, run_append, boxed, Option.bind_some, run_append, published, Option.bind_some]
  cases transmission with
  | arpRequest targetIp =>
    refine ⟨_, _, rfl, ?_⟩
    simp only [Transmission.fire, Kernel.arpRequest, ready.card, Option.bind_eq_bind,
      Option.bind_some]
    exact congrArg (Option.bind · _) sent
  | udpBroadcast =>
    refine ⟨_, _, rfl, ?_⟩
    simp only [Transmission.fire, Kernel.udpBroadcast, ready.card, Option.bind_eq_bind,
      Option.bind_some]
    exact congrArg (Option.bind · _) sent
  | arpReply senderMac senderIp =>
    refine ⟨_, _, rfl, ?_⟩
    simp only [Transmission.fire, Kernel.arpReply, ready.card, Option.bind_eq_bind,
      Option.bind_some]
    exact sent
  | injectFrame frame =>
    refine ⟨_, _, rfl, ?_⟩
    simp only [Transmission.fire, Kernel.injectFrame, ready.card]
    exact sent

theorem interrupted_eq {transmission : Transmission} {point : Nat} {before after : List Statement}
    {middle entered final : Kernel} {locals rest : Locals}
    (taken : transmission.statements.take point = before)
    (dropped : transmission.statements.drop point = after)
    (started : run Statement.exec before (kernel, transmission.locals) = some (middle, locals))
    (enters : middle.enter = some entered)
    (finished : run Statement.exec after (entered, locals) = some (final, rest)) :
    transmission.interrupted kernel point = some final := by
  simp only [Transmission.interrupted, taken, dropped, started, enters, finished,
    Option.bind_eq_bind, Option.bind_some]

/-- The statements on both sides of a point. -/
theorem statements_split {transmission : Transmission} {before after : List Statement}
    (parts : transmission.statements = before ++ after) {point : Nat}
    (length : point = before.length) :
    transmission.statements.take point = before ∧ transmission.statements.drop point = after := by
  rw [parts, length]
  exact ⟨List.take_left, List.drop_left⟩

/-- There are descriptors in the current slot and in the next one. -/
theorem Kernel.Ready.slots (ready : kernel.Ready nic) : ∃ first second,
    nic.txRing[nic.currentTxBucket]? = some first ∧
      nic.txRing[(nic.currentTxBucket + 1) % 8]? = some second := by
  have slots := ready.transmit.slots
  have bucket := ready.transmit.bucket
  exact ⟨_, _, List.getElem?_eq_getElem (by omega), List.getElem?_eq_getElem (by omega)⟩

/-- The broadcast took the first slot, the transmission the second. -/
theorem bothSent_second (ready : kernel.Ready nic) {transmission : Transmission}
    (fits : transmission.Fits) {first second : TxDescriptor} {heap : List (List UInt8)}
    {console : List (String × UInt32)} {mainBox udpBox : BoxAddress} {middle : Kernel}
    (mainFresh : kernel.heap.length ≤ mainBox) (udpFresh : kernel.heap.length ≤ udpBox)
    (apart : udpBox ≠ mainBox)
    (main : heap[mainBox]? = some (transmission.frame nic.macAddress))
    (udp : heap[udpBox]? = some Kernel.udpBroadcastFrame) :
    BothSent kernel nic (transmission.frame nic.macAddress)
      (middle.put ((nic.published first udpBox 60).published second mainBox transmission.length)
        heap console) := by
  have whole := (transmission.length_eq_iff nic.macAddress).mpr fits
  have tail : ((nic.published first udpBox 60).published second mainBox
      transmission.length).registers 0x3818 = (nic.currentTxBucket + 2) % 8 := by
    exact (E1000.writeRegister_tail _ _).trans (Nat.mod_add_mod ..)
  exact bothSent_of_ring ready rfl rfl tail ⟨rfl, rfl⟩ udpFresh mainFresh apart
    (Or.inr ⟨main, whole, udp, udpBroadcastFrame_length.symm⟩)

/-- The transmission with the interrupt before the frame has been boxed, so that the
broadcast is boxed first. -/
theorem interrupted_building (ready : kernel.Ready nic) (transmission : Transmission)
    (fits : transmission.Fits) {point : Nat} (inside : point ≤ transmission.building.length) :
    ∃ after, transmission.interrupted kernel point = some after ∧
      BothSent kernel nic (transmission.frame nic.macAddress) after := by
  obtain ⟨first, second, found, next⟩ := ready.slots
  have free : (nic.published first kernel.heap.length 60).txRing[
      (nic.published first kernel.heap.length 60).currentTxBucket]? = some second :=
    E1000.handed_next first next kernel.heap.length 60
  obtain ⟨console, entered⟩ := Kernel.enter_eq kernel ready.card found
  obtain ⟨middle, put⟩ : ∃ middle, kernel.put (nic.published first kernel.heap.length 60)
      (kernel.heap ++ [Kernel.udpBroadcastFrame]) console = middle := ⟨_, rfl⟩
  have card : middle.netCard = some (nic.published first kernel.heap.length 60) := by
    rw [← put]
    rfl
  have heap : middle.heap = kernel.heap ++ [Kernel.udpBroadcastFrame] := by
    rw [← put]
    rfl
  obtain ⟨locals, started, built, finished, frame⟩ :=
    run_building transmission middle ready.card card rfl point
  obtain ⟨shown, final, sent⟩ := run_built middle card free transmission built
  have ran : transmission.interrupted kernel point = some (middle.put
      ((nic.published first kernel.heap.length 60).published second middle.heap.length
        transmission.length) (middle.heap ++ [built.frame]) shown) := by
    have parts : transmission.statements = transmission.building.take point ++
        (transmission.building.drop point ++
          .leak :: (Transmission.publishing transmission.length ++ transmission.reporting)) := by
      rw [Transmission.statements, ← List.append_assoc, List.take_append_drop]
    have length : point = (transmission.building.take point).length := by
      rw [List.length_take, Nat.min_eq_left inside]
    obtain ⟨taken, dropped⟩ := statements_split parts length
    have resumed : run Statement.exec (transmission.building.drop point ++
        .leak :: (Transmission.publishing transmission.length ++ transmission.reporting))
          (middle, locals) = run Statement.exec
        (.leak :: (Transmission.publishing transmission.length ++ transmission.reporting))
          (middle, built) := by
      rw [run_append, finished, Option.bind_some]
    exact interrupted_eq taken dropped started (put ▸ entered) (resumed.trans sent)
  refine ⟨_, ran, bothSent_second ready fits ?_ (Nat.le_refl _) ?_ ?_ ?_⟩
  · simp [heap]
  · simp [heap]
  · simp [heap, frame]
  · simp [heap]

/-- The transmission with the interrupt between the box and the descriptor's address. -/
theorem interrupted_boxed (ready : kernel.Ready nic) (transmission : Transmission)
    (fits : transmission.Fits) :
    ∃ after, transmission.interrupted kernel transmission.addressed = some after ∧
      BothSent kernel nic (transmission.frame nic.macAddress) after := by
  obtain ⟨first, second, found, next⟩ := ready.slots
  have free : ∀ box, (nic.published first box 60).txRing[
      (nic.published first box 60).currentTxBucket]? = some second :=
    fun box => E1000.handed_next first next box 60
  obtain ⟨locals, boxed, box⟩ := run_leaked ready transmission
  obtain ⟨heap, grown⟩ : ∃ heap, kernel.heap ++ [transmission.frame nic.macAddress] = heap :=
    ⟨_, rfl⟩
  rw [grown] at boxed
  obtain ⟨console, entered⟩ := Kernel.enter_eq { kernel with heap := heap } ready.card found
  obtain ⟨shown, final, sent⟩ := run_boxed
    (kernel.put (nic.published first heap.length 60) (heap ++ [Kernel.udpBroadcastFrame]) console)
    rfl (free _) transmission locals
  have parts : transmission.statements = (transmission.building ++ [.leak]) ++
      (Transmission.publishing transmission.length ++ transmission.reporting) := by
    rw [Transmission.statements, List.append_assoc]
    rfl
  have length : transmission.addressed = (transmission.building ++ [Statement.leak]).length := by
    rw [List.length_append]
    rfl
  obtain ⟨taken, dropped⟩ := statements_split parts length
  refine ⟨_, interrupted_eq taken dropped boxed entered sent,
    bothSent_second ready fits ?_ ?_ ?_ ?_ ?_⟩
  · exact Nat.le_of_eq box.symm
  · simp [← grown]
  · simp [← grown, box]
  · simp [← grown, box, Kernel.put]
  · simp [← grown, Kernel.put]

/-- The transmission with the interrupt before the descriptor's address is
computed. -/
theorem interrupted_early (ready : kernel.Ready nic) (transmission : Transmission)
    (fits : transmission.Fits) {point : Nat} (early : point ≤ transmission.addressed) :
    ∃ after, transmission.interrupted kernel point = some after ∧
      BothSent kernel nic (transmission.frame nic.macAddress) after := by
  rcases Nat.lt_or_eq_of_le early with building | rfl
  · exact interrupted_building ready transmission fits (Nat.le_of_lt_succ building)
  · exact interrupted_boxed ready transmission fits

/-- The transmission took the first slot, the broadcast the second, and its frame was
boxed behind that of the transmission. -/
theorem bothSent_appended (ready : kernel.Ready nic) {transmission : Transmission}
    (fits : transmission.Fits) {first second : TxDescriptor} {after : Kernel} {next : E1000}
    {mainBox : BoxAddress} (box : mainBox = kernel.heap.length) (card : after.netCard = some next)
    (ring : next.txRing = ((nic.published first mainBox transmission.length).published second
      (kernel.heap ++ [transmission.frame nic.macAddress]).length 60).txRing)
    (tail : next.registers 0x3818 = ((nic.currentTxBucket + 1) % 8 + 1) % 8)
    (heap : after.heap =
      kernel.heap ++ [transmission.frame nic.macAddress] ++ [Kernel.udpBroadcastFrame]) :
    BothSent kernel nic (transmission.frame nic.macAddress) after := by
  have whole := (transmission.length_eq_iff nic.macAddress).mpr fits
  have sum : ((nic.currentTxBucket + 1) % 8 + 1) % 8 = (nic.currentTxBucket + 2) % 8 :=
    Nat.mod_add_mod ..
  refine bothSent_of_ring ready card ring (tail.trans sum) ⟨rfl, rfl⟩ (Nat.le_of_eq box.symm) ?_ ?_
    (Or.inl ⟨?_, whole, ?_, udpBroadcastFrame_length.symm⟩)
  · simp
  · simp [box]
  · simp [heap, box]
  · simp [heap]

/-- The transmission with the interrupt between the advance of the index and the argument
for the tail register, which is then the index as the broadcast left it. -/
theorem interrupted_beforeTail (ready : kernel.Ready nic) (transmission : Transmission)
    (fits : transmission.Fits) :
    ∃ after, transmission.interrupted kernel transmission.advanced = some after ∧
      BothSent kernel nic (transmission.frame nic.macAddress) after := by
  obtain ⟨first, second, found, next⟩ := ready.slots
  obtain ⟨locals, boxed, box⟩ := run_leaked ready transmission
  have filled := run_filling
    { kernel with heap := kernel.heap ++ [transmission.frame nic.macAddress] } ready.card found locals
    transmission.length
  have parts : transmission.statements =
      (transmission.building ++ [.leak] ++ Transmission.filling transmission.length) ++
        ([.tailArgument, .tailPtr, .writeTail] ++ transmission.reporting) := by
    simp [Transmission.statements, Transmission.publishing]
  have length : transmission.advanced = (transmission.building ++ [Statement.leak] ++
      Transmission.filling transmission.length).length := by
    simp [Transmission.advanced, Transmission.filling]
  have begun : run Statement.exec (transmission.building ++ [Statement.leak] ++
        Transmission.filling transmission.length) (kernel, transmission.locals) =
      run Statement.exec (Transmission.filling transmission.length)
        ({ kernel with heap := kernel.heap ++ [transmission.frame nic.macAddress] }, locals) := by
    rw [run_append, boxed, Option.bind_some]
  obtain ⟨console, entered⟩ := Kernel.enter_eq { kernel with
    heap := kernel.heap ++ [transmission.frame nic.macAddress]
    netCard := some (nic.handed first locals.framePtr transmission.length) } rfl
      (E1000.handed_next first next _ _)
  obtain ⟨shown, reported⟩ := run_printing transmission.reporting_prints
    { kernel with
      netCard := some (((nic.handed first locals.framePtr transmission.length).published second
        (kernel.heap ++ [transmission.frame nic.macAddress]).length 60).writeRegister 0x3818
          (((nic.currentTxBucket + 1) % 8 + 1) % 8))
      heap := kernel.heap ++ [transmission.frame nic.macAddress] ++ [Kernel.udpBroadcastFrame]
      console := console }
    { locals with
      descriptorAddr := nic.txRingPtr + nic.currentTxBucket * 16
      value := ((nic.currentTxBucket + 1) % 8 + 1) % 8 }
  obtain ⟨taken, dropped⟩ := statements_split parts length
  exact ⟨_, interrupted_eq taken dropped (begun.trans filled) entered reported,
    bothSent_appended ready fits box rfl rfl (E1000.writeRegister_tail _ _) rfl⟩

/-- The transmission with the interrupt among the lines it prints. -/
theorem interrupted_reporting (ready : kernel.Ready nic) (transmission : Transmission)
    (fits : transmission.Fits) (printed : Nat) :
    ∃ after, transmission.interrupted kernel (transmission.stored + printed) = some after ∧
      BothSent kernel nic (transmission.frame nic.macAddress) after := by
  obtain ⟨first, second, found, next⟩ := ready.slots
  obtain ⟨locals, boxed, box⟩ := run_leaked ready transmission
  have parts : transmission.statements = (transmission.building ++ [.leak] ++
      Transmission.publishing transmission.length) ++ transmission.reporting := by
    simp [Transmission.statements]
  have length : transmission.stored + printed = (transmission.building ++ [Statement.leak] ++
      Transmission.publishing transmission.length).length + printed := by
    simp [Transmission.stored, Transmission.publishing, Transmission.filling]
  have taken : transmission.statements.take (transmission.stored + printed) =
      (transmission.building ++ [.leak] ++ Transmission.publishing transmission.length) ++
        transmission.reporting.take printed := by
    rw [parts, length, List.take_length_add_append]
  have dropped : transmission.statements.drop (transmission.stored + printed) =
      transmission.reporting.drop printed := by
    rw [parts, length, List.drop_length_add_append]
  have published := run_publishing
    { kernel with heap := kernel.heap ++ [transmission.frame nic.macAddress] } ready.card found locals
    transmission.length
  obtain ⟨shown, reporting⟩ := run_printing
    (fun statement member => transmission.reporting_prints statement
      (List.mem_of_mem_take (i := printed) member))
    { kernel with
      heap := kernel.heap ++ [transmission.frame nic.macAddress]
      netCard := some (nic.published first locals.framePtr transmission.length) }
    { locals with
      descriptorAddr := nic.txRingPtr + nic.currentTxBucket * 16
      value := (nic.currentTxBucket + 1) % 8 }
  have begun : run Statement.exec (transmission.building ++ [Statement.leak] ++
        Transmission.publishing transmission.length ++ transmission.reporting.take printed)
        (kernel, transmission.locals) =
      run Statement.exec (transmission.reporting.take printed)
        ({ kernel with
          heap := kernel.heap ++ [transmission.frame nic.macAddress]
          netCard := some (nic.published first locals.framePtr transmission.length) },
        { locals with
          descriptorAddr := nic.txRingPtr + nic.currentTxBucket * 16
          value := (nic.currentTxBucket + 1) % 8 }) := by
    rw [run_append, run_append, boxed, Option.bind_some, published, Option.bind_some]
  obtain ⟨console, entered⟩ := Kernel.enter_eq { kernel with
    heap := kernel.heap ++ [transmission.frame nic.macAddress]
    netCard := some (nic.published first locals.framePtr transmission.length)
    console := shown } rfl (E1000.handed_next first next _ _)
  obtain ⟨final, reported⟩ := run_printing
    (fun statement member => transmission.reporting_prints statement
      (List.mem_of_mem_drop (i := printed) member))
    { kernel with
      netCard := some ((nic.published first locals.framePtr transmission.length).published second
        (kernel.heap ++ [transmission.frame nic.macAddress]).length 60)
      heap := kernel.heap ++ [transmission.frame nic.macAddress] ++ [Kernel.udpBroadcastFrame]
      console := console }
    { locals with
      descriptorAddr := nic.txRingPtr + nic.currentTxBucket * 16
      value := (nic.currentTxBucket + 1) % 8 }
  exact ⟨_, interrupted_eq taken dropped (begun.trans reporting) entered reported,
    bothSent_appended ready fits box rfl rfl (E1000.writeRegister_tail _ _) rfl⟩

/-- With the interrupt between the argument for the tail register and the store, the store
takes the tail back to the second of the two descriptors. -/
theorem interrupted_stale (ready : kernel.Ready nic) (transmission : Transmission) {point : Nat}
    (read : transmission.advanced < point) (unstored : point < transmission.stored)
    {after : Kernel} (interrupted : transmission.interrupted kernel point = some after) :
    ¬ BothSent kernel nic (transmission.frame nic.macAddress) after := by
  obtain ⟨turn, rfl⟩ : ∃ turn, point = transmission.advanced + 1 + turn :=
    ⟨_, (Nat.add_sub_cancel' read).symm⟩
  have few : turn < 2 := by
    simp only [Transmission.advanced, Transmission.stored] at unstored
    omega
  obtain ⟨first, second, found, next⟩ := ready.slots
  obtain ⟨locals, boxed, box⟩ := run_leaked ready transmission
  have filled := run_filling
    { kernel with heap := kernel.heap ++ [transmission.frame nic.macAddress] } ready.card found locals
    transmission.length
  have parts : transmission.statements =
      (transmission.building ++ [.leak] ++ Transmission.filling transmission.length ++
        [.tailArgument] ++ [.tailPtr].take turn) ++
      ([.tailPtr].drop turn ++ .writeTail :: transmission.reporting) := by
    rw [List.append_assoc _ ([Statement.tailPtr].take turn),
      ← List.append_assoc ([Statement.tailPtr].take turn), List.take_append_drop]
    simp [Transmission.statements, Transmission.publishing]
  have length : transmission.advanced + 1 + turn =
      (transmission.building ++ [Statement.leak] ++ Transmission.filling transmission.length ++
        [Statement.tailArgument] ++ [Statement.tailPtr].take turn).length := by
    simp [Transmission.advanced, Transmission.filling]
    omega
  obtain ⟨taken, dropped⟩ := statements_split parts length
  -- the cast may stand on either side of the interrupt
  have casts : ∀ state, run Statement.exec ([Statement.tailPtr].take turn) state = some state ∧
      run Statement.exec ([Statement.tailPtr].drop turn) state = some state := by
    intro state
    match turn, few with
    | 0, _ => exact ⟨rfl, rfl⟩
    | 1, _ => exact ⟨rfl, rfl⟩
  obtain ⟨middle, halfway⟩ : ∃ middle, middle = { kernel with
      heap := kernel.heap ++ [transmission.frame nic.macAddress]
      netCard := some (nic.handed first locals.framePtr transmission.length) } := ⟨_, rfl⟩
  obtain ⟨held, holding⟩ : ∃ held, held = { locals with
      descriptorAddr := nic.txRingPtr + nic.currentTxBucket * 16
      value := (nic.currentTxBucket + 1) % 8 } := ⟨_, rfl⟩
  have card : middle.netCard = some (nic.handed first locals.framePtr transmission.length) := by
    rw [halfway]
  have begun : run Statement.exec (transmission.building ++ [.leak] ++
      Transmission.filling transmission.length ++ [.tailArgument] ++ [.tailPtr].take turn)
      (kernel, transmission.locals) = some (middle, held) := by
    rw [run_append, run_append, run_append, boxed, Option.bind_some, filled, Option.bind_some,
      run_cons, Statement.exec]
    dsimp only [Option.bind_eq_bind, Option.bind_some, run_nil]
    rw [(casts _).1, halfway, holding]
    rfl
  obtain ⟨console, entered⟩ := Kernel.enter_eq middle card (E1000.handed_next first next _ _)
  obtain ⟨shown, reported⟩ := run_printing transmission.reporting_prints
    (middle.put (((nic.handed first locals.framePtr transmission.length).published second
      middle.heap.length 60).writeRegister 0x3818 ((nic.currentTxBucket + 1) % 8))
      (middle.heap ++ [Kernel.udpBroadcastFrame]) console) held
  have resumed : run Statement.exec ([.tailPtr].drop turn ++ .writeTail :: transmission.reporting)
      (middle.put ((nic.handed first locals.framePtr transmission.length).published second
        middle.heap.length 60) (middle.heap ++ [Kernel.udpBroadcastFrame]) console, held) =
      run Statement.exec transmission.reporting
        (middle.put (((nic.handed first locals.framePtr transmission.length).published second
          middle.heap.length 60).writeRegister 0x3818 ((nic.currentTxBucket + 1) % 8))
          (middle.heap ++ [Kernel.udpBroadcastFrame]) console, held) := by
    rw [run_append, (casts _).2, Option.bind_some, run_cons, holding]
    rfl
  have ended := interrupted_eq taken dropped begun entered (resumed.trans reported)
  rw [ended, Option.some.injEq] at interrupted
  subst interrupted
  rintro ⟨final, last, -, -, tail⟩
  obtain rfl := Option.some.inj last
  rw [E1000.writeRegister_tail] at tail
  omega

/-- The transmission with the interrupt between the advance of the index and the argument
for the tail register, or behind the store. -/
theorem interrupted_late (ready : kernel.Ready nic) (transmission : Transmission)
    (fits : transmission.Fits) {point : Nat}
    (late : point = transmission.advanced ∨ transmission.stored ≤ point) :
    ∃ after, transmission.interrupted kernel point = some after ∧
      BothSent kernel nic (transmission.frame nic.macAddress) after := by
  rcases late with rfl | late
  · exact interrupted_beforeTail ready transmission fits
  · obtain ⟨printed, rfl⟩ := Nat.exists_eq_add_of_le late
    exact interrupted_reporting ready transmission fits printed

/-- The card may have changed anywhere but in its pointer and in the slot after
the one which the transmission has addressed. -/
structure Spared (nic card : E1000) (locals : Locals) : Prop where
  txRingPtr : card.txRingPtr = nic.txRingPtr
  next : card.txRing[(nic.currentTxBucket + 1) % 8]? = nic.txRing[(nic.currentTxBucket + 1) % 8]?
  addressed : locals.descriptorAddr = nic.txRingPtr + nic.currentTxBucket * 16

theorem store_spared {card changed : E1000} {locals : Locals} (spared : Spared nic card locals)
    {field : TxDescriptor → TxDescriptor}
    (stored : card.store locals.descriptorAddr field = some changed) :
    Spared nic changed locals ∧ changed.currentTxBucket = card.currentTxBucket := by
  cases found : card.txRing[nic.currentTxBucket]? with
  | none =>
    have same : (locals.descriptorAddr - card.txRingPtr) / 16 = nic.currentTxBucket := by
      rw [spared.addressed, spared.txRingPtr, Nat.add_sub_cancel_left,
        Nat.mul_div_cancel _ (by decide)]
    rw [E1000.store, same, found] at stored
    cases stored
  | some descriptor =>
    rw [spared.addressed, ← spared.txRingPtr, E1000.store_eq card found, Option.some.injEq] at stored
    subst stored
    refine ⟨⟨spared.txRingPtr, ?_, spared.addressed⟩, rfl⟩
    rw [List.getElem?_set_ne (Ne.symm (second_ne_first nic)), spared.next]

/-- Every statement but the one that computes the address spares the next slot. -/
theorem exec_spared {statement : Statement} {state result : Kernel × Locals} {card : E1000}
    (present : state.1.netCard = some card) (spared : Spared nic card state.2)
    (other : statement ≠ .descriptorAddr) (executed : Statement.exec state statement = some result) :
    ∃ changed, result.1.netCard = some changed ∧ Spared nic changed result.2 ∧
      (statement ≠ .advance → changed.currentTxBucket = card.currentTxBucket) := by
  have stores : ∀ field : TxDescriptor → TxDescriptor,
      ((card.store state.2.descriptorAddr field).bind fun nic =>
        some ({ state.1 with netCard := some nic }, state.2)) = some result →
      ∃ changed, result.1.netCard = some changed ∧ Spared nic changed result.2 ∧
        (statement ≠ .advance → changed.currentTxBucket = card.currentTxBucket) := by
    intro field bound
    obtain ⟨changed, stored, same⟩ := Option.bind_eq_some_iff.mp bound
    rw [Option.some.injEq] at same
    subst same
    obtain ⟨kept, bucket⟩ := store_spared spared stored
    exact ⟨changed, rfl, kept, fun _ => bucket⟩
  cases statement with
  | descriptorAddr => exact absurd rfl other
  | bufferAddress =>
    simp only [Statement.exec, present, Option.bind_eq_bind, Option.bind_some] at executed
    exact stores _ executed
  | length value =>
    simp only [Statement.exec, present, Option.bind_eq_bind, Option.bind_some] at executed
    exact stores _ executed
  | cmd =>
    simp only [Statement.exec, present, Option.bind_eq_bind, Option.bind_some] at executed
    exact stores _ executed
  | vec bytes =>
    simp only [Statement.exec, present, Option.bind_eq_bind, Option.bind_some,
      Option.some.injEq] at executed
    subst executed
    exact ⟨card, present, ⟨spared.txRingPtr, spared.next, spared.addressed⟩, fun _ => rfl⟩
  | advance =>
    simp only [Statement.exec, present, Option.bind_eq_bind, Option.bind_some,
      Option.some.injEq] at executed
    subst executed
    exact ⟨_, rfl, ⟨spared.txRingPtr, spared.next, spared.addressed⟩,
      fun notAdvance => absurd rfl notAdvance⟩
  | tailArgument =>
    simp only [Statement.exec, present, Option.bind_eq_bind, Option.bind_some,
      Option.some.injEq] at executed
    subst executed
    exact ⟨card, present, ⟨spared.txRingPtr, spared.next, spared.addressed⟩, fun _ => rfl⟩
  | writeTail =>
    simp only [Statement.exec, present, Option.bind_eq_bind, Option.bind_some,
      Option.some.injEq] at executed
    subst executed
    exact ⟨_, rfl, ⟨spared.txRingPtr, spared.next, spared.addressed⟩, fun _ => rfl⟩
  | resize =>
    cases executed
    exact ⟨card, present, ⟨spared.txRingPtr, spared.next, spared.addressed⟩, fun _ => rfl⟩
  | leak =>
    cases executed
    exact ⟨card, present, ⟨spared.txRingPtr, spared.next, spared.addressed⟩, fun _ => rfl⟩
  | descriptorPtr | tailPtr =>
    cases executed
    exact ⟨card, present, ⟨spared.txRingPtr, spared.next, spared.addressed⟩, fun _ => rfl⟩
  | print text color =>
    cases executed
    exact ⟨card, present, spared, fun _ => rfl⟩

theorem run_spared {statements : List Statement} {state result : Kernel × Locals} {card : E1000}
    (present : state.1.netCard = some card) (spared : Spared nic card state.2)
    (others : .descriptorAddr ∉ statements)
    (ran : run Statement.exec statements state = some result) :
    ∃ changed, result.1.netCard = some changed ∧ Spared nic changed result.2 ∧
      (.advance ∉ statements → changed.currentTxBucket = card.currentTxBucket) := by
  induction statements generalizing state card with
  | nil =>
    cases ran
    exact ⟨card, present, spared, fun _ => rfl⟩
  | cons statement rest ih =>
    rw [run_cons, Option.bind_eq_some_iff] at ran
    obtain ⟨middle, executed, ran⟩ := ran
    rw [List.mem_cons, not_or] at others
    obtain ⟨changed, kept, sparedMiddle, bucket⟩ :=
      exec_spared present spared (Ne.symm others.1) executed
    obtain ⟨final, last, sparedFinal, later⟩ := ih kept sparedMiddle others.2 ran
    refine ⟨final, last, sparedFinal, ?_⟩
    intro never
    rw [List.mem_cons, not_or] at never
    rw [later never.2, bucket (Ne.symm never.1)]

/-- The broadcast goes into the slot of the index. -/
theorem enter_spared {entered : Kernel} {card : E1000} {locals : Locals}
    (present : kernel.netCard = some card) (spared : Spared nic card locals)
    (bucket : card.currentTxBucket = nic.currentTxBucket) (enters : kernel.enter = some entered) :
    ∃ changed, entered.netCard = some changed ∧ Spared nic changed locals := by
  cases found : card.txRing[card.currentTxBucket]? with
  | none =>
    simp only [Kernel.enter, Kernel.terminalPrint, present, Kernel.udpBroadcast, Kernel.transmit,
      E1000.transmit, found, Option.bind_eq_bind, Option.bind_some, Option.bind_none] at enters
    cases enters
  | some descriptor =>
    obtain ⟨console, put⟩ := Kernel.enter_eq kernel present found
    rw [put, Option.some.injEq] at enters
    subst enters
    refine ⟨_, rfl, spared.txRingPtr, ?_, spared.addressed⟩
    change (card.txRing.set card.currentTxBucket _)[_]? = _
    rw [bucket, List.getElem?_set_ne (Ne.symm (second_ne_first nic)), spared.next]

/-- A slot that is left alone cannot carry a frame which is boxed only now. -/
theorem not_bothSent (ready : kernel.Ready nic) {after : Kernel} {next : E1000}
    (card : after.netCard = some next)
    (same : next.txRing[(nic.currentTxBucket + 1) % 8]? =
      nic.txRing[(nic.currentTxBucket + 1) % 8]?) (frame : List UInt8) :
    ¬ BothSent kernel nic frame after := by
  rintro ⟨other, otherCard, ⟨mainBox, udpBox, mainFresh, udpFresh, -, carried⟩, -, -⟩
  rw [card, Option.some.injEq] at otherCard
  subst otherCard
  have stale : ∀ box contents, kernel.heap.length ≤ box →
      ¬ next.Carries after.heap ((nic.currentTxBucket + 1) % 8) box contents := by
    rintro box contents fresh ⟨-, descriptor, found, address, -⟩
    rw [same] at found
    obtain ⟨old, held, -⟩ := ready.transmit.buffers descriptor (List.mem_of_getElem? found)
    obtain ⟨inside, -⟩ := List.getElem?_eq_some_iff.mp held
    rw [address] at inside
    exact absurd inside (Nat.not_lt.mpr fresh)
  rcases carried with ⟨-, udp⟩ | ⟨main, -⟩
  · exact stale udpBox _ udpFresh udp
  · exact stale mainBox _ mainFresh main

/-- With the interrupt between the computation of the address and the advance of
the index both frames go for one slot, and an unfilled one is published. -/
theorem interrupted_between (ready : kernel.Ready nic) (transmission : Transmission) {point : Nat}
    (addressed : transmission.addressed < point) (unadvanced : point < transmission.advanced)
    {after : Kernel} (interrupted : transmission.interrupted kernel point = some after) :
    ¬ BothSent kernel nic (transmission.frame nic.macAddress) after := by
  obtain ⟨turn, rfl⟩ : ∃ turn, point = transmission.addressed + 1 + turn :=
    ⟨_, (Nat.add_sub_cancel' addressed).symm⟩
  have few : turn < 5 := by
    simp only [Transmission.addressed, Transmission.advanced] at unadvanced
    omega
  obtain ⟨rest, tail⟩ : ∃ rest, rest = [Statement.descriptorPtr, .bufferAddress,
      .length transmission.length, .cmd, .advance, .tailArgument, .tailPtr, .writeTail] ++
        transmission.reporting := ⟨_, rfl⟩
  have parts : transmission.statements =
      (transmission.building ++ [.leak] ++ [.descriptorAddr]) ++ rest := by
    rw [tail]
    simp [Transmission.statements, Transmission.publishing, Transmission.filling]
  have length : transmission.addressed + 1 + turn = (transmission.building ++ [Statement.leak] ++
      [Statement.descriptorAddr]).length + turn := by
    simp [Transmission.addressed]
  have others : .descriptorAddr ∉ rest := by
    rw [tail]
    intro member
    simp only [List.mem_append, List.mem_cons, List.not_mem_nil, reduceCtorEq, or_self,
      false_or] at member
    obtain ⟨text, color, same⟩ := transmission.reporting_prints _ member
    cases same
  have early : .advance ∉ rest.take turn := by
    rw [tail]
    intro member
    have within := (List.take_sublist_take_left (Nat.le_of_lt_succ few)).subset member
    simp at within
  obtain ⟨locals, boxed, -⟩ := run_leaked ready transmission
  have begun : run Statement.exec (transmission.building ++ [.leak] ++ [.descriptorAddr] ++
        rest.take turn) (kernel, transmission.locals) = run Statement.exec (rest.take turn)
      ({ kernel with heap := kernel.heap ++ [transmission.frame nic.macAddress] },
        { locals with descriptorAddr := nic.txRingPtr + nic.currentTxBucket * 16 }) := by
    rw [run_append, run_append, boxed]
    simp only [Option.bind_some, run_cons, run_nil, Statement.exec, ready.card,
      Option.bind_eq_bind]
  simp only [Transmission.interrupted, parts, length, List.take_length_add_append,
    List.drop_length_add_append, begun, Option.bind_eq_bind, Option.bind_eq_some_iff] at interrupted
  obtain ⟨⟨middle, held⟩, started, entered, enters, ⟨final, last⟩, finished, same⟩ := interrupted
  rw [Option.some.injEq] at same
  subst same
  have whole : Spared nic nic { locals with
      descriptorAddr := nic.txRingPtr + nic.currentTxBucket * 16 } := ⟨rfl, rfl, rfl⟩
  obtain ⟨card, present, spared, bucket⟩ := run_spared ready.card whole
    (fun member => others (List.mem_of_mem_take member)) started
  obtain ⟨changed, kept, sparedToo⟩ := enter_spared present spared (bucket early) enters
  have resumed : (entered, held).1.netCard = some changed := kept
  obtain ⟨next, done, sparedStill, -⟩ := run_spared resumed sparedToo
    (fun member => others (List.mem_of_mem_drop member)) finished
  exact not_bothSent ready done sparedStill.next _

/-- A frame that is carried fits a descriptor's length field. -/
theorem fits_of_bothSent {transmission : Transmission} {after : Kernel}
    (sent : BothSent kernel nic (transmission.frame nic.macAddress) after) : transmission.Fits := by
  cases transmission with
  | injectFrame frame =>
    obtain ⟨next, -, ⟨mainBox, udpBox, -, -, -, carried⟩, -, -⟩ := sent
    have short : ∀ slot, next.Carries after.heap slot mainBox frame → frame.length < 2 ^ 16 := by
      rintro slot ⟨-, descriptor, -, -, length, -⟩
      rw [← length]
      exact descriptor.length.toNat_lt
    rcases carried with ⟨main, -⟩ | ⟨main, -⟩
    · exact short _ main
    · exact short _ main
  | arpRequest targetIp => trivial
  | arpReply senderMac senderIp => trivial
  | udpBroadcast => trivial

/-- For every kernel that serves the network, every path and every point at which
the interrupt fires: both frames are sent exactly if the frame's length fits the
descriptor and the interrupt falls neither between the computation of the descriptor's
address and the advance of the index nor between the argument for the tail register and
the store. -/
theorem interrupted_bothSent_iff (ready : kernel.Ready nic) (transmission : Transmission)
    (point : Nat) :
    (∃ after, transmission.interrupted kernel point = some after ∧
      BothSent kernel nic (transmission.frame nic.macAddress) after) ↔
    transmission.Fits ∧ (point ≤ transmission.addressed ∨ point = transmission.advanced ∨
      transmission.stored ≤ point) := by
  constructor
  · rintro ⟨after, interrupted, sent⟩
    refine ⟨fits_of_bothSent sent, ?_⟩
    by_contra between
    rw [not_or, not_or, Nat.not_le, Nat.not_le] at between
    obtain ⟨addressed, other, unstored⟩ := between
    rcases Nat.lt_or_gt_of_ne other with unadvanced | advanced
    · exact interrupted_between ready transmission addressed unadvanced interrupted sent
    · exact interrupted_stale ready transmission advanced unstored interrupted sent
  · rintro ⟨fits, early | late⟩
    · exact interrupted_early ready transmission fits early
    · exact interrupted_late ready transmission fits late

theorem interrupted_bothSent_iff_driveless :
    (∃ after, (Transmission.arpRequest #v[10, 0, 2, 2]).interrupted Boot.driveless.kernel 3 =
        some after ∧ BothSent Boot.driveless.kernel Boot.driveless.card
          ((Transmission.arpRequest #v[10, 0, 2, 2]).frame Boot.driveless.card.macAddress) after) ↔
    (Transmission.arpRequest #v[10, 0, 2, 2]).Fits ∧
      (3 ≤ (Transmission.arpRequest #v[10, 0, 2, 2]).addressed ∨
        3 = (Transmission.arpRequest #v[10, 0, 2, 2]).advanced ∨
        (Transmission.arpRequest #v[10, 0, 2, 2]).stored ≤ 3) :=
  interrupted_bothSent_iff Boot.driveless.kernel_ready _ 3

/-- Enter between the computation of the address and the first store of the ARP
request at boot. -/
theorem interrupted_arpRequest :
    ¬ ∃ after, (Transmission.arpRequest #v[10, 0, 2, 2]).interrupted Boot.driveless.kernel 4 =
        some after ∧ BothSent Boot.driveless.kernel Boot.driveless.card
          ((Transmission.arpRequest #v[10, 0, 2, 2]).frame Boot.driveless.card.macAddress) after := by
  rintro ⟨after, interrupted, sent⟩
  exact interrupted_between Boot.driveless.kernel_ready _ (by decide) (by decide) interrupted sent

end QoreOS.Network
