import QoreOS.Network.Packet

/-! One turn of the receive loop: `E1000::poll` on the content of `NET_CARD`. -/

namespace QoreOS.Network

open QoreOS.Library

/-- `{:04X}` -/
def upperHex (value : UInt16) : String :=
  String.ofList (([12, 8, 4, 0].map fun shift =>
    (Nat.digitChar ((value.toNat >>> shift) &&& 0xF)).toUpper))

namespace Kernel

/-- The slice `poll` is about to handle; the inner `none` says that the
current descriptor is not done. -/
def packetSlice (kernel : Kernel) (nic : E1000) : Option (Option (List UInt8)) := do
  let descriptor ← nic.rxRing[nic.currentRxBucket]?
  if descriptor.status &&& 1 ≠ 0 then
    let buffer ← kernel.heap[descriptor.bufferAddress]?
    let packetSlice ← slice buffer 0 descriptor.length.toNat
    some (some packetSlice)
  else some none

def arpMessage (targetIp : Ip) : String :=
  s!"> NET: ROUTER ASKING FOR IP {targetIp.get 0}.{targetIp.get 1}." ++
    s!"{targetIp.get 2}.{targetIp.get 3}\n"

/-- The branch of `poll` for EtherType `0x0806`. -/
def handleArp (kernel : Kernel) (packetSlice : List UInt8) : Option Kernel := do
  let hardwareType := be16 (← packetSlice[14]?) (← packetSlice[15]?)
  let protocolType := be16 (← packetSlice[16]?) (← packetSlice[17]?)
  let opcode := be16 (← packetSlice[20]?) (← packetSlice[21]?)
  if hardwareType = 1 ∧ protocolType = 0x0800 then
    let senderMac := Mac.of (← packetSlice[22]?) (← packetSlice[23]?) (← packetSlice[24]?)
      (← packetSlice[25]?) (← packetSlice[26]?) (← packetSlice[27]?)
    let senderIp := Ip.of (← packetSlice[28]?) (← packetSlice[29]?) (← packetSlice[30]?)
      (← packetSlice[31]?)
    let targetIp := Ip.of (← packetSlice[38]?) (← packetSlice[39]?) (← packetSlice[40]?)
      (← packetSlice[41]?)
    let kernel := { kernel with arpTable := kernel.arpTable.insert senderIp senderMac }
    if opcode = 1 then
      let kernel := kernel.terminalPrint (arpMessage targetIp) 0xF59E0B
      if targetIp = .of 10 0 2 15 then
        let kernel := kernel.terminalPrint "> NET: THAT IS US! TRANSMITTING ARP REPLY...\n" 0x10B981
        kernel.arpReply senderMac senderIp
      else some kernel
    else some kernel
  else some kernel

/-- What `poll` does with a received frame before it gives the descriptor back. -/
def dispatch (kernel : Kernel) (packetSlice : List UInt8) : Option Kernel := do
  let ethertype := be16 (← packetSlice[12]?) (← packetSlice[13]?)
  let kernel := kernel.terminalPrint
    (s!"> NET [RAW]: HARDWARE TRIGGERED! LEN: {packetSlice.length} " ++
      s!"ETHERTYPE: 0x{upperHex ethertype}\n") 0x8B5CF6
  if ethertype = 0x0806 then kernel.handleArp packetSlice
  else if ethertype = 0x0800 then kernel.handleIncomingPacket packetSlice
  else some kernel

end Kernel

/-- Clear the handled descriptor, step the index, move the tail behind it. -/
def E1000.release (nic : E1000) (bucket : Nat) : Option E1000 := do
  let descriptor ← nic.rxRing[bucket]?
  let oldBucket := nic.currentRxBucket
  let nic := { nic with
    rxRing := nic.rxRing.set bucket { descriptor with status := 0 }
    currentRxBucket := (nic.currentRxBucket + 1) % 32 }
  some (nic.writeRegister 0x2818 oldBucket)

/-- The card after `poll` has given back its current descriptor. -/
def E1000.released (nic : E1000) (descriptor : RxDescriptor) : E1000 :=
  { nic with
    rxRing := nic.rxRing.set nic.currentRxBucket { descriptor with status := 0 }
    currentRxBucket := (nic.currentRxBucket + 1) % 32
    registers := Function.update nic.registers 0x2818 nic.currentRxBucket }

theorem E1000.release_current {nic : E1000} {descriptor : RxDescriptor}
    (current : nic.rxRing[nic.currentRxBucket]? = some descriptor) :
    nic.release nic.currentRxBucket = some (nic.released descriptor) := by
  simp only [E1000.release, current, Option.bind_eq_bind, Option.bind_some]
  rfl

theorem E1000.released_registers (nic : E1000) (descriptor : RxDescriptor) {offset : Nat}
    (apart : offset ≠ 0x2818) : (nic.released descriptor).registers offset = nic.registers offset :=
  Function.update_of_ne apart _ _

def Kernel.poll (kernel : Kernel) : Option (Bool × Kernel) := do
  let nic ← kernel.netCard
  let bucket := nic.currentRxBucket
  match ← kernel.packetSlice nic with
  | some packetSlice =>
    let kernel ← kernel.dispatch packetSlice
    -- `self` is `NET_CARD`'s content, so what the reply changed is seen here
    let nic ← kernel.netCard
    let nic ← nic.release bucket
    some (true, { kernel with netCard := some nic })
  | none => some (false, kernel)

end QoreOS.Network
