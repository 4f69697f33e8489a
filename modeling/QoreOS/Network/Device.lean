import QoreOS.Library.Run
import QoreOS.Network.Poll
import QoreOS.Storage.Fat32

/-! The hardware side of the card, and the kernel and the card as one system
whose steps come in any order. -/

namespace QoreOS.Network

open QoreOS.Library QoreOS.Storage

namespace E1000

/-- The card fills the descriptor at its head unless head and tail meet. Frames
longer than a buffer are discarded: `RCTL` leaves long packets disabled. -/
def accepts (nic : E1000) (frame : List UInt8) : Bool :=
  nic.registers 0x2810 != nic.registers 0x2818 && decide (frame.length ≤ 2048)

def receive (nic : E1000) (heap : List (List UInt8)) (frame : List UInt8) :
    Option (E1000 × List (List UInt8)) := do
  if nic.accepts frame then
    let head := nic.registers 0x2810
    let descriptor ← nic.rxRing[head]?
    let buffer ← heap[descriptor.bufferAddress]?
    let filled := { descriptor with
      length := UInt16.ofNat frame.length
      status := descriptor.status ||| 1 }
    let nic := { nic with rxRing := nic.rxRing.set head filled }
    some (nic.writeRegister 0x2810 ((head + 1) % (nic.registers 0x2808 / 16)),
      heap.set descriptor.bufferAddress (frame ++ buffer.drop frame.length))
  else some (nic, heap)

/-- The card puts the frame of the descriptor at its head on the wire and
reports the descriptor as done; it idles when head and tail meet. -/
def fetch (nic : E1000) (heap : List (List UInt8)) : Option (E1000 × List (List UInt8)) := do
  let head := nic.registers 0x3810
  if head = nic.registers 0x3818 then some (nic, [])
  else
    let descriptor ← nic.txRing[head]?
    let buffer ← heap[descriptor.bufferAddress]?
    let frame ← slice buffer 0 descriptor.length.toNat
    let done := { descriptor with status := descriptor.status ||| 1 }
    let nic := { nic with txRing := nic.txRing.set head done }
    some (nic.writeRegister 0x3810 ((head + 1) % (nic.registers 0x3808 / 16)), [frame])

end E1000

/-- What the kernel finds when it starts to serve the network. -/
structure Boot where
  bar0 : Nat
  registers : Nat → Nat
  heap : List (List UInt8)
  rxRingPtr : Nat
  txRingPtr : Nat
  console : List (String × UInt32)
  drive : Option (Nat → Sector)
  payload : String
  installed : sectorDataStr drive = some payload

/-- The card after `init_rx_ring` and `init_tx_ring`. -/
def Boot.card (boot : Boot) : E1000 :=
  ((E1000.new boot.bar0 boot.registers).initRxRing boot.heap boot.rxRingPtr).1.initTxRing
    boot.txRingPtr

def Boot.kernel (boot : Boot) : Kernel where
  netCard := some boot.card
  arpTable := ArpCache.new
  httpPayload := some boot.payload
  heap := ((E1000.new boot.bar0 boot.registers).initRxRing boot.heap boot.rxRingPtr).2
  console := boot.console

/-- A machine without a drive, whose card comes up with cleared registers. -/
def Boot.driveless : Boot where
  bar0 := 0xFEBC0000
  registers := fun _ => 0
  heap := []
  rxRingPtr := 0x200000
  txRingPtr := 0x201000
  console := []
  drive := none
  payload := ""
  installed := rfl

inductive Event where
  | receive (frame : List UInt8)
  | fetch
  | poll
  | udpBroadcast
  | arpRequest (targetIp : Ip)

def Kernel.step (kernel : Kernel) : Event → Option Kernel
  | .receive frame => do
    let nic ← kernel.netCard
    let (nic, heap) ← nic.receive kernel.heap frame
    some { kernel with netCard := some nic, heap := heap }
  | .fetch => do
    let nic ← kernel.netCard
    let (nic, _) ← nic.fetch kernel.heap
    some { kernel with netCard := some nic }
  | .poll => do
    let (_, kernel) ← kernel.poll
    some kernel
  | .udpBroadcast => kernel.udpBroadcast
  | .arpRequest targetIp => kernel.arpRequest targetIp

end QoreOS.Network
