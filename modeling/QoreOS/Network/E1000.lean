import Mathlib.Logic.Function.Basic
import QoreOS.Library.Bytes
import QoreOS.Network.ArpCache

/-! The network card and the part of the kernel its driver works on. -/

namespace QoreOS.Network

open QoreOS.Library

/-- A leaked box is never freed, so its number among all leaked boxes serves
as its address. -/
abbrev BoxAddress := Nat

structure RxDescriptor where
  bufferAddress : BoxAddress
  length : UInt16
  checksum : UInt16
  status : UInt8
  errors : UInt8
  special : UInt16
  deriving DecidableEq

structure TxDescriptor where
  bufferAddress : BoxAddress
  length : UInt16
  cso : UInt8
  cmd : UInt8
  status : UInt8
  css : UInt8
  special : UInt16
  deriving DecidableEq

/-- The driver's record, with the memory its pointers reach: `registers` behind
`bar0_address` and the two descriptor arrays. -/
structure E1000 where
  bar0Address : Nat
  registers : Nat → Nat
  rxRingPtr : Nat
  rxRing : List RxDescriptor
  currentRxBucket : Nat
  txRingPtr : Nat
  txRing : List TxDescriptor
  currentTxBucket : Nat
  macAddress : Mac

/-- What the driver and the packet code share. `console` lists the arguments
of the calls of `terminal_print`. -/
structure Kernel where
  netCard : Option E1000
  arpTable : ArpCache
  httpPayload : Option String
  heap : List (List UInt8)
  console : List (String × UInt32)

def Kernel.terminalPrint (kernel : Kernel) (text : String) (color : UInt32) : Kernel :=
  { kernel with console := kernel.console ++ [(text, color)] }

namespace E1000

/-- `registers` is what the card holds at power-on. -/
def new (bar0 : Nat) (registers : Nat → Nat) : E1000 where
  bar0Address := bar0
  registers := registers
  rxRingPtr := 0
  rxRing := []
  currentRxBucket := 0
  txRingPtr := 0
  txRing := []
  currentTxBucket := 0
  macAddress := .of 0x52 0x54 0x00 0x12 0x34 0x56

def readRegister (nic : E1000) (offset : Nat) : Nat := nic.registers offset

def writeRegister (nic : E1000) (offset value : Nat) : E1000 :=
  { nic with registers := Function.update nic.registers offset value }

/-- The ring is allocated at `ringPtr`, its 32 buffers behind the boxes in use. -/
def initRxRing (nic : E1000) (heap : List (List UInt8)) (ringPtr : Nat) :
    E1000 × List (List UInt8) :=
  let nic := nic.writeRegister 0x0000 (nic.readRegister 0x0000 ||| 1 <<< 6)
  let numDescriptors := 32
  let rxRing := (List.range numDescriptors).map fun bucket =>
    { bufferAddress := heap.length + bucket, length := 0, checksum := 0, status := 0, errors := 0,
      special := 0 }
  let nic := { nic with rxRing := rxRing, rxRingPtr := ringPtr }
  let nic := nic.writeRegister 0x2800 (ringPtr &&& 0xFFFFFFFF)
  let nic := nic.writeRegister 0x2808 (numDescriptors * 16)
  let nic := nic.writeRegister 0x2810 0
  let nic := nic.writeRegister 0x2818 (numDescriptors - 1)
  let mac := nic.macAddress
  let ral := (mac.get 0).toNat ||| (mac.get 1).toNat <<< 8 |||
    (mac.get 2).toNat <<< 16 ||| (mac.get 3).toNat <<< 24
  let rah := (mac.get 4).toNat ||| (mac.get 5).toNat <<< 8 ||| 1 <<< 31
  let nic := nic.writeRegister 0x5400 ral
  let nic := nic.writeRegister 0x5404 rah
  let nic := nic.writeRegister 0x0100 (1 <<< 1 ||| 1 <<< 3 ||| 1 <<< 4 ||| 1 <<< 15)
  (nic, heap ++ List.replicate numDescriptors (List.replicate 2048 0))

def initTxRing (nic : E1000) (ringPtr : Nat) : E1000 :=
  let numDescriptors := 8
  let txRing := List.replicate numDescriptors
    { bufferAddress := 0, length := 0, cso := 0, cmd := 0, status := 0, css := 0, special := 0 }
  let nic := { nic with txRing := txRing, txRingPtr := ringPtr }
  let nic := nic.writeRegister 0x3800 (ringPtr &&& 0xFFFFFFFF)
  let nic := nic.writeRegister 0x3808 (numDescriptors * 16)
  let nic := nic.writeRegister 0x3810 0
  let nic := nic.writeRegister 0x3818 0
  nic.writeRegister 0x0400 (1 <<< 1 ||| 1 <<< 3)

/-- The transmit sequence which four places of the source repeat: fill the
current descriptor with the leaked frame, step the index, write the tail. -/
def transmit (nic : E1000) (frame : BoxAddress) (length : UInt16) : Option E1000 := do
  let descriptor ← nic.txRing[nic.currentTxBucket]?
  let filled := { descriptor with
    bufferAddress := frame
    length := length
    cmd := (1 : UInt8) <<< 0 ||| (1 : UInt8) <<< 1 ||| (1 : UInt8) <<< 3 }
  let nic := { nic with
    txRing := nic.txRing.set nic.currentTxBucket filled
    currentTxBucket := (nic.currentTxBucket + 1) % 8 }
  some (nic.writeRegister 0x3818 nic.currentTxBucket)

end E1000

namespace Kernel

/-- `Box::leak` a frame and transmit it on a given card. -/
def transmit (kernel : Kernel) (nic : E1000) (frame : List UInt8) (length : UInt16) :
    Option Kernel := do
  let nic ← nic.transmit kernel.heap.length length
  some { kernel with netCard := some nic, heap := kernel.heap ++ [frame] }

/-- `frame.resize(60, 0)` -/
def resize (frame : List UInt8) (size : Nat) : List UInt8 :=
  frame.take size ++ List.replicate (size - frame.length) 0

def udpBroadcastFrame : List UInt8 :=
  [0xFF, 0xFF, 0xFF, 0xFF, 0xFF, 0xFF,
    0x52, 0x54, 0x00, 0x12, 0x34, 0x56,
    0x08, 0x00,
    0x45, 0x00, 0x00, 0x3A,
    0x00, 0x00, 0x40, 0x00,
    0x40, 0x11, 0x00, 0x00,
    10, 0, 2, 15,
    255, 255, 255, 255,
    0x1A, 0x0A,
    0x1A, 0x0B,
    0x00, 0x26,
    0x00, 0x00] ++ utf8 "QOREOS NODE ONLINE"

/-- The methods of a card take `NET_CARD`'s content as `self`; without a card
there is no call, which `none` records. -/
def udpBroadcast (kernel : Kernel) : Option Kernel := do
  let nic ← kernel.netCard
  let kernel ← kernel.transmit nic udpBroadcastFrame 60
  some (kernel.terminalPrint "\nSYS NET TX: UDP BROADCAST FIRED!\n" 0xEF4444)

/-- The frame before `resize` pads it. -/
def arpRequestBytes (macAddress : Mac) (targetIp : Ip) : List UInt8 :=
  [0xFF, 0xFF, 0xFF, 0xFF, 0xFF, 0xFF] ++ macAddress.toList ++
    [0x08, 0x06,
      0x00, 0x01,
      0x08, 0x00,
      0x06,
      0x04,
      0x00, 0x01] ++
    macAddress.toList ++
    [10, 0, 2, 15,
      0x00, 0x00, 0x00, 0x00, 0x00, 0x00] ++
    targetIp.toList

def arpRequestFrame (macAddress : Mac) (targetIp : Ip) : List UInt8 :=
  resize (arpRequestBytes macAddress targetIp) 60

def arpRequest (kernel : Kernel) (targetIp : Ip) : Option Kernel := do
  let nic ← kernel.netCard
  let kernel ← kernel.transmit nic (arpRequestFrame nic.macAddress targetIp) 60
  some (kernel.terminalPrint "\nNET: ARP Request Broadcasted to Network.\n" 0x3B82F6)

def qemuRouterHandshake (kernel : Kernel) : Option Kernel :=
  (kernel.terminalPrint "\n> NET: INITIATING QEMU ROUTER HANDSHAKE (10.0.2.2)...\n" 0xF59E0B).arpRequest
    (.of 10 0 2 2)

def arpReplyBytes (macAddress senderMac : Mac) (senderIp : Ip) : List UInt8 :=
  senderMac.toList ++ macAddress.toList ++
    [0x08, 0x06,
      0x00, 0x01,
      0x08, 0x00,
      0x06, 0x04,
      0x00, 0x02] ++
    macAddress.toList ++
    [10, 0, 2, 15] ++
    senderMac.toList ++
    senderIp.toList

def arpReplyFrame (macAddress senderMac : Mac) (senderIp : Ip) : List UInt8 :=
  resize (arpReplyBytes macAddress senderMac senderIp) 60

/-- The answer of `poll` to an ARP request for `10.0.2.15`. -/
def arpReply (kernel : Kernel) (senderMac : Mac) (senderIp : Ip) : Option Kernel := do
  let nic ← kernel.netCard
  kernel.transmit nic (arpReplyFrame nic.macAddress senderMac senderIp) 60

/-- `inject_frame` of the packet code; without a card the frame is dropped. -/
def injectFrame (kernel : Kernel) (frame : List UInt8) : Option Kernel :=
  match kernel.netCard with
  | some nic => kernel.transmit nic frame (UInt16.ofNat frame.length)
  | none => some kernel

end Kernel

end QoreOS.Network
