import Mathlib.Logic.Function.Basic
import QoreOS.Library.Program
import QoreOS.Storage.Nvme

/-! What a driver does during start-up, action by action. Nothing is assumed
about the hardware: it may answer each read with any value, and the heap may
refuse any request. -/

namespace QoreOS.Startup

open QoreOS.Library QoreOS.Storage

/-- What `alloc_zeroed` returns when it serves a request. -/
abbrev Address := { address : Nat // address ≠ 0 }

inductive Action where
  | writeReg (offset value : Nat)
  | alloc (size address : Nat)
  | load (pointer offset : Nat)
  | store (pointer offset value : Nat)
  | submit (pointer index : Nat) (command : NvmeCmd)
  | print (text : String) (color : UInt32)
  deriving DecidableEq

/-- The pointer through which an action reads or writes memory. -/
def Action.through : Action → Option Nat
  | .load pointer _ => some pointer
  | .store pointer _ _ => some pointer
  | .submit pointer _ _ => some pointer
  | _ => none

/-- What a driver will meet: the values that the reads of each register will
return in their order, the status words to be read from the completion queue,
what the device leaves in the pages given to it, and the addresses allocated
(null where a request is refused). -/
structure Answers where
  registers : Nat → Nat → UInt32
  statuses : Nat → UInt16
  pages : Nat → Nat → UInt8
  addresses : Nat → Nat

/-- One device and its driver: what is still to be met, and what has been done. -/
structure Port extends Answers where
  trace : List Action

namespace Port

def record (port : Port) (action : Action) : Port := { port with trace := port.trace ++ [action] }

def perform (action : Action) : Program Port Unit := .act fun port => ((), port.record action)

def readReg (offset : Nat) : Program Port UInt32 := .act fun port =>
  (port.registers offset 0, { port with
    registers := Function.update port.registers offset fun turn => port.registers offset (turn + 1) })

def writeReg (offset value : Nat) : Program Port Unit := perform (.writeReg offset value)

def load (pointer offset : Nat) : Program Port Unit := perform (.load pointer offset)

def store (pointer offset value : Nat) : Program Port Unit := perform (.store pointer offset value)

def terminalPrint (text : String) (color : UInt32) : Program Port Unit := perform (.print text color)

/-- `alloc_zeroed` for memory which only the device reads, or only the driver. -/
def allocZeroed (size : Nat) : Program Port Nat := .act fun port =>
  (port.addresses 0, { port.record (.alloc size (port.addresses 0)) with
    addresses := fun call => port.addresses (call + 1) })

/-- A page for the device to fill, with what will be found in it. -/
def allocPage : Program Port (Nat × (Nat → UInt8)) := .act fun port =>
  ((port.addresses 0, port.pages 0), { port.record (.alloc 4096 (port.addresses 0)) with
    addresses := fun call => port.addresses (call + 1)
    pages := fun call => port.pages (call + 1) })

/-- The status word of the completion entry at an index. -/
def loadStatus (pointer index : Nat) : Program Port UInt16 := .act fun port =>
  (port.statuses 0, { port.record (.load pointer (index * 16 + 14)) with
    statuses := fun turn => port.statuses (turn + 1) })

/-- `(queue[index].status & 0x01) != 0` -/
def completed (pointer index : Nat) : Program Port Bool := do
  let status ← loadStatus pointer index
  return status &&& 0x01 != 0

end Port

end QoreOS.Startup
