import QoreOS.Network.Handshake
import QoreOS.Runtime.Buffer
import QoreOS.Startup.Port

/-! The running kernel with its heap: receiving packets and serving the system
calls of the user program, with every allocation on the way. -/

namespace QoreOS.Runtime

open QoreOS.Library QoreOS.Network QoreOS.Storage

def heapSize : Nat := 32 * 1024 * 1024

/-- The code that asks for memory; `poll` stands for all it calls but
`inject_frame`. -/
inductive Caller where
  | readSector
  | poll
  | arpRequest
  | injectFrame
  | udpBroadcast
  | syscallHandler
  | mainLoop
  deriving DecidableEq

/-- The kernel, the content of `NVME_DRIVE`, the bytes in use, whose requests
for memory have been refused and which commands have been submitted. The
addresses to be allocated and the sectors to be read are met in their order. -/
structure System where
  kernel : Kernel
  drive : Option Nvme
  used : Nat
  refused : List Caller
  commands : List NvmeCmd
  addresses : Nat → Startup.Address
  sectors : Nat → Sector

namespace System

def look : Program System System := .act fun system => (system, system)

/-- One call of the allocator by code that aborts when it is refused. -/
def call (caller : Caller) (request : HeapCall) : Program System Unit := do
  let served ← .act fun system =>
    match request.serve heapSize system.used with
    | some used => (some (), { system with used := used })
    | none => (none, { system with refused := system.refused ++ [caller] })
  .orPanic served

def heap (caller : Caller) (calls : List HeapCall) : Program System Unit := calls.forM (call caller)

def nextAddress : Program System Nat := .act fun system =>
  ((system.addresses 0).val, { system with addresses := fun turn => system.addresses (turn + 1) })

/-- `alloc_zeroed` answers null when it is refused. -/
def allocZeroed (caller : Caller) (size : Nat) : Program System Nat := do
  let system ← look
  match (HeapCall.take size).serve heapSize system.used with
  | some used =>
    .act fun system => ((), { system with used := used })
    nextAddress
  | none => .act fun system => (0, { system with refused := system.refused ++ [caller] })

/-- A step of the kernel that takes no memory. -/
def onKernel (step : Kernel → Option Kernel) : Program System Unit := do
  let done ← .act fun system =>
    match step system.kernel with
    | some kernel => (some (), { system with kernel := kernel })
    | none => (none, system)
  .orPanic done

def terminalPrint (text : String) (color : UInt32) : Program System Unit :=
  onKernel fun kernel => some (kernel.terminalPrint text color)

/-- The drive gets a command and answers with what the driver then finds in
the buffer. -/
def submit (command : NvmeCmd) : Program System Sector := .act fun system =>
  (system.sectors 0, { system with
    commands := system.commands ++ [command]
    sectors := fun turn => system.sectors (turn + 1) })

def readSector (nvme : Nvme) (lba : UInt64) : Program System (Sector × Nvme) := do
  let dataPtr ← allocZeroed .readSector 4096
  let cmdIdx := nvme.iosqTail
  let sector ← submit (Nvme.readCommand cmdIdx dataPtr lba)
  return (sector, { nvme with
    iosqTail := (nvme.iosqTail + 1) % 16
    iocqHead := (nvme.iocqHead + 1) % 16 })

def injectFrame (frame : List UInt8) : Program System Unit := do
  let system ← look
  if system.kernel.netCard.isSome then
    heap .injectFrame [.take frame.length]
  onKernel (·.injectFrame frame)

def sendTcpSynAck (targetMac : Mac) (targetIp : Ip) (targetPort : UInt16) (clientSeq : UInt32) :
    Program System Unit := do
  let memory := Buffer.vec (34 + 24)
  heap .poll memory.calls
  let frame ← .orPanic (synAckFrame targetMac targetIp targetPort clientSeq)
  injectFrame frame
  terminalPrint "> NET: [SYN-ACK] TRANSMITTED TO HOST.\n" 0x3B82F6
  heap .poll memory.drop

variable (growth : Growth)

def httpText (httpPayload : Option String) : Buffer :=
  let fileContent := httpPayload.getD "ERROR: NO PAYLOAD FOUND IN RING-0 MEMORY"
  .format growth [
    .literal "HTTP/1.1 200 OK\r\nContent-Type: text/plain\r\nContent-Length: ",
    .argument (toString fileContent.utf8ByteSize),
    .literal "\r\nConnection: close\r\n\r\n",
    .argument fileContent]

def sendHttpResponse (targetMac : Mac) (targetIp : Ip) (targetPort : UInt16)
    (mySeq clientSeq clientDataLen : UInt32) : Program System Unit := do
  let system ← look
  let text := httpText growth system.kernel.httpPayload
  heap .poll text.calls
  let body := utf8 (Kernel.httpBody system.kernel.httpPayload)
  let memory := (Buffer.vec (34 + 20)).extend growth body.length
  heap .poll memory.calls
  let frame ← .orPanic
    (httpFrame targetMac targetIp targetPort mySeq (clientSeq + clientDataLen) body)
  injectFrame frame
  terminalPrint "> NET: HTTP 200 OK RESPONSE SERVED. SOCKET CLOSED.\n" 0x10B981
  heap .poll (memory.drop ++ text.drop)

def synText (peer : Peer) : Buffer :=
  .format growth [
    .literal "> NET: TCP [SYN] RCV'D. PORT ",
    .argument (toString peer.port),
    .literal " -> ",
    .argument (toString (80 : UInt16)),
    .literal "\n"]

/-- `handle_incoming_packet`, by what it reads in the packet. -/
def answer : Option Request → Program System Unit
  | none => pure ()
  | some (.syn peer sequence) => do
    let system ← look
    let text := synText growth peer
    heap .poll text.calls
    terminalPrint s!"> NET: TCP [SYN] RCV'D. PORT {peer.port} -> {(80 : UInt16)}\n" 0xF59E0B
    heap .poll text.drop
    sendTcpSynAck (system.kernel.targetMac peer.ip) peer.ip peer.port sequence
  | some (.get peer sequence acknowledgment length) => do
    let system ← look
    terminalPrint "> NET: HTTP [GET] REQUEST INTERCEPTED!\n" 0x10B981
    sendHttpResponse growth (system.kernel.targetMac peer.ip) peer.ip peer.port acknowledgment
      sequence (UInt32.ofNat length)

/-- The leaked frame of 60 bytes, from the shorter `vec!` that `resize` pads. -/
def arpFrame (length : Nat) : Buffer :=
  ((Buffer.vec length).extend growth (60 - length)).intoBoxedSlice

def arpRequest (nic : E1000) (targetIp : Ip) : Program System Unit := do
  heap .arpRequest (arpFrame growth (Kernel.arpRequestBytes nic.macAddress targetIp).length).calls
  onKernel (·.arpRequest targetIp)

/-- The fields of an ARP packet which `poll` looks at; a packet may be too short
for them. -/
structure ArpPacket where
  opcode : UInt16
  senderMac : Mac
  senderIp : Ip
  targetIp : Ip

def readArp (packetSlice : List UInt8) : Option (Option ArpPacket) := do
  let hardwareType := be16 (← packetSlice[14]?) (← packetSlice[15]?)
  let protocolType := be16 (← packetSlice[16]?) (← packetSlice[17]?)
  let opcode := be16 (← packetSlice[20]?) (← packetSlice[21]?)
  if hardwareType = 1 ∧ protocolType = 0x0800 then
    let senderMac := Mac.of (← packetSlice[22]?) (← packetSlice[23]?) (← packetSlice[24]?)
      (← packetSlice[25]?) (← packetSlice[26]?) (← packetSlice[27]?)
    let senderIp := Ip.of (← packetSlice[28]?) (← packetSlice[29]?) (← packetSlice[30]?)
      (← packetSlice[31]?)
    let targetIp := Ip.of (← packetSlice[38]?) (← packetSlice[39]?) (← packetSlice[40]?)
      (← packetSlice[41]?)
    some (some ⟨opcode, senderMac, senderIp, targetIp⟩)
  else some none

def arpText (targetIp : Ip) : Buffer :=
  .format growth [
    .literal "> NET: ROUTER ASKING FOR IP ",
    .argument (toString (targetIp.get 0)), .literal ".",
    .argument (toString (targetIp.get 1)), .literal ".",
    .argument (toString (targetIp.get 2)), .literal ".",
    .argument (toString (targetIp.get 3)), .literal "\n"]

/-- The reply to a request for the kernel's own address. -/
def replyArp (nic : E1000) (arp : ArpPacket) : Program System Unit := do
  if arp.targetIp = .of 10 0 2 15 then
    terminalPrint "> NET: THAT IS US! TRANSMITTING ARP REPLY...\n" 0x10B981
    let reply := Kernel.arpReplyBytes nic.macAddress arp.senderMac arp.senderIp
    heap .poll (arpFrame growth reply.length).calls
    onKernel (·.arpReply arp.senderMac arp.senderIp)

def answerArp (nic : E1000) : Option ArpPacket → Program System Unit
  | none => pure ()
  | some arp => do
    onKernel fun kernel =>
      some { kernel with arpTable := kernel.arpTable.insert arp.senderIp arp.senderMac }
    if arp.opcode = 1 then
      let text := arpText growth arp.targetIp
      heap .poll text.calls
      terminalPrint (Kernel.arpMessage arp.targetIp) 0xF59E0B
      replyArp growth nic arp
      heap .poll text.drop

def handleArp (nic : E1000) (packetSlice : List UInt8) : Program System Unit := do
  let arp ← .orPanic (readArp packetSlice)
  answerArp growth nic arp

def tapMessage (packetSlice : List UInt8) (ethertype : UInt16) : String :=
  s!"> NET [RAW]: HARDWARE TRIGGERED! LEN: {packetSlice.length} " ++
    s!"ETHERTYPE: 0x{upperHex ethertype}\n"

def tapText (packetSlice : List UInt8) (ethertype : UInt16) : Buffer :=
  .format growth [
    .literal "> NET [RAW]: HARDWARE TRIGGERED! LEN: ",
    .argument (toString packetSlice.length),
    .literal " ETHERTYPE: 0x",
    .argument (upperHex ethertype),
    .literal "\n"]

def ethertype (packetSlice : List UInt8) : Option UInt16 := do
  return be16 (← packetSlice[12]?) (← packetSlice[13]?)

/-- `match ethertype` in `poll` -/
def handle (nic : E1000) (packetSlice : List UInt8) (ethertype : UInt16) : Program System Unit :=
  if ethertype = 0x0806 then handleArp growth nic packetSlice
  else if ethertype = 0x0800 then answer growth (readRequest packetSlice)
  else pure ()

/-- The end of `poll` for the descriptor of the packet. -/
def release (bucket : Nat) (kernel : Kernel) : Option Kernel := do
  let nic ← kernel.netCard
  let nic ← nic.release bucket
  some { kernel with netCard := some nic }

/-- `poll` on a descriptor that is done. -/
def handlePacket (nic : E1000) (packetSlice : List UInt8) : Program System Unit := do
  let ethertype ← .orPanic (ethertype packetSlice)
  let tapMsg := tapText growth packetSlice ethertype
  heap .poll tapMsg.calls
  terminalPrint (tapMessage packetSlice ethertype) 0x8B5CF6
  handle growth nic packetSlice ethertype
  onKernel (release nic.currentRxBucket)
  heap .poll tapMsg.drop

def poll : Program System Bool := do
  let system ← look
  let nic ← .orPanic system.kernel.netCard
  match ← .orPanic (system.kernel.packetSlice nic) with
  | some packetSlice =>
    handlePacket growth nic packetSlice
    return true
  | none => return false

/-- A sector in a new box for the user program. -/
def readForUser (drive : Nvme) (lba : UInt64) : Program System Nat := do
  let (_, drive) ← readSector drive lba
  .act fun system => ((), { system with drive := some drive })
  heap .syscallHandler [.take 512]
  let safeBuffer ← nextAddress
  terminalPrint "> SYS: NVME DMA COMPLETE. PASSING POINTER TO RING-3.\n" 0x10B981
  return safeBuffer

/-- System call 4. -/
def syscallReadSector (lba : UInt64) : Program System Nat := do
  terminalPrint "\n> SYS: RING-3 NVME READ REQUEST ACCEPTED.\n" 0xF59E0B
  let system ← look
  match system.drive with
  | some drive => readForUser drive lba
  | none =>
    terminalPrint "> SYS: NVME DRIVE NOT FOUND!\n" 0xEF4444
    return 0

def logText (text : String) : Buffer :=
  .format growth [
    .literal "\n> SYS: RING-3 NETWORK REQUEST. PAYLOAD: '",
    .argument text,
    .literal "'\n"]

def sendRequest : Program System Unit := do
  let system ← look
  match system.kernel.netCard with
  | some nic =>
    arpRequest growth nic (.of 10 0 2 2)
    terminalPrint "> SYS: E1000 HARDWARE TRANSMIT (TX) COMPLETE!\n" 0x10B981
  | none => terminalPrint "> SYS: E1000 NETWORK CARD NOT FOUND!\n" 0xEF4444

/-- System call 5. -/
def syscallSendPacket (payload : List UInt8) : Program System Nat := do
  match fromUtf8 payload with
  | some text =>
    let log := logText growth text
    heap .syscallHandler log.calls
    terminalPrint s!"\n> SYS: RING-3 NETWORK REQUEST. PAYLOAD: '{text}'\n" 0xF59E0B
    sendRequest growth
    heap .syscallHandler log.drop
    return 0
  | none => return 0

end System

/-- What the hardware does, a turn of the receive loop, and the system calls. -/
inductive Event where
  | receive (frame : List UInt8)
  | fetch
  | poll
  | readSector (lba : UInt64)
  | sendPacket (payload : List UInt8)

namespace System

/-- Without a card nothing happens. -/
def hardware (event : Network.Event) : Program System Unit :=
  onKernel fun kernel => if kernel.netCard.isSome then kernel.step event else some kernel

def step (growth : Growth) : Event → Program System Unit
  | .receive frame => hardware (.receive frame)
  | .fetch => hardware .fetch
  | .poll => do
    let system ← look
    if system.kernel.netCard.isSome then
      let _ ← poll growth
  | .readSector lba => do
    let _ ← syscallReadSector lba
  | .sendPacket payload => do
    let _ ← syscallSendPacket growth payload

end System

/-- What the kernel finds when it starts to serve; the heap may be filled to
any degree. -/
structure Start where
  boot : Boot
  cardFound : Bool
  drive : Option Nvme
  used : Fin (heapSize + 1)
  addresses : Nat → Startup.Address
  sectors : Nat → Sector

def Start.system (start : Start) : System where
  kernel := if start.cardFound then start.boot.kernel else { start.boot.kernel with netCard := none }
  drive := start.drive
  used := start.used
  refused := []
  commands := []
  addresses := start.addresses
  sectors := start.sectors

/-- What becomes of the system; nothing is returned when it stops on the way. -/
def Start.run (start : Start) (growth : Growth) (events : List Event) : Option Unit × System :=
  (events.forM (System.step growth)).exec start.system

end QoreOS.Runtime
