import QoreOS.Network.E1000

/-! The TCP/HTTP responder: parsing a received packet and building the reply. -/

namespace QoreOS.Network

open QoreOS.Library

/-- The headers as read through the casted references; multi-byte fields are
already converted by `from_be`. A cast beyond the slice answers `none`. -/
structure EthernetHeader where
  destMac : Mac
  srcMac : Mac
  ethertype : UInt16

structure Ipv4Header where
  versionIhl : UInt8
  dscpEcn : UInt8
  totalLength : UInt16
  identification : UInt16
  flagsFragmentOffset : UInt16
  ttl : UInt8
  protocol : UInt8
  headerChecksum : UInt16
  srcIp : Ip
  destIp : Ip

structure TcpHeader where
  srcPort : UInt16
  destPort : UInt16
  seqNum : UInt32
  ackNum : UInt32
  dataOffsetFlags : UInt16
  windowSize : UInt16
  checksum : UInt16
  urgentPtr : UInt16

abbrev EthernetHeader.size : Nat := 14
abbrev Ipv4Header.size : Nat := 20
abbrev TcpHeader.size : Nat := 20

def EthernetHeader.read (bytes : List UInt8) : Option EthernetHeader := do
  let raw ← castRef EthernetHeader.size bytes
  some {
    destMac := #v[raw[0], raw[1], raw[2], raw[3], raw[4], raw[5]]
    srcMac := #v[raw[6], raw[7], raw[8], raw[9], raw[10], raw[11]]
    ethertype := be16 raw[12] raw[13] }

def Ipv4Header.read (bytes : List UInt8) : Option Ipv4Header := do
  let raw ← castRef Ipv4Header.size bytes
  some {
    versionIhl := raw[0]
    dscpEcn := raw[1]
    totalLength := be16 raw[2] raw[3]
    identification := be16 raw[4] raw[5]
    flagsFragmentOffset := be16 raw[6] raw[7]
    ttl := raw[8]
    protocol := raw[9]
    headerChecksum := be16 raw[10] raw[11]
    srcIp := #v[raw[12], raw[13], raw[14], raw[15]]
    destIp := #v[raw[16], raw[17], raw[18], raw[19]] }

def TcpHeader.read (bytes : List UInt8) : Option TcpHeader := do
  let raw ← castRef TcpHeader.size bytes
  some {
    srcPort := be16 raw[0] raw[1]
    destPort := be16 raw[2] raw[3]
    seqNum := be32 raw[4] raw[5] raw[6] raw[7]
    ackNum := be32 raw[8] raw[9] raw[10] raw[11]
    dataOffsetFlags := be16 raw[12] raw[13]
    windowSize := be16 raw[14] raw[15]
    checksum := be16 raw[16] raw[17]
    urgentPtr := be16 raw[18] raw[19] }

def craftBaseTcpFrame (targetMac : Mac) (targetIp : Ip) (targetPort : UInt16) (seq ack : UInt32)
    (flags tcpHl : UInt8) : Option (List UInt8) := do
  let frame := List.replicate (34 + tcpHl.toNat) 0
  let frame ← copyFromSlice frame 0 targetMac.toList
  let frame ← copyFromSlice frame 6 [0x52, 0x54, 0x00, 0x12, 0x34, 0x56]
  let frame ← setByte frame 12 0x08
  let frame ← setByte frame 13 0x00
  let frame ← setByte frame 14 0x45
  let totalIpLen := UInt16.ofNat (20 + tcpHl.toNat)
  let frame ← setByte frame 16 (high16 totalIpLen)
  let frame ← setByte frame 17 (low16 totalIpLen)
  let frame ← setByte frame 20 0x40
  let frame ← setByte frame 21 0x00
  let frame ← setByte frame 22 64
  let frame ← setByte frame 23 6
  let frame ← copyFromSlice frame 26 [10, 0, 2, 15]
  let frame ← copyFromSlice frame 30 targetIp.toList
  let ts := 34
  let frame ← copyFromSlice frame ts (bytes16 80)
  let frame ← copyFromSlice frame (ts + 2) (bytes16 targetPort)
  let frame ← copyFromSlice frame (ts + 4) (bytes32 seq).toList
  let frame ← copyFromSlice frame (ts + 8) (bytes32 ack).toList
  let frame ← setByte frame (ts + 12) ((tcpHl / 4) <<< 4)
  let frame ← setByte frame (ts + 13) flags
  let frame ← copyFromSlice frame (ts + 14) (bytes16 0xFAF0)
  if tcpHl = 24 then
    let frame ← setByte frame (ts + 20) 0x02
    let frame ← setByte frame (ts + 21) 0x04
    copyFromSlice frame (ts + 22) (bytes16 1460)
  else some frame

/-- `while (chk >> 16) > 0 { chk = (chk & 0xFFFF) + (chk >> 16) }` -/
def foldCarries (chk : Nat) : Nat :=
  if chk >>> 16 > 0 then foldCarries ((chk &&& 0xFFFF) + (chk >>> 16)) else chk
termination_by chk
decreasing_by
  rename_i carry
  rw [show 0xFFFF = 2 ^ 16 - 1 by decide, Nat.and_two_pow_sub_one_eq_mod]
  rw [Nat.shiftRight_eq_div_pow] at *
  omega

/-- One round of a checksum loop at byte `i`, in checked `u32` arithmetic. -/
def addWord (frame : List UInt8) (chk i : Nat) : Option Nat := do
  let high ← frame[i]?
  let low ← frame[i + 1]?
  checked (2 ^ 32) (chk + word high low)

/-- The round of the TCP loop, where an odd last byte counts as a high byte. -/
def addTcpWord (frame : List UInt8) (chk i : Nat) : Option Nat :=
  if i + 1 < frame.length then addWord frame chk i
  else do
    let high ← frame[i]?
    checked (2 ^ 32) (chk + high.toNat <<< 8)

/-- `(start..stop).step_by(2)` -/
def stepByTwo (start stop : Nat) : List Nat :=
  List.range' start ((stop - start + 1) / 2) 2

/-- `!(chk as u16)` stored big-endian at `index`. -/
def storeChecksum (frame : List UInt8) (index chk : Nat) : Option (List UInt8) := do
  let final := ~~~ (UInt16.ofNat chk)
  let frame ← setByte frame index (high16 final)
  setByte frame (index + 1) (low16 final)

def recalculateChecksums (frame : List UInt8) : Option (List UInt8) := do
  let frame ← setByte frame 24 0
  let frame ← setByte frame 25 0
  let ipChk ← (stepByTwo 14 34).foldlM (addWord frame) 0
  let frame ← storeChecksum frame 24 (foldCarries ipChk)
  let tcpStart := 34
  let frame ← setByte frame (tcpStart + 16) 0
  let frame ← setByte frame (tcpStart + 17) 0
  let tcpChk ← (stepByTwo 26 34).foldlM (addWord frame) 0
  let tcpChk ← checked (2 ^ 32) (tcpChk + 6)
  let payload ← checkedSub frame.length 34
  let tcpChk ← checked (2 ^ 32) (tcpChk + payload % 2 ^ 32)
  let tcpChk ← (stepByTwo tcpStart frame.length).foldlM (addTcpWord frame) tcpChk
  storeChecksum frame (tcpStart + 16) (foldCarries tcpChk)

namespace Kernel

def sendTcpSynAck (kernel : Kernel) (targetMac : Mac) (targetIp : Ip) (targetPort : UInt16)
    (clientSeq : UInt32) : Option Kernel := do
  let frame ← craftBaseTcpFrame targetMac targetIp targetPort 0xCAFEBABE (clientSeq + 1) 0x12 24
  let frame ← recalculateChecksums frame
  let kernel ← kernel.injectFrame frame
  some (kernel.terminalPrint "> NET: [SYN-ACK] TRANSMITTED TO HOST.\n" 0x3B82F6)

def httpBody (httpPayload : Option String) : String :=
  let fileContent := httpPayload.getD "ERROR: NO PAYLOAD FOUND IN RING-0 MEMORY"
  "HTTP/1.1 200 OK\r\nContent-Type: text/plain\r\nContent-Length: " ++
    toString fileContent.utf8ByteSize ++ "\r\nConnection: close\r\n\r\n" ++ fileContent

def sendHttpResponse (kernel : Kernel) (targetMac : Mac) (targetIp : Ip) (targetPort : UInt16)
    (mySeq clientSeq clientDataLen : UInt32) : Option Kernel := do
  let body := utf8 (httpBody kernel.httpPayload)
  let ackNum := clientSeq + clientDataLen
  let frame ← craftBaseTcpFrame targetMac targetIp targetPort mySeq ackNum 0x18 20
  let frame := frame ++ body
  let totalLen := UInt16.ofNat (20 + 20 + body.length)
  let frame ← setByte frame 16 (high16 totalLen)
  let frame ← setByte frame 17 (low16 totalLen)
  let frame ← recalculateChecksums frame
  let kernel ← kernel.injectFrame frame
  some (kernel.terminalPrint "> NET: HTTP 200 OK RESPONSE SERVED. SOCKET CLOSED.\n" 0x10B981)

/-- The hardware address the reply goes to: the cached one or broadcast. -/
def targetMac (kernel : Kernel) (srcIp : Ip) : Mac :=
  (kernel.arpTable.lookup srcIp).getD (Vector.replicate 6 0xFF)

/-- The branch of `handle_incoming_packet` for a segment to port 80. -/
def handleTcp (kernel : Kernel) (packet : List UInt8) (ip : Ipv4Header) (tcp : TcpHeader)
    (ihl tcpOffset : Nat) : Option Kernel := do
  let tcpHeaderLen ← checked (2 ^ 16) (((tcp.dataOffsetFlags.toNat >>> 12) &&& 0x0F) * 4)
  let flags := tcp.dataOffsetFlags.toNat &&& 0x01FF
  let isSyn := flags &&& 0x02 ≠ 0
  let isPsh := flags &&& 0x08 ≠ 0
  if tcp.destPort = 80 then
    if isSyn then
      let kernel := kernel.terminalPrint
        s!"> NET: TCP [SYN] RCV'D. PORT {tcp.srcPort} -> {tcp.destPort}\n" 0xF59E0B
      kernel.sendTcpSynAck (kernel.targetMac ip.srcIp) ip.srcIp tcp.srcPort tcp.seqNum
    else if isPsh then
      let dataOffset := tcpOffset + tcpHeaderLen
      let totalIpLen := ip.totalLength.toNat
      if totalIpLen ≥ ihl + tcpHeaderLen then
        let dataLen ← checkedSub totalIpLen ihl
        let dataLen ← checkedSub dataLen tcpHeaderLen
        if dataLen > 0 ∧ packet.length ≥ dataOffset + dataLen then
          let payload ← slice packet dataOffset (dataOffset + dataLen)
          if (utf8 "GET").isPrefixOf payload then
            let kernel := kernel.terminalPrint "> NET: HTTP [GET] REQUEST INTERCEPTED!\n" 0x10B981
            kernel.sendHttpResponse (kernel.targetMac ip.srcIp) ip.srcIp tcp.srcPort tcp.ackNum
              tcp.seqNum (UInt32.ofNat dataLen)
          else some kernel
        else some kernel
      else some kernel
    else some kernel
  else some kernel

def handleIncomingPacket (kernel : Kernel) (packet : List UInt8) : Option Kernel := do
  if packet.length < EthernetHeader.size then return kernel
  let eth ← EthernetHeader.read packet
  if eth.ethertype = 0x0800 then
    let ipOffset := EthernetHeader.size
    if packet.length < ipOffset + Ipv4Header.size then return kernel
    let ipBytes ← slice packet ipOffset packet.length
    let ip ← Ipv4Header.read ipBytes
    if ip.destIp ≠ .of 10 0 2 15 then return kernel
    if ip.protocol = 0x06 then
      let ihl ← checked (2 ^ 8) ((ip.versionIhl.toNat &&& 0x0F) * 4)
      let tcpOffset := ipOffset + ihl
      if packet.length < tcpOffset + TcpHeader.size then return kernel
      let tcpBytes ← slice packet tcpOffset packet.length
      let tcp ← TcpHeader.read tcpBytes
      kernel.handleTcp packet ip tcp ihl tcpOffset
    else return kernel
  else return kernel

end Kernel

end QoreOS.Network
