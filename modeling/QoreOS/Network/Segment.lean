import Mathlib.Algebra.Ring.Nat
import QoreOS.Library.Bytes
import QoreOS.Network.ArpCache

/-! TCP segments in IPv4 in Ethernet, as the protocols define them and without
reference to the kernel's code: the frame of a segment and the segment of a
frame. -/

namespace QoreOS.Network

open QoreOS.Library

instance reserved_neZero : NeZero 8 := ⟨by decide⟩
instance flags_neZero : NeZero 512 := ⟨by decide⟩

/-- The fields of a frame that are not fixed by being a TCP segment. The header
lengths follow from the options, the total length from these and the payload. -/
structure Segment where
  destinationMac : Mac
  sourceMac : Mac
  typeOfService : UInt8
  identification : UInt16
  fragment : UInt16
  timeToLive : UInt8
  headerChecksum : UInt16
  sourceIp : Ip
  destinationIp : Ip
  ipOptions : List UInt8
  sourcePort : UInt16
  destinationPort : UInt16
  sequence : UInt32
  acknowledgment : UInt32
  reserved : Fin 8
  flags : Fin 512
  window : UInt16
  checksum : UInt16
  urgent : UInt16
  tcpOptions : List UInt8
  payload : List UInt8
  padding : List UInt8
  ipAligned : ipOptions.length % 4 = 0 ∧ ipOptions.length ≤ 40
  tcpAligned : tcpOptions.length % 4 = 0 ∧ tcpOptions.length ≤ 40
  fits : 40 + ipOptions.length + tcpOptions.length + payload.length ≤ 65535

theorem noOptions_aligned : ([] : List UInt8).length % 4 = 0 ∧ ([] : List UInt8).length ≤ 40 := by
  decide

namespace Segment

def ipHeaderLength (segment : Segment) : Nat := 20 + segment.ipOptions.length
def tcpHeaderLength (segment : Segment) : Nat := 20 + segment.tcpOptions.length

def totalLength (segment : Segment) : Nat :=
  segment.ipHeaderLength + segment.tcpHeaderLength + segment.payload.length

def syn (segment : Segment) : Bool := segment.flags.val.testBit 1
def psh (segment : Segment) : Bool := segment.flags.val.testBit 3

/-- The sixteen bits from the data offset to the last flag. -/
def offsetAndFlags (segment : Segment) : UInt16 :=
  UInt16.ofNat (segment.tcpHeaderLength / 4 * 4096 + segment.reserved * 512 + segment.flags)

def ethernetHeader (segment : Segment) : Vector UInt8 14 :=
  let destination := segment.destinationMac
  let source := segment.sourceMac
  #v[destination.get 0, destination.get 1, destination.get 2, destination.get 3, destination.get 4,
    destination.get 5, source.get 0, source.get 1, source.get 2, source.get 3, source.get 4,
    source.get 5, 0x08, 0x00]

def ipHeader (segment : Segment) : Vector UInt8 20 :=
  let total := UInt16.ofNat segment.totalLength
  let source := segment.sourceIp
  let destination := segment.destinationIp
  #v[UInt8.ofNat (4 * 16 + segment.ipHeaderLength / 4), segment.typeOfService,
    high16 total, low16 total, high16 segment.identification, low16 segment.identification,
    high16 segment.fragment, low16 segment.fragment, segment.timeToLive, 6,
    high16 segment.headerChecksum, low16 segment.headerChecksum,
    source.get 0, source.get 1, source.get 2, source.get 3,
    destination.get 0, destination.get 1, destination.get 2, destination.get 3]

def tcpHeader (segment : Segment) : Vector UInt8 20 :=
  let sequence := bytes32 segment.sequence
  let acknowledgment := bytes32 segment.acknowledgment
  #v[high16 segment.sourcePort, low16 segment.sourcePort,
    high16 segment.destinationPort, low16 segment.destinationPort,
    sequence.get 0, sequence.get 1, sequence.get 2, sequence.get 3,
    acknowledgment.get 0, acknowledgment.get 1, acknowledgment.get 2, acknowledgment.get 3,
    high16 segment.offsetAndFlags, low16 segment.offsetAndFlags,
    high16 segment.window, low16 segment.window, high16 segment.checksum, low16 segment.checksum,
    high16 segment.urgent, low16 segment.urgent]

/-- The Ethernet frame of the segment, padding included. -/
def encode (segment : Segment) : List UInt8 :=
  segment.ethernetHeader.toList ++ (segment.ipHeader.toList ++ (segment.ipOptions ++
    (segment.tcpHeader.toList ++ (segment.tcpOptions ++ (segment.payload ++ segment.padding)))))

/-- Read a frame as a segment; `none` unless it is IPv4 carrying TCP with
consistent lengths. -/
def decode (frame : List UInt8) : Option Segment := do
  let ethernet ← castRef 14 frame
  let datagram := frame.drop 14
  let ip ← castRef 20 datagram
  let ipOptionsLength := ip[0].toNat % 16 * 4 - 20
  let ipRest := datagram.drop 20
  let tcp ← castRef 20 (ipRest.drop ipOptionsLength)
  let tcpRest := (ipRest.drop ipOptionsLength).drop 20
  let total := (be16 ip[2] ip[3]).toNat
  let tcpOptionsLength := tcp[12].toNat / 16 * 4 - 20
  let headersLength := 40 + ipOptionsLength + tcpOptionsLength
  let ipOptions := ipRest.take ipOptionsLength
  let tcpOptions := tcpRest.take tcpOptionsLength
  let payload := (tcpRest.drop tcpOptionsLength).take (total - headersLength)
  if (ethernet[12] = 0x08 ∧ ethernet[13] = 0x00) ∧
      (ip[0].toNat / 16 = 4 ∧ 5 ≤ ip[0].toNat % 16 ∧ ip[9] = 6) ∧
      5 ≤ tcp[12].toNat / 16 ∧ headersLength ≤ total ∧ total ≤ datagram.length then
    if aligned : (ipOptions.length % 4 = 0 ∧ ipOptions.length ≤ 40) ∧
        (tcpOptions.length % 4 = 0 ∧ tcpOptions.length ≤ 40) ∧
        40 + ipOptions.length + tcpOptions.length + payload.length ≤ 65535 then
      some {
        destinationMac := #v[ethernet[0], ethernet[1], ethernet[2], ethernet[3], ethernet[4],
          ethernet[5]]
        sourceMac := #v[ethernet[6], ethernet[7], ethernet[8], ethernet[9], ethernet[10],
          ethernet[11]]
        typeOfService := ip[1]
        identification := be16 ip[4] ip[5]
        fragment := be16 ip[6] ip[7]
        timeToLive := ip[8]
        headerChecksum := be16 ip[10] ip[11]
        sourceIp := #v[ip[12], ip[13], ip[14], ip[15]]
        destinationIp := #v[ip[16], ip[17], ip[18], ip[19]]
        ipOptions := ipOptions
        sourcePort := be16 tcp[0] tcp[1]
        destinationPort := be16 tcp[2] tcp[3]
        sequence := be32 tcp[4] tcp[5] tcp[6] tcp[7]
        acknowledgment := be32 tcp[8] tcp[9] tcp[10] tcp[11]
        reserved := Fin.ofNat 8 (tcp[12].toNat / 2)
        flags := Fin.ofNat 512 (be16 tcp[12] tcp[13]).toNat
        window := be16 tcp[14] tcp[15]
        checksum := be16 tcp[16] tcp[17]
        urgent := be16 tcp[18] tcp[19]
        tcpOptions := tcpOptions
        payload := payload
        padding := (tcpRest.drop tcpOptionsLength).drop (total - headersLength)
        ipAligned := aligned.1
        tcpAligned := aligned.2.1
        fits := aligned.2.2 }
    else none
  else none

/-- The raw headers of a segment, and what its reading demands of them. -/
theorem decode_some {packet : List UInt8} {segment : Segment} (decoded : decode packet = some segment) :
    ∃ (ethernet : Vector UInt8 14) (rawIp rawTcp : Vector UInt8 20),
      castRef 14 packet = some ethernet ∧ castRef 20 (packet.drop 14) = some rawIp ∧
      castRef 20 (packet.drop (14 + rawIp[0].toNat % 16 * 4)) = some rawTcp ∧
      (ethernet[12] = 0x08 ∧ ethernet[13] = 0x00) ∧
      (rawIp[0].toNat / 16 = 4 ∧ 5 ≤ rawIp[0].toNat % 16 ∧ rawIp[9] = 6) ∧
      5 ≤ rawTcp[12].toNat / 16 ∧
      rawIp[0].toNat % 16 * 4 + rawTcp[12].toNat / 16 * 4 ≤ (be16 rawIp[2] rawIp[3]).toNat ∧
      (be16 rawIp[2] rawIp[3]).toNat ≤ packet.length - 14 ∧
      segment.fragment = be16 rawIp[6] rawIp[7] := by
  simp only [decode, Option.bind_eq_bind, Option.bind_eq_some_iff, List.drop_drop]
    at decoded
  obtain ⟨ethernet, castEthernet, rawIp, castIp, rawTcp, castTcp, decoded⟩ := decoded
  rw [Option.ite_none_right_eq_some] at decoded
  obtain ⟨⟨ethertype, ip, tcpHeader, headers, datagram⟩, decoded⟩ := decoded
  obtain ⟨_, fields⟩ := Option.dite_none_right_eq_some.mp decoded
  have place : 14 + 20 + (rawIp[0].toNat % 16 * 4 - 20) = 14 + rawIp[0].toNat % 16 * 4 := by omega
  rw [place] at castTcp
  rw [List.length_drop] at datagram
  refine ⟨ethernet, rawIp, rawTcp, castEthernet, castIp, castTcp, ethertype, ip, tcpHeader,
    by omega, datagram, ?_⟩
  exact (congrArg Segment.fragment (Option.some.inj fields)).symm

variable (segment : Segment)

theorem ipOptionsLength_encoded :
    (UInt8.ofNat (4 * 16 + segment.ipHeaderLength / 4)).toNat % 16 * 4 - 20 =
      segment.ipOptions.length := by
  obtain ⟨aligned, short⟩ := segment.ipAligned
  simp only [UInt8.toNat_ofNat', ipHeaderLength]
  omega

theorem version_encoded :
    (UInt8.ofNat (4 * 16 + segment.ipHeaderLength / 4)).toNat / 16 = 4 ∧
      5 ≤ (UInt8.ofNat (4 * 16 + segment.ipHeaderLength / 4)).toNat % 16 := by
  obtain ⟨aligned, short⟩ := segment.ipAligned
  simp only [UInt8.toNat_ofNat', ipHeaderLength]
  omega

theorem totalLength_toNat : (UInt16.ofNat segment.totalLength).toNat = segment.totalLength := by
  have fits := segment.fits
  rw [UInt16.toNat_ofNat', Nat.mod_eq_of_lt]
  simp only [totalLength, ipHeaderLength, tcpHeaderLength]
  omega

theorem offsetAndFlags_toNat : segment.offsetAndFlags.toNat =
    segment.tcpHeaderLength / 4 * 4096 + segment.reserved * 512 + segment.flags := by
  obtain ⟨aligned, short⟩ := segment.tcpAligned
  have three := segment.reserved.isLt
  have nine := segment.flags.isLt
  rw [offsetAndFlags, UInt16.toNat_ofNat', Nat.mod_eq_of_lt]
  simp only [tcpHeaderLength]
  omega

/-- The high byte of the field: the data offset and the top bits below it. -/
theorem offsetByte_encoded :
    (high16 segment.offsetAndFlags).toNat =
      segment.tcpHeaderLength / 4 * 16 + segment.reserved * 2 + segment.flags / 256 := by
  obtain ⟨aligned, short⟩ := segment.tcpAligned
  have three := segment.reserved.isLt
  have nine := segment.flags.isLt
  rw [high16, UInt8.toNat_ofNat', Nat.shiftRight_eq_div_pow, offsetAndFlags_toNat]
  simp only [tcpHeaderLength]
  omega

/-- Reading back a frame recovers every field of the segment. -/
theorem decode_encode : decode segment.encode = some segment := by
  obtain ⟨ipMultiple, ipShort⟩ := segment.ipAligned
  obtain ⟨tcpMultiple, tcpShort⟩ := segment.tcpAligned
  have three := segment.reserved.isLt
  have nine := segment.flags.isLt
  have tcpOptionsLength : (high16 segment.offsetAndFlags).toNat / 16 * 4 - 20 =
      segment.tcpOptions.length := by
    rw [offsetByte_encoded, tcpHeaderLength]
    omega
  have offset : 5 ≤ (high16 segment.offsetAndFlags).toNat / 16 := by
    rw [offsetByte_encoded, tcpHeaderLength]
    omega
  have payloadLength : segment.totalLength -
      (40 + segment.ipOptions.length + segment.tcpOptions.length) = segment.payload.length := by
    simp only [totalLength, ipHeaderLength, tcpHeaderLength]
    omega
  have reserved : Fin.ofNat 8 ((high16 segment.offsetAndFlags).toNat / 2) =
      segment.reserved := by
    apply Fin.ext
    rw [Fin.ofNat_eq_cast, Fin.val_natCast, offsetByte_encoded]
    simp only [tcpHeaderLength]
    omega
  have flags : Fin.ofNat 512 segment.offsetAndFlags.toNat = segment.flags := by
    apply Fin.ext
    rw [Fin.ofNat_eq_cast, Fin.val_natCast, offsetAndFlags_toNat]
    omega
  have headers : segment.ipHeaderLength = 20 + segment.ipOptions.length := rfl
  have total := segment.totalLength_toNat
  rw [decode, encode]
  simp only [castRef_append, drop_header, Option.bind_eq_bind, Option.bind_some, ethernetHeader,
    ipHeader, tcpHeader, Vector.getElem_mk, List.getElem_toArray, List.getElem_cons_zero,
    List.getElem_cons_succ, ipOptionsLength_encoded, List.drop_left, List.take_left,
    tcpOptionsLength, be16_bytes16, be32_bytes32, total, payloadLength, version_encoded, offset,
    eta_four, eta_six, reserved, flags]
  rw [if_pos, dif_pos ⟨segment.ipAligned, segment.tcpAligned, segment.fits⟩]
  simp only [true_and, List.length_append, Vector.length_toList, totalLength, headers,
    tcpHeaderLength]
  omega

end Segment

end QoreOS.Network
