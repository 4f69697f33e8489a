import QoreOS.Network.Checksums
import QoreOS.Network.Segment

/-! What the frame builders compute: the frames of the segments which the
protocols call a SYN-ACK and a data segment. -/

namespace QoreOS.Network

open QoreOS.Library

/-- A segment from port 80 of `10.0.2.15` without IP options or padding. -/
def baseSegment (targetMac : Mac) (targetIp : Ip) (targetPort : UInt16) (seq ack : UInt32)
    (flags : Fin 512) (ipChecksum tcpChecksum : UInt16) (options payload : List UInt8)
    (aligned : options.length % 4 = 0 ∧ options.length ≤ 40)
    (fits : 40 + options.length + payload.length ≤ 65535) : Segment where
  destinationMac := targetMac
  sourceMac := .of 0x52 0x54 0x00 0x12 0x34 0x56
  typeOfService := 0
  identification := 0
  fragment := 0x4000
  timeToLive := 64
  headerChecksum := ipChecksum
  sourceIp := .of 10 0 2 15
  destinationIp := targetIp
  ipOptions := []
  sourcePort := 80
  destinationPort := targetPort
  sequence := seq
  acknowledgment := ack
  reserved := 0
  flags := flags
  window := 0xFAF0
  checksum := tcpChecksum
  urgent := 0
  tcpOptions := options
  payload := payload
  padding := []
  ipAligned := noOptions_aligned
  tcpAligned := aligned
  fits := fits

/-- The maximum segment size option, 1460 bytes. -/
def segmentSizeOption : List UInt8 := [0x02, 0x04, 0x05, 0xB4]

variable (targetMac : Mac) (targetIp : Ip) (targetPort : UInt16) (seq ack : UInt32)

/-- The frame of such a segment, byte by byte up to the options. -/
theorem baseSegment_encode (flags : Fin 512) (ipChecksum tcpChecksum : UInt16)
    (options payload : List UInt8) (aligned : options.length % 4 = 0 ∧ options.length ≤ 40)
    (fits : 40 + options.length + payload.length ≤ 65535) :
    (baseSegment targetMac targetIp targetPort seq ack flags ipChecksum tcpChecksum options payload
      aligned fits).encode =
    [targetMac[0], targetMac[1], targetMac[2], targetMac[3], targetMac[4], targetMac[5],
      0x52, 0x54, 0x00, 0x12, 0x34, 0x56, 0x08, 0x00] ++
    ([0x45, 0x00, high16 (UInt16.ofNat (40 + options.length + payload.length)),
      low16 (UInt16.ofNat (40 + options.length + payload.length)),
      0x00, 0x00, 0x40, 0x00, 64, 6, high16 ipChecksum, low16 ipChecksum, 10, 0, 2, 15,
      targetIp[0], targetIp[1], targetIp[2], targetIp[3]] ++
    ([0x00, 80, high16 targetPort, low16 targetPort,
      (bytes32 seq)[0], (bytes32 seq)[1], (bytes32 seq)[2], (bytes32 seq)[3],
      (bytes32 ack)[0], (bytes32 ack)[1], (bytes32 ack)[2], (bytes32 ack)[3],
      high16 (UInt16.ofNat ((20 + options.length) / 4 * 4096 + flags)),
      low16 (UInt16.ofNat ((20 + options.length) / 4 * 4096 + flags)),
      0xFA, 0xF0, high16 tcpChecksum, low16 tcpChecksum, 0x00, 0x00] ++ (options ++ payload))) := by
  have total : (baseSegment targetMac targetIp targetPort seq ack flags ipChecksum tcpChecksum
      options payload aligned fits).totalLength = 40 + options.length + payload.length := by
    simp only [Segment.totalLength, Segment.ipHeaderLength, Segment.tcpHeaderLength, baseSegment,
      List.length_nil]
    omega
  have offset : (baseSegment targetMac targetIp targetPort seq ack flags ipChecksum tcpChecksum
      options payload aligned fits).offsetAndFlags =
        UInt16.ofNat ((20 + options.length) / 4 * 4096 + flags) := by
    simp only [Segment.offsetAndFlags, Segment.tcpHeaderLength, baseSegment, Fin.val_zero,
      Nat.zero_mul, Nat.add_zero]
  have header : (baseSegment targetMac targetIp targetPort seq ack flags ipChecksum tcpChecksum
      options payload aligned fits).ipHeaderLength = 20 := rfl
  simp only [Segment.encode, Segment.ethernetHeader, Segment.ipHeader, Segment.tcpHeader, total,
    offset, header]
  simp only [baseSegment, List.nil_append, List.append_nil, Vector.toList_mk]
  rfl

theorem craftBaseTcpFrame_synAck :
    craftBaseTcpFrame targetMac targetIp targetPort seq ack 0x12 24 =
      some (baseSegment targetMac targetIp targetPort seq ack 0x12 0 0 segmentSizeOption []
        (by decide) (by decide)).encode := by
  have header : (24 : UInt8).toNat = 24 := rfl
  rw [baseSegment_encode, craftBaseTcpFrame, header]
  simp -implicitDefEqProofs only [List.replicate_succ, List.replicate_zero, copyFromSlice, setByte,
    bytes16, toList_four, toList_six, List.length_cons,
    List.length_nil, Nat.reduceAdd, Nat.reduceLeDiff, Nat.reduceLT, ↓reduceIte,
    Option.bind_eq_bind, Option.bind_some, List.take_succ_cons, List.take_zero,
    List.drop_succ_cons, List.drop_zero, List.nil_append, List.cons_append, List.set_cons_succ,
    List.set_cons_zero]
  rfl

theorem craftBaseTcpFrame_data :
    craftBaseTcpFrame targetMac targetIp targetPort seq ack 0x18 20 =
      some (baseSegment targetMac targetIp targetPort seq ack 0x18 0 0 [] []
        (by decide) (by decide)).encode := by
  have header : (20 : UInt8).toNat = 20 := rfl
  have plain : ¬ (20 : UInt8) = 24 := by decide
  rw [baseSegment_encode, craftBaseTcpFrame, header]
  simp -implicitDefEqProofs only [List.replicate_succ, List.replicate_zero, copyFromSlice, setByte,
    bytes16, toList_four, toList_six, List.length_cons, List.length_nil, Nat.reduceAdd,
    Nat.reduceLeDiff, Nat.reduceLT, ↓reduceIte, Option.bind_eq_bind, Option.bind_some,
    List.take_succ_cons, List.take_zero, List.drop_succ_cons, List.drop_zero, List.nil_append,
    List.cons_append, List.set_cons_succ, List.set_cons_zero, plain]
  rfl

section Assembly

variable (flags : Fin 512) (options payload : List UInt8)
  (aligned : options.length % 4 = 0 ∧ options.length ≤ 40)
  (fits : 40 + options.length + payload.length ≤ 65535)

theorem withChecksums_encode (oldIp oldTcp ipChecksum tcpChecksum : UInt16) :
    withChecksums (baseSegment targetMac targetIp targetPort seq ack flags oldIp oldTcp options payload
      aligned fits).encode ipChecksum tcpChecksum =
    (baseSegment targetMac targetIp targetPort seq ack flags ipChecksum tcpChecksum options payload
      aligned fits).encode := by
  rw [baseSegment_encode, baseSegment_encode, withChecksums]
  simp only [List.cons_append, List.nil_append, List.set_cons_succ, List.set_cons_zero]

theorem baseSegment_length (ipChecksum tcpChecksum : UInt16) :
    (baseSegment targetMac targetIp targetPort seq ack flags ipChecksum tcpChecksum options payload
      aligned fits).encode.length = 54 + options.length + payload.length := by
  rw [baseSegment_encode]
  simp only [List.length_append, List.length_cons, List.length_nil]
  omega

/-- Checksums turn the frame of a segment into the frame of that segment with
other checksums. -/
theorem recalculateChecksums_encode (oldIp oldTcp : UInt16) : ∃ ipChecksum tcpChecksum,
    recalculateChecksums (baseSegment targetMac targetIp targetPort seq ack flags oldIp oldTcp options
      payload aligned fits).encode =
    some (baseSegment targetMac targetIp targetPort seq ack flags ipChecksum tcpChecksum options payload
      aligned fits).encode := by
  have length := baseSegment_length targetMac targetIp targetPort seq ack flags options payload
    aligned fits oldIp oldTcp
  have stored := recalculateChecksums_eq
    (baseSegment targetMac targetIp targetPort seq ack flags oldIp oldTcp options payload
      aligned fits).encode (by omega) (by omega)
  rw [withChecksums_encode] at stored
  exact ⟨_, _, stored⟩

end Assembly

/-- Appending a body and overriding the total length of an empty data segment. -/
theorem appendBody (payload : List UInt8) (fits : 40 + payload.length ≤ 65535) :
    (((baseSegment targetMac targetIp targetPort seq ack 0x18 0 0 [] [] (by decide)
        (by decide)).encode ++ payload).set 16
          (high16 (UInt16.ofNat (20 + 20 + payload.length)))).set 17
          (low16 (UInt16.ofNat (20 + 20 + payload.length))) =
      (baseSegment targetMac targetIp targetPort seq ack 0x18 0 0 [] payload (by decide)
        (by simpa using fits)).encode := by
  rw [baseSegment_encode, baseSegment_encode]
  simp only [List.cons_append, List.nil_append, List.set_cons_succ, List.set_cons_zero,
    List.length_nil, Nat.add_zero, Nat.reduceAdd]

/-- The frame of `send_tcp_syn_ack`. -/
def synAckFrame (targetMac : Mac) (targetIp : Ip) (targetPort : UInt16) (clientSeq : UInt32) :
    Option (List UInt8) := do
  let frame ← craftBaseTcpFrame targetMac targetIp targetPort 0xCAFEBABE (clientSeq + 1) 0x12 24
  recalculateChecksums frame

theorem synAckFrame_eq (clientSeq : UInt32) :
    synAckFrame targetMac targetIp targetPort clientSeq =
      recalculateChecksums (baseSegment targetMac targetIp targetPort 0xCAFEBABE (clientSeq + 1) 0x12 0 0
        segmentSizeOption [] (by decide) (by decide)).encode := by
  rw [synAckFrame, craftBaseTcpFrame_synAck, Option.bind_eq_bind, Option.bind_some]

theorem synAckFrame_encode (clientSeq : UInt32) : ∃ ipChecksum tcpChecksum,
    synAckFrame targetMac targetIp targetPort clientSeq =
    some (baseSegment targetMac targetIp targetPort 0xCAFEBABE (clientSeq + 1) 0x12 ipChecksum
      tcpChecksum segmentSizeOption [] (by decide) (by decide)).encode := by
  rw [synAckFrame_eq]
  exact recalculateChecksums_encode targetMac targetIp targetPort 0xCAFEBABE (clientSeq + 1) 0x12
    segmentSizeOption [] (by decide) (by decide) 0 0

/-- The frame of `send_http_response`. -/
def httpFrame (targetMac : Mac) (targetIp : Ip) (targetPort : UInt16) (mySeq ackNum : UInt32)
    (body : List UInt8) : Option (List UInt8) := do
  let frame ← craftBaseTcpFrame targetMac targetIp targetPort mySeq ackNum 0x18 20
  let frame := frame ++ body
  let totalLen := UInt16.ofNat (20 + 20 + body.length)
  let frame ← setByte frame 16 (high16 totalLen)
  let frame ← setByte frame 17 (low16 totalLen)
  recalculateChecksums frame

theorem httpFrame_eq (body : List UInt8) (fits : 40 + body.length ≤ 65535) :
    httpFrame targetMac targetIp targetPort seq ack body =
      recalculateChecksums (baseSegment targetMac targetIp targetPort seq ack 0x18 0 0 [] body
        (by decide) (by simpa using fits)).encode := by
  have length := baseSegment_length targetMac targetIp targetPort seq ack 0x18 [] [] (by decide)
    (by decide) 0 0
  rw [httpFrame, craftBaseTcpFrame_data, ← appendBody _ _ _ _ _ _ fits]
  simp only [Option.bind_eq_bind, Option.bind_some]
  rw [setByte_of_lt _ _ (by rw [List.length_append]; omega), Option.bind_some,
    setByte_of_lt _ _ (by rw [List.length_set, List.length_append]; omega), Option.bind_some]

theorem httpFrame_encode (body : List UInt8) (fits : 40 + body.length ≤ 65535) :
    ∃ ipChecksum tcpChecksum,
    httpFrame targetMac targetIp targetPort seq ack body =
    some (baseSegment targetMac targetIp targetPort seq ack 0x18 ipChecksum tcpChecksum [] body
      (by decide) (by simpa using fits)).encode := by
  rw [httpFrame_eq _ _ _ _ _ body fits]
  exact recalculateChecksums_encode targetMac targetIp targetPort seq ack 0x18 [] body (by decide)
    (by simpa using fits) 0 0

end QoreOS.Network
