import QoreOS.Network.Frames

/-! Every frame that `craft_base_tcp_frame` starts, with any body behind it, gets
checksums that verify. -/

namespace QoreOS.Network

open QoreOS.Library

variable (targetMac : Mac) (targetIp : Ip) (targetPort : UInt16) (seq ack : UInt32)
  (flags tcpHl : UInt8) (body : List UInt8)

/-- What the builders do before the checksums: append a body and set the total
length. -/
def craftedFrame : Option (List UInt8) := do
  let frame ← craftBaseTcpFrame targetMac targetIp targetPort seq ack flags tcpHl
  let frame := frame ++ body
  let totalLen := UInt16.ofNat (20 + tcpHl.toNat + body.length)
  let frame ← setByte frame 16 (high16 totalLen)
  setByte frame 17 (low16 totalLen)

/-- The bytes of the two checksum fields. -/
def checksumFields : List Nat := [24, 25, 50, 51]

theorem httpFrame_crafted : httpFrame targetMac targetIp targetPort seq ack body =
    (craftedFrame targetMac targetIp targetPort seq ack 0x18 20 body).bind recalculateChecksums := by
  simp only [httpFrame, craftedFrame, Option.bind_eq_bind, Option.bind_assoc]
  rfl

/-- Without a body the total length is the one already there. -/
theorem synAckFrame_crafted (clientSeq : UInt32) :
    synAckFrame targetMac targetIp targetPort clientSeq =
      (craftedFrame targetMac targetIp targetPort 0xCAFEBABE (clientSeq + 1) 0x12 24 []).bind
        recalculateChecksums := by
  rw [synAckFrame, craftedFrame, craftBaseTcpFrame_synAck, baseSegment_encode]
  rfl

/-- Both header lengths leave room for all that is written. -/
theorem craftBaseTcpFrame_length {tcpHl : UInt8} (header : tcpHl = 20 ∨ tcpHl = 24) :
    ∃ frame, craftBaseTcpFrame targetMac targetIp targetPort seq ack flags tcpHl = some frame ∧
      frame.length = 34 + tcpHl.toNat := by
  have short : (20 : UInt8).toNat = 20 := rfl
  have long : (24 : UInt8).toNat = 24 := rfl
  have plain : ¬ (20 : UInt8) = 24 := by decide
  rcases header with rfl | rfl
  all_goals
    rw [craftBaseTcpFrame]
    simp -implicitDefEqProofs only [short, long, plain, List.replicate_succ, List.replicate_zero,
      copyFromSlice, setByte, bytes16, toList_four, toList_six, List.length_cons, List.length_nil,
      Nat.reduceAdd, Nat.reduceLeDiff, Nat.reduceLT, ↓reduceIte, Option.bind_eq_bind,
      Option.bind_some, List.take_succ_cons, List.take_zero, List.drop_succ_cons, List.drop_zero,
      List.nil_append, List.cons_append, List.set_cons_succ, List.set_cons_zero]
    exact ⟨_, rfl, rfl⟩

theorem craftedFrame_length {tcpHl : UInt8} (header : tcpHl = 20 ∨ tcpHl = 24) :
    ∃ frame, craftedFrame targetMac targetIp targetPort seq ack flags tcpHl body = some frame ∧
      frame.length = 34 + tcpHl.toNat + body.length := by
  obtain ⟨base, crafted, length⟩ :=
    craftBaseTcpFrame_length targetMac targetIp targetPort seq ack flags header
  have whole : (base ++ body).length = 34 + tcpHl.toNat + body.length := by
    rw [List.length_append, length]
  simp only [craftedFrame, crafted, Option.bind_eq_bind, Option.bind_some]
  rw [setByte_of_lt _ _ (by omega), Option.bind_some,
    setByte_of_lt _ _ (by rw [List.length_set]; omega)]
  exact ⟨_, rfl, by rw [List.length_set, List.length_set, whole]⟩

theorem withChecksums_elsewhere (frame : List UInt8) (ipChecksum tcpChecksum : UInt16) {index : Nat}
    (elsewhere : index ∉ checksumFields) :
    (withChecksums frame ipChecksum tcpChecksum)[index]? = frame[index]? := by
  simp only [checksumFields, List.mem_cons, List.not_mem_nil, or_false, not_or] at elsewhere
  obtain ⟨ipHigh, ipLow, tcpHigh, tcpLow⟩ := elsewhere
  rw [withChecksums, List.getElem?_set_ne (Ne.symm tcpLow), List.getElem?_set_ne (Ne.symm tcpHigh),
    List.getElem?_set_ne (Ne.symm ipLow), List.getElem?_set_ne (Ne.symm ipHigh)]

/-- `recalculate_checksums` makes both checksums of a crafted frame verify, without
an overflow, and writes nothing but the two fields. -/
theorem craftedFrame_checksums (header : tcpHl = 20 ∨ tcpHl = 24)
    (fits : tcpHl.toNat + body.length ≤ 65515) :
    ∃ frame stamped,
      craftedFrame targetMac targetIp targetPort seq ack flags tcpHl body = some frame ∧
      recalculateChecksums frame = some stamped ∧ ChecksumsVerify stamped ∧
      stamped.length = frame.length ∧
      ∀ index, index ∉ checksumFields → stamped[index]? = frame[index]? := by
  obtain ⟨frame, crafted, length⟩ :=
    craftedFrame_length targetMac targetIp targetPort seq ack flags body header
  have headers : 54 ≤ frame.length := by
    rcases header with rfl | rfl
    · have size : (20 : UInt8).toNat = 20 := rfl
      omega
    · have size : (24 : UInt8).toNat = 24 := rfl
      omega
  have short : frame.length ≤ 14 + 65535 := by omega
  exact ⟨frame, _, crafted, recalculateChecksums_eq frame headers short,
    withChecksums_verify frame headers short, withChecksums_length ..,
    fun _ => withChecksums_elsewhere frame _ _⟩

/-- A reset with a body of one byte, which leaves an odd tail. -/
theorem craftedFrame_checksums_odd :
    ∃ frame stamped,
      craftedFrame #v[2, 0, 0, 0, 0, 1] #v[10, 0, 2, 2] 4000 1 2 0x14 20 [7] = some frame ∧
      recalculateChecksums frame = some stamped ∧ ChecksumsVerify stamped ∧
      stamped.length = frame.length ∧
      ∀ index, index ∉ checksumFields → stamped[index]? = frame[index]? :=
  craftedFrame_checksums #v[2, 0, 0, 0, 0, 1] #v[10, 0, 2, 2] 4000 1 2 0x14 20 [7] (.inl rfl)
    (by decide)

end QoreOS.Network
