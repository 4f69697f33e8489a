import QoreOS.Library.OnesComplement
import QoreOS.Network.Packet

/-! What `recalculate_checksums` writes: a frame whose two checksums verify, and
which is the old one everywhere else. -/

namespace QoreOS.Network

open QoreOS.Library

/-- Writing the two checksum fields of a frame. -/
def withChecksums (frame : List UInt8) (ipChecksum tcpChecksum : UInt16) : List UInt8 :=
  (((frame.set 24 (high16 ipChecksum)).set 25 (low16 ipChecksum)).set 50 (high16 tcpChecksum)).set 51
    (low16 tcpChecksum)

/-- What a header sums to when it verifies, with the words of the segment's
pseudo-header: addresses, protocol and length. -/
structure ChecksumsVerify (frame : List UInt8) : Prop where
  ipHeader : onesSum (2 ^ 16) (wordsOf ((frame.take 34).drop 14)) = 0xFFFF
  segment : onesSum (2 ^ 16) (wordsOf ((frame.take 34).drop 26) ++ [6, frame.length - 34] ++
    wordsOf (frame.drop 34)) = 0xFFFF

theorem foldCarries_represents (chk : Nat) : Represents (2 ^ 16) (foldCarries chk) chk := by
  induction chk using foldCarries.induct with
  | case1 chk carry ih =>
    rw [foldCarries, if_pos carry]
    rw [show 0xFFFF = 2 ^ 16 - 1 by decide, Nat.and_two_pow_sub_one_eq_mod,
      Nat.shiftRight_eq_div_pow] at ih ⊢
    exact ih.of_carry (by decide)
  | case2 chk done =>
    rw [foldCarries, if_neg done]
    rw [Nat.shiftRight_eq_div_pow] at done
    exact Represents.of_lt (by omega)

theorem stepByTwo_cons {start stop : Nat} (inside : start < stop) :
    stepByTwo start stop = start :: stepByTwo (start + 2) stop := by
  have count : (stop - start + 1) / 2 = (stop - (start + 2) + 1) / 2 + 1 := by omega
  rw [stepByTwo, count, List.range'_succ, stepByTwo]

theorem stepByTwo_nil {start stop : Nat} (outside : stop ≤ start) : stepByTwo start stop = [] := by
  have count : (stop - start + 1) / 2 = 0 := by omega
  rw [stepByTwo, count, List.range'_zero]

theorem mem_stepByTwo {start stop i : Nat} (member : i ∈ stepByTwo start stop) :
    start ≤ i ∧ i < stop ∧ (i - start) % 2 = 0 := by
  simp only [stepByTwo, List.mem_range'] at member
  obtain ⟨step, close, rfl⟩ := member
  omega

/-- The TCP loop adds up the words of the bytes behind `front`. -/
theorem addTcpWord_foldlM (front bytes : List UInt8) (chk : Nat)
    (small : chk + (wordsOf bytes).sum < 2 ^ 32) :
    (stepByTwo front.length (front ++ bytes).length).foldlM (addTcpWord (front ++ bytes)) chk =
      some (chk + (wordsOf bytes).sum) := by
  induction bytes using wordsOf.induct generalizing front chk with
  | case1 high low rest ih =>
    rw [wordsOf, List.sum_cons] at small ⊢
    have ahead : front ++ high :: low :: rest = front ++ [high, low] ++ rest := by
      rw [List.append_assoc]
      rfl
    have pair : front.length + 1 < (front ++ high :: low :: rest).length := by
      simp only [List.length_append, List.length_cons]
      omega
    have first : (front ++ high :: low :: rest)[front.length]? = some high := by
      rw [List.getElem?_append_right (Nat.le_refl _), Nat.sub_self]
      rfl
    have second : (front ++ high :: low :: rest)[front.length + 1]? = some low := by
      rw [List.getElem?_append_right (Nat.le_add_right ..), Nat.add_sub_cancel_left]
      rfl
    have added : addTcpWord (front ++ high :: low :: rest) chk front.length =
        some (chk + word high low) := by
      rw [addTcpWord, if_pos pair, addWord, first, second]
      exact checked_of_lt (by omega)
    rw [stepByTwo_cons (Nat.lt_of_succ_lt pair), List.foldlM_cons, added, Option.bind_eq_bind,
      Option.bind_some, ahead]
    have grown : (front ++ [high, low]).length = front.length + 2 := List.length_append
    have behind := ih (front ++ [high, low]) (chk + word high low) (by omega)
    rwa [Nat.add_assoc chk, grown] at behind
  | case2 high =>
    rw [wordsOf, List.sum_singleton] at small ⊢
    have last : (front ++ [high]).length = front.length + 1 := List.length_append
    have first : (front ++ [high])[front.length]? = some high := List.getElem?_concat_length
    have padded : word high 0 = high.toNat <<< 8 := Nat.or_zero _
    have added : addTcpWord (front ++ [high]) chk front.length = some (chk + word high 0) := by
      rw [addTcpWord, if_neg (by omega), first, padded]
      exact checked_of_lt (padded ▸ small)
    rw [last, stepByTwo_cons (Nat.lt_succ_self _), stepByTwo_nil (Nat.le_succ _), List.foldlM_cons,
      added]
    rfl
  | case3 =>
    rw [stepByTwo_nil (by rw [List.append_nil])]
    rfl

theorem foldlM_congr_of_mem {α β : Type*} {round other : β → α → Option β} {items : List α}
    (same : ∀ item ∈ items, ∀ total, round total item = other total item) (total : β) :
    items.foldlM round total = items.foldlM other total := by
  induction items generalizing total with
  | nil => rfl
  | cons item rest ih =>
    rw [List.foldlM_cons, List.foldlM_cons, same item List.mem_cons_self]
    exact congrArg _ (funext fun total =>
      ih (fun later member => same later (List.mem_cons_of_mem item member)) total)

/-- A header loop adds up the words from `start` to `stop`. -/
theorem addWord_foldlM {frame : List UInt8} (start stop : Nat) (even : (stop - start) % 2 = 0)
    (ordered : start ≤ stop) (inside : stop ≤ frame.length) (chk : Nat)
    (small : chk + (wordsOf ((frame.take stop).drop start)).sum < 2 ^ 32) :
    (stepByTwo start stop).foldlM (addWord frame) chk =
      some (chk + (wordsOf ((frame.take stop).drop start)).sum) := by
  have size : (frame.take stop).length = stop := List.length_take_of_le inside
  have front : ((frame.take stop).take start).length = start :=
    List.length_take_of_le (size.symm ▸ ordered)
  have summed := addTcpWord_foldlM ((frame.take stop).take start) ((frame.take stop).drop start) chk
    small
  rw [List.take_append_drop, front, size] at summed
  rw [← summed]
  refine foldlM_congr_of_mem (fun i member chk => ?_) chk
  obtain ⟨after, before, offset⟩ := mem_stepByTwo member
  rw [addTcpWord, if_pos (by omega), addWord, addWord, List.getElem?_take_of_lt before,
    List.getElem?_take_of_lt (by omega)]

theorem storeChecksum_spec (frame : List UInt8) (index : Nat) (inside : index + 1 < frame.length)
    (chk : Nat) : storeChecksum frame index chk =
      some ((frame.set index (high16 (~~~ (UInt16.ofNat chk)))).set (index + 1)
        (low16 (~~~ (UInt16.ofNat chk)))) := by
  rw [storeChecksum, setByte_of_lt _ _ (by omega), Option.bind_eq_bind, Option.bind_some,
    setByte_of_lt _ _ (by simpa using inside)]

theorem complement_toNat {value : Nat} (small : value < 2 ^ 16) :
    (~~~ (UInt16.ofNat value)).toNat = 2 ^ 16 - 1 - value := by
  rw [UInt16.toNat_not, UInt16.toNat_ofNat', Nat.mod_eq_of_lt small]
  rfl

theorem set_pair_again (frame : List UInt8) (index : Nat) (a b c d : UInt8) :
    (((frame.set index a).set (index + 1) b).set index c).set (index + 1) d =
      (frame.set index c).set (index + 1) d := by
  rw [List.set_comm b c (by omega : index + 1 ≠ index), List.set_set, List.set_set]

variable (frame : List UInt8) (ipChecksum tcpChecksum : UInt16)

theorem withChecksums_length : (withChecksums frame ipChecksum tcpChecksum).length = frame.length := by
  simp only [withChecksums, List.length_set]

theorem withChecksums_ipHeader : ((withChecksums frame ipChecksum tcpChecksum).take 34).drop 14 =
    (((frame.take 34).drop 14).set 10 (high16 ipChecksum)).set 11 (low16 ipChecksum) := by
  simp only [withChecksums, List.take_set, List.drop_set, Nat.reduceLT, Nat.reduceSub, ↓reduceIte]
  rw [List.set_eq_of_length_le (i := 37), List.set_eq_of_length_le (i := 36)]
  · simp only [List.length_set, List.length_drop, List.length_take]
    omega
  · simp only [List.length_set, List.length_drop, List.length_take]
    omega

/-- The TCP checksum is out of sight of the addresses in the header. -/
theorem withChecksums_addresses : ((withChecksums frame ipChecksum tcpChecksum).take 34).drop 26 =
    (frame.take 34).drop 26 := by
  simp only [withChecksums, List.take_set, List.drop_set, Nat.reduceLT, Nat.reduceSub, ↓reduceIte]
  rw [List.set_eq_of_length_le (i := 25), List.set_eq_of_length_le (i := 24)]
  · simp only [List.length_drop, List.length_take]
    omega
  · simp only [List.length_set, List.length_drop, List.length_take]
    omega

theorem withChecksums_segment : (withChecksums frame ipChecksum tcpChecksum).drop 34 =
    ((frame.drop 34).set 16 (high16 tcpChecksum)).set 17 (low16 tcpChecksum) := by
  simp only [withChecksums, List.drop_set, Nat.reduceLT, Nat.reduceSub, ↓reduceIte]

/-- The sum behind the header checksum, which leaves the checksum itself out. -/
def ipChk (frame : List UInt8) : Nat :=
  (wordsOf ((((frame.take 34).drop 14).set 10 0).set 11 0)).sum

/-- The sum behind the segment's checksum. -/
def tcpChk (frame : List UInt8) : Nat :=
  (wordsOf ((frame.take 34).drop 26)).sum + 6 + (frame.length - 34) +
    (wordsOf (((frame.drop 34).set 16 0).set 17 0)).sum

theorem sumIpHeader (headers : 54 ≤ frame.length) :
    (stepByTwo 14 34).foldlM (addWord ((frame.set 24 0).set 25 0)) 0 = some (ipChk frame) := by
  have header : (((frame.set 24 0).set 25 0).take 34).drop 14 =
      (((frame.take 34).drop 14).set 10 0).set 11 0 := by
    simp only [List.take_set, List.drop_set, Nat.reduceLT, Nat.reduceSub, ↓reduceIte]
  have size : ((((frame.take 34).drop 14).set 10 0).set 11 0).length = 20 := by
    simp only [List.length_set, List.length_drop, List.length_take]
    omega
  have bound := wordsOf_sum_le ((((frame.take 34).drop 14).set 10 0).set 11 0)
  rw [size] at bound
  have inside : 34 ≤ ((frame.set 24 0).set 25 0).length := by
    rw [List.length_set, List.length_set]
    omega
  have summed := addWord_foldlM 14 34 rfl (by decide) inside 0 (by rw [header]; omega)
  rwa [header, Nat.zero_add] at summed

theorem sumAddresses (headers : 54 ≤ frame.length) :
    (stepByTwo 26 34).foldlM (addWord (withChecksums frame ipChecksum 0)) 0 =
      some (wordsOf ((frame.take 34).drop 26)).sum ∧
    (wordsOf ((frame.take 34).drop 26)).sum ≤ 4 * 65535 := by
  have addresses := withChecksums_addresses frame ipChecksum 0
  have size : ((frame.take 34).drop 26).length = 8 := by
    rw [List.length_drop, List.length_take]
    omega
  have bound := wordsOf_sum_le ((frame.take 34).drop 26)
  rw [size] at bound
  have inside : 34 ≤ (withChecksums frame ipChecksum 0).length := by
    rw [withChecksums_length]
    omega
  have summed := addWord_foldlM 26 34 rfl (by decide) inside 0 (by rw [addresses]; omega)
  rw [addresses, Nat.zero_add] at summed
  exact ⟨summed, bound⟩

theorem sumSegment (headers : 54 ≤ frame.length) (short : frame.length ≤ 14 + 65535) {chk : Nat}
    (small : chk < 2 ^ 31) :
    (stepByTwo 34 frame.length).foldlM (addTcpWord (withChecksums frame ipChecksum 0)) chk =
      some (chk + (wordsOf (((frame.drop 34).set 16 0).set 17 0)).sum) := by
  have segment : (withChecksums frame ipChecksum 0).drop 34 =
      ((frame.drop 34).set 16 0).set 17 0 := withChecksums_segment frame ipChecksum 0
  have size : (((frame.drop 34).set 16 0).set 17 0).length = frame.length - 34 := by
    rw [List.length_set, List.length_set, List.length_drop]
  have bound := wordsOf_sum_le (((frame.drop 34).set 16 0).set 17 0)
  rw [size] at bound
  have front : ((withChecksums frame ipChecksum 0).take 34).length = 34 := by
    rw [List.length_take, withChecksums_length]
    omega
  have summed := addTcpWord_foldlM ((withChecksums frame ipChecksum 0).take 34)
    ((withChecksums frame ipChecksum 0).drop 34) chk (by rw [segment]; omega)
  rwa [List.take_append_drop, front, withChecksums_length, segment] at summed

/-- `recalculate_checksums` succeeds on every frame the kernel can build and
writes the complements of the two sums. -/
theorem recalculateChecksums_eq (headers : 54 ≤ frame.length) (short : frame.length ≤ 14 + 65535) :
    recalculateChecksums frame = some (withChecksums frame
      (~~~ (UInt16.ofNat (foldCarries (ipChk frame))))
      (~~~ (UInt16.ofNat (foldCarries (tcpChk frame))))) := by
  have clear24 := setByte_of_lt frame 24 (by omega) 0
  have clear25 := setByte_of_lt (frame.set 24 0) 25 (by rw [List.length_set]; omega) 0
  have ipStored := storeChecksum_spec ((frame.set 24 0).set 25 0) 24
    (by rw [List.length_set, List.length_set]; omega) (foldCarries (ipChk frame))
  rw [set_pair_again] at ipStored
  generalize ~~~ (UInt16.ofNat (foldCarries (ipChk frame))) = ipChecksum at ipStored ⊢
  obtain ⟨addresses, few⟩ := sumAddresses frame ipChecksum headers
  have segment := sumSegment frame ipChecksum headers short
    (show (wordsOf ((frame.take 34).drop 26)).sum + 6 + (frame.length - 34) < 2 ^ 31 by omega)
  generalize stamped : (frame.set 24 (high16 ipChecksum)).set 25 (low16 ipChecksum) = middle
    at ipStored
  have size : middle.length = frame.length := by
    rw [← stamped, List.length_set, List.length_set]
  have clear50 := setByte_of_lt middle 50 (by omega) 0
  have clear51 := setByte_of_lt (middle.set 50 0) 51 (by rw [List.length_set]; omega) 0
  have ready : (middle.set 50 0).set 51 0 = withChecksums frame ipChecksum 0 := by
    rw [← stamped]
    rfl
  have payload : checkedSub (withChecksums frame ipChecksum 0).length 34 =
      some (frame.length - 34) := by
    rw [withChecksums_length]
    exact checkedSub_of_le (by omega)
  have low : (frame.length - 34) % 2 ^ 32 = frame.length - 34 := Nat.mod_eq_of_lt (by omega)
  have tcpStored := storeChecksum_spec (withChecksums frame ipChecksum 0) 50
    (by rw [withChecksums_length]; omega) (foldCarries (tcpChk frame))
  rw [← ready, set_pair_again, ready] at tcpStored
  simp only [recalculateChecksums, clear24, clear25, sumIpHeader frame headers, ipStored, clear50,
    clear51, Option.bind_eq_bind, Option.bind_some, Nat.reduceAdd, ready, addresses, payload, low,
    checked_of_lt (show (wordsOf ((frame.take 34).drop 26)).sum + 6 < 2 ^ 32 by omega),
    checked_of_lt (show (wordsOf ((frame.take 34).drop 26)).sum + 6 + (frame.length - 34) < 2 ^ 32 by
      omega)]
  rw [withChecksums_length, segment, Option.bind_some]
  exact tcpStored.trans (by rw [← stamped]; rfl)

/-- Both checksums verify then. -/
theorem withChecksums_verify (headers : 54 ≤ frame.length) (short : frame.length ≤ 14 + 65535) :
    ChecksumsVerify (withChecksums frame (~~~ (UInt16.ofNat (foldCarries (ipChk frame))))
      (~~~ (UInt16.ofNat (foldCarries (tcpChk frame))))) := by
  have ipSum := foldCarries_represents (ipChk frame)
  have tcpSum := foldCarries_represents (tcpChk frame)
  have ipComplement := complement_toNat ipSum.bounded
  have tcpComplement := complement_toNat tcpSum.bounded
  generalize ~~~ (UInt16.ofNat (foldCarries (ipChk frame))) = ipChecksum at *
  generalize ~~~ (UInt16.ofNat (foldCarries (tcpChk frame))) = tcpChecksum at *
  constructor
  · have header : ((frame.take 34).drop 14).length = 20 := by
      rw [List.length_drop, List.length_take]
      omega
    rw [withChecksums_ipHeader]
    exact onesSum_checksum _ 5 (by rw [header]; decide) [] (fun word member => nomatch member)
      ipComplement (by rwa [List.sum_nil, Nat.zero_add])
  · have segment : (frame.drop 34).length = frame.length - 34 := List.length_drop
    rw [withChecksums_segment, withChecksums_addresses, withChecksums_length]
    refine onesSum_checksum _ 8 (by rw [segment]; omega) _ ?_ tcpComplement ?_
    · intro word member
      rcases List.mem_append.mp member with member | member
      · exact wordsOf_lt _ word member
      · simp only [List.mem_cons, List.not_mem_nil, or_false] at member
        omega
    · rw [List.sum_append, List.sum_cons, List.sum_singleton, ← Nat.add_assoc]
      exact tcpSum

theorem recalculateChecksums_verify {frame stored : List UInt8} (headers : 54 ≤ frame.length)
    (short : frame.length ≤ 14 + 65535) (stamped : recalculateChecksums frame = some stored) :
    ChecksumsVerify stored := by
  rw [recalculateChecksums_eq frame headers short, Option.some.injEq] at stamped
  rw [← stamped]
  exact withChecksums_verify frame headers short

end QoreOS.Network
