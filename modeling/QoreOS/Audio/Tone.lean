import QoreOS.Audio.Mailbox

/-! `play_tone` on a controller that serves the rings: the codec receives the seven commands and the
samples of the wave are sent without end, but under a stream number that nothing listens to. -/

namespace QoreOS.Audio

open QoreOS.Library Program Bus
open ByteMemory (Word)

theorem Allocation.Apart.pairs {allocation : Allocation} (apart : allocation.Apart) :
    (allocation.corb + 4096 ≤ allocation.rirb ∨ allocation.rirb + 4096 ≤ allocation.corb) ∧
      (allocation.corb + 4096 ≤ allocation.audioBuf ∨ allocation.audioBuf + 65536 ≤ allocation.corb) ∧
      (allocation.corb + 4096 ≤ allocation.bdl ∨ allocation.bdl + 4096 ≤ allocation.corb) ∧
      (allocation.rirb + 4096 ≤ allocation.audioBuf ∨ allocation.audioBuf + 65536 ≤ allocation.rirb) ∧
      (allocation.rirb + 4096 ≤ allocation.bdl ∨ allocation.bdl + 4096 ≤ allocation.rirb) ∧
      (allocation.audioBuf + 65536 ≤ allocation.bdl ∨ allocation.bdl + 4096 ≤ allocation.audioBuf) := by
  have all := apart.apart
  simp only [regions, List.pairwise_cons, List.mem_cons, forall_eq_or_imp] at all
  exact ⟨all.1.1, all.1.2.1, all.1.2.2.1, all.2.1.1, all.2.1.2.1, all.2.2.1.1⟩

section Rules

variable {start machine : Machine} {allocation : Allocation} {words : Set Word} {sent : List Nat}
  {holds later : Stream → Prop} {due : Event → Prop} {bound : Nat}
  {broken : Bus Machine Event → Prop}

/-- The registers of the first output stream. -/
def streamOffset (controller : Controller) : Nat := 0x80 + controller.firstOutput * 0x20

theorem iss_eq (gcap : Nat) : (gcap % 256 ^ 4) >>> 8 &&& 0x0F = gcap / 2 ^ 8 % 16 := by
  rw [show (0x0F : Nat) = 2 ^ 4 - 1 from rfl, Nat.and_two_pow_sub_one_eq_mod,
    Nat.shiftRight_eq_div_pow]
  omega

theorem write_stream (controller : Controller) (index value : Nat) {offset : Nat}
    (small : offset < 0x20) : controller.write (0x80 + index * 0x20 + offset) value =
      controller.setStream index ((controller.streams index).write offset value) := by
  have place : (0x80 + index * 0x20 + offset - 0x80) / 0x20 = index := by omega
  have rest : (0x80 + index * 0x20 + offset - 0x80) % 0x20 = offset := by omega
  unfold Controller.write
  split
  case h_13 => rw [if_pos (by omega), place, rest]
  all_goals omega

theorem read_stream (controller : Controller) (index : Nat) :
    controller.read (0x80 + index * 0x20) = (controller.streams index).read := by
  have place : (0x80 + index * 0x20 - 0x80) / 0x20 = index := by omega
  unfold Controller.read
  split
  case h_5 => rw [place]
  all_goals omega

/-- A number is written where nothing else is. -/
theorem store_preparing (posted : Posted allocation words sent)
    (follows : ∀ stream, holds stream → holds stream.follow) {address size value : Nat}
    (clear : ∀ word ∈ words, word.Clear address size) (fits : value < 256 ^ size) :
    Ensures (At due bound (Preparing start allocation words sent holds))
      (Driver.store address size value)
      (fun _ => At due bound (Preparing start allocation (insert ⟨address, size, value⟩ words) sent holds))
      broken := by
  refine ensures_access (fun _ => Preparing start allocation _ sent holds)
    (Preparing.stable posted follows) ?_
  rintro machine ⟨mailbox, paused⟩
  exact ⟨⟨mailbox.1, mailbox.2, mailbox.3, mailbox.4, mailbox.5, mailbox.6,
    mailbox.stores.write clear fits, mailbox.8, mailbox.9⟩, paused.1, paused.2, paused.3, paused.4⟩

theorem allocZeroed_preparing (posted : Posted allocation words sent)
    (follows : ∀ stream, holds stream → holds stream.follow) {address size : Nat}
    (clear : ∀ word ∈ words, word.Clear address size) :
    Ensures (At due bound (Preparing start allocation words sent holds))
      (Driver.allocZeroed address size)
      (fun pointer bus => pointer = address ∧
        At due bound (Preparing start allocation words sent holds) bus) broken := by
  refine ensures_reads (· = address) (Preparing.stable posted follows) ?_
  rintro machine ⟨mailbox, paused⟩
  refine ⟨rfl, ⟨mailbox.1, mailbox.2, mailbox.3, mailbox.4, mailbox.5, mailbox.6, ?_, mailbox.8,
    mailbox.9⟩, paused.1, paused.2, paused.3, paused.4⟩
  apply mailbox.stores.copy
  rwa [List.length_replicate]

/-- A register of the stream is written, but it is not started. -/
theorem writeStream_preparing (posted : Posted allocation words sent)
    (follows : ∀ stream, holds stream → holds stream.follow) {offset value : Nat}
    (small : offset < 0x20) (writes : ∀ stream : Stream, holds stream →
      later (stream.write offset value) ∧ (stream.write offset value).Stopped) :
    Ensures (At due bound (Preparing start allocation words sent holds))
      (Driver.writeReg (streamOffset start.hda + offset) value)
      (fun _ => At due bound (Preparing start allocation words sent later)) broken := by
  refine ensures_access (fun _ => Preparing start allocation words sent later)
    (Preparing.stable posted follows) ?_
  rintro machine ⟨mailbox, paused⟩
  obtain ⟨written, stopped⟩ := writes _ paused.stream
  simp only [streamOffset, write_stream _ _ _ small]
  refine ⟨⟨mailbox.1, mailbox.2, mailbox.3, mailbox.4, mailbox.5, mailbox.6, mailbox.7, mailbox.8,
    mailbox.9⟩, ?_, setStream_stopped paused.stopped stopped, paused.link, paused.played⟩
  simpa only [Controller.setStream, Function.update_self] using written

theorem Preparing.imp (preparing : Preparing start allocation words sent holds machine)
    (implies : ∀ stream, holds stream → later stream) :
    Preparing start allocation words sent later machine :=
  ⟨preparing.mailbox, implies _ preparing.paused.stream, preparing.paused.stopped,
    preparing.paused.link, preparing.paused.played⟩

/-- The stream takes note of its reset bit. -/
theorem Preparing.followReset (preparing : Preparing start allocation words sent holds machine)
    (posted : Posted allocation words sent)
    (follows : ∀ stream, holds stream → later stream.follow) :
    Preparing start allocation words sent later
      (machine.react (.followReset start.hda.firstOutput)) := by
  obtain ⟨mailbox, paused⟩ := preparing
  refine ⟨mailbox.react posted _, ?_⟩
  simp only [Machine.react, Machine.followReset, if_pos mailbox.awake]
  refine ⟨?_, setStream_stopped paused.stopped (paused.stopped _).follow, paused.link, paused.played⟩
  simpa only [Controller.setStream, Function.update_self] using follows _ paused.stream

/-- The wait for the stream's reset bit. -/
theorem waitStream_preparing (posted : Posted allocation words sent) {waiting done : Stream → Prop}
    {value : Bool} (patient : bound ≤ 10001)
    (follows : ∀ stream, waiting stream ∨ done stream → done stream.follow)
    (early : ∀ stream, waiting stream → (stream.read.testBit 0 == value) = false)
    (late : ∀ stream, done stream → (stream.read.testBit 0 == value) = true) :
    Ensures (At (Due start.hda.firstOutput) bound
        (Preparing start allocation words sent fun stream => waiting stream ∨ done stream))
      (Driver.waitBit (streamOffset start.hda) 0 value 10000)
      (fun _ => At (Due start.hda.firstOutput) bound (Preparing start allocation words sent done))
      broken := by
  have split : ∀ machine,
      Preparing start allocation words sent (fun stream => waiting stream ∨ done stream) machine →
        Preparing start allocation words sent waiting machine ∨
          Preparing start allocation words sent done machine := by
    rintro machine ⟨mailbox, still | ended, stopped, link, played⟩
    · exact Or.inl ⟨mailbox, still, stopped, link, played⟩
    · exact Or.inr ⟨mailbox, ended, stopped, link, played⟩
  have join : ∀ machine, Preparing start allocation words sent waiting machine ∨
      Preparing start allocation words sent done machine →
        Preparing start allocation words sent (fun stream => waiting stream ∨ done stream) machine := by
    rintro machine (still | ended)
    · exact still.imp fun _ => Or.inl
    · exact ended.imp fun _ => Or.inr
  have awaits : Ensures (At (Due start.hda.firstOutput) bound fun machine =>
        Preparing start allocation words sent waiting machine ∨
          Preparing start allocation words sent done machine)
      (Driver.waitBit (streamOffset start.hda) 0 value 10000)
      (fun found bus => found = true ∧
        At (Due start.hda.firstOutput) bound (Preparing start allocation words sent done) bus)
      broken := by
    refine ensures_await (Or.inr rfl : Due start.hda.firstOutput (.followReset _)) patient ?_ ?_ ?_
      ?_ ?_
    · intro machine event either
      exact split _ (Preparing.stable posted (fun stream now => Or.inr (follows stream now)) machine
        event (join machine either))
    · exact Preparing.stable posted fun stream ended => follows stream (Or.inr ended)
    · exact fun machine either => (join machine either).followReset posted follows
    · intro machine still
      simp only [streamOffset, read_stream]
      exact early _ still.paused.stream
    · intro machine ended
      simp only [streamOffset, read_stream]
      exact late _ ended.paused.stream
  exact ensures_weaken awaits (fun _ at_bus => ⟨split _ at_bus.holds, at_bus.lively⟩)
    (fun _ _ ended => ended.2) fun _ holds => holds

end Rules

section Commands

variable {start : Machine} {allocation : Allocation} {words : Set Word} {sent : List Nat}
  {holds : Stream → Prop} {due : Event → Prop} {bound : Nat} {broken : Bus Machine Event → Prop}

theorem Allocation.Apart.corb_rirb (apart : allocation.Apart) :
    allocation.corb + 4096 ≤ allocation.rirb ∨ allocation.rirb + 4096 ≤ allocation.corb :=
  apart.pairs.1

/-- The places of the ring behind so many commands are free. -/
def Room (allocation : Allocation) (words : Set Word) (count : Nat) : Prop :=
  ∀ word ∈ words, word.Clear (allocation.corb + 4 * (count + 1)) (4 * (255 - count))

theorem Posted.add (posted : Posted allocation words sent) {word : Word}
    (clear : word.Clear allocation.rirb 4096) : Posted allocation (insert word words) sent where
  short := posted.short
  commands := fun place inside => Or.inr (posted.commands place inside)
  clear := by
    rintro other (rfl | member)
    · exact clear
    · exact posted.clear other member

/-- The next command, at its place in the ring. -/
def commandWord (allocation : Allocation) (count command : Nat) : Word :=
  ⟨allocation.corb + 4 * (count + 1), 4, command⟩

theorem commandWord_clear (apart : allocation.Apart) {count : Nat} (small : count < 255)
    (command : Nat) : (commandWord allocation count command).Clear allocation.rirb 4096 := by
  have regions := apart.corb_rirb
  simp only [Word.Clear, commandWord]
  omega

theorem Posted.push {command : Nat}
    (posted : Posted allocation (insert (commandWord allocation sent.length command) words) sent)
    (more : sent.length + 1 < 256) :
    Posted allocation (insert (commandWord allocation sent.length command) words)
      (sent ++ [command]) where
  short := by simpa using more
  commands := by
    intro place inside
    rcases Nat.lt_or_ge place sent.length with before | behind
    · rw [List.getElem_append_left before]
      exact posted.commands place before
    · have last : place = sent.length := by
        simp only [List.length_append, List.length_singleton] at inside
        omega
      subst last
      simp [commandWord]
  clear := posted.clear

theorem Room.push {count : Nat} (room : Room allocation words count) (small : count < 255)
    (command : Nat) :
    Room allocation (insert (commandWord allocation count command) words) (count + 1) := by
  rintro word (rfl | member)
  · left
    simp only [commandWord]
    omega
  · exact (room word member).mono (by omega) (by omega)

/-- The write pointer of the ring moves on. -/
theorem Mailbox.send {machine : Machine} {command : Nat} (posted : Posted allocation words (sent ++ [command]))
    (mailbox : Mailbox start allocation words sent machine) :
    Mailbox start allocation words (sent ++ [command])
      { machine with hda := machine.hda.write 0x48 ((sent.length + 1) % 256) } := by
  have short := posted.short
  rw [List.length_append, List.length_singleton] at short
  have pointer := mailbox.pointer
  have same : (sent ++ [command]).take machine.hda.readPointer = sent.take machine.hda.readPointer :=
    List.take_append_of_le_length pointer
  refine ⟨mailbox.asked, mailbox.awake, mailbox.gcap, ?_, ?_, mailbox.rirb, mailbox.stores, ?_, ?_⟩
  · simp only [Controller.write, mailbox.corb, List.length_append, List.length_singleton,
      Nat.mod_eq_of_lt short, ringAt]
  · simp only [Controller.write, List.length_append, List.length_singleton]
    omega
  · exact mailbox.verbs.trans (congrArg _ same.symm)
  · exact mailbox.widgets.trans (congrArg _ same.symm)

theorem sendCorbCmd_preparing (posted : Posted allocation words sent) (apart : allocation.Apart)
    (room : Room allocation words sent.length)
    (follows : ∀ stream, holds stream → holds stream.follow) (more : sent.length + 1 < 256)
    {hda : Startup.IntelHda} (corb : hda.corbPtr = allocation.corb) {command : Nat}
    (fits : command < 256 ^ 4) :
    Ensures (At due bound (Preparing start allocation words sent holds))
      (Driver.sendCorbCmd hda command)
      (fun _ => At due bound (Preparing start allocation
        (insert (commandWord allocation sent.length command) words) (sent ++ [command]) holds))
      broken := by
  have place : (sent.length + 1) % 256 = sent.length + 1 := Nat.mod_eq_of_lt more
  have written := posted.add (commandWord_clear apart (by omega : sent.length < 255) command)
  have pushed := written.push more
  unfold Driver.sendCorbCmd
  refine ensures_notNull (by rw [corb]; exact allocation.corb_ne) ?_
  refine ensures_bind (ensures_reads (· = sent.length) (Preparing.stable posted follows) ?_)
    fun wp => ?_
  · rintro machine ⟨mailbox, paused⟩
    refine ⟨?_, mailbox, paused⟩
    simp only [Controller.read, mailbox.corb, ringAt_writePointer]
    exact Nat.mod_eq_of_lt (by omega)
  refine ensures_given ?_
  rintro rfl
  refine ensures_orPanic ?_ ?_
  · intro next found
    obtain ⟨rfl, -⟩ := checked_eq_some found
    rw [corb, place]
    refine ensures_bind (store_preparing posted follows ?_ fits) fun _ => ?_
    · intro word member
      exact (room word member).mono (Nat.le_refl _) (by omega)
    refine ensures_access (fun _ => Preparing start allocation _ _ holds)
      (Preparing.stable written follows) ?_
    rintro machine ⟨mailbox, paused⟩
    have sent_on := mailbox.send pushed
    rw [place] at sent_on
    exact ⟨sent_on, paused.1, paused.2, paused.3, paused.4⟩
  · intro panics
    rw [checked_of_lt (by omega)] at panics
    cases panics

/-- All commands take their places. -/
theorem sendAll_preparing (apart : allocation.Apart)
    (follows : ∀ stream, holds stream → holds stream.follow)
    {hda : Startup.IntelHda} (corb : hda.corbPtr = allocation.corb) (commands : List Nat)
    (fit : ∀ command ∈ commands, command < 256 ^ 4) (posted : Posted allocation words sent)
    (room : Room allocation words sent.length) (more : sent.length + commands.length < 256) :
    Ensures (At due bound (Preparing start allocation words sent holds))
      (commands.forM (Driver.sendCorbCmd hda))
      (fun _ bus => ∃ all, (words ⊆ all ∧ Posted allocation all (sent ++ commands)) ∧
        At due bound (Preparing start allocation all (sent ++ commands) holds) bus) broken := by
  induction commands generalizing words sent with
  | nil =>
    rw [List.append_nil]
    exact ensures_pure fun _ at_bus => ⟨words, ⟨Set.Subset.refl words, posted⟩, at_bus⟩
  | cons command commands ih =>
    rw [List.length_cons] at more
    have one : sent.length + 1 < 256 := by omega
    have pushed := (posted.add (commandWord_clear apart (by omega : sent.length < 255) command)).push
      one
    refine ensures_bind (sendCorbCmd_preparing posted apart room follows one corb
      (fit command List.mem_cons_self)) fun _ => ?_
    have rest := ih (fun other member => fit other (List.mem_cons_of_mem command member)) pushed
      (by rw [List.length_append]; exact room.push (by omega) command)
      (by rw [List.length_append, List.length_singleton]; omega)
    simp only [List.append_assoc, List.singleton_append] at rest
    refine ensures_weaken rest (fun _ at_bus => at_bus) ?_ fun _ holds => holds
    rintro _ _ ⟨all, ⟨inside, behind⟩, at_bus⟩
    exact ⟨all, ⟨(Set.subset_insert _ _).trans inside, behind⟩, at_bus⟩

end Commands

section Samples

variable {start : Machine} {allocation : Allocation} {due : Event → Prop} {bound : Nat}
  {broken : Bus Machine Event → Prop}

open Startup (bufferSize sample)

def sampleWord (allocation : Allocation) (i : Nat) : Word := ⟨allocation.audioBuf + 2 * i, 2, sample i⟩

def sampleWords (allocation : Allocation) (count : Nat) : Set Word :=
  {word | ∃ i < count, word = sampleWord allocation i}

/-- The wave, and the list that names its buffer. -/
def toneWords (allocation : Allocation) : Set Word :=
  insert ⟨allocation.bdl + 12, 4, 0⟩ (insert ⟨allocation.bdl + 8, 4, bufferSize⟩
    (insert ⟨allocation.bdl + 4, 4, allocation.audioBuf >>> 32⟩
      (insert ⟨allocation.bdl, 4, allocation.audioBuf &&& 0xFFFFFFFF⟩
        (sampleWords allocation (bufferSize / 2)))))

theorem sample_lt (i : Nat) : sample i < 256 ^ 2 := by
  unfold sample
  split <;> decide

theorem sampleWords_succ (allocation : Allocation) (count : Nat) :
    sampleWords allocation (count + 1) =
      insert (sampleWord allocation count) (sampleWords allocation count) := by
  ext word
  constructor
  · rintro ⟨i, inside, rfl⟩
    rcases Nat.lt_succ_iff_lt_or_eq.mp inside with before | rfl
    · exact Or.inr ⟨i, before, rfl⟩
    · exact Or.inl rfl
  · rintro (rfl | ⟨i, inside, rfl⟩)
    · exact ⟨count, Nat.lt_succ_self count, rfl⟩
    · exact ⟨i, Nat.lt_succ_of_lt inside, rfl⟩

/-- The words stand in the buffer of the samples or in the descriptor list up to an offset. -/
def Below (allocation : Allocation) (offset : Nat) (words : Set Word) : Prop :=
  ∀ word ∈ words,
    allocation.audioBuf ≤ word.address ∧ word.address + word.size ≤ allocation.audioBuf + 65536 ∨
      allocation.bdl ≤ word.address ∧ word.address + word.size ≤ allocation.bdl + offset

theorem sampleWords_below {count : Nat} (inside : count ≤ bufferSize / 2) :
    Below allocation 0 (sampleWords allocation count) := by
  rintro word ⟨i, small, rfl⟩
  left
  simp only [sampleWord, bufferSize] at inside ⊢
  omega

section Below

variable {offset : Nat} {words : Set Word}

theorem Below.entry (below : Below allocation offset words) (value : Nat) :
    Below allocation (offset + 4) (insert ⟨allocation.bdl + offset, 4, value⟩ words) := by
  rintro word (rfl | member)
  · right
    exact ⟨Nat.le_add_right _ _, Nat.le_of_eq (Nat.add_assoc _ _ _)⟩
  · have earlier := below word member
    omega

theorem Below.clear_corb (below : Below allocation offset words) (apart : allocation.Apart)
    (small : offset ≤ 4096) : ∀ word ∈ words, word.Clear allocation.corb 4096 := by
  intro word member
  have inside := below word member
  have pairs := apart.pairs
  unfold Word.Clear
  omega

/-- Nothing of the tone is in the way of the responses. -/
theorem Below.posted (below : Below allocation offset words) (apart : allocation.Apart)
    (small : offset ≤ 4096) : Posted allocation words [] where
  short := by decide
  commands := by simp
  clear := by
    intro word member
    have inside := below word member
    have pairs := apart.pairs
    unfold Word.Clear
    omega

theorem Below.room (below : Below allocation offset words) (apart : allocation.Apart)
    (small : offset ≤ 4096) : Room allocation words 0 := fun word member =>
  (below.clear_corb apart small word member).mono (by omega) (by omega)

variable {holds : Stream → Prop}

/-- The next field of the descriptor list. -/
theorem Below.store (below : Below allocation offset words) (apart : allocation.Apart)
    (small : offset + 4 ≤ 4096) (follows : ∀ stream, holds stream → holds stream.follow)
    {value : Nat} (fits : value < 256 ^ 4) :
    Ensures (At due bound (Preparing start allocation words [] holds))
      (Driver.store (allocation.bdl + offset) 4 value)
      (fun _ => At due bound (Preparing start allocation
        (insert ⟨allocation.bdl + offset, 4, value⟩ words) [] holds)) broken := by
  refine store_preparing (below.posted apart (by omega)) follows ?_ fits
  intro word member
  have inside := below word member
  have pairs := apart.pairs
  unfold Word.Clear
  omega

end Below

/-- The loop over the samples. -/
theorem samples_preparing (apart : allocation.Apart) {holds : Stream → Prop}
    (follows : ∀ stream, holds stream → holds stream.follow) :
    Ensures (At due bound (Preparing start allocation ∅ [] holds))
      ((List.range (bufferSize / 2)).forM fun i => do
        Program.notNull (allocation.audioBuf + 2 * i)
        Driver.store (allocation.audioBuf + 2 * i) 2 (sample i))
      (fun _ => At due bound (Preparing start allocation (sampleWords allocation (bufferSize / 2)) []
        holds)) broken := by
  have none_yet : sampleWords allocation 0 = ∅ := by
    ext word
    simp [sampleWords]
  have turn : ∀ i < bufferSize / 2, Ensures
      (At due bound (Preparing start allocation (sampleWords allocation i) [] holds))
      (do
        Program.notNull (allocation.audioBuf + 2 * i)
        Driver.store (allocation.audioBuf + 2 * i) 2 (sample i))
      (fun _ => At due bound (Preparing start allocation (sampleWords allocation (i + 1)) [] holds))
      broken := by
    intro i inside
    rw [sampleWords_succ]
    have there := allocation.audioBuf_ne
    refine ensures_notNull (by omega) ?_
    refine store_preparing ((sampleWords_below (Nat.le_of_lt inside)).posted apart (by omega)) follows
      ?_ (sample_lt i)
    rintro word ⟨earlier, before, rfl⟩
    left
    simp only [sampleWord]
    omega
  rw [← none_yet]
  exact ensures_forM_range _ turn

theorem toneWords_below (allocation : Allocation) : Below allocation 16 (toneWords allocation) :=
  ((((sampleWords_below (Nat.le_refl _)).entry _).entry _).entry _).entry _

theorem writeSamples_preparing (apart : allocation.Apart) :
    Ensures (At due bound (Preparing start allocation ∅ [] fun _ => True))
      (Driver.writeSamples allocation)
      (fun pointers bus => pointers.2 = allocation.bdl ∧
        At due bound (Preparing start allocation (toneWords allocation) [] fun _ => True) bus)
      broken := by
  have follows : ∀ stream : Stream, True → True := fun _ _ => trivial
  have low : allocation.audioBuf &&& 0xFFFFFFFF < 256 ^ 4 :=
    Nat.lt_of_le_of_lt Nat.and_le_right (by decide)
  have high : allocation.audioBuf >>> 32 < 256 ^ 4 := by
    have space := apart.inside (allocation.audioBuf, bufferSize) (by simp [Allocation.regions])
    rw [Nat.shiftRight_eq_div_pow]
    simp only [bufferSize] at space
    omega
  have samples : Below allocation 0 (sampleWords allocation (bufferSize / 2)) :=
    sampleWords_below (Nat.le_refl _)
  unfold Driver.writeSamples
  refine ensures_bind (allocZeroed_preparing (Posted.empty allocation) follows (by simp))
    fun audioBuf => ?_
  refine ensures_given ?_
  rintro rfl
  refine ensures_bind (samples_preparing apart follows) fun _ => ?_
  refine ensures_bind (allocZeroed_preparing (samples.posted apart (by omega)) follows ?_)
    fun bdlPtr => ?_
  · intro word member
    have inside := samples word member
    have pairs := apart.pairs
    unfold Word.Clear
    omega
  refine ensures_given ?_
  rintro rfl
  refine ensures_notNull allocation.bdl_ne ?_
  refine ensures_bind (samples.store apart (by decide) follows low) fun _ => ?_
  refine ensures_bind ((samples.entry _).store apart (by decide) follows high) fun _ => ?_
  refine ensures_bind (((samples.entry _).entry _).store apart (by decide) follows (by decide))
    fun _ => ?_
  refine ensures_bind ((((samples.entry _).entry _).entry _).store apart (by decide) follows
    (by decide)) fun _ => ?_
  exact ensures_pure fun _ at_bus => ⟨rfl, at_bus⟩

end Samples

section Prepare

/-- The reset bit is set, and read so or not yet. -/
def Asked (inReset : Bool) (stream : Stream) : Prop :=
  stream.resetAsked = true ∧ stream.control = 0 ∧ stream.inReset = inReset

/-- The reset bit has been cleared behind a reset. -/
structure Fresh (inReset : Bool) (stream : Stream) : Prop where
  asked : stream.resetAsked = false
  state : stream.inReset = inReset
  control : stream.control = 0
  number : stream.number = 0
  position : stream.position = 0

/-- These registers have been written since. -/
def Written (registers : List (Nat × Nat)) (stream : Stream) : Prop :=
  ∃ fresh, Fresh false fresh ∧
    stream = registers.foldl (fun stream register => stream.write register.1 register.2) fresh

theorem follow_same {stream : Stream} (asked : stream.resetAsked = false)
    (out : stream.inReset = false) : stream.follow = stream := by
  rw [Stream.follow, asked, if_neg Bool.false_ne_true]
  cases stream
  cases out
  rfl

theorem Fresh.write {stream : Stream} (fresh : Fresh false stream) {offset : Nat} (parameter : offset ≠ 0)
    (value : Nat) : Fresh false (stream.write offset value) := by
  unfold Stream.write
  split
  case h_1 => exact absurd rfl parameter
  all_goals exact ⟨fresh.1, fresh.2, fresh.3, fresh.4, fresh.5⟩

theorem Written.fresh {registers : List (Nat × Nat)} {stream : Stream}
    (written : Written registers stream) (parameters : ∀ register ∈ registers, register.1 ≠ 0) :
    Fresh false stream := by
  obtain ⟨first, fresh, rfl⟩ := written
  induction registers generalizing first with
  | nil => exact fresh
  | cons register registers ih =>
    exact ih (fun other member => parameters other (List.mem_cons_of_mem register member)) _
      (fresh.write (parameters register List.mem_cons_self) register.2)

theorem Written.follow {registers : List (Nat × Nat)}
    (parameters : ∀ register ∈ registers, register.1 ≠ 0) (stream : Stream)
    (written : Written registers stream) : Written registers stream.follow := by
  have fresh := written.fresh parameters
  rwa [follow_same fresh.asked fresh.state]

/-- A control byte without the run bit. -/
theorem write_stopped (stream : Stream) {value : Nat} (off : (value / 2 * 2 % 256).testBit 1 = false) :
    (stream.write 0 value).Stopped := off

variable {start : Machine} {allocation : Allocation} {words : Set Word} {sent : List Nat}
  {due : Event → Prop} {bound : Nat} {broken : Bus Machine Event → Prop}

theorem parameter_preparing (posted : Posted allocation words sent) {registers : List (Nat × Nat)}
    (parameters : ∀ register ∈ registers, register.1 ≠ 0) {offset value : Nat}
    (small : offset < 0x20) (parameter : offset ≠ 0) :
    Ensures (At due bound (Preparing start allocation words sent (Written registers)))
      (Driver.writeReg (streamOffset start.hda + offset) value)
      (fun _ => At due bound (Preparing start allocation words sent
        (Written (registers ++ [(offset, value)])))) broken := by
  refine writeStream_preparing posted (Written.follow parameters) small ?_
  intro stream written
  have fresh := (written.fresh parameters).write parameter value
  obtain ⟨first, initial, rfl⟩ := written
  refine ⟨⟨first, initial, by rw [List.foldl_append, List.foldl_cons, List.foldl_nil]⟩, ?_⟩
  rw [Stream.Stopped, fresh.control]
  decide

/-- The first output stream plays the buffer that the list names, in the format of the samples. -/
structure Configured (allocation : Allocation) (control position : Nat) (stream : Stream) : Prop where
  asked : stream.resetAsked = false
  out : stream.inReset = false
  control : stream.control = control
  number : stream.number = 0
  list : stream.list = allocation.bdl
  cyclicLength : stream.cyclicLength = 65536
  lastValid : stream.lastValid = 0
  format : stream.format = 0x0011
  position : stream.position = position

theorem Configured.follow {control position : Nat} (stream : Stream)
    (configured : Configured allocation control position stream) :
    Configured allocation control position stream.follow := by
  rwa [follow_same configured.asked configured.out]

theorem Written.configured (inside : allocation.bdl < 2 ^ 64) {stream : Stream}
    (written : Written [(0x18, allocation.bdl &&& 0xFFFFFFFF), (0x1C, allocation.bdl >>> 32),
      (0x08, Startup.bufferSize), (0x0C, 0), (0x12, 0x0011)] stream) :
    Configured allocation 0 0 stream := by
  obtain ⟨first, fresh, rfl⟩ := written
  simp only [List.foldl_cons, List.foldl_nil, Stream.write]
  refine ⟨fresh.asked, fresh.state, fresh.control, fresh.number, ?_, rfl, rfl, rfl, fresh.position⟩
  change (allocation.bdl >>> 32 % 2 ^ 32) * 2 ^ 32 + (allocation.bdl &&& 0xFFFFFFFF) % 2 ^ 32 = _
  rw [low_mask, high_shift inside]
  exact Nat.div_add_mod' allocation.bdl (2 ^ 32)

/-- The reset and the parameters leave the stream ready to be started. -/
theorem prepareStream_preparing (posted : Posted allocation words sent) (apart : allocation.Apart)
    (patient : bound ≤ 10001) :
    Ensures (At (Due start.hda.firstOutput) bound (Preparing start allocation words sent fun _ => True))
      (Driver.prepareStream allocation.bdl)
      (fun offset bus => offset = streamOffset start.hda ∧ At (Due start.hda.firstOutput) bound
        (Preparing start allocation words sent (Configured allocation 0 0)) bus) broken := by
  unfold Driver.prepareStream
  refine ensures_bind (ensures_reads (· = start.hda.gcap % 256 ^ 4)
    (Preparing.stable posted fun _ _ => trivial) ?_) fun gcap => ?_
  · rintro machine ⟨mailbox, paused⟩
    exact ⟨congrArg (· % 256 ^ 4) mailbox.gcap, mailbox, paused⟩
  refine ensures_given ?_
  rintro rfl
  rw [iss_eq]
  have stop : Ensures (At (Due start.hda.firstOutput) bound
        (Preparing start allocation words sent fun _ => True))
      (Driver.writeReg (streamOffset start.hda + 0) 0)
      (fun _ => At (Due start.hda.firstOutput) bound
        (Preparing start allocation words sent fun _ => True)) broken :=
    writeStream_preparing posted (fun _ _ => trivial) (by decide) fun stream _ =>
      ⟨trivial, write_stopped stream (by decide)⟩
  have ask : Ensures (At (Due start.hda.firstOutput) bound
        (Preparing start allocation words sent fun _ => True))
      (Driver.writeReg (streamOffset start.hda + 0) 1)
      (fun _ => At (Due start.hda.firstOutput) bound
        (Preparing start allocation words sent fun stream => Asked false stream ∨ Asked true stream))
      broken := by
    refine writeStream_preparing posted (fun _ _ => trivial) (by decide) fun stream _ =>
      ⟨?_, write_stopped stream (by decide)⟩
    cases state : stream.inReset with
    | false => exact Or.inl ⟨rfl, rfl, state⟩
    | true => exact Or.inr ⟨rfl, rfl, state⟩
  have asked : Ensures (At (Due start.hda.firstOutput) bound (Preparing start allocation words sent
        fun stream => Asked false stream ∨ Asked true stream))
      (Driver.waitBit (streamOffset start.hda) 0 true 10000)
      (fun _ => At (Due start.hda.firstOutput) bound
        (Preparing start allocation words sent (Asked true))) broken := by
    refine waitStream_preparing posted patient ?_ ?_ ?_
    · rintro stream (⟨asked, -, -⟩ | ⟨asked, -, -⟩)
      all_goals
        rw [Stream.follow, if_pos asked]
        exact ⟨rfl, rfl, rfl⟩
    · rintro stream ⟨-, control, state⟩
      rw [Stream.read, control, state]
      rfl
    · rintro stream ⟨-, control, state⟩
      rw [Stream.read, control, state]
      rfl
  have release : Ensures (At (Due start.hda.firstOutput) bound
        (Preparing start allocation words sent (Asked true)))
      (Driver.writeReg (streamOffset start.hda + 0) 0)
      (fun _ => At (Due start.hda.firstOutput) bound
        (Preparing start allocation words sent fun stream => Fresh true stream ∨ Fresh false stream))
      broken := by
    refine writeStream_preparing posted ?_ (by decide) fun stream asked =>
      ⟨Or.inl ?_, write_stopped stream (by decide)⟩
    · rintro stream ⟨asked, -, -⟩
      rw [Stream.follow, if_pos asked]
      exact ⟨rfl, rfl, rfl⟩
    · obtain ⟨number, position⟩ := stream.reset_clears asked.2.2
      exact ⟨rfl, asked.2.2, rfl, number, position⟩
  have released : Ensures (At (Due start.hda.firstOutput) bound (Preparing start allocation words sent
        fun stream => Fresh true stream ∨ Fresh false stream))
      (Driver.waitBit (streamOffset start.hda) 0 false 10000)
      (fun _ => At (Due start.hda.firstOutput) bound
        (Preparing start allocation words sent (Fresh false))) broken := by
    refine waitStream_preparing posted patient ?_ ?_ ?_
    · rintro stream (fresh | fresh)
      all_goals
        rw [Stream.follow, fresh.asked, if_neg Bool.false_ne_true]
        exact ⟨fresh.asked, rfl, fresh.control, fresh.number, fresh.position⟩
    · intro stream fresh
      rw [Stream.read, fresh.control, fresh.state]
      rfl
    · intro stream fresh
      rw [Stream.read, fresh.control, fresh.state]
      rfl
  have untouched : Ensures (At (Due start.hda.firstOutput) bound (Preparing start allocation words sent
        fun stream => Fresh true stream ∨ Fresh false stream))
      (Driver.waitBit (streamOffset start.hda) 0 false 10000)
      (fun _ => At (Due start.hda.firstOutput) bound
        (Preparing start allocation words sent (Written []))) broken :=
    ensures_weaken released (fun _ at_bus => at_bus)
      (fun _ _ at_bus => ⟨at_bus.holds.imp fun stream fresh => ⟨stream, fresh, rfl⟩, at_bus.lively⟩)
      fun _ holds => holds
  refine ensures_bind stop fun _ => ?_
  refine ensures_bind ask fun _ => ?_
  refine ensures_bind asked fun _ => ?_
  refine ensures_bind release fun _ => ?_
  refine ensures_bind untouched fun _ => ?_
  refine ensures_bind (parameter_preparing posted (by simp) (by decide) (by decide)) fun _ => ?_
  refine ensures_bind (parameter_preparing posted (by simp) (by decide) (by decide)) fun _ => ?_
  refine ensures_bind (parameter_preparing posted (by simp) (by decide) (by decide)) fun _ => ?_
  refine ensures_bind (parameter_preparing posted (by simp) (by decide) (by decide)) fun _ => ?_
  refine ensures_bind (parameter_preparing posted (by simp) (by decide) (by decide)) fun _ => ?_
  exact ensures_pure fun _ at_bus =>
    ⟨rfl, at_bus.holds.imp fun _ => Written.configured apart.bdl_lt, at_bus.lively⟩

end Prepare

section Play

open Startup (bufferSize sample)

/-- The first so many words on the link: the wave again and again, under the number 0. -/
def tone (count : Nat) : List (Nat × Nat) :=
  (List.range count).map fun place => (0, sample (place % (bufferSize / 2)))

/-- The tone streams, and nothing listens. -/
structure Playing (start : Machine) (allocation : Allocation) (count : Nat) (machine : Machine) :
    Prop where
  stream : Configured allocation 18 (2 * count % 65536)
    (machine.hda.streams start.hda.firstOutput)
  others : ∀ index ≠ start.hda.firstOutput, (machine.hda.streams index).Stopped
  link : machine.link = start.link ++ tone count
  played : machine.played = start.played

variable {start machine : Machine} {allocation : Allocation} {words : Set Word} {sent : List Nat}
  {count : Nat}

theorem tone_succ (count : Nat) :
    tone (count + 1) = tone count ++ [(0, sample (count % (bufferSize / 2)))] := by
  rw [tone, List.range_succ, List.map_append, List.map_singleton, tone]

/-- The word that the stream sends next. -/
theorem next_sample (mailbox : Mailbox start allocation words sent machine)
    (tone_stored : toneWords allocation ⊆ words) (count : Nat) :
    machine.memory.read
      (sampleAddress machine.memory 0 allocation.bdl (2 * count % 65536)) 2 =
      sample (count % (bufferSize / 2)) := by
  have low := mailbox.stores ⟨allocation.bdl, 4, allocation.audioBuf &&& 0xFFFFFFFF⟩
    (tone_stored (by simp [toneWords]))
  have high := mailbox.stores ⟨allocation.bdl + 4, 4, allocation.audioBuf >>> 32⟩
    (tone_stored (by simp [toneWords]))
  simp only at low high
  have buffer : machine.memory.read allocation.bdl 8 = allocation.audioBuf := by
    rw [ByteMemory.read_add machine.memory allocation.bdl 4 4, low, high,
      show (0xFFFFFFFF : Nat) = 2 ^ 32 - 1 from rfl, Nat.and_two_pow_sub_one_eq_mod,
      Nat.shiftRight_eq_div_pow]
    exact Nat.mod_add_div allocation.audioBuf (2 ^ 32)
  have place : 2 * count % 65536 = 2 * (count % (bufferSize / 2)) := by
    simp only [bufferSize]
    omega
  have inside : count % (bufferSize / 2) < bufferSize / 2 := Nat.mod_lt _ (by decide)
  have word := mailbox.stores (sampleWord allocation (count % (bufferSize / 2)))
    (tone_stored (Or.inr (Or.inr (Or.inr (Or.inr ⟨_, inside, rfl⟩)))))
  rw [sampleAddress, buffer, place]
  exact word

/-- The running stream sends the next word of the wave. -/
theorem Playing.transfer (playing : Playing start allocation count machine)
    (mailbox : Mailbox start allocation words sent machine)
    (tone_stored : toneWords allocation ⊆ words) :
    Playing start allocation (count + 1) (machine.transfer start.hda.firstOutput) := by
  have stream := playing.stream
  have runs : (machine.hda.streams start.hda.firstOutput).Runs := by
    rw [Stream.Runs, stream.control]
    exact ⟨by decide, stream.out⟩
  have size : (machine.hda.streams start.hda.firstOutput).wordSize = 2 := by
    rw [Stream.wordSize, stream.format]
    rfl
  simp only [Machine.transfer, mailbox.awake, runs, and_self, if_true, stream.number, ne_eq,
    not_true_eq_false, false_and, if_false]
  refine ⟨?_, ?_, ?_, playing.played⟩
  · simp only [Controller.setStream, Function.update_self]
    refine ⟨stream.asked, rfl, stream.control, stream.number, stream.list, stream.cyclicLength,
      stream.lastValid, stream.format, ?_⟩
    simp only [Stream.advance, stream.position, size, stream.cyclicLength]
    omega
  · intro index other
    simp only [Controller.setStream, Function.update_of_ne other]
    exact playing.others index other
  · rw [playing.link, List.append_assoc, tone_succ, size, stream.lastValid, stream.list,
      stream.position, next_sample mailbox tone_stored count]

/-- Whatever happens, the stream plays on. -/
theorem Playing.react (playing : Playing start allocation count machine)
    (mailbox : Mailbox start allocation words sent machine)
    (tone_stored : toneWords allocation ⊆ words) (event : Event) :
    Playing start allocation
      (count + if event = .transfer start.hda.firstOutput then 1 else 0) (machine.react event) := by
  cases event with
  | wake =>
    simp only [Machine.react, Machine.wake, mailbox.asked, if_true]
    exact ⟨playing.stream, playing.others, playing.link, playing.played⟩
  | followReset index =>
    simp only [Machine.react, Machine.followReset, if_pos mailbox.awake]
    refine ⟨?_, ?_, playing.link, playing.played⟩
    all_goals simp only [Controller.setStream]
    · rcases eq_or_ne start.hda.firstOutput index with rfl | other
      · rw [Function.update_self]
        exact Configured.follow _ playing.stream
      · rw [Function.update_of_ne other]
        exact playing.stream
    · intro place other
      rcases eq_or_ne place index with rfl | apart
      · rw [Function.update_self]
        exact (playing.others place other).follow
      · rw [Function.update_of_ne apart]
        exact playing.others place other
  | fetch =>
    exact ⟨by simpa [Machine.react] using playing.stream, by simpa [Machine.react] using playing.others,
      by simpa [Machine.react] using playing.link, by simpa [Machine.react] using playing.played⟩
  | respond response =>
    exact ⟨by simpa [Machine.react] using playing.stream, by simpa [Machine.react] using playing.others,
      by simpa [Machine.react] using playing.link, by simpa [Machine.react] using playing.played⟩
  | transfer index =>
    rcases eq_or_ne index start.hda.firstOutput with rfl | other
    · rw [if_pos rfl]
      exact playing.transfer mailbox tone_stored
    · have still := (playing.others index other).not_runs
      simp only [Machine.react, Machine.transfer, still, and_false, if_false]
      rwa [if_neg (by simpa using other)]

/-- What holds once the driver is done. -/
structure Streaming (start : Machine) (allocation : Allocation) (words : Set Word) (count : Nat)
    (machine : Machine) : Prop where
  mailbox : Mailbox start allocation words Driver.toneVerbs machine
  playing : Playing start allocation count machine

theorem Streaming.stable (posted : Posted allocation words Driver.toneVerbs)
    (tone_stored : toneWords allocation ⊆ words) :
    Stable Machine.react fun machine => ∃ count, Streaming start allocation words count machine := by
  rintro machine event ⟨count, streaming⟩
  exact ⟨_, streaming.mailbox.react posted event,
    streaming.playing.react streaming.mailbox tone_stored event⟩

variable {due : Event → Prop} {bound : Nat} {broken : Bus Machine Event → Prop}

/-- The last writes start the stream. -/
theorem startStream_plays (posted : Posted allocation words Driver.toneVerbs)
    (tone_stored : toneWords allocation ⊆ words) :
    Ensures (At due bound
        (Preparing start allocation words Driver.toneVerbs (Configured allocation 0 0)))
      (Driver.startStream (streamOffset start.hda))
      (fun _ => At due bound fun machine => ∃ count, Streaming start allocation words count machine)
      broken := by
  have follows : ∀ control, ∀ stream, Configured allocation control 0 stream →
      Configured allocation control 0 stream.follow := fun control stream => Configured.follow stream
  have armed : Ensures (At due bound
        (Preparing start allocation words Driver.toneVerbs (Configured allocation 0 0)))
      (Driver.writeReg (streamOffset start.hda + 0) (0 ||| 1 <<< 4))
      (fun _ => At due bound
        (Preparing start allocation words Driver.toneVerbs (Configured allocation 16 0))) broken :=
    writeStream_preparing posted (follows 0) (by decide) fun stream configured =>
      ⟨⟨rfl, configured.out, rfl, configured.number, configured.list, configured.cyclicLength,
        configured.lastValid, configured.format, configured.position⟩,
        write_stopped stream (by decide)⟩
  have started : Ensures (At due bound
        (Preparing start allocation words Driver.toneVerbs (Configured allocation 16 0)))
      (Driver.writeReg (streamOffset start.hda + 0) (0 ||| 1 <<< 4 ||| 1 <<< 1))
      (fun _ => At due bound fun machine => ∃ count, Streaming start allocation words count machine)
      broken := by
    refine ensures_access (fun _ machine => ∃ count, Streaming start allocation words count machine)
      (Preparing.stable posted (follows 16)) ?_
    rintro machine ⟨mailbox, paused⟩
    have stream := paused.stream
    simp only [streamOffset, write_stream _ _ _ (by decide : 0 < 0x20)]
    refine ⟨0, ⟨mailbox.1, mailbox.2, mailbox.3, mailbox.4, mailbox.5, mailbox.6, mailbox.7,
      mailbox.8, mailbox.9⟩, ?_, ?_, ?_, paused.played⟩
    · simp only [Controller.setStream, Function.update_self]
      exact ⟨rfl, stream.out, rfl, stream.number, stream.list, stream.cyclicLength,
        stream.lastValid, stream.format, stream.position⟩
    · intro index other
      simp only [Controller.setStream, Function.update_of_ne other]
      exact paused.stopped index
    · rw [paused.link, tone, List.range_zero, List.map_nil, List.append_nil]
  unfold Driver.startStream
  refine ensures_bind (ensures_reads (· = 0) (Preparing.stable posted (follows 0)) ?_) fun sdctl => ?_
  · rintro machine ⟨mailbox, paused⟩
    have same : machine.hda.read (streamOffset start.hda) = 0 := by
      rw [streamOffset, read_stream, Stream.read, paused.stream.control, paused.stream.out]
      rfl
    exact ⟨congrArg (· % 256 ^ 1) same, mailbox, paused⟩
  refine ensures_given ?_
  rintro rfl
  refine ensures_bind armed fun _ => ?_
  refine ensures_bind started fun _ => ?_
  refine ensures_keeps (Streaming.stable posted tone_stored) ?_
  rintro machine ⟨count, ⟨mailbox, playing⟩⟩
  exact ⟨count, ⟨mailbox.1, mailbox.2, mailbox.3, mailbox.4, mailbox.5, mailbox.6, mailbox.7,
    mailbox.8, mailbox.9⟩, playing.1, playing.2, playing.3, playing.4⟩

/-- `play_tone` returns, and the tone streams. -/
theorem playTone_plays {hda : Startup.IntelHda} (corb : hda.corbPtr = allocation.corb)
    (apart : allocation.Apart) (patient : bound ≤ 10001) :
    Ensures (At (Due start.hda.firstOutput) bound (Preparing start allocation ∅ [] fun _ => True))
      (Driver.playTone allocation hda)
      (fun _ bus => ∃ words,
        (toneWords allocation ⊆ words ∧ Posted allocation words Driver.toneVerbs) ∧
          At (Due start.hda.firstOutput) bound
            (fun machine => ∃ count, Streaming start allocation words count machine) bus) broken := by
  have below := toneWords_below allocation
  have fit : ∀ command ∈ Driver.toneVerbs, command < 256 ^ 4 := by decide
  unfold Driver.playTone
  refine ensures_bind (writeSamples_preparing apart) fun pointers => ?_
  refine ensures_given fun list => ?_
  obtain ⟨audioBuf, bdlPtr⟩ := pointers
  obtain rfl : bdlPtr = allocation.bdl := list
  refine ensures_bind (prepareStream_preparing (below.posted apart (by decide)) apart patient)
    fun offset => ?_
  refine ensures_given ?_
  rintro rfl
  refine ensures_bind (sendAll_preparing apart Configured.follow corb Driver.toneVerbs fit
    (below.posted apart (by decide)) (below.room apart (by decide)) (by decide)) fun _ => ?_
  refine ensures_fixed fun words => ?_
  refine ensures_given fun known => ?_
  refine ensures_weaken (startStream_plays known.2 known.1) (fun _ at_bus => at_bus)
    (fun _ _ at_bus => ⟨words, known, at_bus⟩) fun _ holds => holds

/-- The first command that has not been fetched yet. -/
theorem readPointer_react (asked : machine.hda.awakeAsked = true) {event : Event}
    (other : event ≠ .fetch) : (machine.react event).hda.readPointer = machine.hda.readPointer := by
  cases event with
  | wake => simp only [Machine.react, Machine.wake, asked, if_true]
  | followReset index =>
    simp only [Machine.react, Machine.followReset]
    split <;> rfl
  | fetch => exact absurd rfl other
  | respond response =>
    simp only [Machine.react, Machine.respond]
    split <;> rfl
  | transfer index =>
    simp only [Machine.react, Machine.transfer]
    split <;> rfl

/-- Every transfer sends a word and every fetch takes a command, until there is none left. -/
theorem Streaming.run (posted : Posted allocation words Driver.toneVerbs)
    (tone_stored : toneWords allocation ⊆ words) (events : List Event)
    (streaming : Streaming start allocation words count machine) :
    Streaming start allocation words (count + events.count (.transfer start.hda.firstOutput))
        (events.foldl Machine.react machine) ∧
      min 7 (machine.hda.readPointer + events.count .fetch) ≤
        (events.foldl Machine.react machine).hda.readPointer := by
  induction events generalizing count machine with
  | nil => exact ⟨streaming, Nat.min_le_right _ _⟩
  | cons event events ih =>
    obtain ⟨mailbox, playing⟩ := streaming
    have next := ih ⟨mailbox.react posted event, playing.react mailbox tone_stored event⟩
    rw [List.foldl_cons, List.count_cons, List.count_cons]
    refine ⟨?_, Nat.le_trans ?_ next.2⟩
    · simpa [Nat.add_assoc, Nat.add_comm] using next.1
    · rcases eq_or_ne event .fetch with rfl | other
      · have moved := (mailbox.fetch posted).2
        have seven : Driver.toneVerbs.length = 7 := rfl
        simp only [Machine.react, moved, seven, beq_self_eq_true, if_true]
        omega
      · rw [readPointer_react mailbox.asked other]
        simp [other]

/-- The commands set up the converter for the tone, but for the number of its stream. -/
theorem toneVerbs_widgets (widgets : Nat → Widget) :
    Driver.toneVerbs.foldl obeyCommand widgets 2 =
        { widgets 2 with power := 0, number := 1, channel := 0, format := 0x11, amplifier := 0xB07F } ∧
      Driver.toneVerbs.foldl obeyCommand widgets 3 =
        { widgets 3 with power := 0, pinControl := 0x40, amplifier := 0xB07F } := by
  simp [Driver.toneVerbs, obeyCommand, Widget.obey]

/-- What has come out of the audio block of `_start`. -/
structure Outcome (start later : Machine) (fetched count : Nat) : Prop where
  verbs : later.verbs = start.verbs ++ Driver.toneVerbs.take fetched
  converter : 7 ≤ fetched → (later.widgets 2).number = 1
  link : later.link = start.link ++ tone count
  played : later.played = start.played

/-- The audio block returns. Behind it the codec receives the seven commands in their order and no
other, and the link carries the wave word for word without end; but it does so under the stream
number 0 while the converter listens to 1, so that no word is ever played. -/
theorem startAudio_streams {bus : Bus Machine Event} (idle : Idle bus.device.hda)
    (apart : allocation.Apart)
    (lively : Lively (Due bus.device.hda.firstOutput) bound bus.schedule) (patient : bound ≤ 10001)
    (bar0 : Nat) :
    ∃ hda final, (Driver.startAudio allocation bar0).exec bus = (some hda, final) ∧
      ∀ events : List Event, ∃ fetched count,
        min 7 (events.count .fetch) ≤ fetched ∧
          events.count (.transfer bus.device.hda.firstOutput) ≤ count ∧
            Outcome bus.device (events.foldl Machine.react final.device) fetched count := by
  have program : Ensures (At (Due bus.device.hda.firstOutput) bound (Quiet bus.device))
      (Driver.startAudio allocation bar0)
      (fun _ after => ∃ words,
        (toneWords allocation ⊆ words ∧ Posted allocation words Driver.toneVerbs) ∧
          At (Due bus.device.hda.firstOutput) bound
            (fun machine => ∃ count, Streaming bus.device allocation words count machine) after)
      fun _ => False := by
    unfold Driver.startAudio
    refine ensures_bind (init_serves apart (by omega) _) fun hda => ?_
    refine ensures_given fun corb => ?_
    refine ensures_bind (playTone_plays corb apart patient) fun _ => ?_
    exact ensures_pure fun _ playing => playing
  have quiet : Quiet bus.device bus.device := ⟨⟨rfl, rfl, rfl, rfl⟩, rfl, idle⟩
  cases outcome : (Driver.startAudio allocation bar0).exec bus with
  | mk value final =>
    cases value with
    | none => exact absurd (ensures_none program ⟨quiet, lively⟩ outcome) id
    | some hda =>
      obtain ⟨words, ⟨tone_stored, posted⟩, ⟨count, streaming⟩, -⟩ :=
        ensures_some program ⟨quiet, lively⟩ outcome
      refine ⟨hda, final, rfl, fun events => ?_⟩
      obtain ⟨⟨mailbox, playing⟩, fetched⟩ := streaming.run posted tone_stored events
      refine ⟨_, _, Nat.le_trans ?_ fetched, Nat.le_add_left _ _, mailbox.verbs, ?_, playing.link,
        playing.played⟩
      · omega
      · intro all
        have taken : Driver.toneVerbs.take (events.foldl Machine.react final.device).hda.readPointer =
            Driver.toneVerbs := List.take_of_length_le all
        rw [mailbox.widgets, taken, (toneVerbs_widgets _).1]

/-- A controller with four input streams, asleep, and hardware that does everything in turn. -/
def steadyBus : Bus Machine Event where
  device := {
    hda := Controller.asleep ⟨0x4401, 0, false, false, ⟨0, 0, 2, 0, false⟩, 0, ⟨0, 0, 2, 0, false⟩,
      fun _ => Stream.cleared⟩
    memory := fun _ => 0
    widgets := fun _ => ⟨3, 0, 0, 0, 0, 0⟩
    verbs := []
    link := []
    played := fun _ => []
    console := [] }
  schedule := fun _ => [.wake, .followReset 4, .fetch, .respond 0, .transfer 4]

def steadyAllocation : Allocation := ⟨0x200000, 0x201000, 0x210000, 0x202000, by decide⟩

theorem startAudio_streams_steady :
    ∃ hda final, (Driver.startAudio steadyAllocation 0xFEBF0000).exec steadyBus = (some hda, final) ∧
      ∀ events : List Event, ∃ fetched count,
        min 7 (events.count .fetch) ≤ fetched ∧
          events.count (.transfer steadyBus.device.hda.firstOutput) ≤ count ∧
            Outcome steadyBus.device (events.foldl Machine.react final.device) fetched count := by
  have idle : Idle steadyBus.device.hda := ⟨rfl, rfl, fun _ => Stream.cleared_stopped⟩
  have apart : steadyAllocation.Apart := ⟨by decide, by decide⟩
  have lively : Lively (Due steadyBus.device.hda.firstOutput) 1 steadyBus.schedule := by
    rintro event (rfl | rfl) start
    · exact ⟨0, by decide, by simp [steadyBus]⟩
    · exact ⟨0, by decide, by simp [steadyBus, Controller.firstOutput, Controller.asleep]⟩
  exact startAudio_streams idle apart lively (by decide) _

end Play

end QoreOS.Audio
