import QoreOS.Audio.Hda

/-! `init` brings the controller up: it awakes in time, and behind the last register the commands of
the ring reach the codec in their order, whatever the hardware does meanwhile. -/

namespace QoreOS.Audio

open QoreOS.Library Program Bus

def Stream.Stopped (stream : Stream) : Prop := stream.control.testBit 1 = false

/-- The codec has heard nothing new. -/
structure Unheard (start machine : Machine) : Prop where
  verbs : machine.verbs = start.verbs
  widgets : machine.widgets = start.widgets
  link : machine.link = start.link
  played : machine.played = start.played

/-- A controller that does nothing, awake or not. -/
structure Idle (controller : Controller) : Prop where
  commands : controller.corb.running = false
  responses : controller.rirb.running = false
  streams : ∀ index, (controller.streams index).Stopped

structure Quiet (start machine : Machine) : Prop extends Unheard start machine where
  gcap : machine.hda.gcap = start.hda.gcap
  idle : Idle machine.hda

/-- The events that the driver waits for. -/
def Due (index : Nat) (event : Event) : Prop := event = .wake ∨ event = .followReset index

theorem Stream.cleared_stopped : Stream.cleared.Stopped := rfl

theorem Stream.Stopped.follow {stream : Stream} (stopped : stream.Stopped) : stream.follow.Stopped := by
  unfold Stream.follow
  split
  · exact cleared_stopped
  · exact stopped

theorem Stream.Stopped.not_runs {stream : Stream} (stopped : stream.Stopped) : ¬ stream.Runs :=
  fun runs => Bool.false_ne_true (stopped.symm.trans runs.1)

theorem setStream_stopped {streams : Nat → Stream} (stopped : ∀ index, (streams index).Stopped)
    {changed : Nat} {stream : Stream} (again : stream.Stopped) (index : Nat) :
    (Function.update streams changed stream index).Stopped := by
  rcases eq_or_ne index changed with rfl | other
  · rwa [Function.update_self]
  · rw [Function.update_of_ne other]
    exact stopped index

section Reset

variable {start machine : Machine}

/-- No event gets anything out of an idle controller. -/
theorem Quiet.react (quiet : Quiet start machine) (event : Event) :
    Quiet start (machine.react event) := by
  obtain ⟨unheard, gcap, idle⟩ := quiet
  cases event with
  | wake =>
    refine ⟨⟨unheard.1, unheard.2, unheard.3, unheard.4⟩, ?_, ?_⟩
    all_goals
      simp only [Machine.react, Machine.wake]
      split
    · exact gcap
    · exact gcap
    · exact ⟨idle.1, idle.2, idle.3⟩
    · exact ⟨rfl, rfl, fun _ => Stream.cleared_stopped⟩
  | followReset index =>
    simp only [Machine.react, Machine.followReset]
    split
    · exact ⟨⟨unheard.1, unheard.2, unheard.3, unheard.4⟩, gcap, idle.1, idle.2,
        setStream_stopped idle.3 (idle.3 index).follow⟩
    · exact ⟨unheard, gcap, idle⟩
  | fetch =>
    simp only [Machine.react, Machine.fetch, idle.commands, Bool.false_eq_true, false_and, and_false,
      if_false]
    exact ⟨unheard, gcap, idle⟩
  | respond response =>
    simp only [Machine.react, Machine.respond, idle.responses, Bool.false_eq_true, and_false,
      if_false]
    exact ⟨unheard, gcap, idle⟩
  | transfer index =>
    simp only [Machine.react, Machine.transfer, (idle.streams index).not_runs, and_false, if_false]
    exact ⟨unheard, gcap, idle⟩

/-- The controller has been told to awake, and is still asleep or awake. -/
structure Woken (start : Machine) (awake : Bool) (machine : Machine) : Prop where
  quiet : Quiet start machine
  asked : machine.hda.awakeAsked = true
  awake : machine.hda.awake = awake

theorem react_asked (asked : machine.hda.awakeAsked = true) (event : Event) :
    (machine.react event).hda.awakeAsked = true ∧
      (machine.react event).hda.awake = (machine.hda.awake || event == .wake) := by
  cases event with
  | wake => simp [Machine.react, Machine.wake, asked]
  | followReset index =>
    simp only [Machine.react, Machine.followReset]
    split <;> simp [asked, Controller.setStream]
  | fetch =>
    simp only [Machine.react, Machine.fetch]
    split <;> simp [asked]
  | respond response =>
    simp only [Machine.react, Machine.respond]
    split <;> simp [asked]
  | transfer index =>
    simp only [Machine.react, Machine.transfer]
    split <;> simp [asked, Controller.setStream]

theorem Woken.react {awake : Bool} (woken : Woken start awake machine) (event : Event) :
    Woken start (awake || event == .wake) (machine.react event) := by
  obtain ⟨asked, up⟩ := react_asked woken.asked event
  exact ⟨woken.quiet.react event, asked, by rw [up, woken.awake]⟩

theorem Woken.stable (start : Machine) : Stable Machine.react (Woken start true) :=
  fun _ event woken => by simpa using woken.react event

theorem Woken.waits (start : Machine) :
    Stable Machine.react fun machine => Woken start false machine ∨ Woken start true machine := by
  rintro machine event (asleep | up)
  · rcases Bool.eq_false_or_eq_true (event == Event.wake) with isWake | other
    · exact Or.inr (by simpa [isWake] using asleep.react event)
    · exact Or.inl (by simpa [other] using asleep.react event)
  · exact Or.inr (Woken.stable start machine event up)

variable {index bound : Nat}

/-- The controller awakes before the driver loses its patience. -/
theorem reset_awakes (patient : bound ≤ 10000001) :
    Ensures (At (Due index) bound (Quiet start)) Driver.reset
      (fun awake bus => awake = true ∧ At (Due index) bound (Woken start true) bus) fun _ => False := by
  have stable : Stable Machine.react (Quiet start) := fun _ event quiet => quiet.react event
  have told : ∀ machine, Quiet start machine →
      let told := { machine with hda := machine.hda.write 0x08 1 }
      Woken start false told ∨ Woken start true told := by
    intro machine quiet
    have still : Quiet start { machine with hda := machine.hda.write 0x08 1 } :=
      ⟨⟨quiet.1.1, quiet.1.2, quiet.1.3, quiet.1.4⟩, quiet.2, quiet.3.1, quiet.3.2, quiet.3.3⟩
    cases up : machine.hda.awake with
    | false => exact Or.inl ⟨still, rfl, up⟩
    | true => exact Or.inr ⟨still, rfl, up⟩
  have awaits : Ensures
      (At (Due index) bound fun machine => Woken start false machine ∨ Woken start true machine)
      (Driver.waitBit 0x08 0 true 10000000)
      (fun found bus => found = true ∧ At (Due index) bound (Woken start true) bus)
      fun _ => False := by
    refine ensures_await (Or.inl rfl : Due index .wake) patient (Woken.waits start)
      (Woken.stable start) ?_ ?_ ?_
    · rintro machine (asleep | up)
      · simpa using asleep.react Event.wake
      · simpa using up.react Event.wake
    · exact fun machine asleep => by simp [Controller.read, asleep.awake]
    · exact fun machine up => by simp [Controller.read, up.awake]
  unfold Driver.reset
  refine ensures_bind (ensures_keeps stable fun _ quiet => quiet) fun _ => ?_
  refine ensures_bind (ensures_keeps stable
    fun _ quiet => ⟨⟨quiet.1.1, quiet.1.2, quiet.1.3, quiet.1.4⟩, quiet.2, quiet.3⟩) fun _ => ?_
  refine ensures_bind (ensures_access (fun _ machine =>
    Woken start false machine ∨ Woken start true machine) stable told) fun _ => ?_
  refine ensures_bind awaits fun awake => ?_
  refine ensures_given fun found => ?_
  subst found
  exact ensures_pure fun _ up => ⟨rfl, up⟩

end Reset

section Configure

/-- The registers are these up to the streams, and the codec has heard nothing new. -/
structure Matches (start : Machine) (hda : Controller) (machine : Machine) : Prop
    extends Unheard start machine where
  hda : machine.hda = { hda with streams := machine.hda.streams }
  stopped : ∀ index, (machine.hda.streams index).Stopped

/-- Awake, and no ring has anything to do. -/
structure Resting (controller : Controller) : Prop where
  asked : controller.awakeAsked = true
  awake : controller.awake = true
  commands : controller.corb.running = false ∨ controller.readPointer = controller.corb.writePointer
  responses : controller.rirb.running = false

variable {start : Machine} {hda : Controller}

theorem Resting.stable (resting : Resting hda) : Stable Machine.react (Matches start hda) := by
  rintro machine event ⟨⟨verbs, widgets, link, played⟩, registers, stopped⟩
  have asked : machine.hda.awakeAsked = true := by rw [registers, resting.asked]
  have awake : machine.hda.awake = true := by rw [registers, resting.awake]
  cases event with
  | wake =>
    have same : { machine.hda with awake := true } = machine.hda := by rw [← awake]
    simp only [Machine.react, Machine.wake, if_pos asked, same]
    exact ⟨⟨verbs, widgets, link, played⟩, registers, stopped⟩
  | followReset index =>
    simp only [Machine.react, Machine.followReset, if_pos awake]
    exact ⟨⟨verbs, widgets, link, played⟩, by rw [registers]; rfl,
      setStream_stopped stopped (stopped index).follow⟩
  | fetch =>
    have nothing : ¬ (machine.hda.awake = true ∧ machine.hda.corb.running = true ∧
        machine.hda.readPointer ≠ machine.hda.corb.writePointer) := by
      rw [registers]
      rcases resting.commands with off | read
      · simp [off]
      · simp [read]
    simp only [Machine.react, Machine.fetch, if_neg nothing]
    exact ⟨⟨verbs, widgets, link, played⟩, registers, stopped⟩
  | respond response =>
    have nothing : ¬ (machine.hda.awake = true ∧ machine.hda.rirb.running = true) := by
      rw [registers]
      simp [resting.responses]
    simp only [Machine.react, Machine.respond, if_neg nothing]
    exact ⟨⟨verbs, widgets, link, played⟩, registers, stopped⟩
  | transfer index =>
    simp only [Machine.react, Machine.transfer, (stopped index).not_runs, and_false, if_false]
    exact ⟨⟨verbs, widgets, link, played⟩, registers, stopped⟩

/-- The registers below the descriptors do not concern the streams. -/
theorem write_streams {offset : Nat} (low : offset < 0x80) (value : Nat) (controller : Controller)
    (streams : Nat → Stream) : { controller with streams := streams }.write offset value =
      { controller.write offset value with streams := streams } := by
  unfold Controller.write
  split
  all_goals first | rfl | (split <;> first | rfl | omega)

/-- Awake, with both rings off. -/
structure Off (controller : Controller) : Prop where
  asked : controller.awakeAsked = true
  awake : controller.awake = true
  commands : controller.corb.running = false
  responses : controller.rirb.running = false

theorem Off.resting {controller : Controller} (off : Off controller) : Resting controller :=
  ⟨off.asked, off.awake, Or.inl off.commands, off.responses⟩

theorem Off.write {controller : Controller} (off : Off controller) {offset value : Nat}
    (low : offset < 0x80) (up : offset ≠ 0x08)
    (stays : offset = 0x4C ∨ offset = 0x5C → value.testBit 1 = false) :
    Off (controller.write offset value) := by
  obtain ⟨asked, awake, commands, responses⟩ := off
  unfold Controller.write
  split
  case h_1 => exact absurd rfl up
  case h_6 => exact ⟨asked, awake, stays (Or.inl rfl), responses⟩
  case h_11 => exact ⟨asked, awake, commands, stays (Or.inr rfl)⟩
  case h_13 => rw [if_neg (by omega)]; exact ⟨asked, awake, commands, responses⟩
  all_goals first | exact ⟨asked, awake, commands, responses⟩ | skip
  all_goals split <;> exact ⟨asked, awake, commands, responses⟩

variable {due : Event → Prop} {bound : Nat} {broken : Bus Machine Event → Prop} {α : Type}
  {next : Driver α} {last : α → Bus Machine Event → Prop}

theorem writeReg_matches (resting : Resting hda) {offset : Nat} (low : offset < 0x80)
    (value : Nat) : Ensures (At due bound (Matches start hda)) (Driver.writeReg offset value)
      (fun _ => At due bound (Matches start (hda.write offset value))) broken := by
  refine ensures_access (fun _ => Matches _ _) resting.stable ?_
  rintro machine ⟨⟨verbs, widgets, link, played⟩, registers, stopped⟩
  have written : machine.hda.write offset value =
      { hda.write offset value with streams := machine.hda.streams } := by
    rw [registers, write_streams low]
  simp only [written]
  exact ⟨⟨verbs, widgets, link, played⟩, rfl, stopped⟩

/-- A step of the set-up. -/
theorem Off.writes (off : Off hda) {offset value : Nat} (low : offset < 0x80)
    (up : offset ≠ 0x08) (stays : offset = 0x4C ∨ offset = 0x5C → value.testBit 1 = false)
    (rest : Off (hda.write offset value) →
      Ensures (At due bound (Matches start (hda.write offset value))) next last broken) :
    Ensures (At due bound (Matches start hda)) (Driver.writeReg offset value >>= fun _ => next) last
      broken :=
  ensures_bind (writeReg_matches off.resting low value) fun _ => rest (off.write low up stays)

end Configure

/-- A ring of 256 places that runs. -/
def ringAt (address pointer : Nat) : RingRegisters where
  low := address % 2 ^ 32
  high := address / 2 ^ 32
  size := 2
  writePointer := pointer
  running := true

@[simp] theorem ringAt_base (address pointer : Nat) : (ringAt address pointer).base = address :=
  Nat.div_add_mod' address (2 ^ 32)

@[simp] theorem ringAt_behind (address pointer place : Nat) :
    (ringAt address pointer).behind place = (place + 1) % 256 := rfl

@[simp] theorem ringAt_writePointer (address pointer : Nat) :
    (ringAt address pointer).writePointer = pointer := rfl

@[simp] theorem ringAt_running (address pointer : Nat) :
    (ringAt address pointer).running = true := rfl

open ByteMemory (Word)

/-- What the driver has put in memory: the commands are in their ring, and no response will be stored
on anything. -/
structure Posted (allocation : Allocation) (words : Set Word) (sent : List Nat) : Prop where
  short : sent.length < 256
  commands : ∀ place, (inside : place < sent.length) →
    ⟨allocation.corb + 4 * (place + 1), 4, sent[place]⟩ ∈ words
  clear : ∀ word ∈ words, word.Clear allocation.rirb 4096

/-- The codec has received the commands that were sent up to the read pointer. -/
structure Mailbox (start : Machine) (allocation : Allocation) (words : Set Word) (sent : List Nat)
    (machine : Machine) : Prop where
  asked : machine.hda.awakeAsked = true
  awake : machine.hda.awake = true
  gcap : machine.hda.gcap = start.hda.gcap
  corb : machine.hda.corb = ringAt allocation.corb sent.length
  pointer : machine.hda.readPointer ≤ sent.length
  rirb : ∃ pointer, machine.hda.rirb = ringAt allocation.rirb pointer
  stores : machine.memory.Stores words
  verbs : machine.verbs = start.verbs ++ sent.take machine.hda.readPointer
  widgets : machine.widgets = (sent.take machine.hda.readPointer).foldl obeyCommand start.widgets

/-- The streams do nothing; `holds` tells more of the first output stream. -/
structure Paused (start : Machine) (holds : Stream → Prop) (machine : Machine) : Prop where
  stream : holds (machine.hda.streams start.hda.firstOutput)
  stopped : ∀ index, (machine.hda.streams index).Stopped
  link : machine.link = start.link
  played : machine.played = start.played

section Serve

variable {start machine : Machine} {allocation : Allocation} {words : Set Word} {sent : List Nat}

/-- The next command goes to the codec. -/
theorem Mailbox.fetch (posted : Posted allocation words sent)
    (mailbox : Mailbox start allocation words sent machine) :
    Mailbox start allocation words sent machine.fetch ∧
      machine.fetch.hda.readPointer = min (machine.hda.readPointer + 1) sent.length := by
  have room := mailbox.pointer
  simp only [Machine.fetch, mailbox.awake, mailbox.corb, ringAt_base, ringAt_behind,
    ringAt_writePointer, ringAt_running, true_and]
  by_cases done : machine.hda.readPointer = sent.length
  · rw [if_neg (by simp [done])]
    exact ⟨mailbox, by omega⟩
  · have inside : machine.hda.readPointer < sent.length := by omega
    have place : (machine.hda.readPointer + 1) % 256 = machine.hda.readPointer + 1 :=
      Nat.mod_eq_of_lt (by have := posted.short; omega)
    have command := mailbox.stores _ (posted.commands _ inside)
    have taken : sent.take (machine.hda.readPointer + 1) =
        sent.take machine.hda.readPointer ++ [sent[machine.hda.readPointer]] :=
      List.take_succ_eq_append_getElem inside
    rw [if_pos done, place, command]
    refine ⟨⟨mailbox.asked, rfl, mailbox.gcap, rfl, inside, mailbox.rirb, mailbox.stores, ?_, ?_⟩,
      by simp only; omega⟩
    · simp only [taken, mailbox.verbs, List.append_assoc]
    · simp only [taken, mailbox.widgets, List.foldl_append, List.foldl_cons, List.foldl_nil]

/-- A response is stored where nothing else is. -/
theorem Mailbox.respond (posted : Posted allocation words sent)
    (mailbox : Mailbox start allocation words sent machine) (response : Nat) :
    Mailbox start allocation words sent (machine.respond response) := by
  obtain ⟨pointer, rirb⟩ := mailbox.rirb
  simp only [Machine.respond, mailbox.awake, rirb, ringAt_base, ringAt_behind, ringAt_writePointer,
    ringAt_running, and_self, if_true]
  refine ⟨mailbox.asked, rfl, mailbox.gcap, mailbox.corb, mailbox.pointer,
    ⟨(pointer + 1) % 256, rfl⟩, ?_, mailbox.verbs, mailbox.widgets⟩
  apply mailbox.stores.write_elsewhere
  intro word member
  have small := Nat.mod_lt (pointer + 1) (by decide : 0 < 256)
  exact (posted.clear word member).mono (Nat.le_add_right _ _) (by omega)

theorem Mailbox.react (posted : Posted allocation words sent)
    (mailbox : Mailbox start allocation words sent machine) (event : Event) :
    Mailbox start allocation words sent (machine.react event) := by
  cases event with
  | wake =>
    simp only [Machine.react, Machine.wake, mailbox.asked, if_true]
    exact ⟨rfl, rfl, mailbox.gcap, mailbox.corb, mailbox.pointer, mailbox.rirb, mailbox.stores,
      mailbox.verbs, mailbox.widgets⟩
  | followReset index =>
    simp only [Machine.react, Machine.followReset, if_pos mailbox.awake]
    exact ⟨mailbox.asked, mailbox.awake, mailbox.gcap, mailbox.corb, mailbox.pointer, mailbox.rirb,
      mailbox.stores, mailbox.verbs, mailbox.widgets⟩
  | fetch => exact (mailbox.fetch posted).1
  | respond response => exact mailbox.respond posted response
  | transfer index =>
    simp only [Machine.react, Machine.transfer]
    split
    · exact ⟨mailbox.asked, mailbox.awake, mailbox.gcap, mailbox.corb, mailbox.pointer, mailbox.rirb,
        mailbox.stores, mailbox.verbs, mailbox.widgets⟩
    · exact mailbox

theorem Paused.react {holds : Stream → Prop} (follows : ∀ stream, holds stream → holds stream.follow)
    (mailbox : Mailbox start allocation words sent machine) (paused : Paused start holds machine)
    (event : Event) : Paused start holds (machine.react event) := by
  cases event with
  | wake =>
    simp only [Machine.react, Machine.wake, mailbox.asked, if_true]
    exact ⟨paused.stream, paused.stopped, paused.link, paused.played⟩
  | followReset index =>
    simp only [Machine.react, Machine.followReset, if_pos mailbox.awake]
    refine ⟨?_, setStream_stopped paused.stopped (paused.stopped index).follow, paused.link,
      paused.played⟩
    simp only [Controller.setStream]
    rcases eq_or_ne start.hda.firstOutput index with rfl | other
    · rw [Function.update_self]
      exact follows _ paused.stream
    · rw [Function.update_of_ne other]
      exact paused.stream
  | fetch =>
    exact ⟨by simpa [Machine.react] using paused.stream, by simpa [Machine.react] using paused.stopped,
      by simpa [Machine.react] using paused.link, by simpa [Machine.react] using paused.played⟩
  | respond response =>
    exact ⟨by simpa [Machine.react] using paused.stream, by simpa [Machine.react] using paused.stopped,
      by simpa [Machine.react] using paused.link, by simpa [Machine.react] using paused.played⟩
  | transfer index =>
    simp only [Machine.react, Machine.transfer, (paused.stopped index).not_runs, and_false, if_false]
    exact paused

/-- Both parts of what is known while the driver sets up the stream. -/
structure Preparing (start : Machine) (allocation : Allocation) (words : Set Word) (sent : List Nat)
    (holds : Stream → Prop) (machine : Machine) : Prop where
  mailbox : Mailbox start allocation words sent machine
  paused : Paused start holds machine

theorem Preparing.stable (posted : Posted allocation words sent) {holds : Stream → Prop}
    (follows : ∀ stream, holds stream → holds stream.follow) :
    Stable Machine.react (Preparing start allocation words sent holds) :=
  fun _ event preparing =>
    ⟨preparing.mailbox.react posted event, preparing.paused.react follows preparing.mailbox event⟩

end Serve

section Init

variable {start : Machine} {allocation : Allocation} {index bound : Nat}

/-- Where a region starts, and how many bytes it has. -/
def Allocation.regions (allocation : Allocation) : List (Nat × Nat) :=
  [(allocation.corb, 4096), (allocation.rirb, 4096), (allocation.audioBuf, Startup.bufferSize),
    (allocation.bdl, 4096)]

/-- The regions lie in the address space, and none meets another. -/
structure Allocation.Apart (allocation : Allocation) : Prop where
  inside : ∀ region ∈ allocation.regions, region.1 + region.2 ≤ 2 ^ 64
  apart : allocation.regions.Pairwise fun first second =>
    first.1 + first.2 ≤ second.1 ∨ second.1 + second.2 ≤ first.1

variable {due : Event → Prop} {broken : Bus Machine Event → Prop}

theorem Allocation.Apart.corb_lt (apart : allocation.Apart) : allocation.corb < 2 ^ 64 := by
  have inside := apart.inside (allocation.corb, 4096) (by simp [regions])
  simp only at inside
  omega

theorem Allocation.Apart.rirb_lt (apart : allocation.Apart) : allocation.rirb < 2 ^ 64 := by
  have inside := apart.inside (allocation.rirb, 4096) (by simp [regions])
  simp only at inside
  omega

theorem Allocation.Apart.bdl_lt (apart : allocation.Apart) : allocation.bdl < 2 ^ 64 := by
  have inside := apart.inside (allocation.bdl, 4096) (by simp [regions])
  simp only at inside
  omega

/-- The two words of an address, as the registers keep them. -/
theorem low_mask (address : Nat) : (address &&& 0xFFFFFFFF) % 2 ^ 32 = address % 2 ^ 32 := by
  rw [show (0xFFFFFFFF : Nat) = 2 ^ 32 - 1 from rfl, Nat.and_two_pow_sub_one_eq_mod, Nat.mod_mod]

theorem high_shift {address : Nat} (inside : address < 2 ^ 64) :
    address >>> 32 % 2 ^ 32 = address / 2 ^ 32 := by
  rw [Nat.shiftRight_eq_div_pow]
  omega

theorem ringAt_masks {address : Nat} (inside : address < 2 ^ 64) (pointer : Nat) :
    (⟨(address &&& 0xFFFFFFFF) % 2 ^ 32, address >>> 32 % 2 ^ 32, 2, pointer, true⟩ :
      RingRegisters) = ringAt address pointer := by
  rw [low_mask, high_shift inside, ringAt]

/-- The registers as `init` sets them before it starts the rings. -/
def setUp (allocation : Allocation) (controller : Controller) : Controller :=
  [(0x4C, 0), (0x5C, 0), (0x40, allocation.corb &&& 0xFFFFFFFF), (0x44, allocation.corb >>> 32),
    (0x50, allocation.rirb &&& 0xFFFFFFFF), (0x54, allocation.rirb >>> 32), (0x4E, 2), (0x5E, 2),
    (0x4A, 1 <<< 15), (0x4A, 0), (0x48, 0), (0x58, 1 <<< 15)].foldl
      (fun controller register => controller.write register.1 register.2) controller

/-- Everything is in place but for the bits that start the rings. -/
structure Ready (start : Machine) (allocation : Allocation) (controller : Controller) : Prop where
  off : Off controller
  gcap : controller.gcap = start.hda.gcap
  corb : controller.corb = { ringAt allocation.corb 0 with running := false }
  pointer : controller.readPointer = 0
  rirb : controller.rirb = { ringAt allocation.rirb 0 with running := false }

theorem setUp_eq (allocation : Allocation) (controller : Controller) :
    setUp allocation controller =
      { controller with
        corb := ⟨(allocation.corb &&& 0xFFFFFFFF) % 2 ^ 32, allocation.corb >>> 32 % 2 ^ 32, 2, 0, false⟩
        readPointer := 0
        rirb :=
          ⟨(allocation.rirb &&& 0xFFFFFFFF) % 2 ^ 32, allocation.rirb >>> 32 % 2 ^ 32, 2, 0, false⟩ } := by
  have reset : Nat.testBit 32768 15 = true := by decide
  simp [setUp, Controller.write, reset]

theorem setUp_ready (apart : allocation.Apart) {controller : Controller}
    (off : Off (setUp allocation controller)) (gcap : controller.gcap = start.hda.gcap) :
    Ready start allocation (setUp allocation controller) := by
  have stopped : ∀ {address : Nat}, address < 2 ^ 64 →
      (⟨(address &&& 0xFFFFFFFF) % 2 ^ 32, address >>> 32 % 2 ^ 32, 2, 0, false⟩ : RingRegisters) =
        { ringAt address 0 with running := false } := fun inside =>
    congrArg (fun ring : RingRegisters => { ring with running := false }) (ringAt_masks inside 0)
  refine ⟨off, ?_, ?_, ?_, ?_⟩
  all_goals rw [setUp_eq]
  · exact gcap
  · exact stopped apart.corb_lt
  · exact stopped apart.rirb_lt

theorem Posted.empty (allocation : Allocation) : Posted allocation ∅ [] where
  short := by decide
  commands := by simp
  clear := by simp

theorem Ready.resting {controller : Controller} (ready : Ready start allocation controller) :
    Resting (controller.write 0x4C (1 <<< 1)) where
  asked := ready.off.asked
  awake := ready.off.awake
  commands := by
    right
    change controller.readPointer = controller.corb.writePointer
    rw [ready.pointer, ready.corb, ringAt]
  responses := ready.off.responses

/-- Rings that run and are empty. -/
theorem Ready.preparing {controller : Controller} (ready : Ready start allocation controller)
    {machine : Machine}
    (matched : Matches start ((controller.write 0x4C (1 <<< 1)).write 0x5C (1 <<< 1)) machine) :
    Preparing start allocation ∅ [] (fun _ => True) machine := by
  obtain ⟨⟨verbs, widgets, link, played⟩, registers, stopped⟩ := matched
  change machine.hda = { controller with
    corb := { controller.corb with running := true }
    rirb := { controller.rirb with running := true }
    streams := machine.hda.streams } at registers
  have read : machine.hda.readPointer = 0 := by rw [registers, ready.pointer]
  refine ⟨⟨?_, ?_, ?_, ?_, ?_, ⟨0, ?_⟩, ?_, ?_, ?_⟩, trivial, stopped, link, played⟩
  · rw [registers, ready.off.asked]
  · rw [registers, ready.off.awake]
  · rw [registers, ready.gcap]
  · rw [registers, ready.corb, List.length_nil, ringAt]
  · rw [read, List.length_nil]
  · rw [registers, ready.rirb, ringAt]
  · simp [ByteMemory.Stores]
  · simp [verbs]
  · simp [widgets]

/-- What is printed does not matter. -/
theorem Preparing.print {words : Set Word} {sent : List Nat} {holds : Stream → Prop}
    {machine : Machine} (preparing : Preparing start allocation words sent holds machine)
    (console : List (String × UInt32)) :
    Preparing start allocation words sent holds { machine with console := console } := by
  obtain ⟨mailbox, paused⟩ := preparing
  exact ⟨⟨mailbox.1, mailbox.2, mailbox.3, mailbox.4, mailbox.5, mailbox.6, mailbox.7, mailbox.8,
    mailbox.9⟩, paused.1, paused.2, paused.3, paused.4⟩

/-- The rings run, and nothing is in them. -/
theorem configure_serves (apart : allocation.Apart) (hda : Startup.IntelHda) :
    Ensures (At due bound (Woken start true)) (Driver.configure allocation hda)
      (fun hda bus => hda.corbPtr = allocation.corb ∧
        At due bound (Preparing start allocation ∅ [] fun _ => True) bus) broken := by
  have fixed : ∀ controller, Off controller ∧ controller.gcap = start.hda.gcap →
      Ensures (At due bound (Matches start controller)) (Driver.configure allocation hda)
        (fun hda bus => hda.corbPtr = allocation.corb ∧
          At due bound (Preparing start allocation ∅ [] fun _ => True) bus) broken := by
    rintro controller ⟨off, gcap⟩
    unfold Driver.configure
    refine ensures_bind (ensures_keeps off.resting.stable ?_) fun _ => ?_
    · rintro machine ⟨⟨verbs, widgets, link, played⟩, registers, stopped⟩
      exact ⟨⟨verbs, widgets, link, played⟩, registers, stopped⟩
    refine ensures_bind (ensures_reads (· = allocation.corb) off.resting.stable ?_) fun corbPtr => ?_
    · rintro machine ⟨⟨verbs, widgets, link, played⟩, registers, stopped⟩
      exact ⟨rfl, ⟨verbs, widgets, link, played⟩, registers, stopped⟩
    refine ensures_given ?_
    rintro rfl
    refine ensures_bind (ensures_reads (· = allocation.rirb) off.resting.stable ?_) fun rirbPtr => ?_
    · rintro machine ⟨⟨verbs, widgets, link, played⟩, registers, stopped⟩
      exact ⟨rfl, ⟨verbs, widgets, link, played⟩, registers, stopped⟩
    refine ensures_given ?_
    rintro rfl
    refine off.writes (by decide) (by decide) (by decide) fun off => ?_
    refine off.writes (by decide) (by decide) (by decide) fun off => ?_
    refine off.writes (by decide) (by decide) (by simp) fun off => ?_
    refine off.writes (by decide) (by decide) (by simp) fun off => ?_
    refine off.writes (by decide) (by decide) (by simp) fun off => ?_
    refine off.writes (by decide) (by decide) (by simp) fun off => ?_
    refine off.writes (by decide) (by decide) (by simp) fun off => ?_
    refine off.writes (by decide) (by decide) (by simp) fun off => ?_
    refine off.writes (by decide) (by decide) (by simp) fun off => ?_
    refine off.writes (by decide) (by decide) (by simp) fun off => ?_
    refine off.writes (by decide) (by decide) (by simp) fun off => ?_
    refine off.writes (by decide) (by decide) (by simp) fun off => ?_
    have ready := setUp_ready apart off gcap
    change Ensures (At due bound (Matches start (setUp allocation controller))) _ _ _
    generalize setUp allocation controller = ready_registers at ready
    have stable : Stable Machine.react (Preparing start allocation ∅ [] fun _ => True) :=
      Preparing.stable (Posted.empty allocation) fun _ _ => trivial
    refine ensures_bind (writeReg_matches ready.off.resting (by decide) _) fun _ => ?_
    have started : Ensures
        (At due bound (Matches start (ready_registers.write 0x4C (1 <<< 1))))
        (Driver.writeReg 0x5C (1 <<< 1))
        (fun _ => At due bound (Preparing start allocation ∅ [] fun _ => True)) broken :=
      ensures_weaken (writeReg_matches ready.resting (by decide) _) (fun _ at_bus => at_bus)
        (fun _ _ at_bus => ⟨ready.preparing at_bus.holds, at_bus.lively⟩) fun _ holds => holds
    refine ensures_bind started fun _ => ?_
    refine ensures_bind (ensures_keeps stable fun machine preparing => preparing.print _) fun _ => ?_
    refine ensures_bind (ensures_keeps stable fun _ preparing => preparing) fun statests => ?_
    split
    · refine ensures_bind (ensures_keeps stable fun machine preparing => preparing.print _) fun _ => ?_
      exact ensures_pure fun _ at_bus => ⟨rfl, at_bus⟩
    · exact ensures_pure fun _ at_bus => ⟨rfl, at_bus⟩
  refine ensures_weaken (ensures_fixed fun controller => ensures_given (fixed controller)) ?_
    (fun _ _ holds => holds) fun _ holds => holds
  rintro bus ⟨woken, lively⟩
  exact ⟨bus.device.hda, ⟨⟨woken.asked, woken.awake, woken.quiet.idle.1, woken.quiet.idle.2⟩,
    woken.quiet.gcap⟩, ⟨woken.quiet.toUnheard, rfl, woken.quiet.idle.3⟩, lively⟩

/-- `init` returns, and the controller serves the rings. -/
theorem init_serves (apart : allocation.Apart) (patient : bound ≤ 10000001)
    (hda : Startup.IntelHda) :
    Ensures (At (Due index) bound (Quiet start)) (Driver.init allocation hda)
      (fun hda bus => hda.corbPtr = allocation.corb ∧
        At (Due index) bound (Preparing start allocation ∅ [] fun _ => True) bus) fun _ => False := by
  refine ensures_bind (reset_awakes patient) fun awake => ?_
  refine ensures_given fun found => ?_
  subst found
  exact configure_serves apart hda

end Init

end QoreOS.Audio
