import QoreOS.Runtime.HeapCalls

/-! What each event leaves allocated, and the room which the heap needs for it. -/

namespace QoreOS.Runtime

open QoreOS.Library QoreOS.Network QoreOS.Storage

namespace System

variable (growth : Growth)

theorem arpFrame_own : run HeapCall.own (arpFrame growth 42).calls 0 = some 60 := by
  have sound := ((Buffer.vec_sound 42).extend growth 18).intoBoxedSlice
  have room := Buffer.intoBoxedSlice_room (Buffer.extend_room (Buffer.vec 42) growth 18)
  rw [Buffer.Sound, room, Buffer.extend_length] at sound
  exact sound

theorem synAckCalls_own : run HeapCall.own synAckCalls 0 = some 58 :=
  (Buffer.vec_sound (34 + 24)).around rfl

theorem httpCalls_own (httpPayload : Option String) :
    run HeapCall.own (httpCalls growth httpPayload) 0 =
      some (34 + 20 + (utf8 (Kernel.httpBody httpPayload)).length) := by
  have taken : run HeapCall.own [.take (34 + 20 + (utf8 (Kernel.httpBody httpPayload)).length)] 0 =
      some (34 + 20 + (utf8 (Kernel.httpBody httpPayload)).length) := by
    rw [run_cons, HeapCall.own, Nat.zero_add]
    rfl
  have frame := ((Buffer.vec_sound (34 + 20)).extend growth
    (utf8 (Kernel.httpBody httpPayload)).length).around taken
  have text : (httpText growth httpPayload).Sound := Buffer.format_sound growth _
  have whole := text.around frame
  simpa only [httpCalls, List.append_assoc] using whole

/-- The bytes that stay in use for the answer to a request. -/
def answerKept (httpPayload : Option String) : Option Request → Nat
  | none => 0
  | some (.syn ..) => 58
  | some (.get ..) => 34 + 20 + (utf8 (Kernel.httpBody httpPayload)).length

theorem answerCalls_own (httpPayload : Option String) (request : Option Request) :
    run HeapCall.own (answerCalls growth httpPayload request) 0 =
      some (answerKept httpPayload request) := by
  cases request with
  | none => rfl
  | some request =>
    cases request with
    | syn peer sequence =>
      have text : (synText growth peer).Sound := Buffer.format_sound growth _
      rw [answerCalls, ← List.append_assoc]
      exact HeapCall.run_own_append text.dropped synAckCalls_own
    | get peer sequence acknowledgment length => exact httpCalls_own growth httpPayload

def arpKept : Option ArpPacket → Nat
  | none => 0
  | some arp => if arp.opcode = 1 ∧ arp.targetIp = .of 10 0 2 15 then 60 else 0

theorem arpCalls_own (packet : Option ArpPacket) :
    run HeapCall.own (arpCalls growth packet) 0 = some (arpKept packet) := by
  cases packet with
  | none => rfl
  | some arp =>
    have text : (arpText growth arp.targetIp).Sound := Buffer.format_sound growth _
    unfold arpCalls arpKept replyCalls
    by_cases asking : arp.opcode = 1
    · by_cases us : arp.targetIp = #v[10, 0, 2, 15]
      · simp only [asking, us, and_self, ↓reduceIte]
        rw [us] at text
        exact text.around (arpFrame_own growth)
      · simp only [asking, us, and_false, ↓reduceIte]
        exact text.around rfl
    · simp only [asking, false_and, ↓reduceIte]
      rfl

def handlingKept (httpPayload : Option String) (packetSlice : List UInt8) (ethertype : UInt16) :
    Nat :=
  if ethertype = 0x0806 then ((readArp packetSlice).map arpKept).getD 0
  else if ethertype = 0x0800 then answerKept httpPayload (readRequest packetSlice)
  else 0

theorem handlingCalls_own (httpPayload : Option String) (packetSlice : List UInt8)
    (ethertype : UInt16) :
    run HeapCall.own (handlingCalls growth httpPayload packetSlice ethertype) 0 =
      some (handlingKept httpPayload packetSlice ethertype) := by
  unfold handlingCalls handlingKept
  split
  · cases readArp packetSlice with
    | none => rfl
    | some packet => exact arpCalls_own growth packet
  · split
    · exact answerCalls_own growth httpPayload (readRequest packetSlice)
    · rfl

/-- The bytes that stay in use for a received packet. A kernel that stops does
not free its trace either. -/
def packetKept (httpPayload : Option String) (packetSlice : List UInt8) : Nat :=
  match ethertype packetSlice with
  | none => 0
  | some ethertype =>
    if tooShort packetSlice ethertype then (tapText growth packetSlice ethertype).room
    else handlingKept httpPayload packetSlice ethertype

theorem packetCalls_own (httpPayload : Option String) (packetSlice : List UInt8) :
    run HeapCall.own (packetCalls growth httpPayload packetSlice) 0 =
      some (packetKept growth httpPayload packetSlice) := by
  cases kind : ethertype packetSlice with
  | none =>
    simp only [packetCalls, packetKept, kind]
    rfl
  | some ethertype =>
    have tap : (tapText growth packetSlice ethertype).Sound := Buffer.format_sound growth _
    have handling := handlingCalls_own growth httpPayload packetSlice ethertype
    simp only [packetCalls, packetKept, kind]
    by_cases short : tooShort packetSlice ethertype = true
    · have nothing : handlingCalls growth httpPayload packetSlice ethertype = [] := by
        rw [tooShort, Bool.and_eq_true, decide_eq_true_eq, Option.isNone_iff_eq_none] at short
        rw [handlingCalls, if_pos short.1, short.2]
        rfl
      rw [if_pos short, if_pos short, nothing, List.append_nil, List.append_nil]
      exact tap
    · rw [if_neg short, if_neg short]
      exact tap.around handling

/-- The bytes that stay in use for what `poll` finds. -/
def pollKept (kernel : Kernel) : Nat :=
  match kernel.netCard.bind kernel.packetSlice with
  | some (some packetSlice) => packetKept growth kernel.httpPayload packetSlice
  | _ => 0

theorem pollCalls_own (kernel : Kernel) :
    run HeapCall.own (pollCalls growth kernel) 0 = some (pollKept growth kernel) := by
  unfold pollCalls pollKept
  cases kernel.netCard.bind kernel.packetSlice with
  | none => rfl
  | some current =>
    cases current with
    | none => rfl
    | some packetSlice => exact packetCalls_own growth kernel.httpPayload packetSlice

/-- Every request of the watched code has been served, and no command has gone
out with a null pointer. -/
def Unexhausted (system : System) : Prop :=
  (∀ caller ∈ system.refused, ¬ watched caller) ∧ ∀ command ∈ system.commands, command.prp1 ≠ 0

/-- The heap has room for all that the watched code asks for at an event. A
system call that does not get its own log text stops before it transmits. -/
def Fits (system : System) : Event → Prop
  | .receive _ => True
  | .fetch => True
  | .poll => system.used + HeapCall.peak (pollCalls growth system.kernel) ≤ heapSize
  | .readSector _ => system.drive.isSome → system.used + 4096 ≤ heapSize
  | .sendPacket payload => ∀ text, fromUtf8 payload = some text → system.kernel.netCard.isSome →
    system.used + HeapCall.peak (logText growth text).calls ≤ heapSize →
    system.used + HeapCall.peak ((logText growth text).calls ++ (arpFrame growth 42).calls) ≤ heapSize

/-- What holds at every event of a run. -/
structure Ready (system : System) : Prop where
  card : ∀ nic, system.kernel.netCard = some nic → system.kernel.Ready nic
  fits : system.used ≤ heapSize

theorem Ready.of_card {system : System} {nic : E1000} (serving : system.kernel.Ready nic)
    (fits : system.used ≤ heapSize) : system.Ready := by
  refine ⟨?_, fits⟩
  intro other card
  rw [serving.card, Option.some.injEq] at card
  exact card ▸ serving

/-- The bytes that stay in use for an event that gets through. -/
def kept (system : System) : Event → Nat
  | .receive _ => 0
  | .fetch => 0
  | .poll => pollKept growth system.kernel
  | .readSector _ => if system.drive.isSome then 4096 + 512 else 0
  | .sendPacket payload =>
    if (fromUtf8 payload).isSome && system.kernel.netCard.isSome then 60 else 0

/-- How an event ends when the system was ready and nothing had been refused. -/
structure Outcome (system : System) (event : Event) (result : Option Unit × System) : Prop where
  exact : result.2.Unexhausted ↔ system.Fits growth event
  ready : ∀ after, result = (some (), after) → after.Ready
  used : ∀ after, result = (some (), after) → after.Unexhausted →
    after.used = system.used + system.kept growth event

variable {growth} {system : System} {event : Event}

/-- An event that neither asks for memory nor submits a command. -/
theorem outcome_quiet (fine : system.Unexhausted) (fits : system.Fits growth event)
    (nothing : system.kept growth event = 0) {result : Option Unit × System}
    (refused : result.2.refused = system.refused) (commands : result.2.commands = system.commands)
    (used : result.2.used = system.used) (ready : ∀ after, result = (some (), after) → after.Ready) :
    Outcome growth system event result := by
  refine ⟨⟨fun _ => fits, fun _ => ?_⟩, ready, ?_⟩
  · rw [Unexhausted, refused, commands]
    exact fine
  · intro after same _
    rw [same] at used
    rw [used, nothing, Nat.add_zero]

theorem hardware_outcome (fine : system.Unexhausted) (ready : system.Ready) (event : Event)
    (step : Network.Event) (fits : system.Fits growth event) (nothing : system.kept growth event = 0) :
    Outcome growth system event ((hardware step).exec system) := by
  unfold hardware
  cases stepped : (if system.kernel.netCard.isSome then system.kernel.step step
    else some system.kernel) with
  | none =>
    have stopped : (onKernel fun kernel => if kernel.netCard.isSome then kernel.step step
        else some kernel).exec system = (none, system) := by
      rw [onKernel, Program.exec_bind, Program.exec_act, stepped]
      rfl
    rw [stopped]
    exact outcome_quiet fine fits nothing rfl rfl rfl fun after same => by cases same
  | some kernel =>
    rw [exec_onKernel _ stepped]
    refine outcome_quiet fine fits nothing rfl rfl rfl ?_
    intro after same
    cases same
    cases present : system.kernel.netCard with
    | none =>
      rw [present] at stepped
      cases stepped
      exact ready
    | some nic =>
      rw [present, Option.isSome_some, if_pos rfl] at stepped
      obtain ⟨next, reached⟩ := Kernel.step_ready ⟨nic, ready.card nic present⟩ stepped
      exact Ready.of_card reached ready.fits

/-- Watched code gets through, or is refused nothing, exactly if the heap has
room for its calls. -/
theorem Spends.ends {α : Type} {program : Program System α} {calls : List HeapCall} {kept : Nat}
    {result : Option (α × Kernel)} (spends : Spends watched program system calls result)
    (balanced : run HeapCall.own calls 0 = some kept) (fine : system.Unexhausted)
    (fits : system.used ≤ heapSize) :
    ((program.exec system).2.Unexhausted ↔ system.used + HeapCall.peak calls ≤ heapSize) ∧
    ∀ value after, program.exec system = (some value, after) →
      ∃ kernel, result = some (value, kernel) ∧ system.used + kept ≤ heapSize ∧
        after = { system with used := system.used + kept, kernel := kernel } := by
  by_cases room : system.used + HeapCall.peak calls ≤ heapSize
  · have served := spends.served _ (HeapCall.run_serve_some balanced room)
    cases result with
    | none =>
      obtain ⟨stopped, same, refused, commands⟩ := served
      rw [same]
      refine ⟨⟨fun _ => room, fun _ => ?_⟩, fun value after ended => by cases ended⟩
      rw [Unexhausted, refused, commands]
      exact fine
    | some final =>
      have ended : program.exec system = (some final.1, { system with
        used := system.used + kept, kernel := final.2 }) := served
      rw [ended]
      refine ⟨⟨fun _ => room, fun _ => fine⟩, ?_⟩
      intro value after same
      cases same
      have least := HeapCall.own_le_peak balanced
      exact ⟨final.2, rfl, by omega, rfl⟩
  · obtain ⟨stopped, caller, same, blamed, refused, -⟩ :=
      spends.refused (HeapCall.run_serve_none balanced fits room)
    rw [same]
    refine ⟨⟨fun unexhausted => ?_, fun other => absurd other room⟩, fun value after ended => by
      cases ended⟩
    refine absurd blamed (unexhausted.1 caller ?_)
    rw [refused]
    simp

theorem exec_of_map {α : Type} {result : Option α × System} {after : System}
    (same : result.map (Option.map fun _ => ()) id = (some (), after)) :
    ∃ value, result = (some value, after) := by
  rcases result with ⟨value, final⟩
  cases value with
  | none => cases same
  | some value =>
    cases same
    exact ⟨value, rfl⟩

theorem poll_outcome (fine : system.Unexhausted) (ready : system.Ready) :
    Outcome growth system .poll ((step growth .poll).exec system) := by
  cases present : system.kernel.netCard with
  | none =>
    have idle : (step growth .poll).exec system = (some (), system) := by
      rw [step, look, Program.exec_bind, Program.exec_act]
      simp only [present, Option.isSome_none, Bool.false_eq_true, ↓reduceIte]
      rfl
    have nothing : pollCalls growth system.kernel = [] := by rw [pollCalls, present, Option.bind_none]
    rw [idle]
    refine outcome_quiet fine ?_ ?_ rfl rfl rfl ?_
    · rw [Fits, nothing]
      exact ready.fits
    · rw [kept, pollKept, present, Option.bind_none]
    · intro after same
      cases same
      exact ready
  | some nic =>
    have started : (step growth .poll).exec system =
        ((poll growth).exec system).map (Option.map fun _ => ()) id := by
      rw [step, look, Program.exec_bind, Program.exec_act]
      simp only [present, Option.isSome_some, ↓reduceIte]
      rw [Program.exec_bind]
      rcases (poll growth).exec system with ⟨value, after⟩
      cases value <;> rfl
    obtain ⟨exact, ends⟩ := (poll_spends growth system (ready.card nic present)).ends
      (pollCalls_own growth system.kernel) fine ready.fits
    have reached : ∀ after, (step growth .poll).exec system = (some (), after) →
        ∃ busy kernel, system.kernel.poll = some (busy, kernel) ∧
          system.used + pollKept growth system.kernel ≤ heapSize ∧ after = { system with
            used := system.used + pollKept growth system.kernel, kernel := kernel } := by
      intro after same
      rw [started] at same
      obtain ⟨busy, ended⟩ := exec_of_map same
      obtain ⟨kernel, polled, room, rfl⟩ := ends busy after ended
      exact ⟨busy, kernel, polled, room, rfl⟩
    refine ⟨?_, ?_, ?_⟩
    · rw [started]
      exact exact
    · intro after same
      obtain ⟨busy, kernel, polled, room, rfl⟩ := reached after same
      obtain ⟨next, served⟩ := (ready.card nic present).poll polled
      exact Ready.of_card served room
    · intro after same _
      obtain ⟨busy, kernel, -, -, rfl⟩ := reached after same
      rfl

/-- Only the kernel's messages and the bytes in use have changed. -/
theorem Ready.printed {after : System} (ready : system.Ready)
    (card : after.kernel.netCard = system.kernel.netCard)
    (serving : ∀ nic, system.kernel.Ready nic → after.kernel.Ready nic)
    (fits : after.used ≤ heapSize) : after.Ready := by
  refine ⟨?_, fits⟩
  intro nic present
  exact serving nic (ready.card nic (card ▸ present))

theorem exec_readSector (nvme : Nvme) (lba : UInt64) (room : system.used + 4096 ≤ heapSize) :
    ∃ value, (readSector nvme lba).exec system = (some value, { system with
      used := system.used + 4096
      commands := system.commands ++ [Nvme.readCommand nvme.iosqTail (system.addresses 0).val lba]
      addresses := fun turn => system.addresses (turn + 1)
      sectors := fun turn => system.sectors (turn + 1) }) := by
  simp only [readSector, allocZeroed, look, nextAddress, submit, Program.exec_bind, Program.exec_act,
    HeapCall.serve, if_pos room, Program.exec_pure, Prod.mk.injEq, Option.some.injEq, and_true,
    exists_eq']

/-- The null pointer goes into the command. -/
theorem exec_readSector_null (nvme : Nvme) (lba : UInt64)
    (full : ¬ system.used + 4096 ≤ heapSize) :
    ∃ value, (readSector nvme lba).exec system = (some value, { system with
      refused := system.refused ++ [.readSector]
      commands := system.commands ++ [Nvme.readCommand nvme.iosqTail 0 lba]
      sectors := fun turn => system.sectors (turn + 1) }) := by
  simp only [readSector, allocZeroed, look, submit, Program.exec_bind, Program.exec_act,
    HeapCall.serve, if_neg full, Program.exec_pure, Prod.mk.injEq, Option.some.injEq, and_true,
    exists_eq']

theorem exec_print (text : String) (color : UInt32) :
    (terminalPrint text color).exec system =
      (some (), { system with kernel := system.kernel.terminalPrint text color }) :=
  exec_onKernel _ rfl

theorem exec_take (caller : Caller) (size : Nat) : (heap caller [.take size]).exec system =
    if system.used + size ≤ heapSize then (some (), { system with used := system.used + size })
    else (none, { system with refused := system.refused ++ [caller] }) := by
  have unfolded : heap caller [.take size] = call caller (.take size) >>= fun _ => pure () := rfl
  rw [unfolded, Program.exec_bind, call, Program.exec_bind, Program.exec_act, HeapCall.serve]
  by_cases room : system.used + size ≤ heapSize
  · rw [if_pos room, if_pos room]
    rfl
  · rw [if_neg room, if_neg room]
    rfl

/-- A served read, and what then becomes of the box for the user program. -/
theorem readForUser_served (fine : system.Unexhausted) (ready : system.Ready) (nvme : Nvme)
    (lba : UInt64) (room : system.used + 4096 ≤ heapSize) :
    ((readForUser nvme lba).exec system).2.Unexhausted ∧
    (∀ value after, (readForUser nvme lba).exec system = (some value, after) →
      after.Ready ∧ after.used = system.used + (4096 + 512) ∧ after.drive.isSome) ∧
    (system.used + 4096 + 512 ≤ heapSize →
      ∃ value after, (readForUser nvme lba).exec system = (some value, after)) := by
  obtain ⟨value, read⟩ := exec_readSector nvme lba room
  have commands : ∀ command ∈ system.commands ++
      [Nvme.readCommand nvme.iosqTail (system.addresses 0).val lba], command.prp1 ≠ 0 := by
    intro command member
    rcases List.mem_append.mp member with old | new
    · exact fine.2 command old
    · rw [List.mem_singleton.mp new]
      exact (system.addresses 0).property
  simp only [readForUser, Program.exec_bind, read, Program.exec_act, exec_take]
  by_cases more : system.used + 4096 + 512 ≤ heapSize
  · simp only [if_pos more, nextAddress, Program.exec_act, exec_print, Program.exec_pure]
    refine ⟨⟨fine.1, commands⟩, ?_, fun _ => ⟨_, _, rfl⟩⟩
    intro value after same
    cases same
    exact ⟨ready.printed rfl (fun nic serving => serving.print _ _) more, rfl, rfl⟩
  · simp only [if_neg more]
    refine ⟨⟨?_, commands⟩, (fun value after same => nomatch same), fun room => absurd room more⟩
    intro caller member
    rcases List.mem_append.mp member with old | new
    · exact fine.1 caller old
    · rw [List.mem_singleton.mp new]
      decide

/-- A refused read goes on all the same. -/
theorem readForUser_refused (ready : system.Ready) (nvme : Nvme) (lba : UInt64)
    (full : ¬ system.used + 4096 ≤ heapSize) :
    .readSector ∈ ((readForUser nvme lba).exec system).2.refused ∧
    (∃ command ∈ ((readForUser nvme lba).exec system).2.commands, command.prp1 = 0) ∧
    ∀ value after, (readForUser nvme lba).exec system = (some value, after) → after.Ready := by
  obtain ⟨value, read⟩ := exec_readSector_null nvme lba full
  have null : ∃ command ∈ system.commands ++ [Nvme.readCommand nvme.iosqTail 0 lba],
      command.prp1 = 0 := ⟨Nvme.readCommand nvme.iosqTail 0 lba, by simp, rfl⟩
  simp only [readForUser, Program.exec_bind, read, Program.exec_act, exec_take]
  by_cases more : system.used + 512 ≤ heapSize
  · simp only [if_pos more, nextAddress, Program.exec_act, exec_print, Program.exec_pure]
    refine ⟨by simp, null, ?_⟩
    intro value after same
    cases same
    exact ready.printed rfl (fun nic serving => serving.print _ _) more
  · simp only [if_neg more]
    exact ⟨by simp, null, fun value after same => by cases same⟩

theorem not_unexhausted {after : System} (refused : .readSector ∈ after.refused) :
    ¬ after.Unexhausted :=
  fun unexhausted => unexhausted.1 .readSector refused (by decide)

variable (growth) in
theorem exec_readSector_step (present : system.drive.isSome) (lba : UInt64) : ∃ nvme,
    (step growth (.readSector lba)).exec system =
      ((readForUser nvme lba).exec { system with
        kernel := system.kernel.terminalPrint "\n> SYS: RING-3 NVME READ REQUEST ACCEPTED.\n"
          0xF59E0B }).map (Option.map fun _ => ()) id := by
  obtain ⟨nvme, present⟩ := Option.isSome_iff_exists.mp present
  refine ⟨nvme, ?_⟩
  rw [step, syscallReadSector]
  simp only [look, Program.exec_bind, exec_print, Program.exec_act, present]
  rcases (readForUser nvme lba).exec _ with ⟨value, after⟩
  cases value <;> rfl

theorem readSector_outcome (fine : system.Unexhausted) (ready : system.Ready) (lba : UInt64) :
    Outcome growth system (.readSector lba) ((step growth (.readSector lba)).exec system) := by
  by_cases present : system.drive.isSome
  · obtain ⟨nvme, stepped⟩ := exec_readSector_step growth present lba
    have printed : { system with
        kernel := system.kernel.terminalPrint "\n> SYS: RING-3 NVME READ REQUEST ACCEPTED.\n"
          0xF59E0B }.Ready := ready.printed rfl (fun nic serving => serving.print _ _) ready.fits
    have still : { system with
        kernel := system.kernel.terminalPrint "\n> SYS: RING-3 NVME READ REQUEST ACCEPTED.\n"
          0xF59E0B }.Unexhausted := fine
    rw [stepped]
    by_cases room : system.used + 4096 ≤ heapSize
    · obtain ⟨unexhausted, ends, -⟩ := readForUser_served still printed nvme lba room
      have fits : system.Fits growth (.readSector lba) := by
        rw [Fits]
        exact fun _ => room
      refine ⟨⟨fun _ => fits, fun _ => ?_⟩, ?_, ?_⟩
      · rw [Prod.map_snd, id_eq]
        exact unexhausted
      · intro after same
        obtain ⟨value, ended⟩ := exec_of_map same
        exact (ends value after ended).1
      · intro after same _
        obtain ⟨value, ended⟩ := exec_of_map same
        rw [(ends value after ended).2.1, kept, if_pos present]
    · obtain ⟨refused, -, ends⟩ := readForUser_refused printed nvme lba room
      have full : ¬ system.Fits growth (.readSector lba) := by
        rw [Fits]
        exact fun fits => room (fits present)
      refine ⟨⟨fun unexhausted => ?_, fun fits => absurd fits full⟩, ?_, ?_⟩
      · rw [Prod.map_snd, id_eq] at unexhausted
        exact absurd unexhausted (not_unexhausted refused)
      · intro after same
        obtain ⟨value, ended⟩ := exec_of_map same
        exact ends value after ended
      · intro after same unexhausted
        obtain ⟨value, ended⟩ := exec_of_map same
        rw [ended] at refused
        exact absurd unexhausted (not_unexhausted refused)
  · rw [step, syscallReadSector]
    simp only [look, Program.exec_bind, exec_print, Program.exec_act]
    rw [Option.not_isSome_iff_eq_none] at present
    simp only [present, Program.exec_bind, exec_print, Program.exec_pure]
    refine outcome_quiet fine ?_ ?_ rfl rfl rfl ?_
    · intro some
      rw [present] at some
      cases some
    · rw [kept, present]
      rfl
    · intro after same
      cases same
      exact ready.printed rfl (fun nic serving => (serving.print _ _).print _ _) ready.fits

theorem exec_give (caller : Caller) (size : Nat) : (heap caller [.give size]).exec system =
    (some (), { system with used := system.used - size }) := rfl

/-- A call that gets its log text, up to the end of the request. -/
theorem exec_logged (payload : List UInt8) {text : String} (valid : fromUtf8 payload = some text)
    (room : system.used + HeapCall.peak (logText growth text).calls ≤ heapSize) :
    (step growth (.sendPacket payload)).exec system =
      match (sendRequest growth).exec { system with
        used := system.used + (logText growth text).room
        kernel := system.kernel.terminalPrint
          s!"\n> SYS: RING-3 NETWORK REQUEST. PAYLOAD: '{text}'\n" 0xF59E0B } with
      | (none, after) => (none, after)
      | (some _, after) =>
        (some (), { after with used := after.used - (logText growth text).room }) := by
  have log : (logText growth text).Sound := Buffer.format_sound growth _
  have spends : Spends (Eq .syscallHandler) (heap .syscallHandler (logText growth text).calls) system
      (logText growth text).calls (some ((), system.kernel)) := spends_heap rfl _
  have taken : (heap .syscallHandler (logText growth text).calls).exec system =
      (some (), { system with used := system.used + (logText growth text).room }) :=
    spends.served _ (HeapCall.run_serve_some log room)
  rw [step, syscallSendPacket]
  simp only [valid, Program.exec_bind, taken, exec_print, Buffer.drop, exec_give, Program.exec_pure]
  rcases (sendRequest growth).exec _ with ⟨value, after⟩
  cases value <;> rfl

/-- A call that does not get its log text stops before it transmits. -/
theorem exec_unlogged (payload : List UInt8) {text : String} (valid : fromUtf8 payload = some text)
    (fits : system.used ≤ heapSize)
    (full : ¬ system.used + HeapCall.peak (logText growth text).calls ≤ heapSize) :
    ∃ after, (step growth (.sendPacket payload)).exec system = (none, after) ∧
      after.refused = system.refused ++ [.syscallHandler] ∧ after.commands = system.commands := by
  have log : (logText growth text).Sound := Buffer.format_sound growth _
  have spends : Spends (Eq .syscallHandler) (heap .syscallHandler (logText growth text).calls) system
      (logText growth text).calls (some ((), system.kernel)) := spends_heap rfl _
  obtain ⟨after, caller, stopped, rfl, refused, commands⟩ :=
    spends.refused (HeapCall.run_serve_none log fits full)
  refine ⟨after, ?_, refused, commands⟩
  rw [step, syscallSendPacket]
  simp only [valid, Program.exec_bind, stopped]

variable (growth) in
theorem sendRequest_ends (fine : system.Unexhausted) (ready : system.Ready) :
    (((sendRequest growth).exec system).2.Unexhausted ↔
      (system.kernel.netCard.isSome → system.used + HeapCall.peak (arpFrame growth 42).calls ≤ heapSize)) ∧
    ∀ value after, (sendRequest growth).exec system = (some value, after) → after.Ready ∧
      after.used = system.used + if system.kernel.netCard.isSome then 60 else 0 := by
  cases present : system.kernel.netCard with
  | none =>
    have printed : (sendRequest growth).exec system = (some (), { system with
        kernel := system.kernel.terminalPrint "> SYS: E1000 NETWORK CARD NOT FOUND!\n" 0xEF4444 }) := by
      simp only [sendRequest, look, Program.exec_bind, Program.exec_act, present, exec_print]
    rw [printed]
    refine ⟨⟨(fun _ card => nomatch card), fun _ => fine⟩, ?_⟩
    intro value after same
    cases same
    exact ⟨ready.printed rfl (fun nic serving => serving.print _ _) ready.fits, rfl⟩
  | some nic =>
    obtain ⟨final, next, served, spends⟩ := sendRequest_spends growth system (ready.card nic present)
    obtain ⟨exact, ends⟩ := spends.ends (arpFrame_own growth) fine ready.fits
    refine ⟨exact.trans ⟨fun room _ => room, fun room => room rfl⟩, ?_⟩
    intro value after same
    obtain ⟨kernel, sent, fits, rfl⟩ := ends value after same
    cases sent
    exact ⟨Ready.of_card served fits, rfl⟩

/-- A message with its log text goes on as far as the request does. -/
theorem outcome_logged (fine : system.Unexhausted) (ready : system.Ready) (payload : List UInt8)
    {text : String} (valid : fromUtf8 payload = some text)
    (room : system.used + HeapCall.peak (logText growth text).calls ≤ heapSize) :
    Outcome growth system (.sendPacket payload)
      ((step growth (.sendPacket payload)).exec system) := by
  have log : (logText growth text).Sound := Buffer.format_sound growth _
  have least := HeapCall.own_le_peak log
  have whole := HeapCall.peak_append log (arpFrame growth 42).calls
  have printed : { system with
      used := system.used + (logText growth text).room
      kernel := system.kernel.terminalPrint
        s!"\n> SYS: RING-3 NETWORK REQUEST. PAYLOAD: '{text}'\n" 0xF59E0B }.Ready :=
    ready.printed rfl (fun nic serving => serving.print _ _) (by change _ + _ ≤ _; omega)
  have still : { system with
      used := system.used + (logText growth text).room
      kernel := system.kernel.terminalPrint
        s!"\n> SYS: RING-3 NETWORK REQUEST. PAYLOAD: '{text}'\n" 0xF59E0B }.Unexhausted := fine
  obtain ⟨exact, ends⟩ := sendRequest_ends growth still printed
  have fits : system.Fits growth (.sendPacket payload) ↔ (system.kernel.netCard.isSome →
      system.used + (logText growth text).room + HeapCall.peak (arpFrame growth 42).calls ≤
        heapSize) := by
    rw [Fits]
    constructor
    · intro fits card
      have together := fits text valid card room
      omega
    · intro fits other same card _
      rw [valid, Option.some.injEq] at same
      subst same
      have apart := fits card
      omega
  have sent : system.kept growth (.sendPacket payload) =
      if system.kernel.netCard.isSome then 60 else 0 := by
    simp only [kept, valid, Option.isSome_some, Bool.true_and]
  rw [exec_logged payload valid room]
  cases ended : (sendRequest growth).exec { system with
      used := system.used + (logText growth text).room
      kernel := system.kernel.terminalPrint
        s!"\n> SYS: RING-3 NETWORK REQUEST. PAYLOAD: '{text}'\n" 0xF59E0B } with
  | mk value after =>
    rw [ended] at exact
    cases value with
    | none => exact ⟨exact.trans fits.symm, (fun final same => nomatch same),
        (fun final same => nomatch same)⟩
    | some value =>
      obtain ⟨serving, used⟩ := ends value after ended
      have freed : after.used = system.used + (logText growth text).room +
        if system.kernel.netCard.isSome then 60 else 0 := used
      refine ⟨exact.trans fits.symm, ?_, ?_⟩
      · intro final same
        cases same
        exact serving.printed rfl (fun nic ready => ready) (Nat.le_trans (Nat.sub_le ..) serving.fits)
      · intro final same _
        cases same
        rw [sent]
        change after.used - _ = _
        omega

theorem outcome_unlogged (fine : system.Unexhausted) (ready : system.Ready) (payload : List UInt8)
    {text : String} (valid : fromUtf8 payload = some text)
    (full : ¬ system.used + HeapCall.peak (logText growth text).calls ≤ heapSize) :
    Outcome growth system (.sendPacket payload)
      ((step growth (.sendPacket payload)).exec system) := by
  obtain ⟨after, stopped, refused, commands⟩ := exec_unlogged payload valid ready.fits full
  rw [stopped]
  refine ⟨⟨fun _ => ?_, fun _ => ⟨?_, ?_⟩⟩, (fun after same => nomatch same),
    (fun after same => nomatch same)⟩
  · intro other same _ logged
    rw [valid, Option.some.injEq] at same
    exact absurd (same ▸ logged) full
  · rw [refused]
    intro caller member
    rcases List.mem_append.mp member with old | new
    · exact fine.1 caller old
    · rw [List.mem_singleton.mp new]
      decide
  · rw [commands]
    exact fine.2

theorem sendPacket_outcome (fine : system.Unexhausted) (ready : system.Ready)
    (payload : List UInt8) :
    Outcome growth system (.sendPacket payload) ((step growth (.sendPacket payload)).exec system) := by
  cases valid : fromUtf8 payload with
  | none =>
    have idle : (step growth (.sendPacket payload)).exec system = (some (), system) := by
      rw [step, syscallSendPacket]
      simp only [valid]
      rfl
    rw [idle]
    refine outcome_quiet fine ?_ ?_ rfl rfl rfl ?_
    · intro text same
      rw [valid] at same
      cases same
    · simp only [kept, valid, Option.isSome_none, Bool.false_and, Bool.false_eq_true, ↓reduceIte]
    · intro after same
      cases same
      exact ready
  | some text =>
    by_cases room : system.used + HeapCall.peak (logText growth text).calls ≤ heapSize
    · exact outcome_logged fine ready payload valid room
    · exact outcome_unlogged fine ready payload valid room

/-- A system call that finds room for both its buffers gets through. -/
theorem step_read (fine : system.Unexhausted) (ready : system.Ready) (present : system.drive.isSome)
    (lba : UInt64) (room : system.used + 4608 ≤ heapSize) : ∃ after,
    (step growth (.readSector lba)).exec system = (some (), after) ∧ after.Unexhausted ∧
      after.Ready ∧ after.drive.isSome ∧ after.used = system.used + 4608 := by
  obtain ⟨nvme, stepped⟩ := exec_readSector_step growth present lba
  have printed : { system with
      kernel := system.kernel.terminalPrint "\n> SYS: RING-3 NVME READ REQUEST ACCEPTED.\n"
        0xF59E0B }.Ready := ready.printed rfl (fun nic serving => serving.print _ _) ready.fits
  have still : { system with
      kernel := system.kernel.terminalPrint "\n> SYS: RING-3 NVME READ REQUEST ACCEPTED.\n"
        0xF59E0B }.Unexhausted := fine
  obtain ⟨unexhausted, ends, served⟩ := readForUser_served still printed nvme lba
    (by change system.used + 4096 ≤ heapSize; omega)
  obtain ⟨value, after, ended⟩ := served (by change system.used + 4096 + 512 ≤ heapSize; omega)
  obtain ⟨serving, used, drive⟩ := ends value after ended
  rw [ended] at unexhausted stepped
  exact ⟨after, stepped, unexhausted, serving, drive, used⟩

variable (growth) in
theorem step_outcome (fine : system.Unexhausted) (ready : system.Ready) (event : Event) :
    Outcome growth system event ((step growth event).exec system) := by
  cases event with
  | receive frame => exact hardware_outcome fine ready _ (.receive frame) trivial rfl
  | fetch => exact hardware_outcome fine ready _ .fetch trivial rfl
  | poll => exact poll_outcome fine ready
  | readSector lba => exact readSector_outcome fine ready lba
  | sendPacket payload => exact sendPacket_outcome fine ready payload

end System

end QoreOS.Runtime
