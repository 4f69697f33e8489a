import QoreOS.Runtime.Syscalls

/-! Which system calls return. -/

namespace QoreOS.Runtime

open QoreOS.Library QoreOS.Display QoreOS.Network QoreOS.Storage

variable {State : Type}

/-- What boot leaves behind: it has printed its first line and more, and the
network card and the drive have come through their initialisation. -/
structure Launch (State : Type) where
  server : Server
  bar : 40 ≤ server.height
  screen : Framebuffer
  console : List (String × UInt32)
  terminal : Terminal
  printed : printAll (("INIT: Core 0 (BSP) Online.\n", 0x10B981) :: console)
    (Terminal.blank 0 40 server.width (server.height - 40)) = some terminal
  boot : Boot
  cardFound : Bool
  register : boot.bar0 < 2 ^ 32
  ring : boot.txRingPtr + 8 * 16 ≤ 2 ^ 64
  drive : Option Nvme
  machine : Machine State
  queues : ∀ nvme, drive = some nvme → nvme.Queued machine.memory ∧ nvme.bar0 + 0x100C < 2 ^ 64
  records : UInt64 → CanvasRecord

def Launch.services (launch : Launch State) : Services State where
  server := launch.server
  screen := launch.screen
  terminal := launch.terminal
  kernel :=
    if launch.cardFound then launch.boot.kernel else { launch.boot.kernel with netCard := none }
  drive := launch.drive
  machine := launch.machine
  records := launch.records

/-- No request of the calls is larger than the heap. -/
def Affordable (calls : List HeapCall) : Prop := ∀ size, .take size ∈ calls → size ≤ heapSize

/-- The first two arguments make a slice: a pointer that is not null, and a length
that is an `isize`. -/
def Syscall.Sliced (call : Syscall) : Prop := call.arg1 ≠ 0 ∧ call.arg2.toNat < 2 ^ 63

/-- A text that the heap can hold in a message, and with a card the request behind it. -/
def Services.Sends (growth : Growth) (services : Services State) (bytes : List UInt8) : Prop :=
  ∀ text, fromUtf8 bytes = some text → Affordable (System.logText growth text).calls ∧
    (services.kernel.netCard.isSome → Affordable (System.arpFrame growth 42).calls)

/-- The arguments for which a call is harmless: a slice of any bytes to print, a canvas
of at most 2896 by 2896 pixels, an aligned pointer to a canvas whose visible rows can be
copied, and a slice with a text that the heap can hold. -/
def Services.AllowsCall (growth : Growth) (services : Services State) (call : Syscall) : Prop :=
  match call.number.toNat with
  | 1 => call.Sliced
  | 2 => call.arg3.toNat ≤ 2896
  | 3 => call.arg1 ≠ 0 → call.arg1.toNat % 8 = 0 ∧
    services.server.Reaches (services.records call.arg1).surface
  | 5 => call.Sliced ∧ services.Sends growth call.bytes
  | _ => True

def Services.Allows (growth : Growth) (services : Services State) : Action → Prop
  | .store _ => True
  | .call call => services.AllowsCall growth call

/-- The layer is under the bar and as wide as the screen, and card and drive work. -/
structure Services.Serving (services : Services State) : Prop where
  ready : services.terminal.Ready
  corner : services.terminal.canvas.corner = (0, 40)
  columns : services.terminal.canvas.width = services.server.width
  card : ∀ nic, services.kernel.netCard = some nic → services.kernel.Ready nic ∧
    nic.bar0Address < 2 ^ 32 ∧ nic.txRingPtr + 8 * 16 ≤ 2 ^ 64
  drive : ∀ nvme, services.drive = some nvme →
    nvme.Queued services.machine.memory ∧ nvme.bar0 + 0x100C < 2 ^ 64

/-- A result that is there exactly under a condition, and then leaves services
that work on. -/
def Services.Settles (result : Option (UInt64 × Services State)) (condition : Prop) : Prop :=
  condition ∧ (∃ answer next, result = some (answer, next) ∧ next.Serving) ∨
    ¬ condition ∧ result = none

section Requests

theorem requestAll_settles (calls : List HeapCall) :
    Affordable calls ∧ requestAll calls = some () ∨ ¬ Affordable calls ∧ requestAll calls = none := by
  induction calls with
  | nil => exact Or.inl ⟨fun _ member => (nomatch member), rfl⟩
  | cons call rest ih =>
    cases call with
    | give size =>
      have same : Affordable (.give size :: rest) ↔ Affordable rest := by
        simp only [Affordable, List.mem_cons, reduceCtorEq, false_or]
      rw [same]
      exact ih
    | take size =>
      have both : Affordable (.take size :: rest) ↔ size ≤ heapSize ∧ Affordable rest := by
        simp only [Affordable, List.mem_cons, HeapCall.take.injEq, forall_eq_or_imp]
      rw [both, requestAll, request]
      by_cases fits : size ≤ heapSize
      · rw [if_pos fits]
        rcases ih with ⟨affordable, served⟩ | ⟨excessive, refused⟩
        · exact Or.inl ⟨⟨fits, affordable⟩, served⟩
        · exact Or.inr ⟨fun other => excessive other.2, refused⟩
      · rw [if_neg fits]
        exact Or.inr ⟨fun other => fits other.1, rfl⟩

theorem extend_affordable_iff {buffer : Buffer} {growth : Growth} {more : Nat} :
    Affordable (buffer.extend growth more).calls ↔ Affordable buffer.calls ∧
      (buffer.room < buffer.length + more →
        growth.grown buffer.room (buffer.length + more) ≤ heapSize) := by
  unfold Buffer.extend
  split
  · exact ⟨fun affordable => ⟨affordable, fun small => absurd small (by omega)⟩, And.left⟩
  · simp only [Affordable, Buffer.move, List.mem_append, List.mem_cons, HeapCall.take.injEq,
      reduceCtorEq, List.not_mem_nil, or_false, or_imp, forall_and, forall_eq]
    exact and_congr_right fun _ => ⟨fun fits _ => fits, fun fits => fits (by omega)⟩

/-- A message of up to 16777174 bytes fits when buffers double. -/
theorem logText_affordable_iff (text : String) :
    Affordable (System.logText .doubling text).calls ↔ text.utf8ByteSize ≤ 16777174 := by
  have heap : heapSize = 33554432 := rfl
  have opening : ("\n> SYS: RING-3 NETWORK REQUEST. PAYLOAD: '").utf8ByteSize = 42 := by decide
  have closing : ("'\n").utf8ByteSize = 2 := by decide
  have grown : ∀ room length, Growth.doubling.grown room length = max (2 * room) (max length 8) :=
    fun _ _ => rfl
  let opened : Buffer := { room := 88, length := 42, calls := [.take 88] }
  have first : Affordable opened.calls := by
    intro size member
    cases List.mem_singleton.mp member
    decide
  have whole : System.logText .doubling text =
      (opened.extend .doubling text.utf8ByteSize).extend .doubling 2 := by
    simp only [System.logText, Buffer.format, Piece.length, Piece.literals, opening, closing,
      List.map_cons, List.map_nil, List.foldl_cons, List.foldl_nil]
    rfl
  rw [whole, extend_affordable_iff, extend_affordable_iff, and_iff_right first, Buffer.extend_length]
  by_cases short : opened.length + text.utf8ByteSize ≤ opened.room
  · rw [Buffer.extend, if_pos short]
    simp only [grown, opened] at short ⊢
    omega
  · rw [Buffer.extend, if_neg short]
    simp only [grown, opened, Buffer.move] at short ⊢
    omega

theorem arpFrame_affordable : Affordable (System.arpFrame .doubling 42).calls := by
  have requests : (System.arpFrame .doubling 42).calls =
      [.take 42, .take 84, .give 42, .take 60, .give 84] := rfl
  intro size member
  rw [requests] at member
  simp only [List.mem_cons, HeapCall.take.injEq, reduceCtorEq, List.not_mem_nil, or_false,
    false_or] at member
  rcases member with rfl | rfl | rfl <;> decide

theorem Syscall.slice_settles (call : Syscall) :
    call.Sliced ∧ call.slice = some call.bytes ∨ ¬ call.Sliced ∧ call.slice = none := by
  by_cases sliced : call.Sliced
  · exact Or.inl ⟨sliced, if_pos sliced⟩
  · exact Or.inr ⟨sliced, if_neg sliced⟩

theorem Syscall.text_size (call : Syscall) {text : String} (valid : fromUtf8 call.bytes = some text) :
    text.utf8ByteSize = call.arg2.toNat := by
  rw [← utf8_length, utf8_fromUtf8 valid, call.readable]

/-- With buffers that double, the conditions are about the arguments alone. -/
theorem Services.allowsCall_doubling (services : Services State) (call : Syscall) :
    services.AllowsCall .doubling call ↔
      match call.number.toNat with
      | 1 => call.Sliced
      | 2 => call.arg3.toNat ≤ 2896
      | 3 => call.arg1 ≠ 0 → call.arg1.toNat % 8 = 0 ∧
        services.server.Reaches (services.records call.arg1).surface
      | 5 => call.Sliced ∧ ((fromUtf8 call.bytes).isSome → call.arg2.toNat ≤ 16777174)
      | _ => True := by
  have sent : services.Sends .doubling call.bytes ↔
      ((fromUtf8 call.bytes).isSome → call.arg2.toNat ≤ 16777174) := by
    unfold Services.Sends
    cases valid : fromUtf8 call.bytes with
    | none => exact ⟨fun _ present => (nomatch present), fun _ _ same => (nomatch same)⟩
    | some text =>
      rw [← call.text_size valid, ← logText_affordable_iff]
      constructor
      · exact fun allowed _ => (allowed text rfl).1
      · intro affordable other same
        cases same
        exact ⟨affordable rfl, fun _ => arpFrame_affordable⟩
  unfold Services.AllowsCall
  generalize call.number.toNat = number
  match number with
  | 5 => exact and_congr_right fun _ => sent
  | 2 | 3 | 0 | 1 | 4 | _ + 6 => exact Iff.rfl

end Requests

/-- A request leaves the addresses of the card alone. -/
theorem arpRequest_addresses {kernel : Kernel} {nic : E1000} (ready : kernel.Ready nic)
    (targetIp : Ip) : ∃ after next, kernel.arpRequest targetIp = some after ∧ after.Ready next ∧
      next.bar0Address = nic.bar0Address ∧ next.txRingPtr = nic.txRingPtr := by
  obtain ⟨after, next, requested, transmits⟩ := Kernel.arpRequest_safely ready targetIp
  refine ⟨after, next, requested, transmits.ready, ?_⟩
  obtain ⟨descriptor, -, sent⟩ :=
    Kernel.transmit_eq ready (Kernel.arpRequestFrame nic.macAddress targetIp) 60
  simp only [Kernel.arpRequest, ready.card, sent, Option.bind_eq_bind, Option.bind_some,
    Option.some.injEq] at requested
  have card := transmits.ready.card
  rw [← requested] at card
  cases card
  exact ⟨rfl, rfl⟩

namespace Services.Serving

variable {services : Services State}

/-- What is on the screen does not matter. -/
theorem shown (serving : services.Serving) (screen : Framebuffer) :
    { services with screen := screen }.Serving :=
  ⟨serving.ready, serving.corner, serving.columns, serving.card, serving.drive⟩

/-- Nor does what the user program has in memory. -/
theorem stored (serving : services.Serving) (records : UInt64 → CanvasRecord) :
    { services with records := records }.Serving :=
  ⟨serving.ready, serving.corner, serving.columns, serving.card, serving.drive⟩

/-- The layer can always be copied to the screen. -/
theorem blitTerminal (serving : services.Serving) :
    ∃ screen, services.blitTerminal = some { services with screen := screen } := by
  obtain ⟨left, top⟩ := Prod.mk.inj serving.corner
  have column : services.terminal.canvas.surface.x + services.terminal.canvas.surface.width ≤
      services.server.width := by
    change services.terminal.canvas.x + services.terminal.canvas.width ≤ services.server.width
    rw [left, Nat.zero_add]
    exact Nat.le_of_eq serving.columns
  have bounded : services.terminal.canvas.surface.y < 2 ^ 64 := by
    change services.terminal.canvas.y < 2 ^ 64
    rw [top]
    decide
  obtain ⟨screen, blits⟩ : ∃ screen, services.server.blitCanvas services.terminal.canvas.surface
      services.screen = some screen :=
    (Server.blitCanvas_exists_iff bounded).mpr (Server.reaches_of_inside rfl column)
  exact ⟨screen, by rw [Services.blitTerminal, blits]; rfl⟩

theorem terminalPrint (serving : services.Serving) (text : String) (color : UInt32) :
    ∃ terminal screen, services.terminalPrint text color =
        some { services with terminal := terminal, screen := screen } ∧
      { services with terminal := terminal, screen := screen }.Serving := by
  obtain ⟨terminal, checks, prints, ready⟩ := checkedPrint_ready serving.ready text color
  have printed : { services with terminal := terminal }.Serving := by
    refine ⟨ready, (terminalPrint_corner prints).trans serving.corner,
      (terminalPrint_size prints).1.trans serving.columns, serving.card, serving.drive⟩
  obtain ⟨screen, blits⟩ := printed.blitTerminal
  refine ⟨terminal, screen, ?_, printed.shown screen⟩
  rw [Services.terminalPrint, checks, Option.bind_eq_bind, Option.bind_some, blits]

/-- A call that only prints. -/
theorem answers (serving : services.Serving) (text : String) (color : UInt32) :
    ∃ next, (services.terminalPrint text color).bind (fun services => some ((0 : UInt64), services)) =
      some (0, next) ∧ next.Serving := by
  obtain ⟨terminal, screen, printed, kept⟩ := serving.terminalPrint text color
  exact ⟨_, by rw [printed, Option.bind_some], kept⟩

theorem printText (serving : services.Serving) (call : Syscall) :
    Settles (services.printText call) call.Sliced := by
  unfold Services.printText
  rcases call.slice_settles with ⟨sliced, read⟩ | ⟨unsliced, stopped⟩
  · rw [read, Option.bind_eq_bind, Option.bind_some]
    cases fromUtf8 call.bytes with
    | some text =>
      obtain ⟨next, returned, good⟩ := serving.answers text call.arg3.toUInt32
      exact Or.inl ⟨sliced, 0, next, returned, good⟩
    | none =>
      obtain ⟨next, returned, good⟩ :=
        serving.answers "\n> SYS: SYSCALL STRING UTF8 ERROR!\n" 0xEF4444
      exact Or.inl ⟨sliced, 0, next, returned, good⟩
  · rw [stopped]
    exact Or.inr ⟨unsliced, rfl⟩

theorem newCanvas (serving : services.Serving) (call : Syscall) :
    Settles (services.newCanvas call) (call.arg3.toNat ≤ 2896) := by
  have heap : heapSize = 33554432 := rfl
  have record : request 56 = some () := rfl
  by_cases small : call.arg3.toNat ≤ 2896
  · have square : call.arg3.toNat * call.arg3.toNat ≤ 2896 * 2896 := Nat.mul_le_mul small small
    have pixels : request (call.arg3.toNat * call.arg3.toNat * 4) = some () := if_pos (by omega)
    let canvas : CanvasRecord :=
      ⟨call.arg1, call.arg2, call.arg3, call.arg3, call.buffer, fun _ => 0⟩
    refine Or.inl ⟨small, call.box, _, ?_,
      serving.stored (Function.update services.records call.box canvas)⟩
    simp only [Services.newCanvas,
      checked_of_lt (show call.arg3.toNat * call.arg3.toNat < 2 ^ 64 by omega), pixels, record,
      Option.bind_eq_bind, Option.bind_some]
    rfl
  · have square : 2897 * 2897 ≤ call.arg3.toNat * call.arg3.toNat :=
      Nat.mul_le_mul (by omega) (by omega)
    have pixels : request (call.arg3.toNat * call.arg3.toNat * 4) = none := if_neg (by omega)
    refine Or.inr ⟨small, ?_⟩
    by_cases fits : call.arg3.toNat * call.arg3.toNat < 2 ^ 64
    · simp only [Services.newCanvas, checked_of_lt fits, pixels, Option.bind_eq_bind,
        Option.bind_some, Option.bind_none]
    · have excess : checked (2 ^ 64) (call.arg3.toNat * call.arg3.toNat) = none := if_neg fits
      simp only [Services.newCanvas, excess, Option.bind_eq_bind, Option.bind_none]

theorem blitPointer (serving : services.Serving) (call : Syscall) :
    Settles (services.blitPointer call) (call.arg1 ≠ 0 → call.arg1.toNat % 8 = 0 ∧
      services.server.Reaches (services.records call.arg1).surface) := by
  unfold Services.blitPointer
  by_cases null : call.arg1 = 0
  · rw [if_pos null]
    exact Or.inl ⟨fun other => absurd null other, 0, services, rfl, serving⟩
  rw [if_neg null]
  have address : call.arg1.toNat ≠ 0 := fun zero => null (UInt64.toNat_inj.mp zero)
  by_cases aligned : call.arg1.toNat % 8 = 0
  · rw [checkedPointer, if_pos ⟨address, aligned⟩, Option.bind_eq_bind, Option.bind_some]
    have bounded : (services.records call.arg1).surface.y < 2 ^ 64 :=
      (services.records call.arg1).y.toNat_lt
    have exact : (∃ screen, services.server.blitCanvas (services.records call.arg1).surface
        services.screen = some screen) ↔
          services.server.Reaches (services.records call.arg1).surface :=
      Server.blitCanvas_exists_iff bounded
    cases blits : services.server.blitCanvas (services.records call.arg1).surface
        services.screen with
    | some screen =>
      exact Or.inl ⟨fun _ => ⟨aligned, exact.mp ⟨screen, blits⟩⟩, 0, _, rfl, serving.shown screen⟩
    | none =>
      refine Or.inr ⟨fun reaches => ?_, rfl⟩
      obtain ⟨screen, other⟩ := exact.mpr (reaches null).2
      rw [blits] at other
      cases other
  · rw [checkedPointer, if_neg fun both => aligned both.2]
    exact Or.inr ⟨fun reaches => aligned (reaches null).1, rfl⟩

theorem readDrive (serving : services.Serving) (disk : Drive State) {drive : Nvme}
    (found : services.drive = some drive) (call : Syscall) :
    ∃ next, services.readDrive disk drive call = some (call.box, next) ∧ next.Serving := by
  obtain ⟨queued, bound⟩ := serving.drive drive found
  obtain ⟨data, next, after, read, length, again, base⟩ :=
    queued.readSector disk call.pace call.arg1
  have page : request 4096 = some () := rfl
  have box : request 512 = some () := rfl
  have rung : doorbells drive = some () := by
    rw [doorbells, checked_of_lt (by omega), Option.bind_eq_bind, Option.bind_some,
      checked_of_lt bound]
    rfl
  have copied : copyFromSlice (List.replicate 512 0) 0 data.sector =
      some ((List.replicate 512 0).take 0 ++ data.sector ++
        (List.replicate 512 0).drop (0 + data.sector.length)) := by
    rw [copyFromSlice, if_pos]
    rw [List.length_replicate]
    omega
  let served : Services State := { services with drive := some next, machine := after }
  have working : served.Serving := by
    refine ⟨serving.ready, serving.corner, serving.columns, serving.card, fun nvme same => ?_⟩
    cases same
    exact ⟨again, base ▸ bound⟩
  obtain ⟨terminal, screen, printed, good⟩ := working.terminalPrint
    "> SYS: NVME DMA COMPLETE. PASSING POINTER TO RING-3.\n" 0x10B981
  obtain ⟨last, blits⟩ := good.blitTerminal
  refine ⟨{ served with terminal := terminal, screen := last }, ?_, good.shown last⟩
  simp only [Services.readDrive, page, rung, read, box, copied, Option.bind_eq_bind,
    Option.bind_some]
  change (served.terminalPrint _ _).bind _ = _
  rw [printed, Option.bind_some, blits]
  rfl

theorem readSector (serving : services.Serving) (disk : Drive State) (call : Syscall) :
    ∃ answer next, services.readSector disk call = some (answer, next) ∧ next.Serving := by
  obtain ⟨terminal, screen, accepted, kept⟩ :=
    serving.terminalPrint "\n> SYS: RING-3 NVME READ REQUEST ACCEPTED.\n" 0xF59E0B
  rw [Services.readSector, accepted, Option.bind_eq_bind, Option.bind_some]
  generalize ({ services with terminal := terminal, screen := screen } : Services State) = middle
    at kept ⊢
  cases found : middle.drive with
  | some drive =>
    obtain ⟨next, read, still⟩ := kept.readDrive disk found call
    exact ⟨call.box, next, read, still⟩
  | none =>
    obtain ⟨next, printed, still⟩ := kept.answers "> SYS: NVME DRIVE NOT FOUND!\n" 0xEF4444
    exact ⟨0, next, printed, still⟩

/-- A request over a card, behind the allocations for its frame. -/
theorem arpRequest (serving : services.Serving) (growth : Growth) {nic : E1000}
    (card : services.kernel.netCard = some nic) (targetIp : Ip) :
    Affordable (System.arpFrame growth 42).calls ∧
        (∃ next, services.arpRequest growth nic targetIp = some next ∧ next.Serving) ∨
      ¬ Affordable (System.arpFrame growth 42).calls ∧
        services.arpRequest growth nic targetIp = none := by
  rw [Services.arpRequest, Kernel.arpRequestBytes_length]
  rcases requestAll_settles (System.arpFrame growth 42).calls with
    ⟨affordable, served⟩ | ⟨excessive, refused⟩
  · obtain ⟨ready, register, ring⟩ := serving.card nic card
    obtain ⟨after, next, requested, again, sameRegister, sameRing⟩ :=
      arpRequest_addresses ready targetIp
    have bucket := ready.transmit.bucket
    have reached : transmitAddresses nic = some () := by
      rw [transmitAddresses, checked_of_lt (by omega), Option.bind_eq_bind, Option.bind_some,
        checked_of_lt (by omega)]
      rfl
    have working : { services with kernel := after }.Serving := by
      refine ⟨serving.ready, serving.corner, serving.columns, fun other same => ?_, serving.drive⟩
      obtain rfl : next = other := Option.some.inj (again.card.symm.trans same)
      exact ⟨again, sameRegister ▸ register, sameRing ▸ ring⟩
    obtain ⟨terminal, screen, printed, good⟩ := working.terminalPrint
      "\nNET: ARP Request Broadcasted to Network.\n" 0x3B82F6
    refine Or.inl ⟨affordable, _, ?_, good⟩
    simp only [served, reached, requested, Option.bind_eq_bind, Option.bind_some, printed]
  · refine Or.inr ⟨excessive, ?_⟩
    rw [refused, Option.bind_eq_bind, Option.bind_none]

theorem sendRequest (serving : services.Serving) (growth : Growth) :
    (services.kernel.netCard.isSome → Affordable (System.arpFrame growth 42).calls) ∧
        (∃ next, services.sendRequest growth = some next ∧ next.Serving) ∨
      ¬ (services.kernel.netCard.isSome → Affordable (System.arpFrame growth 42).calls) ∧
        services.sendRequest growth = none := by
  unfold Services.sendRequest
  cases card : services.kernel.netCard with
  | none =>
    obtain ⟨terminal, screen, printed, good⟩ :=
      serving.terminalPrint "> SYS: E1000 NETWORK CARD NOT FOUND!\n" 0xEF4444
    exact Or.inl ⟨fun present => (nomatch present), _, printed, good⟩
  | some nic =>
    rcases serving.arpRequest growth card #v[10, 0, 2, 2] with
      ⟨affordable, next, requested, working⟩ | ⟨excessive, refused⟩
    · obtain ⟨terminal, screen, printed, good⟩ := working.terminalPrint
        "> SYS: E1000 HARDWARE TRANSMIT (TX) COMPLETE!\n" 0x10B981
      refine Or.inl ⟨fun _ => affordable, _, ?_, good⟩
      dsimp only
      rw [requested, Option.bind_eq_bind, Option.bind_some, printed]
    · refine Or.inr ⟨fun other => excessive (other rfl), ?_⟩
      dsimp only
      rw [refused, Option.bind_eq_bind, Option.bind_none]

/-- A text in a message that the heap can hold is sent, other bytes are ignored. -/
theorem sendText (serving : services.Serving) (growth : Growth) (bytes : List UInt8) :
    services.Sends growth bytes ∧ (∃ next, services.sendText growth bytes = some next ∧
        next.Serving) ∨
      ¬ services.Sends growth bytes ∧ services.sendText growth bytes = none := by
  unfold Services.sendText Services.Sends
  cases fromUtf8 bytes with
  | none => exact Or.inl ⟨fun text same => (nomatch same), services, rfl, serving⟩
  | some text =>
    rcases requestAll_settles (System.logText growth text).calls with
      ⟨affordable, served⟩ | ⟨excessive, refused⟩
    · obtain ⟨terminal, screen, printed, working⟩ := serving.terminalPrint
        s!"\n> SYS: RING-3 NETWORK REQUEST. PAYLOAD: '{text}'\n" 0xF59E0B
      dsimp only
      rw [served, Option.bind_eq_bind, Option.bind_some, printed, Option.bind_eq_bind,
        Option.bind_some]
      rcases working.sendRequest growth with ⟨framed, middle, sent, still⟩ | ⟨unframed, stopped⟩
      · refine Or.inl ⟨fun other same => ?_, middle, sent, still⟩
        cases same
        exact ⟨affordable, framed⟩
      · exact Or.inr ⟨fun allowed => unframed (allowed text rfl).2, stopped⟩
    · refine Or.inr ⟨fun allowed => excessive (allowed text rfl).1, ?_⟩
      dsimp only
      rw [refused]
      rfl

theorem sendPacket (serving : services.Serving) (growth : Growth) (call : Syscall) :
    Settles (services.sendPacket growth call)
      (call.Sliced ∧ services.Sends growth call.bytes) := by
  unfold Services.sendPacket
  rcases call.slice_settles with ⟨sliced, read⟩ | ⟨unsliced, stopped⟩
  · rw [read, Option.bind_eq_bind, Option.bind_some]
    rcases serving.sendText growth call.bytes with ⟨sends, middle, sent, working⟩ | ⟨mute, stopped⟩
    · obtain ⟨screen, blits⟩ := working.blitTerminal
      refine Or.inl ⟨⟨sliced, sends⟩, 0, { middle with screen := screen }, ?_, working.shown screen⟩
      rw [sent, Option.bind_eq_bind, Option.bind_some, blits]
      rfl
    · rw [stopped]
      exact Or.inr ⟨fun both => mute both.2, rfl⟩
  · rw [stopped]
    exact Or.inr ⟨fun both => unsliced both.1, rfl⟩

/-- Every call returns under its condition and only then. -/
theorem syscallHandler (serving : services.Serving) (disk : Drive State) (growth : Growth)
    (call : Syscall) :
    Settles (services.syscallHandler disk growth call) (services.AllowsCall growth call) := by
  have prints : ∀ {result : Option (UInt64 × Services State)} {answer : UInt64},
      (∃ next, result = some (answer, next) ∧ next.Serving) → Settles result True := by
    rintro result answer ⟨next, returned, good⟩
    exact Or.inl ⟨trivial, answer, next, returned, good⟩
  have unknown := prints (serving.answers "\n> SYS: UNKNOWN SYSCALL TRIGGERED!\n" 0xEF4444)
  unfold Services.syscallHandler Services.AllowsCall
  generalize call.number.toNat = number
  match number with
  | 1 => exact serving.printText call
  | 2 => exact serving.newCanvas call
  | 3 => exact serving.blitPointer call
  | 4 =>
    obtain ⟨answer, next, returned, good⟩ := serving.readSector disk call
    exact prints ⟨next, returned, good⟩
  | 5 => exact serving.sendPacket growth call
  | 0 => exact unknown
  | _ + 6 => exact unknown

/-- So does every action. -/
theorem step (serving : services.Serving) (disk : Drive State) (growth : Growth) (action : Action) :
    services.Allows growth action ∧
        (∃ next, services.step disk growth action = some next ∧ next.Serving) ∨
      ¬ services.Allows growth action ∧ services.step disk growth action = none := by
  cases action with
  | store records =>
    exact Or.inl ⟨trivial, _, rfl, serving.stored records⟩
  | call call =>
    rcases serving.syscallHandler disk growth call with
      ⟨allowed, answer, next, returned, good⟩ | ⟨excessive, stopped⟩
    · refine Or.inl ⟨allowed, next, ?_, good⟩
      rw [Services.step, returned]
      rfl
    · refine Or.inr ⟨excessive, ?_⟩
      rw [Services.step, stopped]
      rfl

end Services.Serving

section Launch

variable (launch : Launch State)

theorem launch_wide : 40 ≤ launch.server.width := by
  have printed := launch.printed
  by_contra narrow
  have first : terminalPrint (Terminal.blank 0 40 launch.server.width (launch.server.height - 40))
      "INIT: Core 0 (BSP) Online.\n" 0x10B981 = none :=
    terminalPrint_narrow (Nat.not_le.mp narrow) ⟨'I', by decide, by decide⟩
  rw [printAll, run_cons, first] at printed
  cases printed

/-- Printing keeps the layer ready and in its place. -/
theorem printAll_ready {calls : List (String × UInt32)} {terminal final : Terminal}
    (ready : terminal.Ready) (printed : printAll calls terminal = some final) :
    final.Ready ∧ final.canvas.corner = terminal.canvas.corner ∧
      final.canvas.width = terminal.canvas.width := by
  have kept : ∀ (middle : Terminal) (call : String × UInt32) (next : Terminal),
      (middle.Ready ∧ middle.canvas.corner = terminal.canvas.corner ∧
        middle.canvas.width = terminal.canvas.width) →
      terminalPrint middle call.1 call.2 = some next →
      next.Ready ∧ next.canvas.corner = terminal.canvas.corner ∧
        next.canvas.width = terminal.canvas.width := by
    rintro middle ⟨text, color⟩ next ⟨ready, corner, width⟩ prints
    obtain ⟨other, -, same, again⟩ := checkedPrint_ready ready text color
    cases prints.symm.trans same
    exact ⟨again, (terminalPrint_corner prints).trans corner, (terminalPrint_size prints).1.trans width⟩
  exact run_preserves kept calls ⟨ready, rfl, rfl⟩ printed

theorem launch_serving : launch.services.Serving := by
  have wide := launch_wide launch
  have bar := launch.bar
  have start : (Terminal.blank 0 40 launch.server.width (launch.server.height - 40)).Ready := by
    refine ⟨⟨wide, ?_, ?_⟩, ?_⟩
    · have mapped := launch.server.mapped
      have rows : launch.server.width * launch.server.height ≤
          launch.server.stride * launch.server.height := Nat.mul_le_mul_right _ launch.server.wide
      change launch.server.width * (launch.server.height - 40 + 40) * 4 ≤ 2 ^ 64
      rw [Nat.sub_add_cancel bar]
      omega
    · exact Nat.le_add_left ..
    · exact Nat.le_trans (show 20 ≤ 40 by decide) wide
  obtain ⟨ready, corner, width⟩ := printAll_ready start launch.printed
  refine ⟨ready, corner, width, fun nic card => ?_, launch.queues⟩
  unfold Launch.services at card ⊢
  cases found : launch.cardFound with
  | false =>
    simp only [found] at card
    cases card
  | true =>
    simp only [found, ↓reduceIte] at card ⊢
    have ready := launch.boot.kernel_ready
    rw [ready.card, Option.some.injEq] at card
    subst card
    exact ⟨ready, launch.register, launch.ring⟩

end Launch

/-- In any run of a user program after boot, all system calls return exactly if
each of them meets its condition. -/
theorem syscallHandler_returns_iff (disk : Drive State) (growth : Growth) (launch : Launch State)
    (actions : List Action) :
    (∃ final, run (Services.step disk growth) actions launch.services = some final) ↔
      ∀ earlier action, earlier ++ [action] <+: actions → ∀ services,
        run (Services.step disk growth) earlier launch.services = some services →
          services.Allows growth action := by
  have serves : ∀ earlier (services : Services State),
      run (Services.step disk growth) earlier launch.services = some services →
        services.Serving := by
    intro earlier services reached
    have kept : ∀ (services : Services State) (action : Action) (next : Services State),
        services.Serving → services.step disk growth action = some next → next.Serving := by
      intro services action next serving stepped
      rcases serving.step disk growth action with ⟨-, other, same, good⟩ | ⟨-, stopped⟩
      · cases stepped.symm.trans same
        exact good
      · rw [stopped] at stepped
        cases stepped
    exact run_preserves kept earlier (launch_serving launch) reached
  rw [run_succeeds_iff]
  constructor
  · intro steps earlier action early services reached
    obtain ⟨next, stepped⟩ := steps earlier action early services reached
    rcases (serves earlier services reached).step disk growth action with
      ⟨allowed, -⟩ | ⟨-, stopped⟩
    · exact allowed
    · rw [stopped] at stepped
      cases stepped
  · intro allows earlier action early services reached
    rcases (serves earlier services reached).step disk growth action with
      ⟨-, next, stepped, -⟩ | ⟨excessive, -⟩
    · exact ⟨next, stepped⟩
    · exact absurd (allows earlier action early services reached) excessive

/-- A controller that does nothing. -/
def Drive.idle : Drive Unit where
  hardware := {
    readReg := fun _ _ => 0
    writeReg := fun device _ _ => device
    step := id }
  sizes := fun _ => rfl

theorem laptop_prints : ∃ terminal, printAll [("INIT: Core 0 (BSP) Online.\n", 0x10B981)]
    (Terminal.blank 0 40 1280 760) = some terminal := by
  obtain ⟨terminal, prints⟩ : ∃ terminal, terminalPrint (Terminal.blank 0 40 1280 760)
      "INIT: Core 0 (BSP) Online.\n" 0x10B981 = some terminal :=
    terminalPrint_wide (show 40 ≤ 1280 by decide) _ _
  exact ⟨terminal, by rw [printAll, run_cons, prints]; rfl⟩

/-- A laptop without a drive, with the first line on its screen. -/
def Launch.laptop : Launch Unit where
  server := .laptop
  bar := by decide
  screen := fun _ => 0xFFFFFF
  console := []
  terminal := (printAll [("INIT: Core 0 (BSP) Online.\n", 0x10B981)]
    (Terminal.blank 0 40 1280 760)).get (Option.isSome_iff_exists.mpr laptop_prints)
  printed := (Option.some_get _).symm
  boot := .driveless
  cardFound := true
  register := by decide
  ring := by decide
  drive := none
  machine := ⟨(), ⟨[], [], []⟩⟩
  queues := fun _ found => (nomatch found)
  records := fun _ => ⟨0, 0, 0, 0, 4, fun _ => 0⟩

/-- A canvas of 2^32 by 2^32 pixels. -/
def hugeCanvas : Syscall := ⟨2, 0, 0, 0x100000000, [], rfl, .waiting fun _ => 0, 0x2000, 0x1000⟩

/-- It has too many for a machine word. -/
theorem syscallHandler_overflows : ¬ ∃ final, run (Services.step Drive.idle .doubling)
    [.call hugeCanvas] Launch.laptop.services =
      some final := by
  have pixels : checked (2 ^ 64) (hugeCanvas.arg3.toNat * hugeCanvas.arg3.toNat) = none := by
    decide
  have stopped : Launch.laptop.services.newCanvas
      hugeCanvas = none := by
    simp only [Services.newCanvas, pixels, Option.bind_eq_bind, Option.bind_none]
  rintro ⟨final, reached⟩
  have halted : run (Services.step Drive.idle .doubling)
      [.call hugeCanvas] Launch.laptop.services = none := by
    rw [run_cons, Services.step, Services.syscallHandler]
    change (Option.bind (Option.bind (Services.newCanvas _ _) _) _) = _
    rw [stopped]
    rfl
  rw [halted] at reached
  cases reached

end QoreOS.Runtime
