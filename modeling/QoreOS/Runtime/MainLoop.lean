import QoreOS.Network.Preemption
import QoreOS.Runtime.HeapCalls

/-! The main loop, the keyboard interrupt, and the allocator calls of both.
What they draw takes no memory and is left out. -/

namespace QoreOS.Runtime

open QoreOS.Library QoreOS.Network

/-- What start-up has found, as far as the main loop asks for it. -/
structure Setting where
  card : Bool
  httpPayload : Option String
  nvmeFound : Bool
  hdaFound : Bool

/-- Without a card no packet is found. -/
def Setting.received (setting : Setting) (packet : Option (List UInt8)) : Option (List UInt8) :=
  if setting.card then packet else none

/-- What the mouse makes of a turn: the window is closed or shown, or its button
drops the machine to ring 3. -/
inductive Desktop where
  | closed
  | shown (mx my : Int32)
  | dropped
  deriving DecidableEq

namespace System

variable (growth : Growth)

def diagText (mx my : Int32) : Buffer :=
  .format growth [
    .literal "MOUSE X: ",
    .argument (toString mx),
    .literal "   MOUSE Y: ",
    .argument (toString my)]

def nvmeText (nvmeFound : Bool) : Buffer :=
  .format growth [
    .literal "STORAGE: NVME CONTROLLER ",
    .argument (if nvmeFound then "DATA SECURED" else "NOT DETECTED")]

def hdaText (hdaFound : Bool) : Buffer :=
  .format growth [
    .literal "AUDIO: INTEL HDA ",
    .argument (if hdaFound then "PLAYING 440HZ TONE" else "OFFLINE")]

/-- The three texts are dropped in reverse order. -/
def drawWindow (setting : Setting) (mx my : Int32) : Program System Unit := do
  let diagText := diagText growth mx my
  heap .mainLoop diagText.calls
  let nvmeText := nvmeText growth setting.nvmeFound
  heap .mainLoop nvmeText.calls
  let hdaText := hdaText growth setting.hdaFound
  heap .mainLoop hdaText.calls
  heap .mainLoop (hdaText.drop ++ (nvmeText.drop ++ diagText.drop))

/-- What a turn does after `poll`, and whether another turn follows. -/
def desktop (setting : Setting) : Desktop → Program System Bool
  | .closed => return true
  | .shown mx my => do
    drawWindow growth setting mx my
    return true
  | .dropped => do
    terminalPrint "\n> [WARNING] EJECTING FROM KERNEL MODE. DROPPING TO RING-3...\n" 0xEF4444
    terminalPrint "> SYS: DISABLING CR0.WP & UNLOCKING MMU...\n" 0xF59E0B
    terminalPrint "> SYS: MMU UNLOCKED! FIRING IRETQ...\n" 0x10B981
    return false

/-- A turn of the main loop. -/
def turn (setting : Setting) (course : Desktop) : Program System Bool := do
  step growth .poll
  desktop growth setting course

def udpBroadcast : Program System Unit := do
  heap .udpBroadcast (Buffer.vec Kernel.udpBroadcastFrame.length).intoBoxedSlice.calls
  onKernel (·.udpBroadcast)

/-- The handler of `int 0x80` -/
def syscallHandler : Program System Unit := do
  terminalPrint "\nSYS_NET_TX: UDP BROADCAST FIRED!\n" 0xEF4444
  let system ← look
  if system.kernel.netCard.isSome then udpBroadcast

def keyText : UInt8 → Option String
  | 0x10 => some "Q" | 0x11 => some "W" | 0x12 => some "E" | 0x13 => some "R"
  | 0x14 => some "T" | 0x15 => some "Y" | 0x16 => some "U" | 0x17 => some "I"
  | 0x18 => some "O" | 0x19 => some "P" | 0x1E => some "A" | 0x1F => some "S"
  | 0x20 => some "D" | 0x21 => some "F" | 0x22 => some "G" | 0x23 => some "H"
  | 0x24 => some "J" | 0x25 => some "K" | 0x26 => some "L" | 0x2C => some "Z"
  | 0x2D => some "X" | 0x2E => some "C" | 0x2F => some "V" | 0x30 => some "B"
  | 0x31 => some "N" | 0x32 => some "M" | 0x39 => some " "
  | _ => none

def keyboardInterruptHandler (scancode : UInt8) : Program System Unit :=
  if scancode = 0x1C then syscallHandler
  else match keyText scancode with
    | some c => terminalPrint c 0x10B981
    | none => pure ()

def windowCalls (setting : Setting) (mx my : Int32) : List HeapCall :=
  let diagText := diagText growth mx my
  let nvmeText := nvmeText growth setting.nvmeFound
  let hdaText := hdaText growth setting.hdaFound
  diagText.calls ++ (nvmeText.calls ++ (hdaText.calls ++
    (hdaText.drop ++ (nvmeText.drop ++ diagText.drop))))

def desktopCalls (setting : Setting) : Desktop → List HeapCall
  | .closed => []
  | .shown mx my => windowCalls growth setting mx my
  | .dropped => []

/-- `poll` panics on the packet. -/
def stops (packetSlice : List UInt8) : Bool :=
  match ethertype packetSlice with
  | none => true
  | some ethertype => tooShort packetSlice ethertype

def receivedCalls (httpPayload : Option String) : Option (List UInt8) → List HeapCall
  | none => []
  | some packetSlice => packetCalls growth httpPayload packetSlice

def turnCalls (setting : Setting) (packet : Option (List UInt8)) (course : Desktop) :
    List HeapCall :=
  receivedCalls growth setting.httpPayload (setting.received packet) ++
    if (setting.received packet).any stops then [] else desktopCalls growth setting course

def keyboardCalls (card : Bool) (scancode : UInt8) : List HeapCall :=
  if scancode = 0x1C ∧ card then [.take 60] else []

/-- Whose requests may be refused does not matter. -/
def anyone (_ : Caller) : Prop := True

variable {α : Type} {system : System} {nic : E1000} {growth}

theorem Spends.anyone {callers : Caller → Prop} {program : Program System α} {calls : List HeapCall}
    {result : Option (α × Kernel)} (spends : Spends callers program system calls result) :
    Spends anyone program system calls result := by
  refine ⟨spends.served, ?_⟩
  intro refused
  obtain ⟨after, caller, stopped, -, rest⟩ := spends.refused refused
  exact ⟨after, caller, stopped, trivial, rest⟩

variable (growth) in
theorem drawWindow_spends (system : System) (setting : Setting) (mx my : Int32) :
    Spends anyone (drawWindow growth setting mx my) system (windowCalls growth setting mx my)
      (some ((), system.kernel)) := by
  apply spends_bind (spends_heap trivial (diagText growth mx my).calls)
  intro used
  apply spends_bind (spends_heap trivial (nvmeText growth setting.nvmeFound).calls)
  intro used
  apply spends_bind (spends_heap trivial (hdaText growth setting.hdaFound).calls)
  intro used
  exact spends_heap trivial _

variable (growth) in
theorem desktop_spends (system : System) (setting : Setting) (course : Desktop) : ∃ after, ∀ used,
    Spends anyone (desktop growth setting course) { system with used := used }
      (desktopCalls growth setting course) (some (decide (course ≠ .dropped), after)) := by
  cases course with
  | closed => exact ⟨system.kernel, fun used => spends_pure true⟩
  | shown mx my =>
    refine ⟨system.kernel, fun used => ?_⟩
    have drawn : Spends anyone (drawWindow growth setting mx my) { system with used := used }
        (windowCalls growth setting mx my) ((some system.kernel).map (Prod.mk ())) :=
      drawWindow_spends growth _ setting mx my
    exact spends_answer drawn true
  | dropped =>
    refine ⟨((system.kernel.terminalPrint
        "\n> [WARNING] EJECTING FROM KERNEL MODE. DROPPING TO RING-3...\n" 0xEF4444).terminalPrint
        "> SYS: DISABLING CR0.WP & UNLOCKING MMU...\n" 0xF59E0B).terminalPrint
        "> SYS: MMU UNLOCKED! FIRING IRETQ...\n" 0x10B981, fun used => ?_⟩
    apply spends_print
    apply spends_print
    apply spends_print
    exact spends_pure false

/-- The packets that make `poll` panic. -/
theorem poll_panics {kernel : Kernel} (ready : kernel.Ready nic) {packet : Option (List UInt8)}
    (reading : kernel.packetSlice nic = some packet) :
    kernel.poll = none ↔ packet.any stops = true := by
  rw [Kernel.poll, ready.card]
  simp only [Option.bind_eq_bind, Option.bind_some, reading]
  cases packet with
  | none => simp
  | some packetSlice =>
    rw [Option.any_some, stops]
    simp only [dispatch_handled]
    cases kind : ethertype packetSlice with
    | none => simp
    | some ethertype =>
      rw [Option.bind_some]
      cases short : tooShort packetSlice ethertype with
      | true => simp [handled_tooShort _ short, short]
      | false =>
        obtain ⟨after, next, done, transmits⟩ :=
          handled_safely (ready.print (tapMessage packetSlice ethertype) 0x8B5CF6) short
        obtain ⟨final, released⟩ := release_served transmits (packetSlice_inside reading)
        simp only [release, Option.bind_eq_bind, Option.bind_eq_some_iff] at released
        obtain ⟨card, there, freed, done_eq, -⟩ := released
        simp [done, there, done_eq, short]

/-- The setting is that of the system, and `poll` reads this packet. -/
structure Finds (system : System) (setting : Setting) (packet : Option (List UInt8)) : Prop where
  card : setting.card = system.kernel.netCard.isSome
  httpPayload : setting.httpPayload = system.kernel.httpPayload
  packet : ∀ nic, system.kernel.netCard = some nic → system.kernel.packetSlice nic = some packet

variable (growth) in
theorem step_poll_spends (system : System) (ready : system.kernel.Ready nic) :
    Spends anyone (step growth .poll) system (pollCalls growth system.kernel)
      (system.kernel.poll.map fun polled => ((), polled.2)) := by
  have spends := (poll_spends growth system ready).anyone
  apply spends_look
  rw [ready.card, Option.isSome_some, if_pos rfl]
  cases polled : system.kernel.poll with
  | none =>
    rw [polled] at spends
    exact spends_panic spends
  | some result =>
    rw [polled] at spends
    rw [← List.append_nil (pollCalls growth system.kernel)]
    exact spends_bind spends fun used => spends_pure ()

variable (growth) in
/-- A turn makes its calls and comes to its end unless `poll` panics. -/
theorem turn_spends (system : System) (ready : ∀ nic, system.kernel.netCard = some nic →
      system.kernel.Ready nic) {setting : Setting} {packet : Option (List UInt8)}
    (finds : system.Finds setting packet) (course : Desktop) : ∃ result,
    Spends anyone (turn growth setting course) system (turnCalls growth setting packet course)
      result ∧
    result.map Prod.fst =
      if (setting.received packet).any stops then none else some (decide (course ≠ .dropped)) := by
  have begun : turn growth setting course = step growth .poll >>= fun _ =>
    desktop growth setting course := rfl
  rw [begun, turnCalls, Setting.received, finds.card]
  cases present : system.kernel.netCard with
  | none =>
    have quiet : Spends anyone (step growth .poll) system [] (some ((), system.kernel)) := by
      apply spends_look
      rw [present, Option.isSome_none, if_neg (by simp)]
      exact spends_pure ()
    obtain ⟨after, drawn⟩ := desktop_spends growth system setting course
    exact ⟨_, spends_bind quiet drawn, rfl⟩
  | some nic =>
    have reading := finds.packet nic present
    have polled := step_poll_spends growth system (ready nic present)
    have exact := poll_panics (ready nic present) reading
    have found : pollCalls growth system.kernel =
        receivedCalls growth setting.httpPayload packet := by
      rw [pollCalls, present, Option.bind_some, reading, finds.httpPayload]
      cases packet <;> rfl
    rw [found] at polled
    rw [Option.isSome_some, if_pos rfl]
    cases answer : system.kernel.poll with
    | none =>
      rw [answer] at polled
      rw [if_pos (exact.mp answer), if_pos (exact.mp answer), List.append_nil]
      exact ⟨none, spends_panic polled, rfl⟩
    | some result =>
      have lasts : ¬ packet.any stops = true := by
        rw [← exact, answer]
        simp
      rw [answer] at polled
      rw [if_neg lasts, if_neg lasts]
      obtain ⟨after, drawn⟩ := desktop_spends growth { system with kernel := result.2 } setting
        course
      exact ⟨_, spends_bind polled drawn, rfl⟩

theorem udpBroadcast_spends (system : System) (ready : system.kernel.Ready nic) : ∃ after,
    system.kernel.udpBroadcast = some after ∧
    Spends anyone udpBroadcast system [.take 60] (some ((), after)) := by
  obtain ⟨after, next, sent, -⟩ := Kernel.udpBroadcast_safely ready
  refine ⟨after, sent, ?_⟩
  have calls : (Buffer.vec Kernel.udpBroadcastFrame.length).intoBoxedSlice.calls = [.take 60] := by
    decide
  rw [udpBroadcast, calls]
  exact spends_taken trivial _ sent

theorem syscallHandler_spends (system : System) (ready : ∀ nic,
      system.kernel.netCard = some nic → system.kernel.Ready nic) : ∃ after,
    system.kernel.enter = some after ∧
    Spends anyone syscallHandler system
      (if system.kernel.netCard.isSome then [.take 60] else []) (some ((), after)) := by
  cases present : system.kernel.netCard with
  | none =>
    refine ⟨system.kernel.terminalPrint "\nSYS_NET_TX: UDP BROADCAST FIRED!\n" 0xEF4444, ?_, ?_⟩
    · simp only [Kernel.enter, Kernel.terminalPrint, present]
    · apply spends_print
      apply spends_look
      simp only [Kernel.terminalPrint, present, Option.isSome_none, Bool.false_eq_true, ↓reduceIte]
      exact spends_pure ()
  | some nic =>
    obtain ⟨after, sent, spends⟩ := udpBroadcast_spends { system with
        kernel := system.kernel.terminalPrint "\nSYS_NET_TX: UDP BROADCAST FIRED!\n" 0xEF4444 }
      ((ready nic present).print _ _)
    refine ⟨after, ?_, ?_⟩
    · rw [← sent, Kernel.enter]
      simp only [Kernel.terminalPrint, present]
    · have card : (system.kernel.terminalPrint "\nSYS_NET_TX: UDP BROADCAST FIRED!\n"
          0xEF4444).netCard = some nic := present
      apply spends_print
      apply spends_look
      simp only [card, Option.isSome_some, ↓reduceIte]
      exact spends

/-- Only Enter asks for memory, and only with a card. -/
theorem keyboardInterruptHandler_spends (system : System) (ready : ∀ nic,
      system.kernel.netCard = some nic → system.kernel.Ready nic) (scancode : UInt8) : ∃ after,
    Spends anyone (keyboardInterruptHandler scancode) system
      (keyboardCalls system.kernel.netCard.isSome scancode) (some ((), after)) := by
  unfold keyboardInterruptHandler keyboardCalls
  by_cases enter : scancode = 0x1C
  · obtain ⟨after, -, spends⟩ := syscallHandler_spends system ready
    simp only [enter, true_and, ↓reduceIte]
    exact ⟨after, spends⟩
  · simp only [enter, false_and, ↓reduceIte]
    cases keyText scancode with
    | none => exact ⟨_, spends_pure ()⟩
    | some c => exact ⟨_, spends_onKernel _ rfl⟩

end System
end QoreOS.Runtime
