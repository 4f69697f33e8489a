import QoreOS.Input.Interrupts

/-! Whatever the order in which keys, movements, the controller and interrupts come, each
byte reaches its handler once and in order, but for what the initialisation has left. -/

namespace QoreOS.Input

/-- The byte in the output buffer, if it is this device's. -/
def Ps2.buffered (ps2 : Ps2) (source : Source) : List UInt8 :=
  if ps2.output = some source then [ps2.latch] else []

namespace Apic

variable {apic : Apic}

/-- The interrupt controllers after `init_apic`. -/
structure Routed (apic : Apic) : Prop where
  masks : apic.masks = (0xFF, 0xFF)
  keyboard : apic.ioRegisters 0x12 = 33 ∧ apic.ioRegisters 0x13 = 0
  mouse : apic.ioRegisters 0x28 = 44 ∧ apic.ioRegisters 0x29 = 0
  on : apic.siv &&& 0x100 ≠ 0

/-- The two vectors are asked for once each, and no others. -/
structure Requested (requests : List Nat) : Prop where
  vectors : ∀ vector ∈ requests, vector = 33 ∨ vector = 44
  once : requests.Nodup

/-- The local APIC is on with bit 8 of the spurious vector register. -/
theorem siv_on (siv : UInt32) : (siv ||| 0x100 ||| 0xFF) &&& 0x100 ≠ 0 := by
  intro off
  have bits := congrArg UInt32.toNat off
  rw [UInt32.or_assoc, UInt32.toNat_and, UInt32.toNat_or] at bits
  change (siv.toNat ||| 0x1FF) &&& 0x100 = 0 at bits
  rw [Nat.and_or_distrib_right, Nat.or_eq_zero_iff] at bits
  exact absurd bits.2 (by decide)

theorem initApic_routed (apic : Apic) {lapic ioapic : Nat} (present : lapic ≠ 0 ∧ ioapic ≠ 0) :
    (apic.initApic lapic ioapic).Routed := by
  have both : ¬ (lapic = 0 ∨ ioapic = 0) := by omega
  rw [initApic, if_neg both]
  refine ⟨rfl, ⟨?_, ?_⟩, ⟨?_, ?_⟩, siv_on _⟩ <;>
    simp [writeIo, Function.update]

theorem raise_routed {irq vector : Nat} (shut : apic.picOpen irq = false)
    (routes : apic.routes irq = true)
    (names : (apic.ioRegisters (0x10 + 2 * irq) &&& 0xFF).toNat = vector) :
    apic.raise irq = { apic with requests := apic.requests.insert vector } := by
  simp only [raise, shut, Bool.false_eq_true, if_false, routes, if_true, names]

theorem Routed.raise_keyboard (routed : apic.Routed) :
    apic.raise 1 = { apic with requests := apic.requests.insert 33 } := by
  apply raise_routed
  · rw [picOpen, routed.masks]
    decide
  · simp only [routes, routed.keyboard]
    simpa using ⟨by decide, routed.on⟩
  · rw [routed.keyboard.1]
    decide

theorem Routed.raise_mouse (routed : apic.Routed) :
    apic.raise 12 = { apic with requests := apic.requests.insert 44 } := by
  apply raise_routed
  · rw [picOpen, routed.masks]
    decide
  · simp only [routes, routed.mouse]
    simpa using ⟨by decide, routed.on⟩
  · rw [routed.mouse.1]
    decide

theorem Requested.insert {requests : List Nat} (requested : Requested requests) {vector : Nat}
    (known : vector = 33 ∨ vector = 44) : Requested (requests.insert vector) := by
  refine ⟨?_, requested.once.insert⟩
  intro other member
  rcases List.mem_insert_iff.mp member with rfl | member
  · exact known
  · exact requested.vectors other member

theorem Requested.erase {requests : List Nat} (requested : Requested requests) (vector : Nat) :
    Requested (requests.erase vector) :=
  ⟨fun other member => requested.vectors other (List.mem_of_mem_erase member),
    requested.once.erase vector⟩

theorem Routed.withService (routed : apic.Routed) (requests inService : List Nat) :
    ({ apic with
      requests := requests
      inService := inService } : Apic).Routed :=
  ⟨routed.masks, routed.keyboard, routed.mouse, routed.on⟩

theorem Routed.withRequests (routed : apic.Routed) (requests : List Nat) :
    ({ apic with requests := requests } : Apic).Routed :=
  ⟨routed.masks, routed.keyboard, routed.mouse, routed.on⟩

/-- The mouse's vector is the higher one. -/
theorem Requested.next (requested : Requested apic.requests) (ended : apic.inService = []) :
    apic.next = if 44 ∈ apic.requests then some 44 else if 33 ∈ apic.requests then some 33
      else none := by
  have highest : apic.next = apic.requests.max? := by
    rw [Apic.next, ended]
    cases apic.requests.max? <;> rfl
  rw [highest]
  split
  case isTrue mouse =>
    rw [List.max?_eq_some_iff]
    refine ⟨mouse, ?_⟩
    intro other member
    rcases requested.vectors other member with rfl | rfl <;> decide
  case isFalse noMouse =>
    split
    case isTrue keyboard =>
      rw [List.max?_eq_some_iff]
      refine ⟨keyboard, ?_⟩
      intro other member
      rcases requested.vectors other member with rfl | rfl
      · exact Nat.le_refl 33
      · exact absurd member noMouse
    case isFalse noKeyboard =>
      rw [List.max?_eq_none_iff, List.eq_nil_iff_forall_not_mem]
      intro other member
      rcases requested.vectors other member with rfl | rfl
      · exact noKeyboard member
      · exact noMouse member

/-- A handler that ends leaves no trace of its vector. -/
theorem accept_end (apic : Apic) (vector : Nat) {lapicBase : Nat} (base : lapicBase ≠ 0) :
    (apic.accept vector).notifyEndOfInterrupt lapicBase =
      { apic with requests := apic.requests.erase vector } := if_pos base

end Apic

namespace Platform

variable {platform : Platform}

theorem withPs2_self (platform : Platform) : platform.withPs2 platform.ps2 = platform := by
  rw [withPs2, List.drop_length]
  rfl

theorem withPs2_put {ps2 : Ps2} (edges : ps2.edges = platform.ps2.edges) (source : Source)
    (byte : UInt8) :
    platform.withPs2 (ps2.put source byte) = { platform with
      ps2 := ps2.put source byte
      apic := (Ps2.line ps2.config source).foldl Apic.raise platform.apic } := by
  rw [withPs2, Ps2.put, edges, List.drop_left]

/-- The bytes that the two handlers have been given are those that the devices have sent, in
their order and once each, but for what the initialisation has left: the mouse's first
interrupt may find no byte of its own but the stale acknowledgment or the first key, and the
keyboard's first one a stale byte. -/
structure Delivers (strayMouse readMouse strayKey lostKey readKeys : List UInt8)
    (platform : Platform) : Prop where
  base : platform.lapicBase ≠ 0
  routed : platform.apic.Routed
  requested : Apic.Requested platform.apic.requests
  picPassed : platform.apic.picPassed = []
  service : platform.apic.inService = if platform.stopped then [33] else []
  enter : platform.stopped = true → platform.scancodes.getLast? = some 0x1C
  clocks : platform.ps2.config &&& 0x20 = 0 ∧ platform.ps2.config &&& 0x10 = 0
  lines : platform.ps2.config &&& 1 ≠ 0 ∧ platform.ps2.config &&& 2 ≠ 0
  streaming : platform.ps2.mouse.streaming = true
  mouse : platform.mouse = Mouse.start.receive platform.mouseBytes
  mouseBytes : platform.mouseBytes = strayMouse ++ readMouse
  scancodes : platform.scancodes = strayKey ++ readKeys
  reported : readMouse ++ platform.ps2.buffered .mouse ++ platform.ps2.mouse.outbox =
    platform.reported
  pressed : lostKey ++ readKeys ++ platform.ps2.buffered .keyboard ++ platform.ps2.keyboard =
    platform.pressed
  strays : strayMouse = [] ∧ lostKey = [] ∨ strayMouse = [0xFA] ∧ lostKey = [] ∨
    ∃ key, strayMouse = [key] ∧ lostKey = [key]
  strayKey : strayKey.length ≤ 1
  asksMouse : platform.ps2.output = some .mouse → 44 ∈ platform.apic.requests
  asksKeyboard : platform.ps2.output = some .keyboard → 33 ∈ platform.apic.requests
  early : 44 ∈ platform.apic.requests → platform.ps2.output ≠ some .mouse →
    platform.mouseBytes = [] ∧ platform.scancodes = []
  earlyKeyboard : 33 ∈ platform.apic.requests → platform.ps2.output ≠ some .keyboard →
    platform.scancodes = []
  untouched : platform.mouseBytes = [] → platform.scancodes = [] → platform.ps2.output = none →
    platform.ps2.latch = 0xFA

variable {strayMouse readMouse strayKey lostKey readKeys : List UInt8}

theorem Surroundings.stops {meets : Surroundings} {scancode : UInt8}
    (stops : meets.serves (Runtime.System.keyboardCalls meets.netCard scancode) = false) :
    scancode = 0x1C ∧ meets = ⟨true, false⟩ := by
  obtain ⟨netCard, allocates⟩ := meets
  obtain ⟨some, refused⟩ := Bool.or_eq_false_iff.mp stops
  rw [← Bool.not_eq_true, List.isEmpty_iff] at some
  obtain ⟨enter, card⟩ := (Runtime.keyboardCalls_working ..).mp some
  exact ⟨enter, Surroundings.mk.injEq .. ▸ ⟨card, refused⟩⟩

/-- The keyboard's handler, which ends unless an Enter key finds no memory. -/
theorem keyboard_handled (platform : Platform) (meets : Surroundings)
    (base : platform.lapicBase ≠ 0) (calm : platform.stopped = false)
    (ended : platform.apic.inService = []) :
    let stops := !meets.serves (Runtime.System.keyboardCalls meets.netCard platform.ps2.latch)
    handler meets 33 { platform with apic := platform.apic.accept 33 } = { platform with
      stopped := stops
      ps2 := platform.ps2.readData.2
      scancodes := platform.scancodes ++ [platform.ps2.latch]
      apic := { platform.apic with
        requests := platform.apic.requests.erase 33
        inService := if stops then [33] else [] } } := by
  have handled := platform.apic.accept_end 33 base
  change ite _ _ _ = _
  cases meets.serves (Runtime.System.keyboardCalls meets.netCard platform.ps2.latch) with
  | true =>
    change { platform with
      ps2 := platform.ps2.readData.2
      scancodes := platform.scancodes ++ [platform.ps2.latch]
      apic := (platform.apic.accept 33).notifyEndOfInterrupt platform.lapicBase } = _
    rw [handled, calm, ← ended]
    rfl
  | false =>
    change { platform with
      stopped := true
      ps2 := platform.ps2.readData.2
      scancodes := platform.scancodes ++ [platform.ps2.latch]
      apic := platform.apic.accept 33 } = _
    rw [Apic.accept, ended]
    rfl

theorem Delivers.press (delivers : platform.Delivers strayMouse readMouse strayKey lostKey readKeys)
    (scancodes : List UInt8) :
    (platform.step (.press scancodes)).Delivers strayMouse readMouse strayKey lostKey readKeys := by
  refine { delivers with pressed := ?_ }
  change lostKey ++ readKeys ++ platform.ps2.buffered .keyboard ++
    (platform.ps2.keyboard ++ scancodes) = platform.pressed ++ scancodes
  rw [← List.append_assoc, delivers.pressed]

theorem Delivers.report (delivers : platform.Delivers strayMouse readMouse strayKey lostKey readKeys)
    (packet : List UInt8) :
    (platform.step (.report packet)).Delivers strayMouse readMouse strayKey lostKey readKeys := by
  rw [step, if_pos delivers.streaming]
  refine { delivers with reported := ?_ }
  change readMouse ++ platform.ps2.buffered .mouse ++ (platform.ps2.mouse.outbox ++ packet) =
    platform.reported ++ packet
  rw [← List.append_assoc, delivers.reported]

theorem Delivers.sendMouse
    (delivers : platform.Delivers strayMouse readMouse strayKey lostKey readKeys) :
    (platform.step .sendMouse).Delivers strayMouse readMouse strayKey lostKey readKeys := by
  change (platform.withPs2 platform.ps2.sendMouse).Delivers ..
  cases output : platform.ps2.output with
  | some source =>
    have stays : platform.ps2.sendMouse = platform.ps2 := by rw [Ps2.sendMouse, output]
    rwa [stays, withPs2_self]
  | none =>
    cases outbox : platform.ps2.mouse.outbox with
    | nil =>
      have stays : platform.ps2.sendMouse = platform.ps2 := by rw [Ps2.sendMouse, output, outbox]
      rwa [stays, withPs2_self]
    | cons byte rest =>
      let emptied : Ps2 :=
        { platform.ps2 with mouse := { platform.ps2.mouse with outbox := rest } }
      have sends : platform.ps2.sendMouse = emptied.put .mouse byte := by
        rw [Ps2.sendMouse, output, outbox]
        exact if_pos delivers.clocks.1
      have raised : Ps2.line emptied.config .mouse = [12] := if_pos delivers.lines.2
      have edges : emptied.edges = platform.ps2.edges := rfl
      rw [sends, withPs2_put edges, raised, List.foldl_cons, List.foldl_nil, delivers.routed.raise_mouse]
      have empty : ∀ source, platform.ps2.buffered source = [] := by
        intro source
        rw [Ps2.buffered, output]
        exact if_neg (Option.some_ne_none source).symm
      have reported := delivers.reported
      have pressed := delivers.pressed
      rw [empty, List.append_nil] at reported pressed
      rw [outbox] at reported
      refine { delivers with
        routed := delivers.routed.withRequests _
        requested := delivers.requested.insert (.inr rfl)
        reported := ?_
        pressed := ?_
        asksMouse := fun _ => List.mem_insert_self
        asksKeyboard := by rintro ⟨⟩
        early := fun _ other => absurd rfl other
        earlyKeyboard := ?_
        untouched := fun _ _ full => absurd full (Option.some_ne_none _) }
      · change readMouse ++ [byte] ++ rest = _
        rwa [List.append_assoc, List.singleton_append]
      · change lostKey ++ readKeys ++ [] ++ _ = _
        rwa [List.append_nil]
      · intro asked _
        rcases List.mem_insert_iff.mp asked with same | asked
        · cases same
        · exact delivers.earlyKeyboard asked (by simp [output])

theorem Delivers.sendKeyboard
    (delivers : platform.Delivers strayMouse readMouse strayKey lostKey readKeys) :
    (platform.step .sendKeyboard).Delivers strayMouse readMouse strayKey lostKey readKeys := by
  change (platform.withPs2 platform.ps2.sendKeyboard).Delivers ..
  cases output : platform.ps2.output with
  | some source =>
    have stays : platform.ps2.sendKeyboard = platform.ps2 := by rw [Ps2.sendKeyboard, output]
    rwa [stays, withPs2_self]
  | none =>
    cases outbox : platform.ps2.keyboard with
    | nil =>
      have stays : platform.ps2.sendKeyboard = platform.ps2 := by
        rw [Ps2.sendKeyboard, output, outbox]
      rwa [stays, withPs2_self]
    | cons byte rest =>
      let emptied : Ps2 := { platform.ps2 with keyboard := rest }
      have sends : platform.ps2.sendKeyboard = emptied.put .keyboard byte := by
        rw [Ps2.sendKeyboard, output, outbox]
        exact if_pos delivers.clocks.2
      have raised : Ps2.line emptied.config .keyboard = [1] := if_pos delivers.lines.1
      have edges : emptied.edges = platform.ps2.edges := rfl
      rw [sends, withPs2_put edges, raised, List.foldl_cons, List.foldl_nil, delivers.routed.raise_keyboard]
      have empty : ∀ source, platform.ps2.buffered source = [] := by
        intro source
        rw [Ps2.buffered, output]
        exact if_neg (Option.some_ne_none source).symm
      have reported := delivers.reported
      have pressed := delivers.pressed
      rw [empty, List.append_nil] at reported pressed
      rw [outbox] at pressed
      refine { delivers with
        routed := delivers.routed.withRequests _
        requested := delivers.requested.insert (.inl rfl)
        reported := ?_
        pressed := ?_
        asksMouse := by rintro ⟨⟩
        asksKeyboard := fun _ => List.mem_insert_self
        early := ?_
        earlyKeyboard := fun _ other => absurd rfl other
        untouched := fun _ _ full => absurd full (Option.some_ne_none _) }
      · change readMouse ++ [] ++ _ = _
        rwa [List.append_nil]
      · change lostKey ++ readKeys ++ [byte] ++ rest = _
        rwa [List.append_assoc, List.singleton_append]
      · intro asked _
        rcases List.mem_insert_iff.mp asked with same | asked
        · cases same
        · exact delivers.early asked (by simp [output])

theorem buffered_read (ps2 : Ps2) (source : Source) : ps2.readData.2.buffered source = [] :=
  if_neg nofun

theorem Delivers.ended (delivers : platform.Delivers strayMouse readMouse strayKey lostKey readKeys)
    (calm : platform.stopped = false) : platform.apic.inService = [] := by
  rw [delivers.service, calm]
  rfl

/-- Before the first interrupt no byte has gone anywhere. -/
theorem Delivers.nothing
    (delivers : platform.Delivers strayMouse readMouse strayKey lostKey readKeys)
    (noBytes : platform.mouseBytes = []) (noKeys : platform.scancodes = []) :
    readMouse = [] ∧ lostKey = [] ∧ readKeys = [] := by
  obtain ⟨noStray, noRead⟩ := List.append_eq_nil_iff.mp (delivers.mouseBytes.symm.trans noBytes)
  obtain ⟨-, noReadKeys⟩ := List.append_eq_nil_iff.mp (delivers.scancodes.symm.trans noKeys)
  refine ⟨noRead, ?_, noReadKeys⟩
  rcases delivers.strays with ⟨-, lost⟩ | ⟨-, lost⟩ | ⟨key, stray, -⟩
  · exact lost
  · exact lost
  · rw [noStray] at stray
    cases stray

/-- The mouse's handler takes the byte of the mouse, or at first what it finds instead. -/
theorem Delivers.mouseInterrupt
    (delivers : platform.Delivers strayMouse readMouse strayKey lostKey readKeys)
    (asked : 44 ∈ platform.apic.requests) (calm : platform.stopped = false) (meets : Surroundings) :
    ∃ nextStray readMouse lostKey,
      (handler meets 44 { platform with apic := platform.apic.accept 44 }).Delivers nextStray readMouse
        strayKey lostKey readKeys ∧
      (platform.mouseBytes ≠ [] → nextStray = strayMouse) ∧
      (platform.ps2.output = none → nextStray = [0xFA]) := by
  have answered : 44 ∉ platform.apic.requests.erase 44 := fun again =>
    (delivers.requested.once.mem_erase_iff.mp again).1 rfl
  have later : ∀ strayMouse readMouse lostKey,
      platform.mouseBytes ++ [platform.ps2.latch] = strayMouse ++ readMouse →
      readMouse ++ platform.ps2.mouse.outbox = platform.reported →
      lostKey ++ readKeys ++ platform.ps2.keyboard = platform.pressed →
      (strayMouse = [] ∧ lostKey = [] ∨ strayMouse = [0xFA] ∧ lostKey = [] ∨
        ∃ key, strayMouse = [key] ∧ lostKey = [key]) →
      (33 ∈ platform.apic.requests → platform.scancodes = []) →
      (handler meets 44 { platform with apic := platform.apic.accept 44 }).Delivers strayMouse readMouse
        strayKey lostKey readKeys := by
    intro strayMouse readMouse lostKey bytes reported pressed strays noKeys
    have ended := platform.apic.accept_end 44 delivers.base
    change Platform.Delivers _ _ _ _ _ { platform with
      ps2 := platform.ps2.readData.2
      mouse := platform.mouse.processPacketByte platform.ps2.latch
      mouseBytes := platform.mouseBytes ++ [platform.ps2.latch]
      apic := (platform.apic.accept 44).notifyEndOfInterrupt platform.lapicBase }
    rw [ended]
    refine { delivers with
      routed := delivers.routed.withRequests _
      requested := delivers.requested.erase 44
      mouse := ?_
      mouseBytes := bytes
      reported := ?_
      pressed := ?_
      strays := strays
      asksMouse := nofun
      asksKeyboard := nofun
      enter := fun stopped => absurd (calm.symm.trans stopped) Bool.false_ne_true
      early := fun again => absurd again answered
      earlyKeyboard := fun again _ => noKeys (List.mem_of_mem_erase again)
      untouched := ?_ }
    · rw [Mouse.receive_append, ← delivers.mouse]
      rfl
    · rw [buffered_read, List.append_nil]
      exact reported
    · rw [buffered_read, List.append_nil]
      exact pressed
    · intro empty
      simp at empty
  have reported := delivers.reported
  have pressed := delivers.pressed
  cases output : platform.ps2.output with
  | none =>
    obtain ⟨noBytes, noKeys⟩ := delivers.early asked (output ▸ nofun)
    obtain ⟨noRead, lost, -⟩ := delivers.nothing noBytes noKeys
    have stale := delivers.untouched noBytes noKeys output
    rw [Ps2.buffered, output, if_neg nofun, List.append_nil] at reported pressed
    refine ⟨[0xFA], readMouse, lostKey, later _ _ _ ?_ reported pressed (.inr (.inl ⟨rfl, lost⟩))
      fun _ => noKeys, fun some => absurd noBytes some, fun _ => rfl⟩
    rw [noBytes, noRead, stale]
    rfl
  | some source =>
    cases source with
    | mouse =>
      rw [Ps2.buffered, output] at reported pressed
      rw [if_pos rfl] at reported
      rw [if_neg nofun, List.append_nil] at pressed
      refine ⟨strayMouse, readMouse ++ [platform.ps2.latch], lostKey, later _ _ _ ?_ reported pressed
        delivers.strays fun again => delivers.earlyKeyboard again (output ▸ nofun),
        fun _ => rfl, nofun⟩
      rw [delivers.mouseBytes, List.append_assoc]
    | keyboard =>
      obtain ⟨noBytes, noKeys⟩ := delivers.early asked (output ▸ nofun)
      obtain ⟨noRead, lost, noReadKeys⟩ := delivers.nothing noBytes noKeys
      rw [Ps2.buffered, output] at reported pressed
      rw [if_neg nofun, List.append_nil] at reported
      rw [if_pos rfl, lost, noReadKeys] at pressed
      refine ⟨[platform.ps2.latch], readMouse, [platform.ps2.latch], later _ _ _ ?_ reported ?_
        (.inr (.inr ⟨_, rfl, rfl⟩)) fun _ => noKeys, fun some => absurd noBytes some, nofun⟩
      · rw [noBytes, noRead]
        rfl
      · rw [noReadKeys]
        exact pressed

/-- The keyboard's handler takes the byte of the keyboard, or at first a stale one. -/
theorem Delivers.keyboardInterrupt
    (delivers : platform.Delivers strayMouse readMouse strayKey lostKey readKeys)
    (quiet : 44 ∉ platform.apic.requests) (asked : 33 ∈ platform.apic.requests)
    (calm : platform.stopped = false) (meets : Surroundings) :
    ∃ strayKey readKeys,
      (handler meets 33 { platform with apic := platform.apic.accept 33 }).Delivers strayMouse readMouse
        strayKey lostKey readKeys := by
  have answered : 33 ∉ platform.apic.requests.erase 33 := fun again =>
    (delivers.requested.once.mem_erase_iff.mp again).1 rfl
  have later : ∀ strayKey readKeys,
      platform.scancodes ++ [platform.ps2.latch] = strayKey ++ readKeys → strayKey.length ≤ 1 →
      readMouse ++ platform.ps2.mouse.outbox = platform.reported →
      lostKey ++ readKeys ++ platform.ps2.keyboard = platform.pressed →
      (handler meets 33 { platform with apic := platform.apic.accept 33 }).Delivers strayMouse
        readMouse strayKey lostKey readKeys := by
    intro strayKey readKeys scancodes short reported pressed
    rw [keyboard_handled platform meets delivers.base calm (delivers.ended calm)]
    refine { delivers with
      routed := delivers.routed.withService _ _
      requested := delivers.requested.erase 33
      service := rfl
      enter := ?_
      scancodes := scancodes
      strayKey := short
      reported := ?_
      pressed := ?_
      asksMouse := nofun
      asksKeyboard := nofun
      early := fun again _ => absurd (List.mem_of_mem_erase again) quiet
      earlyKeyboard := fun again => absurd again answered
      untouched := ?_ }
    · intro stops
      rw [Bool.not_eq_eq_eq_not, Bool.not_true] at stops
      rw [(Surroundings.stops stops).1]
      exact List.getLast?_concat ..
    · rw [buffered_read, List.append_nil]
      exact reported
    · rw [buffered_read, List.append_nil]
      exact pressed
    · intro _ empty
      simp at empty
  have reported := delivers.reported
  have pressed := delivers.pressed
  cases output : platform.ps2.output with
  | none =>
    have noKeys := delivers.earlyKeyboard asked (output ▸ nofun)
    obtain ⟨-, noReadKeys⟩ := List.append_eq_nil_iff.mp (delivers.scancodes.symm.trans noKeys)
    rw [Ps2.buffered, output, if_neg nofun, List.append_nil] at reported pressed
    refine ⟨[platform.ps2.latch], readKeys, later _ _ ?_ (Nat.le_refl 1) reported pressed⟩
    rw [noKeys, noReadKeys]
    rfl
  | some source =>
    cases source with
    | mouse => exact absurd (delivers.asksMouse output) quiet
    | keyboard =>
      rw [Ps2.buffered, output] at reported pressed
      rw [if_neg nofun, List.append_nil] at reported
      rw [if_pos rfl] at pressed
      refine ⟨strayKey, readKeys ++ [platform.ps2.latch], later _ _ ?_ delivers.strayKey reported ?_⟩
      · rw [delivers.scancodes, List.append_assoc]
      · rw [← List.append_assoc]
        exact pressed

/-- Once the mouse driver has been given a byte, what it was given first stays. -/
theorem Delivers.interrupt
    (delivers : platform.Delivers strayMouse readMouse strayKey lostKey readKeys)
    (meets : Surroundings) :
    ∃ nextStray readMouse strayKey lostKey readKeys,
      (platform.step (.interrupt meets)).Delivers nextStray readMouse strayKey lostKey readKeys ∧
      (platform.mouseBytes ≠ [] → nextStray = strayMouse) := by
  rw [step]
  rcases Bool.eq_false_or_eq_true platform.stopped with stopped | calm
  · rw [if_pos stopped]
    exact ⟨_, _, _, _, _, delivers, fun _ => rfl⟩
  · rw [if_neg (ne_true_of_eq_false calm), delivers.requested.next (delivers.ended calm)]
    by_cases mouse : 44 ∈ platform.apic.requests
    · rw [if_pos mouse]
      obtain ⟨nextStray, readMouse, lostKey, next, firm, -⟩ :=
        delivers.mouseInterrupt mouse calm meets
      exact ⟨nextStray, readMouse, strayKey, lostKey, readKeys, next, firm⟩
    · rw [if_neg mouse]
      by_cases keyboard : 33 ∈ platform.apic.requests
      · rw [if_pos keyboard]
        obtain ⟨strayKey, readKeys, next⟩ := delivers.keyboardInterrupt mouse keyboard calm meets
        exact ⟨strayMouse, readMouse, strayKey, lostKey, readKeys, next, fun _ => rfl⟩
      · rw [if_neg keyboard]
        exact ⟨_, _, _, _, _, delivers, fun _ => rfl⟩

/-- One step of whoever is next. -/
theorem Delivers.step (delivers : platform.Delivers strayMouse readMouse strayKey lostKey readKeys)
    (event : Event) : ∃ nextStray readMouse strayKey lostKey readKeys,
      (platform.step event).Delivers nextStray readMouse strayKey lostKey readKeys ∧
      (platform.mouseBytes ≠ [] → nextStray = strayMouse) := by
  cases event with
  | press scancodes => exact ⟨_, _, _, _, _, delivers.press scancodes, fun _ => rfl⟩
  | report packet => exact ⟨_, _, _, _, _, delivers.report packet, fun _ => rfl⟩
  | sendKeyboard => exact ⟨_, _, _, _, _, delivers.sendKeyboard, fun _ => rfl⟩
  | sendMouse => exact ⟨_, _, _, _, _, delivers.sendMouse, fun _ => rfl⟩
  | interrupt meets => exact delivers.interrupt meets

/-- The mouse driver forgets no byte. -/
theorem step_mouseBytes (platform : Platform) (event : Event) :
    platform.mouseBytes <+: (platform.step event).mouseBytes := by
  cases event with
  | press scancodes => exact List.prefix_rfl
  | report packet =>
    unfold step
    dsimp only
    split <;> exact List.prefix_rfl
  | sendKeyboard => exact List.prefix_rfl
  | sendMouse => exact List.prefix_rfl
  | interrupt meets =>
    unfold step
    dsimp only
    split
    case isTrue => exact List.prefix_rfl
    case isFalse =>
      split
      case h_1 vector _ =>
        unfold handler
        split
        · exact List.prefix_rfl
        · unfold keyboardInterruptHandler
          dsimp only
          split <;> exact List.prefix_rfl
        · exact List.prefix_append ..
        · exact List.prefix_rfl
      case h_2 => exact List.prefix_rfl

/-- Only an interrupt that the allocator does not serve stops the processor. -/
theorem step_stopped {event : Event} (stopped : (platform.step event).stopped = true) :
    platform.stopped = true ∨ event = .interrupt ⟨true, false⟩ := by
  cases event with
  | press scancodes => exact .inl stopped
  | report packet =>
    unfold step at stopped
    dsimp only at stopped
    split at stopped <;> exact .inl stopped
  | sendKeyboard => exact .inl stopped
  | sendMouse => exact .inl stopped
  | interrupt meets =>
    unfold step at stopped
    dsimp only at stopped
    split at stopped
    case isTrue before => exact .inl before
    case isFalse =>
      split at stopped
      case h_1 vector _ =>
        unfold handler at stopped
        split at stopped
        · exact .inl stopped
        · unfold keyboardInterruptHandler at stopped
          dsimp only at stopped
          split at stopped
          case isTrue => exact .inl stopped
          case isFalse stops =>
            exact .inr (congrArg _ (Surroundings.stops (Bool.eq_false_of_not_eq_true stops)).2)
        · exact .inl stopped
        · exact .inl stopped
      case h_2 => exact .inl stopped

theorem run_stopped (events : List Event)
    (stopped : (events.foldl Platform.step platform).stopped = true) :
    platform.stopped = true ∨ .interrupt ⟨true, false⟩ ∈ events := by
  induction events generalizing platform with
  | nil => exact .inl stopped
  | cons event events ih =>
    rcases ih stopped with stopped | later
    · rcases step_stopped stopped with before | rfl
      · exact .inl before
      · exact .inr (.head events)
    · exact .inr (.tail event later)

theorem Delivers.run (events : List Event)
    (delivers : platform.Delivers strayMouse readMouse strayKey lostKey readKeys) :
    ∃ lastStray readMouse strayKey lostKey readKeys,
      (events.foldl Platform.step platform).Delivers lastStray readMouse strayKey lostKey readKeys ∧
      (platform.mouseBytes ≠ [] → lastStray = strayMouse) := by
  induction events generalizing platform strayMouse readMouse strayKey lostKey readKeys with
  | nil => exact ⟨_, _, _, _, _, delivers, fun _ => rfl⟩
  | cons event events ih =>
    obtain ⟨_, _, _, _, _, next, firm⟩ := delivers.step event
    obtain ⟨_, _, _, _, _, last, firmer⟩ := ih next
    refine ⟨_, _, _, _, _, last, fun some => (firmer ?_).trans (firm some)⟩
    intro none_left
    exact some (List.prefix_nil.mp (none_left ▸ step_mouseBytes platform event))

/-- Nothing is under way in the interrupt controllers. -/
structure Unused (apic : Apic) : Prop where
  picPassed : apic.picPassed = []
  requests : apic.requests = []
  inService : apic.inService = []

/-- The firmware has the keyboard's interrupt on. The mouse's two acknowledgments, though they
have been read, have left its vector asked for. -/
theorem boot_delivers {lapic ioapic : Nat} (present : lapic ≠ 0 ∧ ioapic ≠ 0) {apic : Apic}
    (unused : Unused apic) {ps2 : Ps2} (quiet : ps2.Quiet) (keys : ps2.config &&& 1 ≠ 0)
    {pace : Nat → Nat → Nat} (timely : Ps2.Timely pace) :
    (boot lapic ioapic apic ps2 pace).Delivers [] [] [] [] [] ∧
      44 ∈ (boot lapic ioapic apic ps2 pace).apic.requests ∧
      (boot lapic ioapic apic ps2 pace).ps2.output = none := by
  obtain ⟨-, mouseClock, keyboardClock, mouseLine, keyboardLine, -⟩ := Ps2.configured_bits ps2.config
  have routed := Apic.initApic_routed apic present
  have raised : Ps2.line ps2.config .keyboard = [1] := if_pos keys
  have both : ¬ (lapic = 0 ∨ ioapic = 0) := by omega
  have requests : (apic.initApic lapic ioapic).requests = [] := by
    rw [Apic.initApic, if_neg both]
    exact unused.requests
  have picPassed : (apic.initApic lapic ioapic).picPassed = [] := by
    rw [Apic.initApic, if_neg both]
    exact unused.picPassed
  have inService : (apic.initApic lapic ioapic).inService = [] := by
    rw [Apic.initApic, if_neg both]
    exact unused.inService
  have asked : (ps2.handedOver.edges.drop ps2.edges.length).foldl Apic.raise
      (apic.initApic lapic ioapic) =
        { apic.initApic lapic ioapic with requests := [44, 33] } := by
    rw [Ps2.handedOver, raised, List.append_assoc, List.drop_left]
    change ((((apic.initApic lapic ioapic).raise 1).raise 12).raise 12) = _
    rw [routed.raise_keyboard, (routed.withRequests _).raise_mouse,
      (routed.withRequests _).raise_mouse, requests]
    rfl
  unfold boot
  rw [Ps2.initMouse_handedOver quiet timely]
  dsimp only
  rw [withPs2]
  dsimp only
  rw [asked]
  have once : [44, 33].Nodup := by decide
  refine ⟨?_, by simp, quiet.output⟩
  refine
    { base := present.1
      routed := routed.withRequests _
      requested := ⟨by simp, once⟩
      picPassed := picPassed
      service := inService
      enter := fun stopped => (by cases stopped)
      clocks := ⟨mouseClock, keyboardClock⟩
      lines := ⟨keyboardLine ▸ keys, mouseLine⟩
      streaming := rfl
      mouse := rfl
      mouseBytes := rfl
      scancodes := rfl
      reported := ?_
      pressed := ?_
      strays := .inl ⟨rfl, rfl⟩
      strayKey := Nat.zero_le 1
      asksMouse := fun _ => by simp
      asksKeyboard := fun _ => by simp
      early := fun _ _ => ⟨rfl, rfl⟩
      earlyKeyboard := fun _ _ => rfl
      untouched := fun _ _ _ => rfl }
  · simp [Ps2.buffered, Ps2.handedOver, quiet.output]
  · simp [Ps2.buffered, Ps2.handedOver, quiet.output, quiet.keyboard]

/-- After start-up, whatever the order in which keys are pressed, the mouse moves, the controller
sends and interrupts are taken: the mouse driver has been given the bytes of the mouse, in order
and once each, behind at most one other byte (the stale acknowledgment, or the first key, which
is then lost), and the keyboard's handler those of the keyboard behind at most one stale byte.
A byte that waits is next, no handler is left unended, and nothing comes by way of the PIC, unless
an Enter key has been handled while the allocator did not serve its broadcast: its handler then never
ends, and no other one begins. If the interrupt that `mouse::init` has left is taken first, as it is
when interrupts are enabled, the driver takes the acknowledgment for the start of a packet. -/
theorem input_delivered {lapic ioapic : Nat} (present : lapic ≠ 0 ∧ ioapic ≠ 0) {apic : Apic}
    (unused : Unused apic) {ps2 : Ps2} (quiet : ps2.Quiet) (keys : ps2.config &&& 1 ≠ 0)
    {pace : Nat → Nat → Nat} (timely : Ps2.Timely pace) (events : List Event) :
    let platform := events.foldl step (boot lapic ioapic apic ps2 pace)
    ∃ strayMouse readMouse strayKey lostKey readKeys,
      platform.mouse = Mouse.start.receive (strayMouse ++ readMouse) ∧
      readMouse ++ platform.ps2.buffered .mouse ++ platform.ps2.mouse.outbox = platform.reported ∧
      platform.scancodes = strayKey ++ readKeys ∧ strayKey.length ≤ 1 ∧
      lostKey ++ readKeys ++ platform.ps2.buffered .keyboard ++ platform.ps2.keyboard =
        platform.pressed ∧
      (strayMouse = [] ∧ lostKey = [] ∨ strayMouse = [0xFA] ∧ lostKey = [] ∨
        ∃ key, strayMouse = [key] ∧ lostKey = [key]) ∧
      (platform.stopped = false → platform.apic.inService = [] ∧
        (platform.ps2.output = some .mouse → platform.apic.next = some 44) ∧
        (platform.ps2.output = some .keyboard → platform.mouseBytes ≠ [] →
          platform.apic.next = some 33)) ∧
      (platform.stopped = true → platform.apic.inService = [33] ∧
        platform.scancodes.getLast? = some 0x1C ∧ .interrupt ⟨true, false⟩ ∈ events) ∧
      platform.apic.picPassed = [] ∧
      ∀ meets, events.head? = some (.interrupt meets) → strayMouse = [0xFA] := by
  obtain ⟨booted, asked, empty⟩ := boot_delivers present unused quiet keys timely
  have outcome : ∃ strayMouse readMouse strayKey lostKey readKeys,
      (events.foldl step (boot lapic ioapic apic ps2 pace)).Delivers strayMouse readMouse strayKey
        lostKey readKeys ∧ ∀ meets, events.head? = some (.interrupt meets) → strayMouse = [0xFA] := by
    by_cases first : ∃ meets, events.head? = some (.interrupt meets)
    · obtain ⟨meets, first⟩ := first
      obtain ⟨rest, rfl⟩ := List.head?_eq_some_iff.mp first
      obtain ⟨_, _, _, next, -, stale⟩ := booted.mouseInterrupt asked rfl meets
      have taken : (boot lapic ioapic apic ps2 pace).step (.interrupt meets) = handler meets 44
          { boot lapic ioapic apic ps2 pace with
            apic := (boot lapic ioapic apic ps2 pace).apic.accept 44 } := by
        rw [step, booted.requested.next (booted.ended rfl), if_pos asked]
        exact if_neg Bool.false_ne_true
      rw [stale empty, ← taken] at next
      have fed : ((boot lapic ioapic apic ps2 pace).step (.interrupt meets)).mouseBytes ≠ [] := by
        rw [next.mouseBytes]
        exact nofun
      obtain ⟨_, _, _, _, _, last, firm⟩ := next.run rest
      exact ⟨_, _, _, _, _, last, fun _ _ => firm fed⟩
    · obtain ⟨_, _, _, _, _, last, -⟩ := booted.run events
      exact ⟨_, _, _, _, _, last, fun meets now => absurd ⟨meets, now⟩ first⟩
  obtain ⟨strayMouse, readMouse, strayKey, lostKey, readKeys, delivers, stale⟩ := outcome
  refine ⟨strayMouse, readMouse, strayKey, lostKey, readKeys, ?_, delivers.reported,
    delivers.scancodes, delivers.strayKey, delivers.pressed, delivers.strays, ?_, ?_,
    delivers.picPassed, stale⟩
  · rw [← delivers.mouseBytes]
    exact delivers.mouse
  · intro calm
    have next := delivers.requested.next (delivers.ended calm)
    refine ⟨delivers.ended calm, fun waits => ?_, fun waits fed => ?_⟩
    · rw [next, if_pos (delivers.asksMouse waits)]
    · have noMouse : 44 ∉ (events.foldl step (boot lapic ioapic apic ps2 pace)).apic.requests :=
        fun again => fed (delivers.early again (waits ▸ nofun)).1
      rw [next, if_neg noMouse, if_pos (delivers.asksKeyboard waits)]
  · intro stopped
    refine ⟨?_, delivers.enter stopped, (run_stopped events stopped).resolve_left nofun⟩
    rw [delivers.service, if_pos stopped]

end Platform

/-- The interrupt controllers after power-up. -/
def Apic.powerUp : Apic where
  masks := (0, 0)
  picPassed := []
  ioregsel := 0
  ioRegisters := fun _ => 0x10000
  siv := 0xFF
  requests := []
  inService := []

/-- The firmware's controller with the keyboard's interrupt on. -/
def Ps2.listening : Ps2 := { Ps2.firmware with config := 0x75 }

namespace Platform

/-- The mouse moves, and an Enter key comes while the heap is locked. -/
theorem input_delivered_enter :
    let events := [Event.interrupt ⟨false, true⟩, .interrupt ⟨false, true⟩, .report [0x08, 5, 0],
      .sendMouse, .interrupt ⟨true, true⟩, .press [0x1C], .sendKeyboard, .interrupt ⟨true, false⟩]
    let platform := events.foldl step
      (boot 0xFEE00000 0xFEC00000 Apic.powerUp Ps2.listening fun _ _ => 2)
    ∃ strayMouse readMouse strayKey lostKey readKeys,
      platform.mouse = Mouse.start.receive (strayMouse ++ readMouse) ∧
      readMouse ++ platform.ps2.buffered .mouse ++ platform.ps2.mouse.outbox = platform.reported ∧
      platform.scancodes = strayKey ++ readKeys ∧ strayKey.length ≤ 1 ∧
      lostKey ++ readKeys ++ platform.ps2.buffered .keyboard ++ platform.ps2.keyboard =
        platform.pressed ∧
      (strayMouse = [] ∧ lostKey = [] ∨ strayMouse = [0xFA] ∧ lostKey = [] ∨
        ∃ key, strayMouse = [key] ∧ lostKey = [key]) ∧
      (platform.stopped = false → platform.apic.inService = [] ∧
        (platform.ps2.output = some .mouse → platform.apic.next = some 44) ∧
        (platform.ps2.output = some .keyboard → platform.mouseBytes ≠ [] →
          platform.apic.next = some 33)) ∧
      (platform.stopped = true → platform.apic.inService = [33] ∧
        platform.scancodes.getLast? = some 0x1C ∧ .interrupt ⟨true, false⟩ ∈ events) ∧
      platform.apic.picPassed = [] ∧
      ∀ meets, events.head? = some (.interrupt meets) → strayMouse = [0xFA] :=
  input_delivered (by decide) ⟨rfl, rfl, rfl⟩ ⟨rfl, rfl, rfl, rfl⟩ (by decide) Ps2.steady_timely _

/-- Behind the acknowledgment, five counts to the right are a jump to the left and down. -/
example : let mouse := Mouse.start.receive [0xFA, 0x08, 5, 0]
    (mouse.x, mouse.y, mouse.btn) = (152, 551, 2) := by decide

end Platform

end QoreOS.Input
