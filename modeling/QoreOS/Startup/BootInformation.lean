import Mathlib.Data.List.ProdSigma
import QoreOS.Display.Printing
import QoreOS.Runtime.System
import QoreOS.Startup.AcpiTables

/-! What `_start` computes from the boot information: the cleared framebuffer, the walk over the
ACPI tables and the first use of the screen. -/

namespace QoreOS.Startup

open QoreOS.Library QoreOS.Memory QoreOS.Bootloader QoreOS.Display QoreOS.Runtime

/-- `write_bytes` over the framebuffer. Its pointer may be null if there is nothing to write. -/
def clearFramebuffer (memory : Ram) (info : BootInfo) : Option Ram :=
  if info.framebufferSize = 0 ∨ info.framebufferBase ≠ 0 then
    some (ByteMemory.copy memory info.framebufferBase (List.replicate info.framebufferSize 0))
  else none

/-- The pointer that `draw_pixel` writes through. -/
def dotAddress (info : BootInfo) (x y : Nat) : Option Nat := do
  let row ← checked (2 ^ 64) (y * info.stride)
  let offset ← checked (2 ^ 64) (row + x)
  let bytes ← checked (2 ^ 64) (offset * 4)
  let address ← checked (2 ^ 64) (info.framebufferBase + bytes)
  checkedPointer 4 address

/-- The dots of the screen, row by row. -/
def dots (info : BootInfo) : List (Nat × Nat) :=
  (List.range info.height).product (List.range info.width)

/-- `fill_rect` over the whole screen, for its checks. -/
def fillScreen (info : BootInfo) : Option Unit :=
  run (fun _ dot => (dotAddress info dot.2 dot.1).map fun _ => ()) (dots info) ()

/-- How the parts of start-up between the tables and the screen turn out: whether they come to
their end, and how many bytes of the heap are taken then. -/
structure Environment where
  comes : Bool
  used : Nat
  fits : used ≤ heapSize

/-- `compositor::init`, the white screen and the first `terminal_print`. -/
def showTerminal (environment : Environment) (info : BootInfo) : Except Halt Terminal := do
  let rows ← Halt.underflow.unless (checkedSub info.height 40)
  let pixels ← Halt.elsewhere.unless (checked (2 ^ 64) (info.width * rows))
  let _ ← Halt.elsewhere.unless ((HeapCall.take (pixels * 4)).serve heapSize environment.used)
  -- the bar and its title only repaint dots of the screen
  let _ ← Halt.elsewhere.unless (fillScreen info)
  Halt.underflow.unless (terminalPrint (Terminal.blank 0 40 info.width rows)
    "INIT: Core 0 (BSP) Online.\n" 0x10B981)

def startUp (environment : Environment) (memory : Ram) (info : BootInfo) : Except Halt Terminal := do
  let memory ← Halt.elsewhere.unless (clearFramebuffer memory info)
  let _ ← findTables memory info
  if environment.comes then showTerminal environment info else throw .elsewhere

/-- No subtraction underflows, and the tables are walked only behind the right signature. -/
structure ProperStart (environment : Environment) (memory : Ram) (info : BootInfo) : Prop where
  arithmetic : startUp environment memory info ≠ .error .underflow
  walk : ∀ cleared signature, clearFramebuffer memory info = some cleared →
    readSignature cleared info = some signature → passes signature = true →
    signature = utf8 "RSD PTR "

/-- The place of a dot. -/
def dotPlace (info : BootInfo) (x y : Nat) : Nat :=
  info.framebufferBase + (y * info.stride + x) * 4

/-- Every dot of the screen can be written. -/
def Paintable (info : BootInfo) : Prop :=
  ∀ y < info.height, ∀ x < info.width, Accessible 4 (dotPlace info x y)

/-- The RSDP's signature is right or no text; a table that is reached is as long as its header;
and the screen, if start-up gets there, is large enough for the bar and the margins. The memory is
that behind the cleared framebuffer. -/
structure RegularBoot (environment : Environment) (memory : Ram) (info : BootInfo) : Prop where
  signature : info.acpi2RsdpAddr ≠ 0 → passes (signature memory info) = true →
    signature memory info = utf8 "RSD PTR "
  length : info.acpi2RsdpAddr ≠ 0 → passes (Startup.signature memory info) = true →
    info.acpi2RsdpAddr + 24 < 2 ^ 64 → xsdtAddress memory info.acpi2RsdpAddr + 4 < 2 ^ 64 →
      36 ≤ xsdtLength memory info.acpi2RsdpAddr
  screen : info.acpi2RsdpAddr ≠ 0 →
    (passes (Startup.signature memory info) = true → TablesReadable memory info.acpi2RsdpAddr) →
    environment.comes = true → 40 ≤ info.height ∧
      (environment.used + info.width * (info.height - 40) * 4 ≤ heapSize → Paintable info →
        40 ≤ info.width)

section Screen

variable {environment : Environment} {info : BootInfo}

theorem dotAddress_eq (info : BootInfo) (x y : Nat) : dotAddress info x y =
    if Accessible 4 (dotPlace info x y) then some (dotPlace info x y) else none := by
  by_cases place : Accessible 4 (dotPlace info x y)
  · rw [if_pos place]
    obtain ⟨fits, pointer⟩ := place
    unfold dotPlace at fits pointer ⊢
    have row : checked (2 ^ 64) (y * info.stride) = some (y * info.stride) :=
      checked_of_lt (by omega)
    have offset : checked (2 ^ 64) (y * info.stride + x) = some (y * info.stride + x) :=
      checked_of_lt (by omega)
    have bytes : checked (2 ^ 64) ((y * info.stride + x) * 4) = some ((y * info.stride + x) * 4) :=
      checked_of_lt (by omega)
    simp only [dotAddress, Option.bind_eq_bind, row, offset, bytes, checked_of_lt fits,
      Option.bind_some]
    exact if_pos pointer
  · rw [if_neg place]
    by_contra written
    obtain ⟨address, written⟩ := Option.ne_none_iff_exists'.mp written
    simp only [dotAddress, Option.bind_eq_bind, Option.bind_eq_some_iff] at written
    obtain ⟨row, rows, offset, offsets, bytes, sizes, _, places, pointer⟩ := written
    obtain ⟨rfl, -⟩ := checked_eq_some rows
    obtain ⟨rfl, -⟩ := checked_eq_some offsets
    obtain ⟨rfl, -⟩ := checked_eq_some sizes
    obtain ⟨rfl, fits⟩ := checked_eq_some places
    exact place ⟨fits, (checkedPointer_eq_some pointer).2⟩

theorem fillScreen_eq_some : fillScreen info = some () ↔ Paintable info := by
  have guarded : ∀ (state : Unit) (dot : Nat × Nat),
      (dotAddress info dot.2 dot.1).map (fun _ => ()) =
        if Accessible 4 (dotPlace info dot.2 dot.1) then some () else none := by
    intro _ dot
    rw [dotAddress_eq]
    split <;> rfl
  have whole : Paintable info ↔
      ∀ dot ∈ dots info, Accessible 4 (dotPlace info dot.2 dot.1) := by
    simp only [Paintable, dots, Prod.forall, List.pair_mem_product, List.mem_range]
    exact ⟨fun all y x inside => all y inside.1 x inside.2, fun all y low x left => all y x ⟨low, left⟩⟩
  rw [fillScreen, run_guarded guarded, whole]
  split
  case isTrue all => exact ⟨fun _ => all, fun _ => rfl⟩
  case isFalse some => exact ⟨fun painted => (by cases painted), fun all => absurd all some⟩

theorem terminalPrint_blank_eq_none (rows : Nat) :
    terminalPrint (Terminal.blank 0 40 info.width rows) "INIT: Core 0 (BSP) Online.\n" 0x10B981 =
      none ↔ info.width < 40 := by
  constructor
  · intro stops
    by_contra wide
    have layer : 40 ≤ (Terminal.blank 0 40 info.width rows).canvas.width := Nat.not_lt.mp wide
    obtain ⟨next, prints⟩ := terminalPrint_wide layer "INIT: Core 0 (BSP) Online.\n" 0x10B981
    rw [stops] at prints
    cases prints
  · intro narrow
    exact terminalPrint_narrow narrow ⟨'I', by decide, by decide⟩

theorem room_of_served {size used after : Nat}
    (served : (HeapCall.take size).serve heapSize used = some after) : used + size ≤ heapSize := by
  rw [HeapCall.serve] at served
  split at served
  case isTrue room => exact room
  case isFalse => cases served

theorem showTerminal_underflow_iff : showTerminal environment info = .error .underflow ↔
    info.height < 40 ∨ 40 ≤ info.height ∧
      environment.used + info.width * (info.height - 40) * 4 ≤ heapSize ∧ Paintable info ∧
      info.width < 40 := by
  constructor
  · intro stops
    rcases Halt.unless_bind_eq_error.mp stops with ⟨under, -⟩ | ⟨rows, subtracts, stops⟩
    · refine Or.inl (Nat.not_le.mp fun high => ?_)
      rw [checkedSub_of_le high] at under
      cases under
    obtain ⟨rfl, high⟩ := checkedSub_eq_some subtracts
    obtain ⟨pixels, product, stops⟩ := Halt.past_elsewhere stops
    obtain ⟨rfl, -⟩ := checked_eq_some product
    obtain ⟨used, served, stops⟩ := Halt.past_elsewhere stops
    obtain ⟨_, painted, stops⟩ := Halt.past_elsewhere stops
    exact Or.inr ⟨high, room_of_served served, fillScreen_eq_some.mp painted,
      (terminalPrint_blank_eq_none _).mp (Halt.unless_eq_error stops).1⟩
  · rintro (low | ⟨high, room, paintable, narrow⟩)
    · have under : checkedSub info.height 40 = none := if_neg (Nat.not_le.mpr low)
      rw [showTerminal, under]
      rfl
    · have small : info.width * (info.height - 40) < 2 ^ 64 := by
        have size : heapSize < 2 ^ 64 := by decide
        omega
      refine Halt.unless_bind_eq_error.mpr (Or.inr ⟨_, checkedSub_of_le high, ?_⟩)
      refine Halt.unless_bind_eq_error.mpr (Or.inr ⟨_, checked_of_lt small, ?_⟩)
      refine Halt.unless_bind_eq_error.mpr (Or.inr ⟨_, if_pos room, ?_⟩)
      refine Halt.unless_bind_eq_error.mpr (Or.inr ⟨_, fillScreen_eq_some.mpr paintable, ?_⟩)
      rw [(terminalPrint_blank_eq_none _).mpr narrow]
      rfl

end Screen

section StartUp

variable {environment : Environment} {memory cleared : Ram} {info : BootInfo}

/-- What an underflow comes from. -/
theorem startUp_underflow_iff (clears : clearFramebuffer memory info = some cleared) :
    startUp environment memory info = .error .underflow ↔
      findTables cleared info = .error .underflow ∨
        (∃ tables, findTables cleared info = .ok tables) ∧ environment.comes = true ∧
          showTerminal environment info = .error .underflow := by
  have rest : startUp environment memory info = (findTables cleared info >>= fun _ =>
      if environment.comes then showTerminal environment info else .error .elsewhere) := by
    rw [startUp, clears]
    rfl
  rw [rest]
  cases found : findTables cleared info with
  | error halt =>
    constructor
    · intro stops
      cases stops
      exact Or.inl rfl
    · rintro (stops | ⟨⟨_, ends⟩, -⟩)
      · cases stops
        rfl
      · cases ends
  | ok tables =>
    change (if environment.comes then showTerminal environment info else .error .elsewhere) = _ ↔ _
    constructor
    · intro stops
      split at stops
      case isTrue comes => exact Or.inr ⟨⟨tables, rfl⟩, comes, stops⟩
      case isFalse => cases stops
    · rintro (stops | ⟨-, comes, stops⟩)
      · cases stops
      · rw [if_pos comes]
        exact stops

theorem startUp_unclear (stops : clearFramebuffer memory info = none) :
    startUp environment memory info = .error .elsewhere := by
  rw [startUp, stops]
  rfl

/-- A start is proper for exactly the boot information that is regular, if the framebuffer can be
cleared. -/
theorem properStart_iff (environment : Environment) (memory : Ram) (info : BootInfo) :
    ProperStart environment memory info ↔ ∀ cleared,
      clearFramebuffer memory info = some cleared → RegularBoot environment cleared info := by
  constructor
  · intro proper cleared clears
    have stays := proper.arithmetic
    rw [ne_eq, startUp_underflow_iff clears, not_or, findTables_underflow_iff] at stays
    have length : info.acpi2RsdpAddr ≠ 0 → passes (signature cleared info) = true →
        info.acpi2RsdpAddr + 24 < 2 ^ 64 → xsdtAddress cleared info.acpi2RsdpAddr + 4 < 2 ^ 64 →
          36 ≤ xsdtLength cleared info.acpi2RsdpAddr := by
      intro here text pointer near
      by_contra short
      exact stays.1 ⟨here, text, walkXsdt_underflow_iff.mpr ⟨pointer, near, Nat.not_le.mp short⟩⟩
    refine ⟨fun here text => ?_, length, fun here readable comes => ?_⟩
    · exact proper.walk cleared _ clears (readSignature_eq_some.mpr ⟨here, rfl⟩) text
    · have past : ∃ tables, findTables cleared info = .ok tables := by
        refine findTables_ok_iff.mpr ⟨here, fun text => ⟨?_, readable text⟩⟩
        have header := (readable text).header
        exact length here text (readable text).pointer (by omega)
      have shows : ¬ showTerminal environment info = .error .underflow :=
        fun stops => stays.2 ⟨past, comes, stops⟩
      rw [showTerminal_underflow_iff, not_or] at shows
      have high := Nat.not_lt.mp shows.1
      refine ⟨high, fun room paintable => ?_⟩
      by_contra narrow
      exact shows.2 ⟨high, room, paintable, Nat.not_le.mp narrow⟩
  · intro regular
    constructor
    · cases clears : clearFramebuffer memory info with
      | none =>
        rw [startUp_unclear clears]
        intro same
        cases same
      | some cleared =>
        have boot := regular cleared clears
        rw [ne_eq, startUp_underflow_iff clears]
        rintro (short | ⟨past, comes, stops⟩)
        · obtain ⟨here, text, short⟩ := findTables_underflow_iff.mp short
          obtain ⟨pointer, near, short⟩ := walkXsdt_underflow_iff.mp short
          exact Nat.not_le.mpr short (boot.length here text pointer near)
        · obtain ⟨here, walks⟩ := findTables_ok_iff.mp past
          obtain ⟨high, wide⟩ := boot.screen here (fun text => (walks text).2) comes
          rcases showTerminal_underflow_iff.mp stops with low | ⟨-, room, paintable, narrow⟩
          · exact Nat.not_lt.mpr high low
          · exact Nat.not_lt.mpr (wide room paintable) narrow
    · intro cleared read clears reads text
      obtain ⟨here, rfl⟩ := readSignature_eq_some.mp reads
      exact (regular cleared clears).signature here text

end StartUp

/-- A firmware with an ordinary screen that announces ACPI tables at 1 MiB. -/
def Firmware.announcing : Firmware :=
  { Firmware.bare [] [] with
    configTable := [⟨acpi2Guid, 0x100000⟩]
    gopHandle := some 1
    openGop := fun _ => some ⟨0x80000000, 1024 * 768 * 4, 1024, 768, 1024⟩ }

theorem copy_zeros (address size : Nat) :
    ByteMemory.copy (fun _ => 0) address (List.replicate size 0) = fun _ => 0 := by
  funext cell
  rw [ByteMemory.copy]
  split
  case isTrue inside =>
    rw [List.getD_eq_getElem _ _ (by omega), List.getElem_replicate]
  case isFalse => rfl

/-- Zeros at the announced address pass for a signature, and 36 is taken from a length of 0. -/
theorem not_properStart_announcing : ¬ ∀ (environment : Environment) (firmware : Firmware)
    (before memory : Ram) (info : BootInfo), firmware.handOver before = some (memory, info) →
      ProperStart environment memory info := by
  intro proper
  have announced : ∃ memory info, Firmware.announcing.handOver (fun _ => 0) = some (memory, info) :=
    handOver_exists _ (by decide) rfl (by decide)
  obtain ⟨memory, info, handed⟩ := announced
  obtain ⟨filled, -, -, acpi, framebuffer⟩ := handOver_some handed
  have blank : memory = fun _ => 0 := filled.trans (copy_zeros _ 0)
  have acpi : info.acpi2RsdpAddr = 0x100000 := acpi
  have screen : info.framebufferBase = 0x80000000 := framebuffer
  have mapped : info.framebufferBase ≠ 0 := by
    rw [screen]
    decide
  have clears : clearFramebuffer memory info = some fun _ => 0 := by
    rw [blank, clearFramebuffer, if_pos (Or.inr mapped), copy_zeros]
  have short : findTables (fun _ => 0) info = .error .underflow := by
    rw [findTables_underflow_iff, walkXsdt_underflow_iff, signature, acpi]
    exact ⟨by decide, by decide, by decide, by decide, by decide⟩
  exact (proper ⟨true, 0, Nat.zero_le _⟩ _ _ _ _ handed).arithmetic
    ((startUp_underflow_iff clears).mpr (Or.inl short))

end QoreOS.Startup
