import QoreOS.Bootloader.HandOver
import QoreOS.Library.Run

/-! The walk of `_start` over the ACPI tables, as a debug build runs it. -/

namespace QoreOS.Startup

open QoreOS.Library QoreOS.Memory QoreOS.Bootloader

/-- Why the kernel stops. -/
inductive Halt where
  | underflow
  | elsewhere
  deriving DecidableEq

def Halt.unless {α : Type} (halt : Halt) : Option α → Except Halt α
  | some value => .ok value
  | none => .error halt

section Halting

variable {α β : Type} {halt other : Halt} {value : Option α} {rest : α → Except Halt β} {result : β}

theorem Halt.unless_eq_error (stops : halt.unless value = .error other) :
    value = none ∧ halt = other := by
  cases value with
  | none => exact ⟨rfl, Except.error.inj stops⟩
  | some found => cases stops

theorem Halt.unless_bind_eq_ok : (halt.unless value >>= rest) = .ok result ↔
    ∃ found, value = some found ∧ rest found = .ok result := by
  cases value with
  | none => exact ⟨fun ends => (by cases ends), fun ⟨_, found, _⟩ => nomatch found⟩
  | some found =>
    constructor
    · exact fun ends => ⟨found, rfl, ends⟩
    · rintro ⟨_, ⟨rfl⟩, ends⟩
      exact ends

theorem Halt.unless_bind_eq_error : (halt.unless value >>= rest) = .error other ↔
    value = none ∧ halt = other ∨ ∃ found, value = some found ∧ rest found = .error other := by
  cases value with
  | none =>
    constructor
    · intro stops
      cases stops
      exact Or.inl ⟨rfl, rfl⟩
    · rintro (⟨-, rfl⟩ | ⟨_, found, -⟩)
      · rfl
      · cases found
  | some found =>
    constructor
    · exact fun stops => Or.inr ⟨found, rfl, stops⟩
    · rintro (⟨missing, -⟩ | ⟨_, ⟨rfl⟩, stops⟩)
      · cases missing
      · exact stops

/-- An underflow comes from behind the other checks. -/
theorem Halt.past_elsewhere (stops : (Halt.elsewhere.unless value >>= rest) = .error .underflow) :
    ∃ found, value = some found ∧ rest found = .error .underflow := by
  rcases Halt.unless_bind_eq_error.mp stops with ⟨-, different⟩ | passed
  · cases different
  · exact passed

end Halting

structure Tables where
  mcfgAddress : Nat
  madtAddress : Nat

def Tables.start : Tables where
  mcfgAddress := 0
  madtAddress := 0

/-- What the loop over the XSDT does with the address of a table. -/
def visitTable (memory : Ram) (found : Tables) (entryAddress : Nat) : Tables :=
  match fromUtf8 (ByteMemory.bytes memory entryAddress 4) with
  | some sigStr =>
    let found := if sigStr = "MCFG" then { found with mcfgAddress := entryAddress } else found
    if sigStr = "APIC" then { found with madtAddress := entryAddress } else found
  | none => found

/-- One entry of the XSDT; the signature is copied from a pointer that must not be null. -/
def scanEntry (memory : Ram) (entriesStart : Nat) (tables : Tables) (i : Nat) : Option Tables := do
  let entry ← pointerAdd 8 entriesStart i
  let entryAddress ← checkedPointer 1 (ByteMemory.read memory entry 8)
  return visitTable memory tables entryAddress

/-- The XSDT that stands in the structure at `rsdp`. -/
def xsdtAddress (memory : Ram) (rsdp : Nat) : Nat := ByteMemory.read memory (rsdp + 24) 8

def xsdtLength (memory : Ram) (rsdp : Nat) : Nat :=
  ByteMemory.read memory (xsdtAddress memory rsdp + 4) 4

def walkXsdt (memory : Ram) (rsdp : Nat) : Except Halt Tables := do
  let _ ← Halt.elsewhere.unless (checked (2 ^ 64) (rsdp + 24))
  let _ ← Halt.elsewhere.unless (checked (2 ^ 64) (xsdtAddress memory rsdp + 4))
  let entryBytes ← Halt.underflow.unless (checkedSub (xsdtLength memory rsdp) 36)
  let entriesStart ← Halt.elsewhere.unless (checked (2 ^ 64) (xsdtAddress memory rsdp + 36))
  Halt.elsewhere.unless (run (scanEntry memory entriesStart) (List.range (entryBytes / 8)) .start)

/-- The bytes that `copy_nonoverlapping` fetches. -/
def readSignature (memory : Ram) (info : BootInfo) : Option (List UInt8) := do
  let rsdpPtr ← checkedPointer 1 info.acpi2RsdpAddr
  return ByteMemory.bytes memory rsdpPtr 8

/-- The test of the signature. -/
def passes (signature : List UInt8) : Bool := (fromUtf8 signature).isSome

/-- The ACPI part of `_start`. -/
def findTables (memory : Ram) (info : BootInfo) : Except Halt (Option Tables) := do
  let signature ← Halt.elsewhere.unless (readSignature memory info)
  if passes signature then some <$> walkXsdt memory info.acpi2RsdpAddr else return none

/-- The first 8 bytes of the RSDP. -/
def signature (memory : Ram) (info : BootInfo) : List UInt8 :=
  ByteMemory.bytes memory info.acpi2RsdpAddr 8

/-- The number of entries behind the header. -/
def entryCount (memory : Ram) (rsdp : Nat) : Nat := (xsdtLength memory rsdp - 36) / 8

/-- An entry that can be addressed, and is not null. -/
structure EntryReadable (memory : Ram) (entriesStart i : Nat) : Prop where
  fits : OffsetFits 8 entriesStart i
  somewhere : ByteMemory.read memory (entriesStart + i * 8) 8 ≠ 0

instance (memory : Ram) (entriesStart i : Nat) : Decidable (EntryReadable memory entriesStart i) :=
  decidable_of_iff (OffsetFits 8 entriesStart i ∧
    ByteMemory.read memory (entriesStart + i * 8) 8 ≠ 0)
    ⟨fun both => ⟨both.1, both.2⟩, fun readable => ⟨readable.fits, readable.somewhere⟩⟩

/-- The pointer to the XSDT and its entries can be read. -/
structure TablesReadable (memory : Ram) (rsdp : Nat) : Prop where
  pointer : rsdp + 24 < 2 ^ 64
  header : xsdtAddress memory rsdp + 36 < 2 ^ 64
  entries : ∀ i < entryCount memory rsdp, EntryReadable memory (xsdtAddress memory rsdp + 36) i

variable {memory : Ram} {rsdp : Nat} {info : BootInfo}

theorem scanEntry_eq (memory : Ram) (entriesStart : Nat) (tables : Tables) (i : Nat) :
    scanEntry memory entriesStart tables i =
      if EntryReadable memory entriesStart i then
        some (visitTable memory tables (ByteMemory.read memory (entriesStart + i * 8) 8))
      else none := by
  by_cases fits : OffsetFits 8 entriesStart i
  · rw [scanEntry, pointerAdd_of_fits fits, Option.bind_eq_bind, Option.bind_some]
    by_cases null : ByteMemory.read memory (entriesStart + i * 8) 8 = 0
    · have refused : checkedPointer 1 (ByteMemory.read memory (entriesStart + i * 8) 8) = none :=
        if_neg fun here => here.1 null
      rw [refused, if_neg fun readable => readable.somewhere null]
      rfl
    · have allowed : checkedPointer 1 (ByteMemory.read memory (entriesStart + i * 8) 8) =
          some (ByteMemory.read memory (entriesStart + i * 8) 8) := if_pos ⟨null, Nat.mod_one _⟩
      rw [allowed, if_pos ⟨fits, null⟩]
      rfl
  · have beyond : pointerAdd 8 entriesStart i = none := if_neg fits
    rw [scanEntry, beyond, if_neg fun readable => fits readable.fits]
    rfl

/-- The loop reads all the entries or stops. -/
theorem scanEntries_eq (memory : Ram) (entriesStart count : Nat) (tables : Tables) :
    run (scanEntry memory entriesStart) (List.range count) tables =
      if ∀ i < count, EntryReadable memory entriesStart i then
        some ((List.range count).foldl (fun found i =>
          visitTable memory found (ByteMemory.read memory (entriesStart + i * 8) 8)) tables)
      else none := by
  rw [run_guarded (scanEntry_eq memory entriesStart)]
  simp only [List.mem_range]

/-- The length is the only subtraction. -/
theorem walkXsdt_underflow_iff : walkXsdt memory rsdp = .error .underflow ↔
    rsdp + 24 < 2 ^ 64 ∧ xsdtAddress memory rsdp + 4 < 2 ^ 64 ∧ xsdtLength memory rsdp < 36 := by
  constructor
  · intro stops
    obtain ⟨_, pointer, stops⟩ := Halt.past_elsewhere stops
    obtain ⟨_, near, stops⟩ := Halt.past_elsewhere stops
    rcases Halt.unless_bind_eq_error.mp stops with ⟨under, -⟩ | ⟨_, long, stops⟩
    · refine ⟨(checked_eq_some pointer).2, (checked_eq_some near).2, Nat.not_le.mp fun long => ?_⟩
      rw [checkedSub_of_le long] at under
      cases under
    obtain ⟨entriesStart, -, stops⟩ := Halt.past_elsewhere stops
    cases (Halt.unless_eq_error stops).2
  · rintro ⟨pointer, near, short⟩
    have under : checkedSub (xsdtLength memory rsdp) 36 = none := if_neg (Nat.not_le.mpr short)
    rw [walkXsdt, checked_of_lt pointer, checked_of_lt near, under]
    rfl

theorem walkXsdt_of_readable (long : 36 ≤ xsdtLength memory rsdp)
    (readable : TablesReadable memory rsdp) :
    walkXsdt memory rsdp = .ok ((List.range (entryCount memory rsdp)).foldl (fun found i =>
      visitTable memory found
        (ByteMemory.read memory (xsdtAddress memory rsdp + 36 + i * 8) 8)) .start) := by
  have header := readable.header
  have near : xsdtAddress memory rsdp + 4 < 2 ^ 64 := by omega
  have walked : walkXsdt memory rsdp = Halt.elsewhere.unless
      (run (scanEntry memory (xsdtAddress memory rsdp + 36))
        (List.range (entryCount memory rsdp)) .start) := by
    rw [walkXsdt, checked_of_lt readable.pointer, checked_of_lt near, checkedSub_of_le long,
      checked_of_lt header]
    rfl
  rw [walked, scanEntries_eq, if_pos readable.entries]
  rfl

/-- The walk comes to its end when the XSDT has a header and can be read, and only then. -/
theorem walkXsdt_ok_iff : (∃ tables, walkXsdt memory rsdp = .ok tables) ↔
    36 ≤ xsdtLength memory rsdp ∧ TablesReadable memory rsdp := by
  constructor
  · rintro ⟨tables, walked⟩
    obtain ⟨_, pointer, walked⟩ := Halt.unless_bind_eq_ok.mp walked
    obtain ⟨_, _, walked⟩ := Halt.unless_bind_eq_ok.mp walked
    obtain ⟨_, subtracts, walked⟩ := Halt.unless_bind_eq_ok.mp walked
    obtain ⟨_, adds, walked⟩ := Halt.unless_bind_eq_ok.mp walked
    obtain ⟨rfl, header⟩ := checked_eq_some adds
    obtain ⟨rfl, long⟩ := checkedSub_eq_some subtracts
    rw [scanEntries_eq] at walked
    split at walked
    case isTrue entries => exact ⟨long, (checked_eq_some pointer).2, header, entries⟩
    case isFalse => cases walked
  · rintro ⟨long, readable⟩
    exact ⟨_, walkXsdt_of_readable long readable⟩

section Finding

theorem readSignature_eq (memory : Ram) (info : BootInfo) : readSignature memory info =
    if info.acpi2RsdpAddr ≠ 0 then some (signature memory info) else none := by
  by_cases null : info.acpi2RsdpAddr = 0
  · have refused : checkedPointer 1 info.acpi2RsdpAddr = none := if_neg fun here => here.1 null
    rw [readSignature, refused, if_neg (not_not.mpr null)]
    rfl
  · have allowed : checkedPointer 1 info.acpi2RsdpAddr = some info.acpi2RsdpAddr :=
      if_pos ⟨null, Nat.mod_one _⟩
    rw [readSignature, allowed, if_pos null]
    rfl

theorem readSignature_eq_some {read : List UInt8} : readSignature memory info = some read ↔
    info.acpi2RsdpAddr ≠ 0 ∧ signature memory info = read := by
  rw [readSignature_eq]
  split
  case isTrue here => simp [here]
  case isFalse null => simp [null]

theorem findTables_passes (here : info.acpi2RsdpAddr ≠ 0)
    (text : passes (signature memory info) = true) :
    findTables memory info = some <$> walkXsdt memory info.acpi2RsdpAddr := by
  rw [findTables, readSignature_eq, if_pos here]
  change (if passes (signature memory info) then _ else _) = _
  rw [if_pos text]

theorem findTables_fails (here : info.acpi2RsdpAddr ≠ 0)
    (blank : passes (signature memory info) = false) : findTables memory info = .ok none := by
  rw [findTables, readSignature_eq, if_pos here]
  change (if passes (signature memory info) then _ else _) = _
  rw [blank]
  rfl

theorem findTables_null (null : info.acpi2RsdpAddr = 0) :
    findTables memory info = .error .elsewhere := by
  rw [findTables, readSignature_eq, if_neg (not_not.mpr null)]
  rfl

theorem findTables_underflow_iff : findTables memory info = .error .underflow ↔
    info.acpi2RsdpAddr ≠ 0 ∧ passes (signature memory info) = true ∧
      walkXsdt memory info.acpi2RsdpAddr = .error .underflow := by
  by_cases null : info.acpi2RsdpAddr = 0
  · rw [findTables_null null]
    exact ⟨fun stops => (by cases stops), fun walks => absurd null walks.1⟩
  cases text : passes (signature memory info) with
  | false =>
    rw [findTables_fails null text]
    exact ⟨fun stops => (by cases stops), fun walks => (by cases walks.2.1)⟩
  | true =>
    rw [findTables_passes null text]
    cases walked : walkXsdt memory info.acpi2RsdpAddr with
    | error halt =>
      constructor
      · intro stops
        cases stops
        exact ⟨null, rfl, rfl⟩
      · rintro ⟨-, -, stops⟩
        cases stops
        rfl
    | ok tables => exact ⟨fun stops => (by cases stops), fun walks => (by cases walks.2.2)⟩

/-- Start-up gets past the tables when the signature is no text or it can read them. -/
theorem findTables_ok_iff : (∃ tables, findTables memory info = .ok tables) ↔
    info.acpi2RsdpAddr ≠ 0 ∧ (passes (signature memory info) = true →
      36 ≤ xsdtLength memory info.acpi2RsdpAddr ∧ TablesReadable memory info.acpi2RsdpAddr) := by
  by_cases null : info.acpi2RsdpAddr = 0
  · rw [findTables_null null]
    exact ⟨fun ends => (by cases ends.choose_spec), fun other => absurd null other.1⟩
  cases text : passes (signature memory info) with
  | false =>
    rw [findTables_fails null text]
    exact ⟨fun _ => ⟨null, fun other => (by cases other)⟩, fun _ => ⟨none, rfl⟩⟩
  | true =>
    rw [findTables_passes null text, ← walkXsdt_ok_iff]
    cases walked : walkXsdt memory info.acpi2RsdpAddr with
    | error halt =>
      refine ⟨fun ends => (by cases ends.choose_spec), fun other => ?_⟩
      cases (other.2 rfl).choose_spec
    | ok tables => exact ⟨fun _ => ⟨null, fun _ => ⟨tables, rfl⟩⟩, fun _ => ⟨some tables, rfl⟩⟩

end Finding

end QoreOS.Startup
