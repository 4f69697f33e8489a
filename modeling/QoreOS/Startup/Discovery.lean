import QoreOS.Library.LastWrite
import QoreOS.Startup.AcpiTables
import QoreOS.Startup.MadtWalk
import QoreOS.Startup.PciScan

/-! What `_start` finds out about the machine: from the ACPI tables to the functions on the PCI bus
and the interrupt controllers. -/

namespace QoreOS.Startup

open QoreOS.Library QoreOS.Memory QoreOS.Bootloader

/-- The variables that the discovery assigns. -/
structure Discovered where
  scan : Scan
  localApicBase : Nat
  ioapicBase : Nat

/-- The bytes of the MADT, counted from its start. -/
def madtTable (memory : Ram) (madtAddress : Nat) : ByteMemory := fun cell => memory (madtAddress + cell)

/-- The walk over the MADT, watched for some turns. -/
def walkMadt (turns : Nat) (memory : Ram) (madtAddress : Nat) : Option MadtWalk :=
  let table := madtTable memory madtAddress
  match whileLoop (MadtWalk.goesOn table) (MadtWalk.turn table) turns (MadtWalk.start table) with
  | .ended walk => some walk
  | _ => none

/-- The scan over the functions, if there is an MCFG. -/
def scanDevices (memory : Ram) (space : Nat → PciFunction) (mcfgAddress : Nat) : Option Scan :=
  if mcfgAddress ≠ 0 then do
    let baseAddress ← checked (2 ^ 64) (mcfgAddress + 44)
    pcieScan space (ByteMemory.read memory baseAddress 8)
  else some .start

/-- `local_apic_base` and `ioapic_base`. The sums with `madt_address` are checked like all others. -/
def findApics (turns : Nat) (memory : Ram) (madtAddress : Nat) : Option (Nat × Nat) :=
  if madtAddress ≠ 0 then do
    let walk ← walkMadt turns memory madtAddress
    if ∀ cell ∈ walk.reads, madtAddress + cell < 2 ^ 64 then
      return (walk.localApicBase, walk.ioapicBase)
    else none
  else some (0, 0)

/-- From the RSDP to the end of the MADT; `none` if it panics or has not come to its end. -/
def discover (turns : Nat) (memory : Ram) (space : Nat → PciFunction) (info : BootInfo) :
    Option Discovered :=
  match findTables memory info with
  | .ok (some tables) => do
    let scan ← scanDevices memory space tables.mcfgAddress
    let (localApicBase, ioapicBase) ← findApics turns memory tables.madtAddress
    return { scan := scan, localApicBase := localApicBase, ioapicBase := ioapicBase }
  | .ok none => some { scan := .start, localApicBase := 0, ioapicBase := 0 }
  | .error _ => none

/-- An entry of the MADT: an I/O APIC, or of another type. -/
inductive MadtEntry where
  | ioApic (identifier reserved : UInt8) (address : UInt32) (rest : List UInt8)
      (short : rest.length < 248)
  | other (entryType : UInt8) (fields : List UInt8) (differs : entryType ≠ 1)
      (short : fields.length < 254)

namespace MadtEntry

def entryType : MadtEntry → UInt8
  | .ioApic .. => 1
  | .other entryType .. => entryType

def fields : MadtEntry → List UInt8
  | .ioApic identifier reserved address rest _ =>
    [identifier, reserved] ++ (numberBytes 4 address.toNat ++ rest)
  | .other _ fields _ _ => fields

/-- Type and length stand in front. -/
def bytes (entry : MadtEntry) : List UInt8 :=
  [entry.entryType] ++ ([UInt8.ofNat (entry.fields.length + 2)] ++ entry.fields)

def address : MadtEntry → Option Nat
  | .ioApic _ _ address _ _ => some address.toNat
  | .other .. => none

theorem fields_short (entry : MadtEntry) : entry.fields.length < 254 := by
  cases entry with
  | ioApic identifier reserved address rest short =>
    simp only [fields, List.length_append, List.length_cons, List.length_nil, numberBytes_length]
    omega
  | other entryType fields differs short => exact short

/-- An I/O APIC has its fields. -/
theorem fields_long (entry : MadtEntry) (ioapic : entry.entryType = 1) : 6 ≤ entry.fields.length := by
  cases entry with
  | ioApic identifier reserved address rest short =>
    simp only [fields, List.length_append, List.length_cons, List.length_nil, numberBytes_length]
    omega
  | other entryType fields differs short => exact absurd ioapic differs

theorem bytes_length (entry : MadtEntry) : entry.bytes.length = entry.fields.length + 2 := by
  simp [bytes]

end MadtEntry

/-- The bytes of a list of entries. -/
def madtBytes (entries : List MadtEntry) : List UInt8 := entries.flatMap MadtEntry.bytes

/-- A table to which the XSDT may lead, as the firmware lays it out. -/
inductive SystemTable where
  | mcfg (header : Vector UInt8 40) (base : UInt64) (rest : List UInt8)
  | madt (header : Vector UInt8 28) (localApic flags : UInt32) (entries : List MadtEntry)
      (short : 44 + (madtBytes entries).length < 2 ^ 32)
  | other (bytes : List UInt8) (long : 4 ≤ bytes.length) (notMcfg : bytes.take 4 ≠ utf8 "MCFG")
      (notMadt : bytes.take 4 ≠ utf8 "APIC")

namespace SystemTable

def bytes : SystemTable → List UInt8
  | .mcfg header base rest => utf8 "MCFG" ++ (header.toList ++ (numberBytes 8 base.toNat ++ rest))
  | .madt header localApic flags entries _ =>
    utf8 "APIC" ++ (numberBytes 4 (44 + (madtBytes entries).length) ++ (header.toList ++
      (numberBytes 4 localApic.toNat ++ (numberBytes 4 flags.toNat ++ madtBytes entries))))
  | .other bytes _ _ _ => bytes

/-- The base of the configuration space. -/
def pcieBase : SystemTable → Option Nat
  | .mcfg _ base _ => some base.toNat
  | _ => none

/-- The local APICs' address, and the entries behind it. -/
def apics : SystemTable → Option (Nat × List MadtEntry)
  | .madt _ localApic _ entries _ => some (localApic.toNat, entries)
  | _ => none

end SystemTable

/-- The firmware has laid out an XSDT with these tables. -/
structure HoldsTables (memory : Ram) (info : BootInfo) (xsdt : Nat)
    (tables : List (Nat × SystemTable)) : Prop where
  signature : ByteMemory.Holds memory info.acpi2RsdpAddr (utf8 "RSD PTR ")
  rsdp : info.acpi2RsdpAddr ≠ 0 ∧ info.acpi2RsdpAddr + 24 < 2 ^ 64
  pointer : ByteMemory.read memory (info.acpi2RsdpAddr + 24) 8 = xsdt
  length : ByteMemory.read memory (xsdt + 4) 4 = 36 + 8 * tables.length
  room : xsdt + 36 + 8 * tables.length < 2 ^ 64
  pointers : ∀ i (inside : i < tables.length),
    ByteMemory.read memory (xsdt + 36 + i * 8) 8 = (tables[i]).1
  somewhere : ∀ place ∈ tables, place.1 ≠ 0 ∧ place.1 + place.2.bytes.length ≤ 2 ^ 64
  stored : ∀ place ∈ tables, ByteMemory.Holds memory place.1 place.2.bytes

section Madt

variable {table : ByteMemory}

/-- What a turn does with an entry. -/
theorem turn_entry {walk : MadtWalk} (entry : MadtEntry) (holds : table.Holds walk.offset entry.bytes)
    (bounded : walk.offset + entry.bytes.length < 2 ^ 32) : ∃ next,
    MadtWalk.turn table walk = some next ∧ next.offset = walk.offset + entry.bytes.length ∧
      (∀ cell ∈ next.reads, cell ∈ walk.reads ∨ cell < walk.offset + entry.bytes.length) ∧
      next.localApicBase = walk.localApicBase ∧
      next.ioapicBase = entry.address.getD walk.ioapicBase := by
  obtain ⟨kind, behind⟩ := ByteMemory.holds_append.mp holds
  obtain ⟨length, fields⟩ := ByteMemory.holds_append.mp behind
  have type : MadtWalk.entryType table walk.offset = entry.entryType.toNat := kind.read
  have len : MadtWalk.entryLen table walk.offset = entry.bytes.length := by
    have short := entry.fields_short
    rw [entry.bytes_length]
    refine length.read.trans ?_
    change (UInt8.ofNat _).toNat + 256 * 0 = _
    rw [UInt8.toNat_ofNat']
    omega
  refine ⟨_, MadtWalk.turn_of_lt (len ▸ bounded), by rw [len], fun cell member => ?_, ?_⟩
  · have header := entry.bytes_length
    rcases MadtWalk.mem_readEntry.mp member with before | rfl | rfl | ⟨ioapic, -, last⟩
    · exact Or.inl before
    · exact Or.inr (by omega)
    · exact Or.inr (by omega)
    · have field := entry.fields_long (UInt8.toNat_inj.mp (type.symm.trans ioapic))
      exact Or.inr (by omega)
  cases entry with
  | ioApic identifier reserved address rest short =>
    obtain ⟨-, number⟩ := ByteMemory.holds_append.mp fields
    obtain ⟨number, -⟩ := ByteMemory.holds_append.mp number
    have read : table.read (walk.offset + 4) 4 = address.toNat := number.read_number address.toNat_lt
    have ioapic : MadtWalk.entryType table walk.offset = 1 := type
    simp only [MadtWalk.readEntry, MadtWalk.after, ioapic, if_true, read]
    exact ⟨trivial, rfl⟩
  | other entryType fields differs short =>
    have other : MadtWalk.entryType table walk.offset ≠ 1 := by
      rw [type]
      exact fun same => differs (UInt8.toNat_inj.mp same)
    simp only [MadtWalk.readEntry, MadtWalk.after, other, if_false]
    exact ⟨trivial, rfl⟩

/-- The walk goes through all the entries. -/
theorem walk_entries {entries : List MadtEntry} {walk : MadtWalk}
    (holds : table.Holds walk.offset (madtBytes entries))
    (length : MadtWalk.madtLength table = walk.offset + (madtBytes entries).length)
    (bounded : MadtWalk.madtLength table < 2 ^ 32) : ∃ final,
    Ends (MadtWalk.goesOn table) (MadtWalk.turn table) walk final ∧
      (∀ cell ∈ final.reads, cell ∈ walk.reads ∨ cell < MadtWalk.madtLength table) ∧
      final.localApicBase = walk.localApicBase ∧
      final.ioapicBase = (lastWrite MadtEntry.address entries).getD walk.ioapicBase := by
  induction entries generalizing walk with
  | nil =>
    refine ⟨walk, ends_of_false (MadtWalk.goesOn_eq_false.mpr (Nat.le_of_eq ?_)),
      fun _ => Or.inl, rfl, rfl⟩
    simpa [madtBytes] using length
  | cons entry entries ih =>
    have bytes : madtBytes (entry :: entries) = entry.bytes ++ madtBytes entries :=
      List.flatMap_cons
    rw [bytes, ByteMemory.holds_append] at holds
    rw [bytes, List.length_append] at length
    have positive := entry.bytes_length
    obtain ⟨next, turned, offset, reads, localApic, ioapic⟩ := turn_entry entry holds.1 (by omega)
    obtain ⟨final, ends, later, localBase, ioBase⟩ := ih (by rw [offset]; exact holds.2) (by omega)
    refine ⟨final, ends_of_turn (MadtWalk.goesOn_iff.mpr (by omega)) turned ends,
      fun cell member => ?_, localBase.trans localApic, ?_⟩
    · rcases later cell member with before | inside
      · exact (reads cell before).imp_right fun early => by omega
      · exact Or.inr inside
    · rw [ioBase, ioapic, lastWrite_cons_getD]

end Madt

section Tables

variable {memory : Ram} {info : BootInfo} {xsdt : Nat} {tables : List (Nat × SystemTable)}

/-- A table with its address, if it is an MCFG. -/
def mcfgAt (place : Nat × SystemTable) : Option (Nat × Nat) :=
  place.2.pcieBase.map fun base => (place.1, base)

def madtAt (place : Nat × SystemTable) : Option (Nat × Nat × List MadtEntry) :=
  place.2.apics.map fun apics => (place.1, apics)

theorem holds_signature {address : Nat} {data : List UInt8} (long : 4 ≤ data.length)
    (holds : ByteMemory.Holds memory address data) :
    ByteMemory.bytes memory address 4 = data.take 4 := by
  have split : data = data.take 4 ++ data.drop 4 := (List.take_append_drop 4 data).symm
  rw [split] at holds
  have front := (ByteMemory.holds_append.mp holds).1
  rwa [ByteMemory.Holds, List.length_take_of_le long] at front

theorem visitTable_writes {place : Nat × SystemTable} (found : Tables)
    (holds : ByteMemory.Holds memory place.1 place.2.bytes) :
    (visitTable memory found place.1).mcfgAddress =
        ((mcfgAt place).map Prod.fst).getD found.mcfgAddress ∧
      (visitTable memory found place.1).madtAddress =
        ((madtAt place).map Prod.fst).getD found.madtAddress := by
  obtain ⟨address, table⟩ := place
  cases table with
  | mcfg header base rest =>
    have signature : ByteMemory.bytes memory address 4 = utf8 "MCFG" :=
      (ByteMemory.holds_append.mp holds).1
    have text : fromUtf8 (utf8 "MCFG") = some "MCFG" := by decide
    simp only [visitTable, signature, text]
    exact ⟨rfl, rfl⟩
  | madt header localApic flags entries short =>
    have signature : ByteMemory.bytes memory address 4 = utf8 "APIC" :=
      (ByteMemory.holds_append.mp holds).1
    have text : fromUtf8 (utf8 "APIC") = some "APIC" := by decide
    simp only [visitTable, signature, text]
    exact ⟨rfl, rfl⟩
  | other bytes long notMcfg notMadt =>
    have signature : ByteMemory.bytes memory address 4 = bytes.take 4 :=
      holds_signature long holds
    rw [visitTable, signature]
    cases text : fromUtf8 (bytes.take 4) with
    | none => exact ⟨rfl, rfl⟩
    | some sigStr =>
      have same := utf8_fromUtf8 text
      have mcfg : sigStr ≠ "MCFG" := fun name => notMcfg (name ▸ same.symm)
      have madt : sigStr ≠ "APIC" := fun name => notMadt (name ▸ same.symm)
      simp only [mcfg, madt, if_false]
      exact ⟨rfl, rfl⟩

/-- The entries of the XSDT are the addresses of the tables. -/
theorem walk_places (holds : HoldsTables memory info xsdt tables) (found : Tables) :
    (List.range tables.length).foldl (fun found i => visitTable memory found
        (ByteMemory.read memory (xsdt + 36 + i * 8) 8)) found =
      tables.foldl (fun found place => visitTable memory found place.1) found := by
  have addresses : (List.range tables.length).map (fun i =>
      ByteMemory.read memory (xsdt + 36 + i * 8) 8) = tables.map Prod.fst := by
    apply List.ext_getElem
    · simp
    · intro i _ inside
      simpa using holds.pointers i (by simpa using inside)
  rw [← List.foldl_map, addresses, List.foldl_map]

/-- The kernel ends up with the last MCFG and the last MADT. -/
theorem findTables_last (holds : HoldsTables memory info xsdt tables) : ∃ found,
    findTables memory info = .ok (some found) ∧
      found.mcfgAddress = ((lastWrite mcfgAt tables).map Prod.fst).getD 0 ∧
      found.madtAddress = ((lastWrite madtAt tables).map Prod.fst).getD 0 := by
  have signature : signature memory info = utf8 "RSD PTR " := holds.signature
  have text : passes (Startup.signature memory info) = true := by
    rw [signature]
    decide
  have address : xsdtAddress memory info.acpi2RsdpAddr = xsdt := holds.pointer
  have length : xsdtLength memory info.acpi2RsdpAddr = 36 + 8 * tables.length := by
    rw [xsdtLength, address, holds.length]
  have room := holds.room
  have small : 36 + 8 * tables.length < 256 ^ 4 := by
    have bound := littleEndian_lt (ByteMemory.bytes memory (xsdt + 4) 4)
    rw [ByteMemory.bytes_length] at bound
    exact holds.length ▸ bound
  have entries : entryCount memory info.acpi2RsdpAddr = tables.length := by
    rw [entryCount, length]
    omega
  refine ⟨tables.foldl (fun found place => visitTable memory found place.1) .start, ?_, ?_, ?_⟩
  · have readable : TablesReadable memory info.acpi2RsdpAddr := by
      refine ⟨holds.rsdp.2, by omega, fun i inside => ?_⟩
      rw [entries] at inside
      rw [address]
      refine ⟨⟨by omega, by omega⟩, ?_⟩
      rw [holds.pointers i inside]
      exact (holds.somewhere _ (List.getElem_mem inside)).1
    rw [findTables_passes holds.rsdp.1 text, walkXsdt_of_readable (by omega) readable, entries,
      address, walk_places holds, Except.map_ok]
  · rw [← lastWrite_map]
    exact foldl_lastWrite Tables.mcfgAddress
      (fun place member found => (visitTable_writes found (holds.stored place member)).1) .start
  · rw [← lastWrite_map]
    exact foldl_lastWrite Tables.madtAddress
      (fun place member found => (visitTable_writes found (holds.stored place member)).2) .start

end Tables

section Bus

variable {space : Nat → PciFunction} {scan last : Scan} {pciAddr pcieBaseAddr : Nat}

/-- The functions whose memory and bus mastering the scan enables. -/
def Driven (function : PciFunction) : Prop :=
  DeviceClass.e1000.Fits function ∨ DeviceClass.nvme.Fits function ∨ DeviceClass.hda.Fits function

instance (function : PciFunction) : Decidable (Driven function) :=
  inferInstanceAs (Decidable (_ ∨ _ ∨ _))

/-- The write to the command register of a function. -/
def enabling (space : Nat → PciFunction) (pciAddr : Nat) : Option (Nat × UInt16) :=
  if Driven (space pciAddr) then some (pciAddr + 0x04, busMaster (space pciAddr).cmd) else none

/-- The base that the scan takes from a function of a class. -/
def DeviceClass.found (kind : DeviceClass) (space : Nat → PciFunction) (pciAddr : Nat) :
    Option UInt64 :=
  if kind.Fits (space pciAddr) then some (kind.derived (space pciAddr)) else none

theorem visit_commands (scan : Scan) (pciAddr : Nat) (function : PciFunction)
    (present : function.vendorId ≠ 0xFFFF) :
    (scan.visit pciAddr function).commands = scan.commands ++
      if Driven function then [(pciAddr + 0x04, busMaster function.cmd)] else [] := by
  simp only [Driven, DeviceClass.Fits, present, ne_eq, not_false_eq_true, true_and]
  -- the classes exclude each other, so no function is enabled twice
  by_cases e1000 : function.classCode = 0x02 ∧ function.subclass = 0x00
  · simp only [Scan.visit, e1000.1, e1000.2]
    rfl
  by_cases nvme : function.classCode = 0x01 ∧ function.subclass = 0x08
  · simp only [Scan.visit, nvme.1, nvme.2]
    rfl
  by_cases hda : function.classCode = 0x04 ∧ function.subclass = 0x03
  · simp only [Scan.visit, hda.1, hda.2]
    rfl
  simp only [Scan.visit, e1000, nvme, hda, if_false, or_self, List.append_nil]
  split <;> rfl

theorem scanFunction_commands (step : scanFunction space scan pciAddr = some last) :
    last.commands = scan.commands ++ (enabling space pciAddr).toList := by
  rw [scanFunction_eq_some step]
  by_cases absent : (space pciAddr).vendorId = 0xFFFF
  · have idle : ¬ Driven (space pciAddr) := by
      rintro (found | found | found) <;> exact found.1 absent
    rw [if_pos absent, enabling, if_neg idle, Option.toList_none, List.append_nil]
  · rw [if_neg absent, visit_commands scan pciAddr _ absent, enabling]
    split <;> rfl

theorem scan_commands {addresses : List Nat}
    (ran : addresses.foldlM (scanFunction space) scan = some last) :
    last.commands = scan.commands ++ addresses.filterMap (enabling space) := by
  induction addresses generalizing scan with
  | nil =>
    rw [← Option.some.inj ran]
    exact (List.append_nil _).symm
  | cons pciAddr addresses ih =>
    rw [List.foldlM_cons] at ran
    obtain ⟨next, stepped, rest⟩ := Option.bind_eq_some_iff.mp ran
    rw [ih rest, scanFunction_commands stepped, List.append_assoc]
    congr 1
    cases enabled : enabling space pciAddr <;> simp [enabled]

/-- A configuration space that ends below 2^64, and whose registers are aligned as they should be. -/
structure SpaceFits (pcieBaseAddr : Nat) : Prop where
  somewhere : pcieBaseAddr ≠ 0
  aligned : pcieBaseAddr % 4 = 0
  below : pcieBaseAddr + 2 ^ 28 ≤ 2 ^ 64

/-- The registers of a function lie in its page, each at a multiple of its size. -/
theorem mem_accesses {function : PciFunction} {access : Nat × Nat}
    (member : access ∈ function.accesses) :
    access.1 < 4096 ∧ access.1 % access.2 = 0 ∧ 4 % access.2 = 0 := by
  have registers : access = (0x0B, 1) ∨ access = (0x0A, 1) ∨ access = (0x09, 1) ∨
      access = (0x10, 4) ∨ access = (0x14, 4) ∨ access = (0x04, 2) := by
    simp only [PciFunction.accesses, List.mem_append, List.mem_ite_nil_right, List.mem_cons,
      List.not_mem_nil, or_false] at member
    tauto
  rcases registers with rfl | rfl | rfl | rfl | rfl | rfl <;> decide

/-- The scan of a space that fits does not panic. -/
theorem pcieScan_total (space : Nat → PciFunction) (fits : SpaceFits pcieBaseAddr) :
    ∃ scan, pcieScan space pcieBaseAddr = some scan := by
  obtain ⟨somewhere, aligned, below⟩ := fits
  have inside : ∀ pciAddr ∈ pciAddresses pcieBaseAddr,
      pciAddr ≠ 0 ∧ pciAddr % 4 = 0 ∧ pciAddr + 4096 ≤ 2 ^ 64 := by
    intro pciAddr member
    simp only [pciAddresses, List.mem_flatMap, List.mem_map, List.mem_range] at member
    obtain ⟨bus, busSmall, device, deviceSmall, function, functionSmall, rfl⟩ := member
    simp only [Nat.shiftLeft_eq]
    omega
  have steps : ∀ (scan : Scan) (pciAddr : Nat), True →
      pciAddr ≠ 0 ∧ pciAddr % 4 = 0 ∧ pciAddr + 4096 ≤ 2 ^ 64 →
      ∃ next, scanFunction space scan pciAddr = some next ∧ True := by
    intro scan pciAddr _ ⟨nonzero, even, low⟩
    have vendor : Accessible 2 pciAddr := ⟨by omega, nonzero, by omega⟩
    have registers : ∀ access ∈ (space pciAddr).accesses,
        Accessible access.2 (pciAddr + access.1) := by
      intro access member
      obtain ⟨small, multiple, size⟩ := mem_accesses member
      refine ⟨by omega, by omega, ?_⟩
      have whole : access.2 ∣ pciAddr :=
        (Nat.dvd_of_mod_eq_zero size).trans (Nat.dvd_of_mod_eq_zero even)
      exact Nat.mod_eq_zero_of_dvd (Nat.dvd_add whole (Nat.dvd_of_mod_eq_zero multiple))
    rw [scanFunction, if_pos vendor, if_pos registers]
    split <;> exact ⟨_, rfl, trivial⟩
  obtain ⟨scan, ran, -⟩ := run_invariant steps (pciAddresses pcieBaseAddr) inside trivial
  exact ⟨scan, ran⟩

/-- What the scan leaves behind. -/
theorem pcieScan_finds {scan : Scan} (ran : pcieScan space pcieBaseAddr = some scan) :
    (∀ kind : DeviceClass,
      scan.base kind = lastWrite (kind.found space) (pciAddresses pcieBaseAddr)) ∧
    scan.commands = (pciAddresses pcieBaseAddr).filterMap (enabling space) := by
  refine ⟨fun kind => ?_, scan_commands ran⟩
  have turn : ∀ pciAddr scan next, scanFunction space scan pciAddr = some next →
      next.base kind = ((kind.found space pciAddr).map some).getD (scan.base kind) := by
    intro pciAddr scan next step
    rw [scanFunction_base step, DeviceClass.found]
    split <;> rfl
  rw [foldlM_lastWrite (fun scan : Scan => scan.base kind)
    (fun pciAddr => (kind.found space pciAddr).map some) turn ran, lastWrite_map]
  cases kind <;> cases lastWrite _ _ <;> rfl

end Bus

/-- The functions that the scan comes to. -/
def busFunctions (tables : List (Nat × SystemTable)) : List Nat :=
  match lastWrite (fun place => place.2.pcieBase) tables with
  | some base => pciAddresses base
  | none => []

/-- The local APICs and the I/O APICs of the last MADT. -/
def lastApics (tables : List (Nat × SystemTable)) : Option (Nat × List MadtEntry) :=
  lastWrite (fun place => place.2.apics) tables

section Finding

variable {memory : Ram} {info : BootInfo} {xsdt : Nat} {tables : List (Nat × SystemTable)}

theorem scanDevices_finds (holds : HoldsTables memory info xsdt tables)
    (room : ∀ base, lastWrite (fun place => place.2.pcieBase) tables = some base → SpaceFits base)
    (space : Nat → PciFunction) :
    ∃ scan, scanDevices memory space (((lastWrite mcfgAt tables).map Prod.fst).getD 0) = some scan ∧
      (∀ kind : DeviceClass, scan.base kind = lastWrite (kind.found space) (busFunctions tables)) ∧
      scan.commands = (busFunctions tables).filterMap (enabling space) := by
  have bases : lastWrite (fun place => place.2.pcieBase) tables =
      (lastWrite mcfgAt tables).map Prod.snd := by
    rw [← lastWrite_map]
    congr
    funext place
    simp [mcfgAt, Function.comp_def]
  cases last : lastWrite mcfgAt tables with
  | none =>
    rw [last] at bases
    refine ⟨.start, rfl, fun kind => ?_, ?_⟩
    · rw [busFunctions, bases]
      cases kind <;> rfl
    · rw [busFunctions, bases]
      rfl
  | some place =>
    obtain ⟨address, base⟩ := place
    rw [last] at bases
    obtain ⟨place, member, here⟩ := mem_of_lastWrite last
    obtain ⟨start, table⟩ := place
    obtain ⟨nonzero, inside⟩ := holds.somewhere _ member
    have stored := holds.stored _ member
    cases table with
    | mcfg header pcieBase rest =>
      obtain ⟨rfl, rfl⟩ := Prod.mk.inj (Option.some.inj here)
      obtain ⟨-, stored⟩ := ByteMemory.holds_append.mp stored
      obtain ⟨-, stored⟩ := ByteMemory.holds_append.mp stored
      obtain ⟨number, -⟩ := ByteMemory.holds_append.mp stored
      have offset : start + (utf8 "MCFG").length + header.toList.length = start + 44 := by
        rw [Vector.length_toList]
        rfl
      rw [offset] at number
      have length : 52 ≤ (SystemTable.mcfg header pcieBase rest).bytes.length := by
        simp only [SystemTable.bytes, List.length_append, Vector.length_toList, numberBytes_length]
        have name : (utf8 "MCFG").length = 4 := rfl
        omega
      obtain ⟨scan, ran⟩ := pcieScan_total space (room _ bases)
      refine ⟨scan, ?_, ?_⟩
      · have read := number.read_number pcieBase.toNat_lt
        rw [Option.map_some, Option.getD_some, scanDevices, if_pos nonzero,
          checked_of_lt (by dsimp only at inside; omega)]
        dsimp only [Option.bind_eq_bind, Option.bind_some]
        rw [read, ran]
      · rw [busFunctions, bases]
        exact pcieScan_finds ran
    | madt header localApic flags entries short => cases here
    | other bytes long notMcfg notMadt => cases here

/-- The MADT's own addresses. -/
theorem holds_madtTable {memory : Ram} {address offset : Nat} {data : List UInt8} :
    (madtTable memory address).Holds offset data ↔
      ByteMemory.Holds memory (address + offset) data := by
  simp only [ByteMemory.Holds, ByteMemory.bytes, madtTable, Nat.add_assoc]

theorem findApics_finds (holds : HoldsTables memory info xsdt tables) : ∃ turns,
    findApics turns memory (((lastWrite madtAt tables).map Prod.fst).getD 0) =
      some (((lastApics tables).map Prod.fst).getD 0,
        ((lastApics tables).bind fun apics => lastWrite MadtEntry.address apics.2).getD 0) := by
  have apics : lastApics tables = (lastWrite madtAt tables).map Prod.snd := by
    rw [lastApics, ← lastWrite_map]
    congr
    funext place
    simp [madtAt, Function.comp_def]
  cases last : lastWrite madtAt tables with
  | none =>
    rw [apics, last]
    exact ⟨0, rfl⟩
  | some place =>
    obtain ⟨address, localBase, entries⟩ := place
    rw [last] at apics
    obtain ⟨place, member, here⟩ := mem_of_lastWrite last
    obtain ⟨start, table⟩ := place
    obtain ⟨nonzero, inside⟩ := holds.somewhere _ member
    have stored := holds.stored _ member
    cases table with
    | mcfg header pcieBase rest => cases here
    | other bytes long notMcfg notMadt => cases here
    | madt header localApic flags others short =>
      cases here
      obtain ⟨-, stored⟩ := ByteMemory.holds_append.mp stored
      obtain ⟨length, stored⟩ := ByteMemory.holds_append.mp stored
      obtain ⟨-, stored⟩ := ByteMemory.holds_append.mp stored
      obtain ⟨base, stored⟩ := ByteMemory.holds_append.mp stored
      obtain ⟨-, stored⟩ := ByteMemory.holds_append.mp stored
      have name : (utf8 "APIC").length = 4 := rfl
      rw [name] at length base stored
      rw [numberBytes_length, Vector.length_toList] at base stored
      rw [numberBytes_length, numberBytes_length] at stored
      have length : MadtWalk.madtLength (madtTable memory start) = 44 + (madtBytes entries).length :=
        (holds_madtTable.mpr length).read_number short
      have base : (madtTable memory start).read 0x24 4 = localApic.toNat :=
        (holds_madtTable.mpr base).read_number localApic.toNat_lt
      have entered : (madtTable memory start).Holds (MadtWalk.start (madtTable memory start)).offset
          (madtBytes entries) := holds_madtTable.mpr stored
      obtain ⟨final, ⟨turns, ended⟩, reads, localBase, ioBase⟩ :=
        walk_entries entered length (length ▸ short)
      have whole : (SystemTable.madt header localApic flags entries short).bytes.length =
          44 + (madtBytes entries).length := by
        simp only [SystemTable.bytes, List.length_append, Vector.length_toList, numberBytes_length,
          name]
        omega
      have addressed : ∀ cell ∈ final.reads, start + cell < 2 ^ 64 := by
        intro cell member
        have small : cell < 44 + (madtBytes entries).length := by
          rcases reads cell member with first | behind
          · simp only [MadtWalk.start, MadtWalk.after, List.mem_append, List.mem_range'_1,
              List.not_mem_nil, false_or] at first
            omega
          · exact length ▸ behind
        dsimp only at inside
        omega
      refine ⟨turns, ?_⟩
      rw [Option.map_some, Option.getD_some, findApics, if_pos nonzero, walkMadt, ended, apics]
      change (if ∀ cell ∈ final.reads, start + cell < 2 ^ 64 then
        some (final.localApicBase, final.ioapicBase) else none) = _
      rw [if_pos addressed, localBase, ioBase]
      exact congrArg some (Prod.ext base rfl)

/-- From well-formed tables on, the discovery comes to its end without a panic of the debug build.
The device of each class is the last one on the bus of the last MCFG, the interrupt controllers are those of the last
MADT, and of the configuration space only the command registers of the network, storage and audio
functions are written, each once. -/
theorem discover_finds (holds : HoldsTables memory info xsdt tables)
    (room : ∀ base, lastWrite (fun place => place.2.pcieBase) tables = some base → SpaceFits base)
    (space : Nat → PciFunction) :
    ∃ turns found, discover turns memory space info = some found ∧
      (∀ kind : DeviceClass,
        found.scan.base kind = lastWrite (kind.found space) (busFunctions tables)) ∧
      found.scan.commands = (busFunctions tables).filterMap (enabling space) ∧
      found.localApicBase = ((lastApics tables).map Prod.fst).getD 0 ∧
      found.ioapicBase =
        ((lastApics tables).bind fun apics => lastWrite MadtEntry.address apics.2).getD 0 := by
  obtain ⟨addresses, walked, mcfg, madt⟩ := findTables_last holds
  obtain ⟨scan, scanned, bases, commands⟩ := scanDevices_finds holds room space
  obtain ⟨turns, apics⟩ := findApics_finds holds
  refine ⟨turns, ⟨scan, _, _⟩, ?_, bases, commands, rfl, rfl⟩
  rw [discover, walked]
  dsimp only
  rw [mcfg, madt, scanned, apics]
  rfl

end Finding

/-- An MCFG and a MADT with one I/O APIC. -/
private def twoTables : List (Nat × SystemTable) :=
  [(0x1054, .mcfg (Vector.replicate 40 0) 0xB0000000 []),
    (0x1088, .madt (Vector.replicate 28 0) 0xFEE00000 1 [.ioApic 2 0 0xFEC00000 [0, 0, 0, 0] (by decide)]
      (by decide))]

/-- The root pointer, the XSDT and the two tables, one behind the other. -/
private def twoTablesImage : Ram := fun cell =>
  let pointer := utf8 "RSD PTR " ++ List.replicate 16 0 ++ numberBytes 8 0x1020
  let xsdt := utf8 "XSDT" ++ numberBytes 4 52 ++ List.replicate 28 0 ++ numberBytes 8 0x1054 ++
    numberBytes 8 0x1088
  (pointer ++ xsdt ++ twoTables.flatMap (·.2.bytes)).getD (cell - 0x1000) 0

private def twoTablesInfo : BootInfo where
  framebufferBase := 0
  framebufferSize := 0
  width := 0
  height := 0
  stride := 0
  memoryMapSize := 0
  acpi2RsdpAddr := 0x1000
  memoryMapAddr := 0
  memoryMapDescSize := 0

/-- An NVMe controller in slot 3 of bus 0. -/
private def slotThree (pciAddr : Nat) : PciFunction where
  vendorId := if pciAddr = 0xB0018000 then 0x1B36 else 0xFFFF
  cmd := 0
  progIf := 2
  subclass := 0x08
  classCode := 0x01
  bar0Raw := 0xFEBF0004
  bar1Raw := 0

/-- The two interrupt controllers and the drive. -/
theorem discover_finds_twoTables :
    ∃ turns found, discover turns twoTablesImage slotThree twoTablesInfo = some found ∧
      found.localApicBase = 0xFEE00000 ∧ found.ioapicBase = 0xFEC00000 ∧
      found.scan.base .nvme =
        lastWrite (DeviceClass.nvme.found slotThree) (pciAddresses 0xB0000000) := by
  have holds : HoldsTables twoTablesImage twoTablesInfo 0x1020 twoTables := by
    refine ⟨by decide +kernel, by decide, by decide +kernel, by decide +kernel, by decide, ?_,
      by decide +kernel, by decide +kernel⟩
    intro i inside
    have pointers : ByteMemory.read twoTablesImage (0x1020 + 36 + 0 * 8) 8 = 0x1054 ∧
        ByteMemory.read twoTablesImage (0x1020 + 36 + 1 * 8) 8 = 0x1088 := by decide +kernel
    match i, inside with
    | 0, _ => exact pointers.1
    | 1, _ => exact pointers.2
  have room : ∀ base, lastWrite (fun place => place.2.pcieBase) twoTables = some base →
      SpaceFits base := by
    intro base last
    obtain rfl : 0xB0000000 = base := Option.some.inj last
    exact ⟨by decide, by decide, by decide⟩
  obtain ⟨turns, found, ends, bases, -, localBase, ioBase⟩ := discover_finds holds room slotThree
  exact ⟨turns, found, ends, localBase, ioBase, bases .nvme⟩

end QoreOS.Startup
