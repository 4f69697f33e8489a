import QoreOS.Library.Bytes

/-! The walk over the PCI bus in `_start`: the base address that each class of device
gets, and what its registers mean. -/

namespace QoreOS.Startup

open QoreOS.Library

/-- What the scan reads of the configuration space of one function. -/
structure PciFunction where
  vendorId : UInt16
  cmd : UInt16
  progIf : UInt8
  subclass : UInt8
  classCode : UInt8
  bar0Raw : UInt32
  bar1Raw : UInt32

/-- `(bar0_raw & 0xFFFFFFF0) as u64` -/
def lowBase (bar0Raw : UInt32) : UInt64 := (bar0Raw &&& 0xFFFFFFF0).toUInt64

/-- The base by the type field. -/
def typedBase (bar0Raw bar1Raw : UInt32) : UInt64 :=
  let barType := bar0Raw >>> 1 &&& 0x03
  if barType = 2 then bar1Raw.toUInt64 <<< 32 ||| lowBase bar0Raw else lowBase bar0Raw

/-- Memory space and bus mastering are enabled. -/
def busMaster (cmd : UInt16) : UInt16 := cmd ||| ((1 : UInt16) <<< 1 ||| (1 : UInt16) <<< 2)

namespace PciFunction

def e1000Bar0 (function : PciFunction) : UInt64 := lowBase function.bar0Raw

def nvmeBar0 (function : PciFunction) : UInt64 := typedBase function.bar0Raw function.bar1Raw

def hdaBar0 (function : PciFunction) : UInt64 := typedBase function.bar0Raw function.bar1Raw

def xhciBar0 (function : PciFunction) : UInt64 := lowBase function.bar0Raw

end PciFunction

/-- The variables that the scan assigns, and the command registers it has written. -/
structure Scan where
  e1000Bar0 : Option UInt64
  nvmeFound : Bool
  nvmeBar0 : UInt64
  hdaFound : Bool
  hdaBar0 : UInt64
  xhciFound : Bool
  xhciBar0 : UInt64
  commands : List (Nat × UInt16)

def Scan.start : Scan where
  e1000Bar0 := none
  nvmeFound := false
  nvmeBar0 := 0
  hdaFound := false
  hdaBar0 := 0
  xhciFound := false
  xhciBar0 := 0
  commands := []

/-- The visit of one function that is there. -/
def Scan.visit (scan : Scan) (pciAddr : Nat) (function : PciFunction) : Scan :=
  let enabled := (pciAddr + 0x04, busMaster function.cmd)
  let scan :=
    if function.classCode = 0x02 ∧ function.subclass = 0x00 then
      { scan with e1000Bar0 := some function.e1000Bar0, commands := scan.commands ++ [enabled] }
    else scan
  let scan :=
    if function.classCode = 0x01 ∧ function.subclass = 0x08 then
      { scan with
        nvmeFound := true
        nvmeBar0 := function.nvmeBar0
        commands := scan.commands ++ [enabled] }
    else scan
  let scan :=
    if function.classCode = 0x04 ∧ function.subclass = 0x03 then
      { scan with
        hdaFound := true
        hdaBar0 := function.hdaBar0
        commands := scan.commands ++ [enabled] }
    else scan
  if function.classCode = 0x0C ∧ function.subclass = 0x03 ∧ function.progIf = 0x30 then
    { scan with xhciFound := true, xhciBar0 := function.xhciBar0 }
  else scan

/-- `pcie_base_addr + (bus << 20) + (device << 15) + (function << 12)` for all of them. -/
def pciAddresses (pcieBaseAddr : Nat) : List Nat :=
  (List.range 256).flatMap fun bus =>
    (List.range 32).flatMap fun device =>
      (List.range 8).map fun function =>
        pcieBaseAddr + bus <<< 20 + device <<< 15 + function <<< 12

/-- The accesses to the space of a function that is there, each with its offset and its size. -/
def PciFunction.accesses (function : PciFunction) : List (Nat × Nat) :=
  let typed := [(0x10, 4)] ++
    (if function.bar0Raw >>> 1 &&& 0x03 = 2 then [(0x14, 4)] else []) ++ [(0x04, 2)]
  [(0x0B, 1), (0x0A, 1), (0x09, 1)] ++
    (if function.classCode = 0x02 ∧ function.subclass = 0x00 then [(0x10, 4), (0x04, 2)] else []) ++
    (if function.classCode = 0x01 ∧ function.subclass = 0x08 then typed else []) ++
    (if function.classCode = 0x04 ∧ function.subclass = 0x03 then typed else []) ++
    if function.classCode = 0x0C ∧ function.subclass = 0x03 ∧ function.progIf = 0x30 then [(0x10, 4)]
    else []

/-- One function; the first access is that to the vendor. -/
def scanFunction (space : Nat → PciFunction) (scan : Scan) (pciAddr : Nat) : Option Scan :=
  let function := space pciAddr
  if Accessible 2 pciAddr then
    if function.vendorId = 0xFFFF then some scan
    else if ∀ access ∈ function.accesses, Accessible access.2 (pciAddr + access.1) then
      some (scan.visit pciAddr function)
    else none
  else none

/-- The scan of the space that the MCFG table names. -/
def pcieScan (space : Nat → PciFunction) (pcieBaseAddr : Nat) : Option Scan :=
  (pciAddresses pcieBaseAddr).foldlM (scanFunction space) Scan.start

/-- The kinds of device that the scan looks for. -/
inductive DeviceClass where
  | e1000
  | nvme
  | hda
  | xhci
  deriving DecidableEq

/-- The function is there and of the class. -/
def DeviceClass.Fits (kind : DeviceClass) (function : PciFunction) : Prop :=
  function.vendorId ≠ 0xFFFF ∧
    match kind with
    | .e1000 => function.classCode = 0x02 ∧ function.subclass = 0x00
    | .nvme => function.classCode = 0x01 ∧ function.subclass = 0x08
    | .hda => function.classCode = 0x04 ∧ function.subclass = 0x03
    | .xhci => function.classCode = 0x0C ∧ function.subclass = 0x03 ∧ function.progIf = 0x30

instance (kind : DeviceClass) (function : PciFunction) : Decidable (kind.Fits function) := by
  unfold DeviceClass.Fits
  cases kind <;> infer_instance

/-- The base that the scan computes for a function of the class. -/
def DeviceClass.derived : DeviceClass → PciFunction → UInt64
  | .e1000 => PciFunction.e1000Bar0
  | .nvme => PciFunction.nvmeBar0
  | .hda => PciFunction.hdaBar0
  | .xhci => PciFunction.xhciBar0

/-- The base of the class that the scan has found. -/
def Scan.base (scan : Scan) : DeviceClass → Option UInt64
  | .e1000 => scan.e1000Bar0
  | .nvme => if scan.nvmeFound then some scan.nvmeBar0 else none
  | .hda => if scan.hdaFound then some scan.hdaBar0 else none
  | .xhci => if scan.xhciFound then some scan.xhciBar0 else none

section Visiting

variable {space : Nat → PciFunction} {kind : DeviceClass} {scan last : Scan} {pciAddr : Nat}

theorem visit_base (scan : Scan) (kind : DeviceClass) (pciAddr : Nat) (function : PciFunction)
    (present : function.vendorId ≠ 0xFFFF) :
    (scan.visit pciAddr function).base kind =
      if kind.Fits function then some (kind.derived function) else scan.base kind := by
  unfold Scan.visit
  cases kind
  all_goals
    simp only [DeviceClass.Fits, present, ne_eq, not_false_eq_true, true_and]
    -- the four tests of the source, each of which may succeed
    split <;> split <;> split <;> split <;> rfl

/-- A step that does not panic has visited the function, if there is one. -/
theorem scanFunction_eq_some (step : scanFunction space scan pciAddr = some last) :
    last = if (space pciAddr).vendorId = 0xFFFF then scan else scan.visit pciAddr (space pciAddr) := by
  unfold scanFunction at step
  dsimp only at step
  split at step
  case isFalse => cases step
  case isTrue =>
    split
    case isTrue absent =>
      rw [if_pos absent] at step
      exact (Option.some.inj step).symm
    case isFalse present =>
      rw [if_neg present] at step
      split at step
      case isTrue => exact (Option.some.inj step).symm
      case isFalse => cases step

theorem scanFunction_base (step : scanFunction space scan pciAddr = some last) :
    last.base kind =
      if kind.Fits (space pciAddr) then some (kind.derived (space pciAddr)) else scan.base kind := by
  rw [scanFunction_eq_some step]
  by_cases absent : (space pciAddr).vendorId = 0xFFFF
  · have other : ¬ kind.Fits (space pciAddr) := fun found => found.1 absent
    rw [if_pos absent, if_neg other]
  · rw [if_neg absent, visit_base scan kind pciAddr _ absent]

/-- Functions of other classes leave the base of a class alone. -/
theorem foldlM_base {addresses : List Nat}
    (others : ∀ pciAddr ∈ addresses, ¬ kind.Fits (space pciAddr))
    (run : addresses.foldlM (scanFunction space) scan = some last) :
    last.base kind = scan.base kind := by
  induction addresses generalizing scan with
  | nil =>
    have same : scan = last := by simpa using run
    rw [same]
  | cons pciAddr addresses ih =>
    rw [List.foldlM_cons] at run
    obtain ⟨next, step, rest⟩ := Option.bind_eq_some_iff.mp run
    have kept : next.base kind = if kind.Fits (space pciAddr) then
        some (kind.derived (space pciAddr)) else scan.base kind := scanFunction_base step
    rw [if_neg (others pciAddr List.mem_cons_self)] at kept
    rw [ih (fun other member => others other (List.mem_cons_of_mem _ member)) rest, kept]

end Visiting

/-- The function at an address is the last of its class that the scan meets. -/
structure LastOf (space : Nat → PciFunction) (pcieBaseAddr : Nat) (kind : DeviceClass)
    (pciAddr : Nat) : Prop where
  fits : kind.Fits (space pciAddr)
  last : ∃ earlier later, pciAddresses pcieBaseAddr = earlier ++ pciAddr :: later ∧
    ∀ other ∈ later, ¬ kind.Fits (space other)

/-- The scan ends with the base of the last function of each class. -/
theorem pcieScan_base {space : Nat → PciFunction} {pcieBaseAddr pciAddr : Nat} {scan : Scan}
    {kind : DeviceClass} (run : pcieScan space pcieBaseAddr = some scan)
    (last : LastOf space pcieBaseAddr kind pciAddr) :
    scan.base kind = some (kind.derived (space pciAddr)) := by
  obtain ⟨earlier, later, split, others⟩ := last.last
  rw [pcieScan, split, List.foldlM_append] at run
  obtain ⟨before, _, run⟩ := Option.bind_eq_some_iff.mp run
  rw [List.foldlM_cons] at run
  obtain ⟨next, step, rest⟩ := Option.bind_eq_some_iff.mp run
  rw [foldlM_base others rest, scanFunction_base step, if_pos last.fits]

/-- The registers of a function whose first base address register maps memory. -/
structure MemoryBar where
  bar0 : UInt32
  bar1 : UInt32
  memory : bar0.toNat % 2 = 0

namespace MemoryBar

/-- Bits 1 and 2: the value 2 stands for a base of 64 bits. -/
def typeField (bar : MemoryBar) : Nat := bar.bar0.toNat / 2 % 4

/-- The address that the registers denote. -/
def base (bar : MemoryBar) : Nat :=
  bar.bar0.toNat / 16 * 16 + if bar.typeField = 2 then bar.bar1.toNat * 2 ^ 32 else 0

def Holds (bar : MemoryBar) (function : PciFunction) : Prop :=
  function.bar0Raw = bar.bar0 ∧ function.bar1Raw = bar.bar1

/-- A function of a class that holds the registers. -/
def function (bar : MemoryBar) (kind : DeviceClass) : PciFunction where
  vendorId := 0x8086
  cmd := 0
  progIf := 0x30
  subclass := match kind with | .e1000 => 0x00 | .nvme => 0x08 | .hda | .xhci => 0x03
  classCode := match kind with | .e1000 => 0x02 | .nvme => 0x01 | .hda => 0x04 | .xhci => 0x0C
  bar0Raw := bar.bar0
  bar1Raw := bar.bar1

theorem function_fits (bar : MemoryBar) (kind : DeviceClass) : kind.Fits (bar.function kind) := by
  have present : (0x8086 : UInt16) ≠ 0xFFFF := by decide
  cases kind with
  | e1000 | nvme | hda => exact ⟨present, rfl, rfl⟩
  | xhci => exact ⟨present, rfl, rfl, rfl⟩

/-- Wherever the registers are found, the base is the address that they denote, and it
does not depend on the class. -/
structure DecodedAlike (bar : MemoryBar) : Prop where
  decoded : ∀ space pcieBaseAddr scan kind pciAddr, pcieScan space pcieBaseAddr = some scan →
    LastOf space pcieBaseAddr kind pciAddr → bar.Holds (space pciAddr) →
    (scan.base kind).map UInt64.toNat = some bar.base
  alike : ∀ (first second : DeviceClass) (function other : PciFunction), first.Fits function →
    second.Fits other → bar.Holds function → bar.Holds other →
    first.derived function = second.derived other

end MemoryBar

theorem lowBase_toNat (bar0Raw : UInt32) :
    (lowBase bar0Raw).toNat = bar0Raw.toNat / 16 * 16 := by
  have mask : ∀ bit < 32, (0xFFFFFFF0 : Nat).testBit bit = decide (4 ≤ bit) := by decide
  rw [lowBase, UInt32.toNat_toUInt64, UInt32.toNat_and]
  apply Nat.eq_of_testBit_eq
  intro bit
  rw [show bar0Raw.toNat / 16 * 16 = bar0Raw.toNat / 2 ^ 4 * 2 ^ 4 from rfl,
    Nat.testBit_mul_two_pow, Nat.testBit_div_two_pow, Nat.testBit_and,
    show UInt32.toNat 0xFFFFFFF0 = 0xFFFFFFF0 from rfl]
  by_cases inside : bit < 32
  · rw [mask bit inside]
    by_cases low : 4 ≤ bit
    · simp [low]
    · simp [low]
  · have clear : bar0Raw.toNat.testBit bit = false := by
      apply Nat.testBit_lt_two_pow
      exact Nat.lt_of_lt_of_le bar0Raw.toNat_lt
        (Nat.pow_le_pow_right (by decide) (Nat.not_lt.mp inside))
    have high : 4 ≤ bit := by omega
    simp [high, clear]

theorem lowBase_lt (bar0Raw : UInt32) : (lowBase bar0Raw).toNat < 2 ^ 32 := by
  have bound := bar0Raw.toNat_lt
  rw [lowBase_toNat]
  omega

theorem upperHalf_toNat (bar1Raw : UInt32) {low : UInt64} (small : low.toNat < 2 ^ 32) :
    (bar1Raw.toUInt64 <<< 32 ||| low).toNat = bar1Raw.toNat * 2 ^ 32 + low.toNat := by
  have bound := bar1Raw.toNat_lt
  rw [UInt64.toNat_or, UInt64.toNat_shiftLeft, UInt32.toNat_toUInt64, Nat.shiftLeft_eq,
    show UInt64.toNat 32 % 64 = 32 from rfl, Nat.mod_eq_of_lt (by omega), ← Nat.shiftLeft_eq,
    ← Nat.shiftLeft_add_eq_or_of_lt small, Nat.shiftLeft_eq]

theorem barType_eq_two_iff (bar : MemoryBar) : bar.bar0 >>> 1 &&& 0x03 = 2 ↔ bar.typeField = 2 := by
  have field : (bar.bar0 >>> 1 &&& 0x03).toNat = bar.typeField := by
    rw [UInt32.toNat_and, UInt32.toNat_shiftRight, MemoryBar.typeField]
    exact (Nat.and_two_pow_sub_one_eq_mod _ 2).trans (by simp [Nat.shiftRight_eq_div_pow])
  rw [← field, ← UInt32.toNat_inj]
  rfl

section Decoding

variable (bar : MemoryBar)

/-- The path that looks at the type field decodes the registers. -/
theorem typedBase_toNat : (typedBase bar.bar0 bar.bar1).toNat = bar.base := by
  rw [typedBase, MemoryBar.base]
  by_cases wide : bar.typeField = 2
  · rw [if_pos ((barType_eq_two_iff bar).mpr wide), if_pos wide,
      upperHalf_toNat bar.bar1 (lowBase_lt bar.bar0), lowBase_toNat, Nat.add_comm]
  · rw [if_neg fun found => wide ((barType_eq_two_iff bar).mp found), if_neg wide, lowBase_toNat,
      Nat.add_zero]

/-- The path that does not misses the upper half. -/
theorem lowBase_eq_base_iff :
    (lowBase bar.bar0).toNat = bar.base ↔ (bar.typeField = 2 → bar.bar1 = 0) := by
  rw [lowBase_toNat, MemoryBar.base, ← UInt32.toNat_inj]
  by_cases wide : bar.typeField = 2
  · rw [if_pos wide]
    simp only [wide, true_imp_iff, UInt32.toNat_zero]
    omega
  · simp [wide]

theorem derived_toNat {function : PciFunction} (holds : bar.Holds function)
    (narrow : bar.typeField = 2 → bar.bar1 = 0) (kind : DeviceClass) :
    (kind.derived function).toNat = bar.base := by
  obtain ⟨low, high⟩ := holds
  cases kind with
  | e1000 | xhci =>
    change (lowBase function.bar0Raw).toNat = bar.base
    rw [low, (lowBase_eq_base_iff bar).mpr narrow]
  | nvme | hda =>
    change (typedBase function.bar0Raw function.bar1Raw).toNat = bar.base
    rw [low, high, typedBase_toNat]

end Decoding

/-- The paths agree with the registers, and with each other, for the bases below 4 GiB
and no others. -/
theorem decodedAlike_iff (bar : MemoryBar) :
    bar.DecodedAlike ↔ (bar.typeField = 2 → bar.bar1 = 0) := by
  constructor
  · intro decoded
    have same : lowBase bar.bar0 = typedBase bar.bar0 bar.bar1 :=
      decoded.alike .e1000 .nvme (bar.function .e1000) (bar.function .nvme)
        (bar.function_fits _) (bar.function_fits _) ⟨rfl, rfl⟩ ⟨rfl, rfl⟩
    rw [← lowBase_eq_base_iff, same, typedBase_toNat]
  · intro narrow
    refine ⟨?_, ?_⟩
    · intro space pcieBaseAddr scan kind pciAddr run last holds
      rw [pcieScan_base run last, Option.map_some, derived_toNat bar holds narrow]
    · intro first second function other _ _ holds held
      apply UInt64.toNat_inj.mp
      rw [derived_toNat bar holds narrow, derived_toNat bar held narrow]

/-- A controller at `0x8_FEB0_0000`: two of the paths see `0xFEB0_0000`. -/
theorem not_decodedAlike_highBar : ¬ ∀ bar : MemoryBar, bar.DecodedAlike := by
  intro decoded
  let bar : MemoryBar := ⟨0xFEB00004, 8, by decide⟩
  have same : lowBase 0xFEB00004 = typedBase 0xFEB00004 8 :=
    (decoded bar).alike .xhci .nvme (bar.function .xhci) (bar.function .nvme)
      (bar.function_fits _) (bar.function_fits _) ⟨rfl, rfl⟩ ⟨rfl, rfl⟩
  exact absurd same (by decide)

end QoreOS.Startup
