import Mathlib.Data.Set.Lattice
import Mathlib.Order.CompletePartialOrder
import Mathlib.Order.Interval.Set.Basic
import QoreOS.Storage.FileSystem

/-! The address arithmetic of `fat32.rs` against the same numbers without a bound. -/

namespace QoreOS.Storage

open QoreOS.Library

namespace Fat32BootSector

variable (bpb : Fat32BootSector)

/-- `Fat32Volume::new` followed by `cluster_to_lba`. -/
def clusterToLba (cluster : Nat) : Option Nat := do
  let volume ← Fat32Volume.new bpb
  volume.clusterToLba cluster

/-- The first sector of a cluster as the format defines it. -/
def firstSector (cluster : Nat) : Nat := (Fat32Volume.describedBy bpb).firstSector cluster

/-- The sectors of a cluster from its first one on. -/
def sectors (lba : Nat) : Set Nat := Set.Ico lba (lba + bpb.sectorsPerCluster)

/-- The code finds the cluster where it is, does not mistake it for a reserved one,
and finds no other cluster in its place. -/
structure Addresses (cluster : Nat) : Prop where
  exact : bpb.clusterToLba cluster = some (bpb.firstSector cluster)
  occupied : bpb.clusterToLba cluster ≠ some 0
  disjoint : ∀ other, 2 ≤ other → other < 2 ^ 32 → other ≠ cluster → ∀ lba otherLba,
    bpb.clusterToLba cluster = some lba → bpb.clusterToLba other = some otherLba →
    Disjoint (bpb.sectors lba) (bpb.sectors otherLba)

variable {bpb} {cluster other lba : Nat}

theorem firstSector_eq : bpb.firstSector cluster = bpb.reservedSectorCount +
    bpb.numFats * bpb.fatSize32 + (cluster - 2) * bpb.sectorsPerCluster := rfl

/-- The code computes a number that fits and halts at any other. -/
theorem clusterToLba_eq_some (data : 2 ≤ cluster) :
    bpb.clusterToLba cluster = some lba ↔
      lba = bpb.firstSector cluster ∧ bpb.firstSector cluster < 2 ^ 32 := by
  unfold clusterToLba
  constructor
  · intro converts
    obtain ⟨volume, mounts, converts⟩ := Option.bind_eq_some_iff.mp converts
    obtain ⟨fatSectors, product, mounts⟩ := Option.bind_eq_some_iff.mp mounts
    obtain ⟨firstDataSector, total, mounts⟩ := Option.bind_eq_some_iff.mp mounts
    cases mounts
    rw [Fat32Volume.clusterToLba, if_neg (Nat.not_lt.mpr data)] at converts
    obtain ⟨sectors, width, converts⟩ := Option.bind_eq_some_iff.mp converts
    rw [(checked_eq_some product).1] at total
    rw [(checked_eq_some total).1, (checked_eq_some width).1] at converts
    exact checked_eq_some converts
  · rintro ⟨rfl, fits⟩
    have start : bpb.reservedSectorCount + bpb.numFats * bpb.fatSize32 < 2 ^ 32 :=
      Nat.lt_of_le_of_lt (Nat.le_add_right ..) fits
    have fatSectors : bpb.numFats * bpb.fatSize32 < 2 ^ 32 :=
      Nat.lt_of_le_of_lt (Nat.le_add_left ..) start
    have width : (cluster - 2) * bpb.sectorsPerCluster < 2 ^ 32 :=
      Nat.lt_of_le_of_lt (Nat.le_add_left ..) fits
    rw [Fat32Volume.new, checked_of_lt fatSectors]
    simp only [Option.bind_eq_bind, Option.bind_some, checked_of_lt start, Fat32Volume.clusterToLba,
      if_neg (Nat.not_lt.mpr data), checked_of_lt width]
    exact checked_of_lt fits

/-- A later cluster starts behind the last sector of an earlier one. -/
theorem firstSector_behind (data : 2 ≤ cluster) (later : cluster < other) :
    bpb.firstSector cluster + bpb.sectorsPerCluster ≤ bpb.firstSector other := by
  have steps : (cluster - 2 + 1) * bpb.sectorsPerCluster ≤ (other - 2) * bpb.sectorsPerCluster :=
    Nat.mul_le_mul_right _ (by omega)
  rw [Nat.succ_mul] at steps
  rw [firstSector_eq, firstSector_eq]
  omega

theorem firstSector_disjoint (data : 2 ≤ cluster) (otherData : 2 ≤ other) (apart : other ≠ cluster) :
    Disjoint (bpb.sectors (bpb.firstSector cluster)) (bpb.sectors (bpb.firstSector other)) := by
  rw [Set.disjoint_left]
  rintro sector ⟨first, last⟩ ⟨otherFirst, otherLast⟩
  rcases Nat.lt_or_gt_of_ne apart with earlier | later
  · have behind : bpb.firstSector other + bpb.sectorsPerCluster ≤ bpb.firstSector cluster :=
      firstSector_behind otherData earlier
    omega
  · have behind : bpb.firstSector cluster + bpb.sectorsPerCluster ≤ bpb.firstSector other :=
      firstSector_behind data later
    omega

/-- The arithmetic is exact for just the clusters whose first sector is a positive
32-bit number. -/
theorem clusterToLba_exact_iff (sector : Sector) (cluster : UInt32) (data : 2 ≤ cluster.toNat) :
    (Fat32BootSector.read sector).Addresses cluster.toNat ↔
      0 < (Fat32BootSector.read sector).firstSector cluster.toNat ∧
        (Fat32BootSector.read sector).firstSector cluster.toNat < 2 ^ 32 := by
  constructor
  · intro addresses
    have fits := ((clusterToLba_eq_some data).mp addresses.exact).2
    refine ⟨Nat.pos_of_ne_zero fun zero => addresses.occupied ?_, fits⟩
    rw [addresses.exact, zero]
  · rintro ⟨positive, fits⟩
    refine ⟨(clusterToLba_eq_some data).mpr ⟨rfl, fits⟩, fun reserved => ?_, ?_⟩
    · exact Nat.ne_of_lt positive ((clusterToLba_eq_some data).mp reserved).1
    · intro other otherData _ apart lba otherLba converts otherConverts
      rw [((clusterToLba_eq_some data).mp converts).1,
        ((clusterToLba_eq_some otherData).mp otherConverts).1]
      exact firstSector_disjoint data otherData apart

/-- The root directory of the small volume starts behind its table. -/
theorem clusterToLba_exact_iff_small :
    (Fat32BootSector.read smallBootSector).Addresses 2 ↔
      0 < (Fat32BootSector.read smallBootSector).firstSector 2 ∧
        (Fat32BootSector.read smallBootSector).firstSector 2 < 2 ^ 32 :=
  clusterToLba_exact_iff smallBootSector 2 (by decide)

/-- Two tables of 2^31 sectors each. -/
def hugeBootSector : Sector :=
  Sector.holding (List.replicate 13 0 ++ [2] ++ numberBytes 2 32 ++ [2] ++ List.replicate 19 0 ++
    numberBytes 4 (2 ^ 31) ++ List.replicate 4 0 ++ numberBytes 4 2)

theorem clusterToLba_overflows :
    ¬ ∀ (sector : Sector) (cluster : UInt32), 2 ≤ cluster.toNat →
      (Fat32BootSector.read sector).Addresses cluster.toNat := by
  intro always
  have halts : (Fat32BootSector.read hugeBootSector).clusterToLba 2 = none := by decide +kernel
  have exact := (always hugeBootSector 2 (by decide)).exact
  rw [show (2 : UInt32).toNat = 2 from rfl, halts] at exact
  cases exact

end Fat32BootSector

end QoreOS.Storage
