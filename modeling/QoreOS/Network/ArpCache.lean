import Mathlib.Data.Vector.Basic

/-! The ARP cache. -/

namespace QoreOS.Network

abbrev Mac := Vector UInt8 6
abbrev Ip := Vector UInt8 4

/-- An address that the source spells out. -/
abbrev Ip.of (a b c d : UInt8) : Ip := #v[a, b, c, d]
abbrev Mac.of (a b c d e f : UInt8) : Mac := #v[a, b, c, d, e, f]

structure ArpEntry where
  ip : Ip
  mac : Mac
  active : Bool
  deriving DecidableEq

/-- The content of the statics `entries: [ArpEntry; 16]`. -/
structure ArpCache where
  entries : Vector ArpEntry 16
  deriving DecidableEq

/-- `ArpCache::new` -/
def ArpCache.new : ArpCache where
  entries := Vector.replicate 16 { ip := Vector.replicate 4 0, mac := Vector.replicate 6 0, active := false }

/-- An entry for the address is updated; else the first free one is taken; a
full cache stays as it is. -/
def ArpCache.insert (cache : ArpCache) (ip : Ip) (mac : Mac) : ArpCache :=
  match cache.entries.findFinIdx? fun entry => entry.active && entry.ip == ip with
  | some known =>
    { entries := cache.entries.set known { cache.entries.get known with mac := mac } known.isLt }
  | none =>
    match cache.entries.findFinIdx? fun entry => !entry.active with
    | some free =>
      { entries := cache.entries.set free { ip := ip, mac := mac, active := true } free.isLt }
    | none => cache

def ArpCache.lookup (cache : ArpCache) (ip : Ip) : Option Mac :=
  (cache.entries.find? fun entry => entry.active && entry.ip == ip).map (·.mac)

end QoreOS.Network
