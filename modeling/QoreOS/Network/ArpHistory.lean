import QoreOS.Library.Roster
import QoreOS.Network.ArpCache

/-! The ARP cache behind any history of insertions. -/

namespace QoreOS.Network

open QoreOS.Library

/-- The slots hold the first peers of the history in order of arrival, each with its last
address, and the slots behind them are free. -/
structure Records (history : List (Ip × Mac)) (cache : ArpCache) : Prop where
  taken : ∀ (slot : Fin 16) (ip : Ip), (admitted 16 history)[slot.val]? = some ip →
    cache.entries[slot].active ∧ cache.entries[slot].ip = ip ∧
      latest history ip = some cache.entries[slot].mac
  free : ∀ slot : Fin 16, (admitted 16 history)[slot.val]? = none →
    cache.entries[slot].active = false

/-- The first entry that passes a test. -/
theorem first_slot {size : Nat} {entries : Vector ArpEntry size} {test : ArpEntry → Bool}
    {slot : Fin size} (found : entries.findFinIdx? test = some slot) :
    test (getElem entries slot slot.isLt) ∧
      ∀ other : Fin size, other < slot → ¬ test (getElem entries other other.isLt) := by
  obtain ⟨entries, rfl⟩ := entries
  obtain ⟨first, chosen, rfl⟩ : ∃ first, entries.findFinIdx? test = some first ∧
      Fin.cast rfl first = slot := Option.map_eq_some_iff.mp found
  obtain ⟨passes, before⟩ := Array.findFinIdx?_eq_some_iff.mp chosen
  exact ⟨passes, fun other earlier => before other earlier⟩

theorem no_slot {size : Nat} {entries : Vector ArpEntry size} {test : ArpEntry → Bool}
    (found : entries.findFinIdx? test = none) (slot : Fin size) :
    ¬ test (getElem entries slot slot.isLt) :=
  Vector.findFinIdx?_eq_none_iff.mp found _ (Vector.getElem_mem slot.isLt)

namespace Records

variable {history : List (Ip × Mac)} {cache : ArpCache} {ip : Ip} {slot : Fin 16}

theorem initial : Records [] ArpCache.new where
  taken := fun _ _ found => nomatch found
  free := fun slot _ => congrArg ArpEntry.active (Vector.getElem_replicate slot.isLt)

/-- An active entry has a peer of the history. -/
theorem peer_of_active (records : Records history cache) (active : cache.entries[slot].active) :
    (admitted 16 history)[slot.val]? = some cache.entries[slot].ip ∧
      latest history cache.entries[slot].ip = some cache.entries[slot].mac := by
  cases peer : (admitted 16 history)[slot.val]? with
  | none =>
    rw [records.free slot peer] at active
    cases active
  | some ip =>
    obtain ⟨-, same, last⟩ := records.taken slot ip peer
    rw [same]
    exact ⟨rfl, last⟩

/-- A peer of the history has its entry. -/
theorem entry_of_peer (records : Records history cache) (peer : ip ∈ admitted 16 history) :
    ∃ slot : Fin 16, cache.entries[slot].active ∧ cache.entries[slot].ip = ip := by
  obtain ⟨place, inside, found⟩ := List.getElem_of_mem peer
  have bounded := admitted_length_le 16 history
  have held := records.taken ⟨place, by omega⟩ ip (List.getElem?_eq_some_iff.mpr ⟨inside, found⟩)
  exact ⟨_, held.1, held.2.1⟩

theorem entry_set_self (entries : Vector ArpEntry 16) (slot : Fin 16) (entry : ArpEntry) :
    (entries.set slot entry)[slot] = entry :=
  Vector.getElem_set_self slot.isLt

theorem entry_set_ne {other : Fin 16} (differs : other ≠ slot) (entries : Vector ArpEntry 16)
    (entry : ArpEntry) : (entries.set slot entry)[other] = entries[other] :=
  Vector.getElem_set_ne slot.isLt other.isLt fun same => differs (Fin.ext same.symm)

/-- The slots of two different peers differ. -/
theorem ne_of_places {other : Fin 16} {peer : Ip} (differs : other ≠ slot)
    (place : (admitted 16 history)[slot.val]? = some ip)
    (found : (admitted 16 history)[other.val]? = some peer) : peer ≠ ip := by
  rintro rfl
  obtain ⟨inside, here⟩ := List.getElem?_eq_some_iff.mp place
  obtain ⟨within, there⟩ := List.getElem?_eq_some_iff.mp found
  exact differs (Fin.ext ((admitted_nodup 16 history).getElem_inj_iff.mp (there.trans here.symm)))

theorem insert_known (records : Records history cache) {known : Fin 16} (mac : Mac)
    (active : cache.entries[known].active) :
    Records (history ++ [(cache.entries[known].ip, mac)])
      { entries := cache.entries.set known { cache.entries[known] with mac := mac } } := by
  obtain ⟨place, -⟩ := records.peer_of_active active
  have same := admitted_concat_old (List.mem_of_getElem? place) mac
  refine ⟨fun slot ip found => ?_, fun slot found => ?_⟩
  · rw [same] at found
    by_cases chosen : slot = known
    · subst chosen
      obtain rfl := Option.some.inj (place.symm.trans found)
      rw [entry_set_self]
      exact ⟨active, rfl, latest_concat_self _ _ _⟩
    · rw [entry_set_ne chosen, latest_concat_of_ne (ne_of_places chosen place found)]
      exact records.taken slot ip found
  · rw [same] at found
    have chosen : slot ≠ known := by
      rintro rfl
      rw [found] at place
      cases place
    rw [entry_set_ne chosen]
    exact records.free slot found

/-- The first free slot is the one behind the last peer. -/
theorem length_of_free (records : Records history cache) {free : Fin 16}
    (inactive : cache.entries[free].active = false)
    (before : ∀ other : Fin 16, other < free → cache.entries[other].active) :
    (admitted 16 history).length = free.val := by
  have behind : (admitted 16 history)[free.val]? = none := by
    cases peer : (admitted 16 history)[free.val]? with
    | none => rfl
    | some ip =>
      rw [(records.taken free ip peer).1] at inactive
      cases inactive
  rw [List.getElem?_eq_none_iff] at behind
  by_contra differs
  have earlier : (admitted 16 history).length < free.val := by omega
  have active := before ⟨(admitted 16 history).length, by omega⟩ earlier
  rw [records.free _ (List.getElem?_eq_none_iff.mpr (Nat.le_refl _))] at active
  cases active

theorem insert_free (records : Records history cache) {free : Fin 16} (mac : Mac)
    (unknown : ip ∉ admitted 16 history) (length : (admitted 16 history).length = free.val) :
    Records (history ++ [(ip, mac)])
      { entries := cache.entries.set free { ip := ip, mac := mac, active := true } } := by
  have next := admitted_concat_new unknown (by omega) mac
  refine ⟨fun slot peer found => ?_, fun slot found => ?_⟩
  · rw [next] at found
    by_cases chosen : slot = free
    · subst chosen
      rw [List.getElem?_append_right (by omega), length, Nat.sub_self] at found
      obtain rfl := Option.some.inj found
      rw [entry_set_self]
      exact ⟨rfl, rfl, latest_concat_self _ _ _⟩
    · have inside := (List.getElem?_eq_some_iff.mp found).1
      rw [List.length_append, List.length_singleton, length] at inside
      have other : slot.val ≠ free.val := fun same => chosen (Fin.ext same)
      rw [List.getElem?_append_left (by omega)] at found
      have differs : peer ≠ ip := by
        rintro rfl
        exact unknown (List.mem_of_getElem? found)
      rw [entry_set_ne chosen, latest_concat_of_ne differs]
      exact records.taken slot peer found
  · rw [next, List.getElem?_eq_none_iff, List.length_append, List.length_singleton] at found
    have chosen : slot ≠ free := by
      rintro rfl
      omega
    rw [entry_set_ne chosen]
    exact records.free slot (List.getElem?_eq_none_iff.mpr (by omega))

/-- A cache without a free slot turns a new peer away. -/
theorem insert_full (records : Records history cache) (mac : Mac)
    (unknown : ip ∉ admitted 16 history) (full : ∀ slot : Fin 16, cache.entries[slot].active) :
    Records (history ++ [(ip, mac)]) cache := by
  have bounded := admitted_length_le 16 history
  have length : (admitted 16 history).length = 16 := by
    by_contra short
    have active := full ⟨(admitted 16 history).length, by omega⟩
    rw [records.free _ (List.getElem?_eq_none_iff.mpr (Nat.le_refl _))] at active
    cases active
  have same := admitted_concat_full length ip mac
  refine ⟨fun slot peer found => ?_, fun slot found => ?_⟩
  · rw [same] at found
    have differs : peer ≠ ip := by
      rintro rfl
      exact unknown (List.mem_of_getElem? found)
    rw [latest_concat_of_ne differs]
    exact records.taken slot peer found
  · rw [same] at found
    exact records.free slot found

theorem unknown_of_missing (records : Records history cache)
    (missing : cache.entries.findFinIdx? (fun entry => entry.active && entry.ip == ip) = none) :
    ip ∉ admitted 16 history := by
  intro peer
  obtain ⟨slot, active, same⟩ := records.entry_of_peer peer
  apply no_slot missing slot
  rw [active, same, beq_self_eq_true]
  rfl

theorem insert (records : Records history cache) (ip : Ip) (mac : Mac) :
    Records (history ++ [(ip, mac)]) (cache.insert ip mac) := by
  unfold ArpCache.insert
  split
  case h_1 known found =>
    obtain ⟨active, same⟩ := Bool.and_eq_true_iff.mp (first_slot found).1
    rw [← beq_iff_eq.mp same]
    exact records.insert_known mac active
  case h_2 missing =>
    have unknown := records.unknown_of_missing missing
    split
    case h_1 free found =>
      obtain ⟨inactive, before⟩ := first_slot found
      refine records.insert_free mac unknown (records.length_of_free ?_ ?_)
      · simpa using inactive
      · intro other earlier
        simpa using before other earlier
    case h_2 full =>
      refine records.insert_full mac unknown fun slot => ?_
      simpa using no_slot full slot

theorem lookup (records : Records history cache) (ip : Ip) :
    cache.lookup ip = if ip ∈ admitted 16 history then latest history ip else none := by
  rw [ArpCache.lookup, Vector.find?_eq_map_findFinIdx?_getElem]
  cases found : cache.entries.findFinIdx? fun entry => entry.active && entry.ip == ip with
  | none =>
    rw [if_neg (records.unknown_of_missing found)]
    rfl
  | some slot =>
    obtain ⟨active, same⟩ := Bool.and_eq_true_iff.mp (first_slot found).1
    obtain ⟨place, last⟩ := records.peer_of_active active
    rw [beq_iff_eq.mp same] at place last
    rw [if_pos (List.mem_of_getElem? place), last]
    rfl

/-- No peer has two active entries. -/
theorem unique (records : Records history cache) {other : Fin 16}
    (active : cache.entries[slot].active) (also : cache.entries[other].active)
    (same : cache.entries[slot].ip = cache.entries[other].ip) : slot = other := by
  obtain ⟨place, -⟩ := records.peer_of_active active
  obtain ⟨found, -⟩ := records.peer_of_active also
  by_contra differs
  exact ne_of_places differs found place same

end Records

/-- The cache behind insertions. -/
def ArpCache.after (history : List (Ip × Mac)) : ArpCache :=
  history.foldl (fun cache insertion => cache.insert insertion.1 insertion.2) ArpCache.new

theorem after_records (history : List (Ip × Mac)) : Records history (ArpCache.after history) := by
  induction history using List.reverseRecOn with
  | nil => exact Records.initial
  | append_singleton history insertion ih =>
    rw [ArpCache.after, List.foldl_append]
    exact ih.insert insertion.1 insertion.2

/-- The cache is a map on the first sixteen peers of any history: it answers with the
last address of each of them and with nothing for all others, and no two active entries
have one peer. -/
theorem arpCache_keeps_first (history : List (Ip × Mac)) :
    (∀ ip, (ArpCache.after history).lookup ip =
      if ip ∈ admitted 16 history then latest history ip else none) ∧
    ∀ slot other : Fin 16, (ArpCache.after history).entries[slot].active →
      (ArpCache.after history).entries[other].active →
      (ArpCache.after history).entries[slot].ip = (ArpCache.after history).entries[other].ip →
        slot = other := by
  have records := after_records history
  exact ⟨records.lookup, fun slot other => records.unique⟩

/-- Seventeen peers, one insertion each. -/
def seventeenPeers : List (Ip × Mac) :=
  (List.range 17).map fun peer =>
    (#v[10, 0, 2, UInt8.ofNat peer], #v[0x52, 0x54, 0, 0, 0, UInt8.ofNat peer])

theorem arpCache_forgets_last : ¬ ∀ history ip, ip ∈ history.map Prod.fst →
    (ArpCache.after history).lookup ip = latest history ip := by
  intro keeps
  have kept := keeps seventeenPeers #v[10, 0, 2, 16] (by decide)
  exact absurd kept (by decide +kernel)

end QoreOS.Network
