import QoreOS.Processor.BringUp

/-! Every processor that the broadcast wakes comes to its call of `ap_main`, and
all of them with the same stack. -/

namespace QoreOS.Processor

open QoreOS.Library

def Store.Apart (first second : Store) : Prop :=
  first.address + first.size ≤ second.address ∨ second.address + second.size ≤ first.address

section Stores

variable {memory : ByteMemory} {stores : List Store}

theorem bytes_apply {store : Store} {address size : Nat}
    (apart : store.address + store.size ≤ address ∨ address + size ≤ store.address) :
    (store.apply memory).bytes address size = memory.bytes address size := by
  apply ByteMemory.bytes_copy_of_disjoint
  rwa [numberBytes_length]

/-- A place that no store touches. -/
theorem bytes_stores {address size : Nat}
    (apart : ∀ store ∈ stores, store.address + store.size ≤ address ∨
      address + size ≤ store.address) :
    (stores.foldl Store.apply memory).bytes address size = memory.bytes address size := by
  induction stores generalizing memory with
  | nil => rfl
  | cons store stores ih =>
    rw [List.forall_mem_cons] at apart
    rw [List.foldl_cons, ih apart.2, bytes_apply apart.1]

/-- What was stored can be read back, when the stores are apart from each other. -/
theorem read_stores (apart : stores.Pairwise Store.Apart)
    (fits : ∀ store ∈ stores, store.value < 256 ^ store.size) :
    ∀ store ∈ stores, (stores.foldl Store.apply memory).read store.address store.size =
      store.value := by
  induction stores generalizing memory with
  | nil => exact fun _ member => nomatch member
  | cons first stores ih =>
    rw [List.pairwise_cons] at apart
    rw [List.forall_mem_cons] at fits ⊢
    constructor
    · have kept : (stores.foldl Store.apply (first.apply memory)).bytes first.address first.size =
          (first.apply memory).bytes first.address first.size :=
        bytes_stores fun store member => (apart.1 store member).symm
      rw [List.foldl_cons, ByteMemory.read, kept]
      exact (ByteMemory.read_write ..).trans (Nat.mod_eq_of_lt fits.1)
    · exact ih apart.2 fits.2

end Stores

section Configuration

variable (cr3 : BitVec 64) (statics : Statics) (memory : ByteMemory)

theorem configuration_apart : (configuration cr3 statics).Pairwise Store.Apart := by
  simp [configuration, Store.Apart]

theorem configuration_fits : ∀ store ∈ configuration cr3 statics,
    store.value < 256 ^ store.size := by
  have room := statics.fits
  have root := (cr3.setWidth 32).isLt
  have entry := statics.apMain.isLt
  simp [configuration]
  omega

theorem configuration_low : ∀ store ∈ configuration cr3 statics,
    0x8000 + trampoline.length ≤ store.address ∧ store.address < 2 ^ 21 := by
  simp [configuration, trampoline]

/-- The trampoline finds its parameters. -/
theorem configured_read {address size value : Nat}
    (found : configured cr3 statics address size = some value) :
    address < 2 ^ 21 ∧ (copyTrampoline cr3 statics memory).read address size = value := by
  unfold configured at found
  rw [Option.map_eq_some_iff] at found
  obtain ⟨store, found, same⟩ := found
  have member := List.mem_of_find?_eq_some found
  have place := List.find?_some found
  rw [decide_eq_true_iff] at place
  rw [← place.1, ← place.2, ← same]
  exact ⟨(configuration_low cr3 statics store member).2,
    read_stores (configuration_apart cr3 statics) (configuration_fits cr3 statics) store member⟩

/-- The code is where the processors start. -/
theorem trampoline_there :
    (copyTrampoline cr3 statics memory).bytes 0x8000 trampoline.length = trampoline := by
  rw [copyTrampoline, bytes_stores, ByteMemory.bytes_copy]
  intro store member
  exact .inr (configuration_low cr3 statics store member).1

end Configuration

theorem lines_decode : ∀ line ∈ lines, line.Decodes := by
  unfold lines realLines protectedLines longLines
  simp only [List.cons_append, List.nil_append, List.forall_mem_cons]
  repeat' apply And.intro
  all_goals first | exact fun _ => rfl | simp

theorem lines_short : ∀ line ∈ lines, line.encoding.length ≤ 15 := by
  decide

/-- Where the processors get by themselves: the remaining lines, which stand in
memory, lead to the end. -/
structure Course (memory : ByteMemory) (load : Nat → Nat → Option Nat) (root : BitVec 64)
    (final : Core) (lines : List Line) (address : Nat) (core : Core) : Prop where
  placed : memory.bytes address (lines.flatMap Line.encoding).length = lines.flatMap Line.encoding
  low : address + (lines.flatMap Line.encoding).length < 2 ^ 21
  decodes : ∀ line ∈ lines, line.Decodes
  short : ∀ line ∈ lines, line.encoding.length ≤ 15
  follows : follow load root lines address core = some final

section Course

variable {memory : ByteMemory} {load : Nat → Nat → Option Nat} {root : BitVec 64} {final : Core}
  {walk : Walk} {lines : List Line} {line : Line} {address : Nat} {core : Core}

/-- One line of the way, with what holds before and after it. -/
theorem follow_cons (follows : follow load root (line :: lines) address core = some final) :
    core.ip = address ∧ core.mode = line.mode ∧ core.called = none ∧
      (core.paging = false ∨ core.cr3 = root) ∧
      ∃ next store, core.exec load (address + line.encoding.length) line.opcode = some (next, store) ∧
        (∀ written, store = some written → load written.address written.size = some written.value) ∧
        follow load root lines (address + line.encoding.length) next = some final := by
  rw [follow] at follows
  split at follows
  case isFalse => cases follows
  case isTrue ready =>
    refine ⟨ready.1, ready.2.1, ready.2.2.1, ready.2.2.2, ?_⟩
    split at follows
    case h_1 next executes =>
      refine ⟨next, none, executes, ?_, follows⟩
      intro written same
      cases same
    case h_2 next store executes =>
      split at follows
      case isTrue there =>
        refine ⟨next, some store, executes, ?_, follows⟩
        rintro written ⟨⟩
        exact there
      case isFalse => cases follows
    case h_3 => cases follows

theorem translate_low (low : MapsLow walk (pageRoot root))
    (rooted : core.paging = false ∨ core.cr3 = root) {place : Nat} (small : place < 2 ^ 21) :
    core.translate walk place = some place := by
  rw [Core.translate]
  split
  case isTrue paged =>
    rcases rooted with unpaged | same
    · rw [unpaged] at paged
      cases paged
    · rw [same]
      exact low place small
  case isFalse => rfl

/-- A processor on its way finds the instruction of the next line. -/
theorem Course.fetches (course : Course memory load root final (line :: lines) address core)
    (low : MapsLow walk (pageRoot root)) :
    core.fetch walk memory = some (line.opcode, line.encoding.length) := by
  obtain ⟨here, mode, -, rooted, -⟩ := follow_cons course.follows
  have placed := course.placed
  have inside := course.low
  rw [List.flatMap_cons, List.length_append] at placed inside
  rw [ByteMemory.bytes_add] at placed
  have first := (List.append_inj placed ByteMemory.bytes_length).1
  have fits := course.short line List.mem_cons_self
  have window := memory.bytes_add address line.encoding.length (15 - line.encoding.length)
  rw [Nat.add_sub_cancel' fits, first] at window
  rw [Core.fetch, here, translate_low low rooted (by omega), mode]
  change decode line.mode (memory.bytes address 15) = _
  rw [window]
  exact course.decodes line List.mem_cons_self _

theorem Course.next (course : Course memory load root final (line :: lines) address core)
    {next : Core} (follows : follow load root lines (address + line.encoding.length) next = some final) :
    Course memory load root final lines (address + line.encoding.length) next where
  placed := by
    have placed := course.placed
    rw [List.flatMap_cons, List.length_append, ByteMemory.bytes_add] at placed
    exact (List.append_inj placed ByteMemory.bytes_length).2
  low := by
    have inside := course.low
    rw [List.flatMap_cons, List.length_append] at inside
    omega
  decodes := fun line member => course.decodes line (List.mem_cons_of_mem _ member)
  short := fun line member => course.short line (List.mem_cons_of_mem _ member)
  follows := follows

/-- A step along the way leaves the memory as it is. -/
theorem Course.steps (course : Course memory load root final (line :: lines) address core)
    (low : MapsLow walk (pageRoot root))
    (agree : ∀ place size value, load place size = some value →
      place < 2 ^ 21 ∧ memory.read place size = value) :
    ∃ next, core.step walk memory = (next, memory) ∧
      Course memory load root final lines (address + line.encoding.length) next := by
  obtain ⟨here, -, notCalled, rooted, next, store, executes, unchanged, follows⟩ :=
    follow_cons course.follows
  refine ⟨next, ?_, course.next follows⟩
  have loads : ∀ place size value, load place size = some value →
      core.load walk memory place size = some value := by
    intro place size value found
    obtain ⟨small, same⟩ := agree place size value found
    rw [Core.load, translate_low low rooted small, Option.map_some, same]
  have cycles : core.cycle walk memory = some (next, memory) := by
    rw [Core.cycle, course.fetches low]
    change (core.exec (core.load walk memory) (core.ip + line.encoding.length) line.opcode).bind _ = _
    rw [here, Core.exec_mono loads executes]
    cases store with
    | none => rfl
    | some store =>
      obtain ⟨small, same⟩ := agree _ _ _ (unchanged store rfl)
      change (core.translate walk store.address).bind _ = _
      rw [translate_low low rooted small]
      change some (next, memory.write store.address store.size store.value) = _
      rw [← same, ByteMemory.write_read]
  rw [Core.step, notCalled, cycles]
  rfl

/-- Somewhere on the way. -/
def OnWay (memory : ByteMemory) (load : Nat → Nat → Option Nat) (root : BitVec 64) (final core : Core) :
    Prop :=
  ∃ lines address, Course memory load root final lines address core

theorem course_end (course : Course memory load root final [] address core) : core = final :=
  Option.some.inj course.follows

theorem onWay_called (onWay : OnWay memory load root final core) (called : core.called.isSome) :
    core = final := by
  obtain ⟨lines, address, course⟩ := onWay
  cases lines with
  | nil => exact course_end course
  | cons line lines =>
    obtain ⟨-, -, notCalled, -⟩ := follow_cons course.follows
    rw [notCalled] at called
    cases called

theorem step_called (called : core.called.isSome) : core.step walk memory = (core, memory) :=
  if_pos called

section Run

variable (low : MapsLow walk (pageRoot root))
  (agree : ∀ place size value, load place size = some value →
    place < 2 ^ 21 ∧ memory.read place size = value)
include low agree

theorem onWay_step (calls : final.called.isSome) (onWay : OnWay memory load root final core) :
    (core.step walk memory).2 = memory ∧ OnWay memory load root final (core.step walk memory).1 := by
  obtain ⟨lines, address, course⟩ := onWay
  cases lines with
  | nil =>
    have arrived := course_end course
    rw [step_called (by rwa [arrived])]
    exact ⟨rfl, [], address, course⟩
  | cons line lines =>
    obtain ⟨next, steps, course⟩ := course.steps low agree
    rw [steps]
    exact ⟨rfl, lines, _, course⟩

/-- With a turn for each line a processor arrives. -/
theorem course_arrives (course : Course memory load root final lines address core) :
    (alone (fun memory core => core.step walk memory) memory)^[lines.length] core = final := by
  induction lines generalizing address core with
  | nil => exact course_end course
  | cons line lines ih =>
    obtain ⟨next, steps, course⟩ := course.steps low agree
    have first : alone (fun memory core => core.step walk memory) memory core = next := by
      rw [alone, steps]
    rw [List.length_cons, Function.iterate_succ_apply, first]
    exact ih course

end Run

end Course

section BringUp

variable {walk : Walk} {cr3 : BitVec 64} {statics : Statics} {memory : ByteMemory}
  {signatures : List (BitVec 64)}

theorem woken_course (signature : BitVec 64) :
    Course (copyTrampoline cr3 statics memory) (configured cr3 statics) (loadedRoot cr3)
      (Core.calling cr3 statics) lines 0x8000 (Core.woken signature) where
  placed := by
    have there := trampoline_there cr3 statics memory
    rw [trampoline_lines, List.length_append, ByteMemory.bytes_add] at there
    exact (List.append_inj there ByteMemory.bytes_length).1
  low := by decide +kernel
  decodes := lines_decode
  short := lines_short
  follows := lines_follow cr3 statics signature

/-- A processor on its way behind `copy_trampoline`. -/
def Woken (cr3 : BitVec 64) (statics : Statics) (memory : ByteMemory) (core : Core) : Prop :=
  OnWay (copyTrampoline cr3 statics memory) (configured cr3 statics) (loadedRoot cr3)
    (Core.calling cr3 statics) core

theorem woken_onWay : ∀ core ∈ signatures.map Core.woken, Woken cr3 statics memory core := by
  intro core member
  rw [List.mem_map] at member
  obtain ⟨signature, -, rfl⟩ := member
  exact ⟨lines, 0x8000, woken_course signature⟩

section Loaded

variable (low : MapsLow walk (pageRoot (loadedRoot cr3)))
include low

theorem woken_step {core : Core} (woken : Woken cr3 statics memory core) :
    (core.step walk (copyTrampoline cr3 statics memory)).2 = copyTrampoline cr3 statics memory ∧
      Woken cr3 statics memory (core.step walk (copyTrampoline cr3 statics memory)).1 :=
  onWay_step low (fun _ _ _ => configured_read cr3 statics memory) rfl woken

theorem woken_kept : ∀ core, Woken cr3 statics memory core → Woken cr3 statics memory
    (alone (fun memory core => core.step walk memory) (copyTrampoline cr3 statics memory) core) :=
  fun _ woken => (woken_step low woken).2

/-- Nobody disturbs anybody: the trampoline leaves the memory as it finds it. -/
theorem bringUp_alone (schedule : List Nat) :
    bringUp walk cr3 statics memory signatures schedule =
      (copyTrampoline cr3 statics memory, (signatures.map Core.woken).mapIdx fun index core =>
        (alone (fun memory core => core.step walk memory)
          (copyTrampoline cr3 statics memory))^[schedule.count index] core) :=
  interleave_alone (fun _ woken => (woken_step low woken).1) (woken_kept low) schedule woken_onWay

/-- Whoever calls `ap_main` does so with the topmost stack. -/
theorem bringUp_calling {schedule : List Nat} {core : Core}
    (member : core ∈ (bringUp walk cr3 statics memory signatures schedule).2)
    (called : core.called.isSome) : core = Core.calling cr3 statics := by
  rw [bringUp_alone low, List.mem_mapIdx] at member
  obtain ⟨index, inside, rfl⟩ := member
  have initially : Woken cr3 statics memory _ := woken_onWay _ (List.getElem_mem inside)
  exact onWay_called (iterate_kept (woken_kept low) initially (schedule.count index)) called

/-- A processor with enough turns does call it. -/
theorem bringUp_reaches {schedule : List Nat} {index : Nat} (woken : index < signatures.length)
    (turns : schedule.count index = lines.length) :
    (bringUp walk cr3 statics memory signatures schedule).2[index]? =
      some (Core.calling cr3 statics) := by
  rw [bringUp_alone low, List.getElem?_mapIdx, List.getElem?_map, List.getElem?_eq_getElem woken,
    Option.map_some, Option.map_some, turns,
    course_arrives low (fun _ _ _ => configured_read cr3 statics memory) (woken_course _)]

end Loaded

end BringUp

section Root

variable {cr3 : BitVec 64}

theorem low32_toNat (value : BitVec 64) : (low32 value).toNat = value.toNat % 2 ^ 32 := by
  rw [low32, BitVec.toNat_and, ← Nat.and_two_pow_sub_one_eq_mod]
  rfl

/-- Only the low half of `CR3` reaches the other processors. -/
theorem loadedRoot_low (cr3 : BitVec 64) : loadedRoot cr3 = low32 cr3 := by
  apply BitVec.eq_of_toNat_eq
  rw [loadedRoot, low32_toNat, low32_toNat, BitVec.toNat_ofNat, BitVec.toNat_setWidth]
  omega

theorem pageRoot_loaded (cr3 : BitVec 64) : pageRoot (loadedRoot cr3) = low32 (pageRoot cr3) := by
  rw [loadedRoot_low, pageRoot, pageRoot, low32, low32, BitVec.and_assoc, BitVec.and_assoc,
    BitVec.and_comm (0xFFFFFFFF : BitVec 64)]

theorem low32_eq_iff (value : BitVec 64) : low32 value = value ↔ value.toNat < 2 ^ 32 := by
  rw [← BitVec.toNat_inj, low32_toNat]
  exact Nat.mod_eq_iff_lt (by decide)

/-- The processors use the page tables of the one that woke them exactly when
these begin below 4 GiB. -/
theorem pageRoot_loaded_iff : pageRoot (loadedRoot cr3) = pageRoot cr3 ↔ (pageRoot cr3).toNat < 2 ^ 32 := by
  rw [pageRoot_loaded, low32_eq_iff]

end Root

variable {cr3 : BitVec 64} {statics : Statics} {memory : ByteMemory} {signatures : List (BitVec 64)}

theorem calling_rsp : (Core.calling cr3 statics).rsp.toNat = statics.apStacks + 16384 * 4 := by
  have fits := statics.fits
  rw [Core.calling, BitVec.toNat_ofNat, Nat.mod_eq_of_lt (by omega)]

/-- With tables below 4 GiB, one processor gets what it needs. -/
theorem broughtUp_single (single : signatures.length ≤ 1) (small : (pageRoot cr3).toNat < 2 ^ 32)
    {walk : Walk} (low : MapsLow walk (pageRoot cr3)) (schedule : List Nat) :
    BroughtUp cr3 statics (bringUp walk cr3 statics memory signatures schedule).2 := by
  have same := pageRoot_loaded_iff.mpr small
  rw [← same] at low
  constructor
  · intro core member target called
    rw [bringUp_calling low member (by rw [called]; rfl)] at called
    exact (Option.some.inj called).symm
  · intro core member called
    rw [bringUp_calling low member called]
    exact same
  · intro core member called
    rw [bringUp_calling low member called, calling_rsp]
    omega
  · intro first second core other apart found there
    rw [bringUp_alone low] at found there
    have inside := (List.getElem?_eq_some_iff.mp found).1
    have within := (List.getElem?_eq_some_iff.mp there).1
    rw [List.length_mapIdx, List.length_map] at inside within
    omega

theorem broughtUp_nil (walk : Walk) (schedule : List Nat) :
    BroughtUp cr3 statics (bringUp walk cr3 statics memory [] schedule).2 := by
  have nobody : (bringUp walk cr3 statics memory [] schedule).2 = [] := by
    rw [bringUp, interleave]
    induction schedule with
    | nil => rfl
    | cons index schedule ih => exact ih
  rw [nobody]
  constructor <;> simp

/-- The first processor runs to its call, and then the second one. -/
def oneByOne : List Nat := List.replicate lines.length 0 ++ List.replicate lines.length 1

/-- Two processors that get as far as the call have one stack. -/
theorem broughtUp_two {walk : Walk} (low : MapsLow walk (pageRoot (loadedRoot cr3)))
    (two : 2 ≤ signatures.length) :
    ¬ BroughtUp cr3 statics (bringUp walk cr3 statics memory signatures oneByOne).2 := by
  intro brought
  have first : (bringUp walk cr3 statics memory signatures oneByOne).2[0]? =
      some (Core.calling cr3 statics) := bringUp_reaches low (by omega) (by decide)
  have second : (bringUp walk cr3 statics memory signatures oneByOne).2[1]? =
      some (Core.calling cr3 statics) := bringUp_reaches low (by omega) (by decide)
  have apart := brought.apart 0 1 _ _ (by decide) first second rfl rfl
  omega

/-- One that gets there has a root below 4 GiB. -/
theorem broughtUp_root {walk : Walk} (low : MapsLow walk (pageRoot (loadedRoot cr3)))
    (one : 1 ≤ signatures.length)
    (brought : BroughtUp cr3 statics (bringUp walk cr3 statics memory signatures oneByOne).2) :
    (pageRoot cr3).toNat < 2 ^ 32 := by
  have first : (bringUp walk cr3 statics memory signatures oneByOne).2[0]? =
      some (Core.calling cr3 statics) := bringUp_reaches low one (by decide)
  exact pageRoot_loaded_iff.mp (brought.root _ (List.mem_of_getElem? first) rfl)

/-- In every order of their steps the processors get the page tables of the one
that woke them and stacks of their own, exactly when there is none of them or just
one, and the tables begin below 4 GiB. -/
theorem broughtUp_iff (cr3 : BitVec 64) (statics : Statics) (memory : ByteMemory)
    (signatures : List (BitVec 64)) :
    (∀ walk, MapsLow walk (pageRoot cr3) → ∀ schedule,
      BroughtUp cr3 statics (bringUp walk cr3 statics memory signatures schedule).2) ↔
    signatures = [] ∨ (signatures.length = 1 ∧ (pageRoot cr3).toNat < 2 ^ 32) := by
  constructor
  · intro always
    have brought := always (fun _ address => some address) (fun _ _ => rfl) oneByOne
    by_cases nobody : signatures = []
    · exact .inl nobody
    · have one := List.length_pos_of_ne_nil nobody
      refine .inr ⟨?_, broughtUp_root (fun _ _ => rfl) one brought⟩
      by_contra several
      exact broughtUp_two (fun _ _ => rfl) (by omega) brought
  · rintro (nobody | ⟨single, small⟩) walk low schedule
    · rw [nobody]
      exact broughtUp_nil walk schedule
    · exact broughtUp_single (by omega) small low schedule

/-- Two processors, tables at 4 KiB and stacks at 2 MiB: both call `ap_main` with the
stack that ends at `0x210000`. -/
theorem broughtUp_shares_stack :
    ¬ ∀ walk, MapsLow walk (pageRoot 0x1000) → ∀ schedule,
      BroughtUp 0x1000 ⟨0x200000, 0x400000, by decide⟩
        (bringUp walk 0x1000 ⟨0x200000, 0x400000, by decide⟩ (fun _ => 0) [0x306C3, 0x306C3]
          schedule).2 := by
  intro always
  have brought := always (fun _ address => some address) (fun _ _ => rfl) oneByOne
  exact broughtUp_two (fun _ _ => rfl) (by decide) brought

end QoreOS.Processor
