import QoreOS.Runtime.HeapEvents

/-! How long the heap lasts: runs of received packets and system calls. -/

namespace QoreOS.Runtime

open QoreOS.Library QoreOS.Network QoreOS.Storage

namespace System

/-- A system that has stopped stays as it is. -/
def advance (growth : Growth) (state : Option Unit × System) (event : Event) :
    Option (Option Unit × System) :=
  match state with
  | (some (), system) => some ((step growth event).exec system)
  | (none, system) => some (none, system)

theorem run_stopped (growth : Growth) (events : List Event) (system : System) :
    run (advance growth) events (none, system) = some (none, system) := by
  induction events with
  | nil => rfl
  | cons event events ih => exact ih

theorem run_advance (growth : Growth) (events : List Event) (system : System) :
    run (advance growth) events (some (), system) =
      some ((events.forM (step growth)).exec system) := by
  induction events generalizing system with
  | nil => rfl
  | cons event events ih =>
    have unfolded : (event :: events).forM (step growth) =
        step growth event >>= fun _ => events.forM (step growth) := rfl
    rw [unfolded, Program.exec_bind, run_cons, advance, Option.bind_some]
    rcases (step growth event).exec system with ⟨value, next⟩
    cases value with
    | none => exact run_stopped growth events next
    | some value => exact ih next

/-- Nothing the watched code asks for is refused exactly if the heap has room
for each event that the run comes to. -/
theorem forM_unexhausted (growth : Growth) {system : System} (fine : system.Unexhausted)
    (ready : system.Ready) (events : List Event) :
    (∀ earlier, earlier <+: events → ((earlier.forM (step growth)).exec system).2.Unexhausted) ↔
      ∀ earlier event, earlier ++ [event] <+: events → ∀ middle,
        (earlier.forM (step growth)).exec system = (some (), middle) → middle.Fits growth event := by
  have exact : ∀ (state : Option Unit × System) (event : Event),
      (state.2.Unexhausted ∧ (state.1 = some () → state.2.Ready)) →
      ∃ next, advance growth state event = some next ∧
        ((state.1 = some () → state.2.Fits growth event) →
          next.2.Unexhausted ∧ (next.1 = some () → next.2.Ready)) ∧
        (next.2.Unexhausted → state.1 = some () → state.2.Fits growth event) := by
    rintro ⟨value, system⟩ event ⟨fine, ready⟩
    cases value with
    | none =>
      exact ⟨(none, system), rfl, fun _ => ⟨fine, ready⟩, fun _ impossible => nomatch impossible⟩
    | some value =>
      have outcome := step_outcome growth fine (ready rfl) event
      refine ⟨_, rfl, fun fits => ⟨outcome.exact.mpr (fits rfl), ?_⟩, fun good _ =>
        outcome.exact.mp good⟩
      intro through
      exact outcome.ready _ (Prod.ext through rfl)
  have initial : (some (), system).2.Unexhausted ∧
      ((some (), system).1 = some () → (some (), system).2.Ready) := ⟨fine, fun _ => ready⟩
  have whole := run_good_iff (fun state holds => holds.1) exact events initial
  simp only [run_advance, Option.some.injEq, exists_eq_left'] at whole
  rw [whole]
  refine forall_congr' fun earlier => forall_congr' fun event => forall_congr' fun early => ?_
  constructor
  · intro allowed middle reached
    rw [reached] at allowed
    exact allowed rfl
  · intro allowed through
    exact allowed _ (Prod.ext through rfl)

end System

theorem Start.unexhausted (start : Start) : start.system.Unexhausted :=
  ⟨(fun _ member => nomatch member), fun _ member => nomatch member⟩

theorem Start.ready (start : Start) : start.system.Ready := by
  refine ⟨?_, Nat.le_of_lt_succ start.used.isLt⟩
  intro nic card
  unfold Start.system at card ⊢
  cases found : start.cardFound with
  | false =>
    simp only [found] at card
    cases card
  | true =>
    simp only [found, ↓reduceIte] at card ⊢
    have ready := start.boot.kernel_ready
    rw [ready.card, Option.some.injEq] at card
    exact card ▸ ready

/-- All memory that receiving and the system calls ask for is there, and so no
command names address 0, exactly if the heap has room for each event. -/
theorem heap_unexhausted_iff (growth : Growth) (start : Start) (events : List Event) :
    (∀ earlier, earlier <+: events → (start.run growth earlier).2.Unexhausted) ↔
      ∀ earlier event, earlier ++ [event] <+: events → ∀ system,
        start.run growth earlier = (some (), system) → system.Fits growth event :=
  System.forM_unexhausted growth start.unexhausted start.ready events

/-- Each system call for a sector takes 4608 bytes for good. -/
theorem System.forM_reads (growth : Growth) (lba : UInt64) (count : Nat) {system : System}
    (fine : system.Unexhausted) (ready : system.Ready) (present : system.drive.isSome)
    (room : system.used + 4608 * count ≤ heapSize) : ∃ after,
    ((List.replicate count (.readSector lba)).forM (System.step growth)).exec system =
      (some (), after) ∧ after.Unexhausted ∧ after.Ready ∧ after.drive.isSome ∧
      after.used = system.used + 4608 * count := by
  induction count generalizing system with
  | zero => exact ⟨system, rfl, fine, ready, present, by rw [Nat.mul_zero, Nat.add_zero]⟩
  | succ count ih =>
    have split : system.used + 4608 * (count + 1) = system.used + 4608 + 4608 * count := by
      rw [Nat.mul_succ, Nat.add_comm (4608 * count), Nat.add_assoc]
    rw [split] at room
    obtain ⟨next, stepped, fineNext, readyNext, presentNext, used⟩ :=
      System.step_read fine ready present lba (Nat.le_trans (Nat.le_add_right ..) room)
    rw [← used] at room split
    obtain ⟨after, reached, rest⟩ := ih fineNext readyNext presentNext room
    refine ⟨after, ?_, rest.1, rest.2.1, rest.2.2.1, rest.2.2.2.trans split.symm⟩
    have unfolded : (List.replicate (count + 1) (.readSector lba)).forM (System.step growth) =
        System.step growth (.readSector lba) >>= fun _ =>
          (List.replicate count (.readSector lba)).forM (System.step growth) := rfl
    rw [unfolded, Program.exec_bind, stepped]
    exact reached

/-- A machine with a drive but no card, and with an empty heap. -/
def Start.roomy : Start where
  boot := Boot.driveless
  cardFound := false
  drive := some (Nvme.new 0xFEBD0000)
  used := 0
  addresses := fun _ => ⟨0x200000, by decide⟩
  sectors := fun _ => Vector.replicate 512 0

/-- After 7281 sectors the last 3584 bytes are too few for another buffer, and
the drive is told to write to address 0. -/
theorem heap_exhausted :
    ¬ (Start.roomy.run .doubling (List.replicate 7282 (.readSector 0))).2.Unexhausted ∧
    ∃ command ∈ (Start.roomy.run .doubling (List.replicate 7282 (.readSector 0))).2.commands,
      command.prp1 = 0 := by
  obtain ⟨middle, reached, -, ready, present, used⟩ := System.forM_reads .doubling 0 7281
    Start.roomy.unexhausted Start.roomy.ready rfl (by decide)
  obtain ⟨nvme, stepped⟩ := System.exec_readSector_step .doubling present 0
  have printed : { middle with
      kernel := middle.kernel.terminalPrint "\n> SYS: RING-3 NVME READ REQUEST ACCEPTED.\n"
        0xF59E0B }.Ready := ready.printed rfl (fun nic serving => serving.print _ _) ready.fits
  have full : ¬ middle.used + 4096 ≤ heapSize := by
    rw [used]
    decide
  obtain ⟨refused, null, -⟩ := System.readForUser_refused printed nvme 0 full
  have last : (Start.roomy.run .doubling (List.replicate 7282 (.readSector 0))).2 =
      ((System.step .doubling (.readSector 0)).exec middle).2 := by
    have whole := System.run_advance .doubling
      (List.replicate 7281 (.readSector 0) ++ [.readSector 0]) Start.roomy.system
    rw [run_concat, System.run_advance, reached, Option.bind_some, ← List.replicate_succ'] at whole
    exact congrArg Prod.snd (Option.some.inj whole).symm
  rw [last, stepped, Prod.map_snd, id_eq]
  exact ⟨System.not_unexhausted refused, null⟩

end QoreOS.Runtime
