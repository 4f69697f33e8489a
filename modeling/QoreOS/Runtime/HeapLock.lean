import QoreOS.Library.SpinLock
import QoreOS.Runtime.MainLoop

/-! The lock around the heap: the main loop and the keyboard interrupts that
preempt it, down to single steps of the allocator calls. -/

namespace QoreOS.Runtime

open QoreOS.Library QoreOS.Runtime.System

/-- What happens around the main loop: another turn begins, a key is pressed or
released, the code that runs takes a step. -/
inductive Moment where
  | turn (packet : Option (List UInt8)) (course : Desktop)
  | keyboard (scancode : UInt8)
  | advance

/-- No turn follows a panic or the drop to ring 3. -/
def Setting.lastTurn (setting : Setting) (packet : Option (List UInt8)) (course : Desktop) : Bool :=
  (setting.received packet).any stops || course = .dropped

variable (growth : Growth)

def Moment.event (setting : Setting) : Moment → Processor.Event HeapCall
  | .turn packet course => .start (turnCalls growth setting packet course)
      (setting.lastTurn packet course)
  | .keyboard scancode => .interrupt (keyboardCalls setting.card scancode)
  | .advance => .advance

/-- The processor after these moments; the lock protects the count of the bytes
in use. -/
def Setting.processor (setting : Setting) (used : Nat) (moments : List Moment) :
    Processor Nat HeapCall :=
  moments.foldl (fun processor moment => processor.step (HeapCall.serve heapSize)
    (moment.event growth setting)) (.boot used)

/-- A turn that is not interrupted takes these steps, and leaves the heap as the
whole turn does. -/
theorem turn_advance {system : System} (ready : ∀ nic, system.kernel.netCard = some nic →
      system.kernel.Ready nic) {setting : Setting} {packet : Option (List UInt8)}
    (finds : system.Finds setting packet) (course : Desktop) : ∃ final ended,
    (Processor.advance (HeapCall.serve heapSize))^[3 * (turnCalls growth setting packet course).length]
      (.alone system.used (turnCalls growth setting packet course)
        (setting.lastTurn packet course)) = .alone final [] ended ∧
    (∀ another after, (turn growth setting course).exec system = (some another, after) →
      final = after.used ∧ ended = !another) ∧
    (∀ after, (turn growth setting course).exec system = (none, after) → ended = true) := by
  obtain ⟨result, spends, ends⟩ := turn_spends growth system ready finds course
  have alone := Processor.advance_all (HeapCall.serve heapSize) (turnCalls growth setting packet course)
    system.used (setting.lastTurn packet course)
  cases served : run (HeapCall.serve heapSize) (turnCalls growth setting packet course)
    system.used with
  | none =>
    rw [served] at alone
    obtain ⟨final, alone⟩ := alone
    obtain ⟨stopped, caller, same, -⟩ := spends.refused served
    refine ⟨final, true, alone, ?_, fun _ _ => rfl⟩
    intro another after ended
    rw [same] at ended
    cases ended
  | some final =>
    rw [served] at alone
    refine ⟨final, _, alone, ?_⟩
    have outcome := spends.served final served
    unfold Setting.lastTurn
    cases panics : (setting.received packet).any stops with
    | true =>
      rw [panics, if_pos rfl, Option.map_eq_none_iff] at ends
      subst ends
      obtain ⟨stopped, same, -⟩ := outcome
      rw [same]
      exact ⟨(fun another after ended => nomatch ended), fun after ended => rfl⟩
    | false =>
      rw [panics, if_neg (by simp), Option.map_eq_some_iff] at ends
      obtain ⟨value, rfl, another⟩ := ends
      have same : (turn growth setting course).exec system =
          (some value.1, { system with used := final, kernel := value.2 }) := outcome
      rw [same]
      refine ⟨?_, fun after ended => nomatch ended⟩
      intro other after ended
      cases ended
      refine ⟨rfl, ?_⟩
      rw [another, Bool.false_or]
      cases course <;> rfl

theorem keyboardCalls_working (card : Bool) (scancode : UInt8) :
    keyboardCalls card scancode ≠ [] ↔ scancode = 0x1C ∧ card = true := by
  unfold keyboardCalls
  split
  · rename_i enter
    exact iff_of_true (by simp) enter
  · rename_i other
    exact iff_of_false (by simp) other

/-- The keyboard interrupt is never about to take the lock which the main loop
holds exactly if, in a machine with a card, Enter never comes in the middle of
one of the main loop's allocator calls. -/
theorem heapLock_free_iff (setting : Setting) (used : Nat) (moments : List Moment) :
    (∀ earlier, earlier <+: moments → ¬ (setting.processor growth used earlier).Deadlocked) ↔
      ∀ earlier, earlier ++ [.keyboard 0x1C] <+: moments → setting.card = true →
        ¬ (setting.processor growth used earlier).main.Inside := by
  have whole := Processor.deadlock_free_iff (HeapCall.serve heapSize) (Moment.event growth setting)
    (Processor.boot_apart used) moments
  refine whole.trans ⟨?_, ?_⟩
  · intro allowed earlier early card
    exact allowed earlier _ early ((keyboardCalls_working ..).mpr ⟨rfl, card⟩)
  · intro apart earlier moment early
    cases moment with
    | turn packet course => trivial
    | advance => trivial
    | keyboard scancode =>
      intro working
      obtain ⟨rfl, card⟩ := (keyboardCalls_working ..).mp working
      exact apart earlier early card

/-- A machine with a network card and a drive. -/
def Setting.served : Setting where
  card := true
  httpPayload := none
  nvmeFound := true
  hdaFound := false

/-- With the window open Enter comes while the first text of a turn is being
allocated. -/
theorem heapLock_deadlocked : (Setting.served.processor .doubling 0
    [.turn none (.shown 400 300), .advance, .keyboard 0x1C]).Deadlocked := by
  refine ⟨⟨id, ?_⟩, ?_⟩
  · decide +kernel
  · decide +kernel

end QoreOS.Runtime
