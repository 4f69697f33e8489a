import QoreOS.Display.Scene
import QoreOS.Input.Consistency
import QoreOS.Runtime.SyscallReturns

/-! The console over whole runs: the main loop with its mouse, its window, its terminal
and the screen, between interrupts and prints of any kind. -/

namespace QoreOS.Runtime

open QoreOS.Library QoreOS.Display QoreOS.Input

/-- `printed` notes what has been printed to the terminal. -/
structure Console where
  mouse : Mouse
  manager : WindowManager
  terminal : Terminal
  screen : Framebuffer
  printed : List (String × UInt32)

/-- Bytes of the mouse, a print, anything else that is drawn on the screen, or an
iteration of the main loop with the bytes that arrive in its gaps. -/
inductive ConsoleEvent where
  | bytes (bytes : List UInt8)
  | print (text : String) (color : UInt32)
  | draw (screen : Framebuffer)
  | turn (gaps : Gaps)

namespace Console

variable (server : Server) (status : Status)

/-- `terminal_print` -/
def print (console : Console) (text : String) (color : UInt32) : Option Console := do
  let terminal ← checkedPrint console.terminal text color
  let screen ← server.blitCanvas terminal.canvas.surface console.screen
  return { console with
    terminal := terminal
    screen := screen
    printed := console.printed ++ [(text, color)] }

/-- A message and the copy of the layer that follows it. -/
def announce (console : Console) (text : String) (color : UInt32) : Option Console := do
  let console ← console.print server text color
  let screen ← server.blitCanvas console.terminal.canvas.surface console.screen
  return { console with screen := screen }

/-- The messages on the way to ring 3. -/
def eject (console : Console) : Option Console := do
  let console ← console.announce server
    "\n> [WARNING] EJECTING FROM KERNEL MODE. DROPPING TO RING-3...\n" 0xEF4444
  let console ← console.announce server "> SYS: DISABLING CR0.WP & UNLOCKING MMU...\n" 0xF59E0B
  console.announce server "> SYS: MMU UNLOCKED! FIRING IRETQ...\n" 0x10B981

/-- What an iteration paints from, behind its window manager. -/
def view (console : Console) (before : Window) (mx my : Int) : View where
  terminal := console.terminal.canvas
  status := status
  before := before
  manager := console.manager
  mx := mx
  my := my

/-- An iteration behind `poll`. -/
def turn (gaps : Gaps) (console : Console) : Option Console := do
  let before := console.manager.window
  let sampled ← sample server.screen gaps console.mouse
  let manager ← console.manager.iterate server.screen sampled.mx sampled.my sampled.mbtn
  let console := { console with mouse := sampled.mouse, manager := manager }
  if manager.dropped then console.eject server
  else do
    let screen ← server.paintFrame (console.view status before sampled.mx sampled.my) console.screen
    return { console with screen := screen }

/-- In ring 3 the loop makes no more turns. -/
def step (console : Console) : ConsoleEvent → Option Console
  | .bytes bytes => some { console with mouse := console.mouse.receive bytes }
  | .print text color => console.print server text color
  | .draw screen => some { console with screen := screen }
  | .turn gaps => if console.manager.dropped then some console else console.turn server status gaps

/-- The main loop before its first turn, with what start-up has printed. -/
def start (terminal : Terminal) (screen : Framebuffer) (printed : List (String × UInt32)) :
    Console where
  mouse := Mouse.start
  manager := WindowManager.start
  terminal := terminal
  screen := screen
  printed := printed

/-- The window is on the desktop, and the layer under the bar shows the end of all that
has been printed. -/
structure Running (console : Console) : Prop where
  window : OnDesktop server.screen console.manager
  title : console.manager.window.title = "EDGECORE DIAGNOSTICS"
  ready : console.terminal.Ready
  corner : console.terminal.canvas.corner = (0, 40)
  shows : Display.Shows server.width (server.height - 40) console.terminal
    (layout server.width (Display.stream console.printed))

end Console

section Turn

variable {screen : Screen} {manager handled : WindowManager} {window moved : Window}
  {mx my offsetX offsetY : Int} {mbtn : UInt8}

theorem dragTo_title (moves : window.dragTo screen mx my offsetX offsetY = some moved) :
    moved.title = window.title := by
  obtain ⟨_, -, moves⟩ := Option.bind_eq_some_iff.mp moves
  obtain ⟨_, -, moves⟩ := Option.bind_eq_some_iff.mp moves
  obtain ⟨_, -, moves⟩ := Option.bind_eq_some_iff.mp moves
  obtain ⟨_, -, moves⟩ := Option.bind_eq_some_iff.mp moves
  cases moves
  rfl

theorem handled_title (handles : Handled screen manager mx my mbtn handled) :
    handled.window.title = manager.window.title := by
  cases handles with
  | drags isOpen left dragging window moved => exact dragTo_title moved
  | _ => rfl

/-- With the left button up the window stays where it is. -/
theorem handled_corner (handles : Handled screen manager mx my mbtn handled)
    (released : leftDown mbtn = false) : handled.window.corner = manager.window.corner := by
  cases handles with
  | drags isOpen left dragging window moved =>
    rw [released] at left
    cases left
  | _ => rfl

theorem storeHigh_exists {limit : Nat} (wide : 0 < asI32 limit) (cell : Int32) (value : Int) :
    ∃ store, storeHigh limit cell value = some store := by
  unfold storeHigh
  split
  case isTrue =>
    rw [checkedI32_end wide]
    exact ⟨_, rfl⟩
  case isFalse => exact ⟨none, rfl⟩

/-- However the interrupts fall, an iteration gets coordinates on the screen. -/
theorem sample_onScreen {screen : Screen} (roomy : Roomy screen) (gaps : Gaps) (mouse : Mouse) :
    ∃ sampled, sample screen gaps mouse = some sampled ∧
      OnScreen screen sampled.mx sampled.my := by
  obtain ⟨wide, high, narrow, low⟩ := roomy
  have columns : 0 < asI32 screen.width := by
    rw [asI32_of_lt (by omega)]
    omega
  have rows : 0 < asI32 screen.height := by
    rw [asI32_of_lt (by omega)]
    omega
  obtain ⟨mx, clampsX, left, right⟩ := clampAxis_inside screen.width (by omega) (by omega)
    (mouse.receive gaps.loadX).x.toInt
  obtain ⟨my, clampsY, top, bottom⟩ := clampAxis_inside screen.height (by omega) (by omega)
    ((mouse.receive gaps.loadX).receive gaps.loadY).y.toInt
  obtain ⟨storeX, stored⟩ := storeHigh_exists columns
    ((lower gaps mouse).mouse.receive gaps.highX).x (lower gaps mouse).mx
  obtain ⟨storeY, storedY⟩ := storeHigh_exists rows
    ((((lower gaps mouse).mouse.receive gaps.highX).storeX
      (cellAfter ((lower gaps mouse).mouse.receive gaps.highX).x storeX)).receive gaps.highY).y
    (lower gaps mouse).my
  have highX : clampHigh screen.width (lower gaps mouse).mx = some mx := clampsX
  have highY : clampHigh screen.height (lower gaps mouse).my = some my := clampsY
  obtain ⟨sampled, taken⟩ : ∃ sampled, sample screen gaps mouse = some sampled := by
    rw [sample]
    dsimp only
    rw [stored, Option.bind_eq_bind, Option.bind_some, highX, Option.bind_eq_bind,
      Option.bind_some, storedY, Option.bind_some, highY, Option.bind_some]
    exact ⟨_, rfl⟩
  obtain ⟨loadsX, loadsY, -⟩ := sample_loads taken
  rw [clampsX, Option.some.injEq] at loadsX
  rw [clampsY, Option.some.injEq] at loadsY
  rw [loadsX] at left right
  rw [loadsY] at top bottom
  exact ⟨sampled, taken, left, right, top, bottom⟩

end Turn

namespace Console

variable {server : Server} {status : Status} {console : Console}

theorem Running.canvas (running : console.Running server) :
    console.terminal.canvas.x = 0 ∧ console.terminal.canvas.y = 40 ∧
      console.terminal.canvas.width = server.width ∧
      console.terminal.canvas.height = server.height - 40 :=
  ⟨congrArg Prod.fst running.corner, congrArg Prod.snd running.corner, running.shows.canvasWidth,
    running.shows.canvasHeight⟩

/-- A copy of the layer to the screen gets through. -/
theorem Running.blits (running : console.Running server) (screen : Framebuffer) :
    ∃ final, server.blitCanvas console.terminal.canvas.surface screen = some final := by
  obtain ⟨left, top, width, -⟩ := running.canvas
  refine ⟨_, Server.blitCanvas_sheet rfl ?_ ?_ screen⟩
  · change console.terminal.canvas.x + console.terminal.canvas.width ≤ server.width
    rw [left, width, Nat.zero_add]
  · change console.terminal.canvas.y < 2 ^ 64
    rw [top]
    decide

theorem Running.redrawn (running : console.Running server) (screen : Framebuffer) :
    ({ console with screen := screen }).Running server := { running with }

theorem Running.print (wide : 60 ≤ server.width) (running : console.Running server) (text : String)
    (color : UInt32) : ∃ next, console.print server text color = some next ∧
      next.Running server ∧ next.manager = console.manager ∧ next.mouse = console.mouse := by
  obtain ⟨terminal, checks, prints, ready⟩ := checkedPrint_ready running.ready text color
  obtain ⟨other, laidOut, shows⟩ := running.shows.run wide (Display.stream [(text, color)])
  rw [← printAll_eq_run, printAll, run_cons, prints, Option.bind_some, run_nil,
    Option.some.injEq] at laidOut
  subst laidOut
  have kept : ({ console with
      terminal := terminal
      printed := console.printed ++ [(text, color)] }).Running server := by
    refine ⟨running.window, running.title, ready, ?_, ?_⟩
    · exact (terminalPrint_corner prints).trans running.corner
    · rw [Display.stream, List.flatMap_append, layout, List.foldl_append]
      exact shows
  obtain ⟨screen, copied⟩ := kept.blits console.screen
  rw [Console.print, checks, Option.bind_eq_bind, Option.bind_some, copied]
  exact ⟨_, rfl, kept.redrawn screen, rfl, rfl⟩

theorem Running.announce (wide : 60 ≤ server.width) (running : console.Running server)
    (text : String) (color : UInt32) : ∃ next, console.announce server text color = some next ∧
      next.Running server ∧ next.manager = console.manager := by
  obtain ⟨middle, printed, kept, same, -⟩ := running.print wide text color
  obtain ⟨screen, copied⟩ := kept.blits middle.screen
  rw [Console.announce, printed, Option.bind_eq_bind, Option.bind_some, copied]
  exact ⟨_, rfl, kept.redrawn screen, same⟩

theorem Running.eject (wide : 60 ≤ server.width) (running : console.Running server) :
    ∃ next, console.eject server = some next ∧ next.Running server ∧
      next.manager = console.manager := by
  obtain ⟨first, warned, running, same⟩ := running.announce wide
    "\n> [WARNING] EJECTING FROM KERNEL MODE. DROPPING TO RING-3...\n" 0xEF4444
  obtain ⟨second, unlocking, running, again⟩ := running.announce wide
    "> SYS: DISABLING CR0.WP & UNLOCKING MMU...\n" 0xF59E0B
  obtain ⟨third, fired, running, last⟩ := running.announce wide
    "> SYS: MMU UNLOCKED! FIRING IRETQ...\n" 0x10B981
  rw [Console.eject, warned, Option.bind_eq_bind, Option.bind_some, unlocking, Option.bind_some]
  exact ⟨third, fired, running, last.trans (again.trans same)⟩

/-- The scene that a turn has painted is on the screen, and nothing else of the
framebuffer has been written. As long as the left button is up, the button of the drop
stands where the next press is tested. -/
structure Shown (server : Server) (status : Status) (console next : Console) (sampled : Sample) :
    Prop where
  picture : ∀ point, server.Visible point →
    (next.view status console.manager.window sampled.mx sampled.my).scene server point =
      some (server.picture next.screen point)
  beside : ∀ word, server.point word = none → next.screen word = console.screen word
  button : leftDown sampled.mbtn = false →
    console.manager.window.corner = next.manager.window.corner

section Roomy

variable (roomy : Roomy server.screen) (short : status.sectorDataStr.length < 2 ^ 32)

include roomy short

/-- A turn comes to its end, in ring 3 or with the scene on the screen. -/
theorem Running.turn (running : console.Running server) (gaps : Gaps) : ∃ next sampled,
    console.turn server status gaps = some next ∧ next.Running server ∧
      sample server.screen gaps console.mouse = some sampled ∧
      (next.manager.dropped = false → Shown server status console next sampled) := by
  have wide : 60 ≤ server.width := Nat.le_trans (by decide) roomy.wide
  obtain ⟨sampled, taken, onScreen⟩ := sample_onScreen roomy gaps console.mouse
  obtain ⟨manager, iterates, onDesktop⟩ := running.window.iterate roomy onScreen sampled.mbtn
  obtain ⟨handled, handles, noted⟩ := WindowManager.iterate_handled iterates
  have window : manager.window = handled.window := by
    rw [noted]
    split <;> rfl
  have title : manager.window.title = "EDGECORE DIAGNOSTICS" := by
    rw [window, handled_title handles, running.title]
  have moved : ({ console with mouse := sampled.mouse, manager := manager }).Running server :=
    { running with window := onDesktop, title := title }
  rw [Console.turn]
  dsimp only
  rw [taken, Option.bind_eq_bind, Option.bind_some, iterates, Option.bind_eq_bind, Option.bind_some]
  by_cases dropped : manager.dropped = true
  · obtain ⟨next, ejects, kept, same⟩ := moved.eject wide
    rw [if_pos dropped]
    refine ⟨next, sampled, ejects, kept, rfl, fun stays => ?_⟩
    rw [same] at stays
    exact absurd dropped (Bool.eq_false_iff.mp stays)
  · have placed : (Console.view status { console with mouse := sampled.mouse, manager := manager }
        console.manager.window sampled.mx sampled.my).Placed server := by
      obtain ⟨left, top, width, height⟩ := running.canvas
      have high : 500 ≤ server.height := roomy.high
      refine ⟨left, top, width, ?_, onDesktop, running.window.inside, onScreen, ?_, short⟩
      · change console.terminal.canvas.height + 40 = server.height
        rw [height]
        omega
      · change manager.window.title.length < 2 ^ 32
        rw [title]
        decide
    rw [if_neg dropped, Server.paintFrame_scene roomy placed, Option.bind_eq_bind, Option.bind_some]
    refine ⟨_, sampled, rfl, moved.redrawn _, rfl, fun _ => ⟨?_, ?_, ?_⟩⟩
    · intro point visible
      obtain ⟨color, there⟩ :=
        Option.isSome_iff_exists.mp (Server.scene_covers placed visible)
      rw [Server.picture, if_pos visible]
      refine there.trans (congrArg some (Sheet.onTop_of_eq_some ?_).symm)
      rw [Server.onScreen, Sheet.onto, Server.point_word visible]
      exact there
    · intro word beside
      refine Sheet.onTop_of_eq_none ?_
      rw [Server.onScreen, Sheet.onto, beside]
      rfl
    · intro released
      exact (handled_corner handles released).symm.trans (congrArg Window.corner window.symm)

theorem Running.step (running : console.Running server) (event : ConsoleEvent) :
    ∃ next, console.step server status event = some next ∧ next.Running server := by
  cases event with
  | bytes bytes => exact ⟨_, rfl, { running with }⟩
  | print text color =>
    obtain ⟨next, prints, kept, -⟩ :=
      running.print (Nat.le_trans (by decide) roomy.wide) text color
    exact ⟨next, prints, kept⟩
  | draw screen => exact ⟨_, rfl, running.redrawn screen⟩
  | turn gaps =>
    unfold Console.step
    dsimp only
    split
    case isTrue => exact ⟨console, rfl, running⟩
    case isFalse =>
      obtain ⟨next, -, turns, kept, -⟩ := running.turn roomy short gaps
      exact ⟨next, turns, kept⟩

omit short in
theorem start_running {printed : List (String × UInt32)} {terminal : Terminal}
    (started : printAll printed (Terminal.blank 0 40 server.width (server.height - 40)) =
      some terminal) (screen : Framebuffer) : (start terminal screen printed).Running server := by
  obtain ⟨wide, high, narrow, low⟩ := roomy
  change 700 ≤ server.width at wide
  change 500 ≤ server.height at high
  change server.width < 2 ^ 30 at narrow
  change server.height < 2 ^ 30 at low
  have blank : Display.Shows server.width (server.height - 40)
      (Terminal.blank 0 40 server.width (server.height - 40)) Page.blank :=
    Shows.initial 0 40 (by omega) (by omega)
  obtain ⟨other, laidOut, shows⟩ := blank.run (by omega) (Display.stream printed)
  rw [← printAll_eq_run, started, Option.some.injEq] at laidOut
  subst laidOut
  have first : (Terminal.blank 0 40 server.width (server.height - 40)).Ready := by
    refine ⟨⟨?_, ?_, ?_⟩, ?_⟩
    · change 40 ≤ server.width
      omega
    · change server.width * (server.height - 40 + 40) * 4 ≤ 2 ^ 64
      rw [Nat.sub_add_cancel (by omega)]
      have area : server.width * server.height ≤ 2 ^ 30 * 2 ^ 30 :=
        Nat.mul_le_mul (by omega) (by omega)
      omega
    · exact Nat.le_add_left ..
    · change 20 ≤ server.width
      omega
  obtain ⟨ready, corner, -⟩ := printAll_ready first started
  exact ⟨start_onDesktop ⟨wide, high, narrow, low⟩, rfl, ready, corner, shows⟩

end Roomy

/-- Whatever the mouse sends, whenever it is sent, and whatever is printed to the
terminal or drawn over the screen: the main loop goes on, and behind each of its turns
the screen shows the scene of that turn, with the end of all that has been printed in
its terminal. -/
theorem console_shows {server : Server} (roomy : Roomy server.screen) {status : Status}
    (short : status.sectorDataStr.length < 2 ^ 32) {printed : List (String × UInt32)}
    {terminal : Terminal}
    (started : printAll printed (Terminal.blank 0 40 server.width (server.height - 40)) =
      some terminal) (screen : Framebuffer) (events : List ConsoleEvent) :
    ∃ console, run (step server status) events (start terminal screen printed) = some console ∧
      console.Running server ∧ ∀ gaps, ∃ next sampled,
        console.turn server status gaps = some next ∧ next.Running server ∧
        sample server.screen gaps console.mouse = some sampled ∧
        (next.manager.dropped = false → Shown server status console next sampled) := by
  have preserved : ∀ console event, console.Running server → True →
      ∃ next, step server status console event = some next ∧ next.Running server :=
    fun _ event running _ => running.step roomy short event
  obtain ⟨console, reached, running⟩ := run_invariant preserved events (fun _ _ => trivial)
    (start_running roomy started screen)
  exact ⟨console, reached, running, fun gaps => running.turn roomy short gaps⟩

/-- The mouse goes down and to the right while a text is printed. -/
theorem console_shows_laptop :
    let status : Status := ⟨true, false, "FILE CONTENT: HELLO"⟩
    ∃ console, run (step Server.laptop status)
        [.bytes [0x28, 10], .print "> NET\n" 0x3B82F6, .turn Gaps.quiet, .bytes [0xF6]]
        (start (Terminal.blank 0 40 1280 760) (fun _ => 0xEF4444) []) = some console ∧
      console.Running Server.laptop ∧ ∀ gaps, ∃ next sampled,
        console.turn Server.laptop status gaps = some next ∧ next.Running Server.laptop ∧
        sample Server.laptop.screen gaps console.mouse = some sampled ∧
        (next.manager.dropped = false → Shown Server.laptop status console next sampled) :=
  console_shows ⟨by decide, by decide, by decide, by decide⟩ (by decide) rfl _ _

end Console

end QoreOS.Runtime
