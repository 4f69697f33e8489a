import QoreOS.Display.DesktopBounds
import QoreOS.Display.PaintSheets
import QoreOS.Display.Printing

/-! A frame of the main loop: all that an iteration paints behind the window manager, and
the scene that is then on the screen, whatever was there before. -/

namespace QoreOS.Display

open QoreOS.Library

/-- What start-up has found, as far as the window tells. -/
structure Status where
  nvmeFound : Bool
  hdaFound : Bool
  sectorDataStr : String

/-- What an iteration paints from. `before` is the window as the iteration has found it. -/
structure View where
  terminal : Canvas
  status : Status
  before : Window
  manager : WindowManager
  mx : Int
  my : Int

namespace Status

variable (status : Status)

def nvmeText : String :=
  let secured := if status.nvmeFound then "DATA SECURED" else "NOT DETECTED"
  s!"STORAGE: NVME CONTROLLER {secured}"

def hdaText : String :=
  let playing := if status.hdaFound then "PLAYING 440HZ TONE" else "OFFLINE"
  s!"AUDIO: INTEL HDA {playing}"

/-- The last two lines of the window. -/
def payloadLines (textX textY : Nat) : Option (List PaintCall) := do
  if status.sectorDataStr.utf8ByteSize > 0 then
    let heading ← checked (2 ^ 64) (textY + 130)
    let line ← checked (2 ^ 64) (textY + 150)
    return [
      .drawString textX heading "FAT32 PAYLOAD DECRYPTED:" 0x10B981 1,
      .drawString textX line status.sectorDataStr 0xF59E0B 1]
  else return []

end Status

namespace View

variable (view : View)

def diagText : String := s!"MOUSE X: {view.mx}   MOUSE Y: {view.my}"

/-- The calls for the lines of the window. -/
def drawLines : Option (List PaintCall) := do
  let window := view.manager.window
  let textX ← checked (2 ^ 64) (asUsize window.x + 20)
  let textY ← checked (2 ^ 64) (asUsize window.y + 50)
  let safeZone ← checked (2 ^ 64) (textY + 40)
  let network ← checked (2 ^ 64) (textY + 60)
  let storage ← checked (2 ^ 64) (textY + 80)
  let audio ← checked (2 ^ 64) (textY + 100)
  let payload ← view.status.payloadLines textX textY
  return [
    .drawString textX textY view.diagText 0x10B981 2,
    .drawString textX safeZone "SYS: 2MB RING-0 SAFE ZONE ACTIVE" 0xFFFFFF 1,
    .drawString textX network "SYS: E1000 NETWORK CARD ONLINE" 0xFFFFFF 1,
    .drawString textX storage view.status.nvmeText 0x3B82F6 1,
    .drawString textX audio view.status.hdaText 0x3B82F6 1] ++ payload

/-- The calls for an open window. The place of the button is that of the window before
the iteration has moved it. -/
def drawWindow (screen : Screen) : Option (List PaintCall) :=
  if view.manager.window.isOpen then do
    let frame ← view.manager.window.drawWindow screen
    let lines ← view.drawLines
    let button ← { view.before with isOpen := true }.drawDropButton
    return frame ++ lines ++ button
  else some []

def cursorColor : UInt32 := if view.manager.isDragging then 0x10B981 else 0x3B82F6

def drawCursor : Option (List PaintCall) := do
  let x ← checked (2 ^ 64) (asUsize view.mx + 1)
  let y ← checked (2 ^ 64) (asUsize view.my + 1)
  return [
    .fillRect (asUsize view.mx) (asUsize view.my) 8 8 0x000000,
    .fillRect x y 6 6 view.cursorColor]

end View

namespace Server

variable (server : Server)

def drawBar : List PaintCall := [
  .fillRect 0 0 server.width 40 0x1E293B,
  .drawString 20 10 "QOREOS UNIKERNEL SECURE CONSOLE" 0xFFFFFF 2]

/-- The end of an iteration. -/
def paintFrame (view : View) (screen : Framebuffer) : Option Framebuffer := do
  let screen ← run server.perform server.drawBar screen
  let screen ← server.blitCanvas view.terminal.surface screen
  let window ← view.drawWindow server.screen
  let screen ← run server.perform window screen
  let cursor ← view.drawCursor
  run server.perform cursor screen

end Server

/-! The scene. Coordinates are plain numbers here: nothing overflows on the desktop. -/

namespace Window

variable (window : Window)

/-- The corner of the window, as a point. -/
def corner : Nat × Nat := (window.x.toNat, window.y.toNat)

/-- The frame of the window and its title bar. -/
def frameLook : List PaintCall :=
  let (x, y) := window.corner
  [.fillRect (x + 4) (y + 4) window.width window.height 0x000000,
    .fillRect x y window.width window.height window.bgColor,
    .fillRect x y window.width 24 0x0F172A,
    .drawString (x + 8) (y + 8) window.title 0xFFFFFF 1,
    .fillRect (x + window.width - 20) (y + 4) 16 16 0xEF4444,
    .drawString (x + window.width - 20 + 4) (y + 4 + 4) "X" 0xFFFFFF 1]

def buttonLook : List PaintCall :=
  let (x, y) := window.corner
  [.fillRect (x + 20) (y + 240) 380 24 0xEF4444,
    .drawString (x + 20 + 10) (y + 240 + 6) "INITIATE SECURE RING-3 DROP (LOCKS GUI)" 0xFFFFFF 1]

end Window

namespace View

variable (view : View)

def lineLook : List PaintCall :=
  let (x, y) := view.manager.window.corner
  [.drawString (x + 20) (y + 50) view.diagText 0x10B981 2,
    .drawString (x + 20) (y + 50 + 40) "SYS: 2MB RING-0 SAFE ZONE ACTIVE" 0xFFFFFF 1,
    .drawString (x + 20) (y + 50 + 60) "SYS: E1000 NETWORK CARD ONLINE" 0xFFFFFF 1,
    .drawString (x + 20) (y + 50 + 80) view.status.nvmeText 0x3B82F6 1,
    .drawString (x + 20) (y + 50 + 100) view.status.hdaText 0x3B82F6 1] ++
  if view.status.sectorDataStr = "" then [] else [
    .drawString (x + 20) (y + 50 + 130) "FAT32 PAYLOAD DECRYPTED:" 0x10B981 1,
    .drawString (x + 20) (y + 50 + 150) view.status.sectorDataStr 0xF59E0B 1]

def windowLook : List PaintCall :=
  if view.manager.window.isOpen then
    view.manager.window.frameLook ++ view.lineLook ++ view.before.buttonLook
  else []

def cursorLook : List PaintCall := [
  .fillRect view.mx.toNat view.my.toNat 8 8 0x000000,
  .fillRect (view.mx.toNat + 1) (view.my.toNat + 1) 6 6 view.cursorColor]

/-- The bar, the terminal, the window and the cursor, the one above the other. -/
def layers (server : Server) : List (Sheet (Nat × Nat) UInt32) :=
  server.drawBar.map PaintCall.sheet ++ [view.terminal.surface.sheet] ++
    view.windowLook.map PaintCall.sheet ++ view.cursorLook.map PaintCall.sheet

def scene (server : Server) : Sheet (Nat × Nat) UInt32 := .pile (view.layers server)

end View

/-- A window that shows its whole frame below the bar. -/
structure Window.Inside (screen : Screen) (window : Window) : Prop where
  left : 0 ≤ window.x
  right : window.x + 600 ≤ screen.width
  top : 40 ≤ window.y
  bottom : window.y + 300 ≤ screen.height

theorem OnDesktop.inside {screen : Screen} {manager : WindowManager}
    (onDesktop : OnDesktop screen manager) : manager.window.Inside screen :=
  ⟨onDesktop.left, onDesktop.right, onDesktop.top, onDesktop.bottom⟩

/-- The layer fills the screen under the bar, the window is and was on the desktop, the
cursor is on the screen, and the texts are no longer than memory allows. -/
structure View.Placed (server : Server) (view : View) : Prop where
  left : view.terminal.x = 0
  top : view.terminal.y = 40
  width : view.terminal.width = server.width
  height : view.terminal.height + 40 = server.height
  window : OnDesktop server.screen view.manager
  before : view.before.Inside server.screen
  cursor : OnScreen server.screen view.mx view.my
  title : view.manager.window.title.length < 2 ^ 32
  payload : view.status.sectorDataStr.length < 2 ^ 32

namespace View.Placed

variable {server : Server} {view : View} (roomy : Roomy server.screen) (placed : view.Placed server)

include roomy placed

theorem drawFrame : view.manager.window.drawWindow server.screen =
    some (if view.manager.window.isOpen then view.manager.window.frameLook else []) := by
  obtain ⟨wide, high, narrow, low⟩ := roomy
  obtain ⟨width, height, left, right, top, bottom, -, -⟩ := placed.window
  unfold Window.drawWindow
  split
  case isFalse => rfl
  case isTrue =>
    have fits : view.manager.window.sticksOut server.screen view.manager.window.x.toNat
        view.manager.window.y.toNat = some false := by
      unfold Window.sticksOut
      rw [width, height, checked_of_lt (by omega), Option.bind_eq_bind, Option.bind_some,
        if_neg (by omega), checked_of_lt (by omega), Option.bind_some]
      exact congrArg some (decide_eq_false (by omega))
    rw [if_neg (by omega), if_neg (by omega), asUsize_of_nonneg left (by omega),
      asUsize_of_nonneg (by omega) (by omega)]
    dsimp only
    rw [fits, Option.bind_eq_bind, Option.bind_some, if_neg Bool.false_ne_true]
    rw [Window.paint, width, checked_of_lt (by omega), Option.bind_eq_bind, Option.bind_some,
      checked_of_lt (by omega), Option.bind_some, checked_of_lt (by omega), Option.bind_some,
      checked_of_lt (by omega), Option.bind_some, checked_of_lt (by omega), Option.bind_some,
      checkedSub_of_le (by omega), Option.bind_some, Option.bind_some, checked_of_lt (by omega),
      Option.bind_some, checked_of_lt (by omega), Option.bind_some]
    simp only [Window.frameLook, Window.corner, width]
    rfl

theorem drawLines : view.drawLines = some view.lineLook := by
  obtain ⟨wide, high, narrow, low⟩ := roomy
  obtain ⟨width, height, left, right, top, bottom, -, -⟩ := placed.window
  have payload : view.status.payloadLines (view.manager.window.x.toNat + 20)
      (view.manager.window.y.toNat + 50) = some (if view.status.sectorDataStr = "" then [] else [
        .drawString (view.manager.window.x.toNat + 20) (view.manager.window.y.toNat + 50 + 130)
          "FAT32 PAYLOAD DECRYPTED:" 0x10B981 1,
        .drawString (view.manager.window.x.toNat + 20) (view.manager.window.y.toNat + 50 + 150)
          view.status.sectorDataStr 0xF59E0B 1]) := by
    unfold Status.payloadLines
    by_cases empty : view.status.sectorDataStr = ""
    · rw [if_pos empty, if_neg (by simp [empty])]
      rfl
    · have some_bytes : view.status.sectorDataStr.utf8ByteSize > 0 := by
        rw [gt_iff_lt, Nat.pos_iff_ne_zero, Ne, String.utf8ByteSize_eq_zero_iff]
        exact empty
      rw [if_pos some_bytes, if_neg empty, checked_of_lt (by omega), Option.bind_eq_bind,
        Option.bind_some, checked_of_lt (by omega)]
      rfl
  rw [View.drawLines, asUsize_of_nonneg left (by omega), asUsize_of_nonneg (by omega) (by omega),
    checked_of_lt (by omega), Option.bind_eq_bind, Option.bind_some, checked_of_lt (by omega),
    Option.bind_some, checked_of_lt (by omega), Option.bind_some, checked_of_lt (by omega),
    Option.bind_some, checked_of_lt (by omega), Option.bind_some, checked_of_lt (by omega),
    Option.bind_some, payload, Option.bind_eq_bind, Option.bind_some]
  rfl

theorem drawButton : { view.before with isOpen := true }.drawDropButton =
    some view.before.buttonLook := by
  obtain ⟨wide, high, narrow, low⟩ := roomy
  obtain ⟨left, right, top, bottom⟩ := placed.before
  rw [Window.drawDropButton]
  dsimp only
  rw [asUsize_of_nonneg left (by omega), asUsize_of_nonneg (by omega) (by omega),
    checked_of_lt (by omega), Option.bind_eq_bind, Option.bind_some, checked_of_lt (by omega),
    Option.bind_some, if_pos rfl, checked_of_lt (by omega), Option.bind_some,
    checked_of_lt (by omega), Option.bind_some]
  rfl

theorem drawWindow : view.drawWindow server.screen = some view.windowLook := by
  unfold View.drawWindow View.windowLook
  split
  case isFalse => rfl
  case isTrue shown =>
    rw [placed.drawFrame roomy, if_pos shown, Option.bind_eq_bind, Option.bind_some,
      placed.drawLines roomy, Option.bind_some, placed.drawButton roomy, Option.bind_some]
    rfl

theorem drawCursor : view.drawCursor = some view.cursorLook := by
  obtain ⟨wide, high, narrow, low⟩ := roomy
  obtain ⟨left, right, top, bottom⟩ := placed.cursor
  rw [View.drawCursor, asUsize_of_nonneg left (by omega), asUsize_of_nonneg top (by omega),
    checked_of_lt (by omega), Option.bind_eq_bind, Option.bind_some, checked_of_lt (by omega),
    Option.bind_some]
  rfl

end View.Placed

section Fits

variable {x y scale w h : Nat} {text : String} {color : UInt32}

/-- Near the screen even a long text meets no overflow. -/
theorem text_fits (left : x < 2 ^ 31) (top : y < 2 ^ 31) (small : scale ≤ 2)
    (short : text.length < 2 ^ 32) : (PaintCall.drawString x y text color scale).Fits := by
  have wide : 10 * scale * text.length ≤ 20 * text.length := Nat.mul_le_mul_right _ (by omega)
  exact ⟨by omega, by omega⟩

theorem rectangle_fits (left : x < 2 ^ 31) (top : y < 2 ^ 31) (narrow : w < 2 ^ 31)
    (low : h < 2 ^ 31) : (PaintCall.fillRect x y w h color).Fits := ⟨by omega, by omega⟩

theorem toString_length {value : Int} (nonneg : 0 ≤ value) (small : value < 2 ^ 30) :
    (toString value).length ≤ 10 := by
  obtain ⟨n, rfl⟩ := Int.eq_ofNat_of_zero_le nonneg
  have digits : (toString n).length ≤ 10 := by
    rw [Nat.toString_eq_ofList_toDigits, String.length_ofList]
    exact (Nat.length_toDigits_le_iff (by decide) (by decide)).mpr (by omega)
  exact digits

end Fits

namespace View.Placed

variable {server : Server} {view : View} (roomy : Roomy server.screen) (placed : view.Placed server)

include roomy

theorem bar_fits : ∀ call ∈ server.drawBar, call.Fits := by
  have narrow := roomy.narrow
  change server.width < 2 ^ 30 at narrow
  simp only [Server.drawBar, List.mem_cons, List.not_mem_nil, or_false, forall_eq_or_imp, forall_eq]
  exact ⟨rectangle_fits (by decide) (by decide) (by omega) (by decide),
    text_fits (by decide) (by decide) (by decide) (by decide)⟩

include placed

theorem diagText_length : view.diagText.length < 2 ^ 32 := by
  obtain ⟨left, right, top, bottom⟩ := placed.cursor
  have narrow := roomy.narrow
  have low := roomy.low
  have column := toString_length left (by omega)
  have row := toString_length top (by omega)
  have heading : (toString "MOUSE X: ").length = 9 := by decide
  have between : (toString "   MOUSE Y: ").length = 12 := by decide
  rw [View.diagText]
  simp only [String.length_append]
  omega

theorem lines_fit : ∀ call ∈ view.lineLook, call.Fits := by
  obtain ⟨wide, high, narrow, low⟩ := roomy
  obtain ⟨width, height, left, right, top, bottom, -, -⟩ := placed.window
  have diag := placed.diagText_length ⟨wide, high, narrow, low⟩
  have storage : view.status.nvmeText.length < 2 ^ 32 := by
    unfold Status.nvmeText
    cases view.status.nvmeFound <;> decide
  have audio : view.status.hdaText.length < 2 ^ 32 := by
    unfold Status.hdaText
    cases view.status.hdaFound <;> decide
  intro call member
  rw [View.lineLook, List.mem_append] at member
  rcases member with line | payload
  · simp only [Window.corner, List.mem_cons, List.not_mem_nil, or_false] at line
    rcases line with rfl | rfl | rfl | rfl | rfl
    · exact text_fits (by omega) (by omega) (by decide) diag
    · exact text_fits (by omega) (by omega) (by decide) (by decide)
    · exact text_fits (by omega) (by omega) (by decide) (by decide)
    · exact text_fits (by omega) (by omega) (by decide) storage
    · exact text_fits (by omega) (by omega) (by decide) audio
  · split at payload
    case isTrue => simp at payload
    case isFalse =>
      simp only [Window.corner, List.mem_cons, List.not_mem_nil, or_false] at payload
      rcases payload with rfl | rfl
      · exact text_fits (by omega) (by omega) (by decide) (by decide)
      · exact text_fits (by omega) (by omega) (by decide) placed.payload

theorem frame_fits : ∀ call ∈ view.manager.window.frameLook, call.Fits := by
  obtain ⟨wide, high, narrow, low⟩ := roomy
  obtain ⟨width, height, left, right, top, bottom, -, -⟩ := placed.window
  intro call member
  simp only [Window.frameLook, Window.corner, width, height, List.mem_cons, List.not_mem_nil,
    or_false] at member
  rcases member with rfl | rfl | rfl | rfl | rfl | rfl
  · exact rectangle_fits (by omega) (by omega) (by decide) (by decide)
  · exact rectangle_fits (by omega) (by omega) (by decide) (by decide)
  · exact rectangle_fits (by omega) (by omega) (by decide) (by decide)
  · exact text_fits (by omega) (by omega) (by decide) placed.title
  · exact rectangle_fits (by omega) (by omega) (by decide) (by decide)
  · exact text_fits (by omega) (by omega) (by decide) (by decide)

theorem button_fits : ∀ call ∈ view.before.buttonLook, call.Fits := by
  obtain ⟨wide, high, narrow, low⟩ := roomy
  obtain ⟨left, right, top, bottom⟩ := placed.before
  intro call member
  simp only [Window.buttonLook, Window.corner, List.mem_cons, List.not_mem_nil, or_false] at member
  rcases member with rfl | rfl
  · exact rectangle_fits (by omega) (by omega) (by decide) (by decide)
  · exact text_fits (by omega) (by omega) (by decide) (by decide)

theorem window_fits : ∀ call ∈ view.windowLook, call.Fits := by
  intro call member
  unfold View.windowLook at member
  split at member
  case isFalse => cases member
  case isTrue =>
    rw [List.mem_append, List.mem_append] at member
    rcases member with (frame | line) | button
    · exact placed.frame_fits roomy call frame
    · exact placed.lines_fit roomy call line
    · exact placed.button_fits roomy call button

theorem cursor_fits : ∀ call ∈ view.cursorLook, call.Fits := by
  obtain ⟨left, right, top, bottom⟩ := placed.cursor
  have narrow := roomy.narrow
  have low := roomy.low
  intro call member
  simp only [View.cursorLook, List.mem_cons, List.not_mem_nil, or_false] at member
  rcases member with rfl | rfl
  · exact rectangle_fits (by omega) (by omega) (by decide) (by decide)
  · exact rectangle_fits (by omega) (by omega) (by decide) (by decide)

end View.Placed

namespace Server

variable {server : Server} {view : View} (roomy : Roomy server.screen)

/-- Calls that fit lay their sheets in turn. -/
theorem run_perform {calls : List PaintCall} (fit : ∀ call ∈ calls, call.Fits) (screen : Framebuffer) :
    run server.perform calls screen =
      some ((server.onScreen (.pile (calls.map PaintCall.sheet))).onTop screen) := by
  obtain ⟨final, painted, laid⟩ := Sheet.run_pile id
    (fun call : PaintCall => server.onScreen call.sheet) calls
    (fun call member screen => perform_sheet (fit call member) screen) screen
  rw [painted, onScreen, Sheet.onto_pile, List.map_map]
  exact congrArg some laid

/-- The bar and the terminal fill the screen, so that nothing shows through. -/
theorem scene_covers (placed : view.Placed server) {point : Nat × Nat}
    (visible : server.Visible point) : (view.scene server point).isSome := by
  obtain ⟨column, row⟩ := visible
  rw [View.scene, Sheet.pile_isSome]
  by_cases bar : point.2 < 40
  · refine ⟨(PaintCall.fillRect 0 0 server.width 40 0x1E293B).sheet, by simp [View.layers, drawBar], ?_⟩
    have inside : Canvas.Rectangle 0 0 server.width 40 point :=
      ⟨by omega, by omega, by omega, by omega⟩
    exact (congrArg Option.isSome (if_pos inside)).trans rfl
  · refine ⟨view.terminal.surface.sheet, by simp [View.layers], ?_⟩
    have height := placed.height
    have inside : Canvas.Rectangle view.terminal.x (view.terminal.y + 0) view.terminal.width
        view.terminal.height point := by
      rw [placed.left, placed.top, placed.width]
      exact ⟨by omega, by omega, by omega, by omega⟩
    exact (congrArg Option.isSome (if_pos inside)).trans rfl

include roomy

/-- The end of an iteration lays the scene over whatever the framebuffer holds: no trace of
an earlier frame is left, and nothing is written beside the screen. -/
theorem paintFrame_scene (placed : view.Placed server) (screen : Framebuffer) :
    server.paintFrame view screen = some ((server.onScreen (view.scene server)).onTop screen) := by
  have column : view.terminal.surface.x + view.terminal.surface.width ≤ server.width := by
    change view.terminal.x + view.terminal.width ≤ server.width
    rw [placed.left, placed.width, Nat.zero_add]
  have row : view.terminal.surface.y < 2 ^ 64 := by
    change view.terminal.y < 2 ^ 64
    rw [placed.top]
    decide
  rw [paintFrame, run_perform (View.Placed.bar_fits roomy), Option.bind_eq_bind, Option.bind_some,
    blitCanvas_sheet rfl column row, Option.bind_some, placed.drawWindow roomy, Option.bind_eq_bind,
    Option.bind_some, run_perform (placed.window_fits roomy), Option.bind_some,
    placed.drawCursor roomy, Option.bind_some, run_perform (placed.cursor_fits roomy)]
  simp only [onScreen, Sheet.onto_pile, View.scene, View.layers, List.map_append, Sheet.onTop_pile,
    List.foldl_append, List.map_cons, List.map_nil, List.foldl_cons, List.foldl_nil]

end Server

end QoreOS.Display
