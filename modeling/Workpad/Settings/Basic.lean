import Workpad.Text.Blank

/-!
The settings of a session, their defaults, and what makes them unusable. Setters check nothing: a
check is made once, when settings come from outside.
-/
namespace Workpad

structure Icons where
  image : String := "🖼 PNG"
  vector : String := "✎ SVG"
  document : String := "📄 PDF"
deriving DecidableEq, Repr

def targetPlaceholder : String := "\x7btarget\x7d"

def defaultPrelude : String :=
  "import matplotlib\n" ++
  "matplotlib.use(\"module://matplotlib_pyodide.html5_canvas_backend\")\n" ++
  "from js import document\n" ++
  "document.pyodideMplTarget = document.getElementById(\"" ++ targetPlaceholder ++ "\")\n"

structure Duration where
  seconds : UInt64
  nanoseconds : Fin 1000000000
deriving DecidableEq, Repr

namespace Duration

def ofMilliseconds (n : UInt64) : Duration where
  seconds := n / 1000
  nanoseconds := Fin.ofNat 1000000000 (n.toNat % 1000 * 1000000)

def milliseconds (d : Duration) : Nat := d.seconds.toNat * 1000 + d.nanoseconds.val / 1000000

def whole (d : Duration) : Duration := ⟨d.seconds, 0⟩

end Duration

structure Settings where
  runtimeLocation : String := "https://cdn.jsdelivr.net/pyodide/v0.25.1/full/pyodide.js"
  fetchTimeoutSecs : UInt64 := 60
  maxRuntimeBytes : UInt64 := 67108864
  plotKeyword : String := "matplotlib"
  plotPrelude : String := defaultPrelude
  icons : Icons := {}
  helpWrapWidth : UInt64 := 40
deriving DecidableEq, Repr

namespace Settings

def withRuntimeLocation (location : String) (s : Settings) : Settings :=
  { s with runtimeLocation := location }

/-- Only whole seconds are kept. -/
def withFetchTimeout (d : Duration) (s : Settings) : Settings :=
  { s with fetchTimeoutSecs := d.seconds }

def withPlotKeyword (keyword : String) (s : Settings) : Settings :=
  { s with plotKeyword := keyword }

def withPlotPrelude (prelude : String) (s : Settings) : Settings :=
  { s with plotPrelude := prelude }

def withIcons (icons : Icons) (s : Settings) : Settings := { s with icons }

def withHelpWrapWidth (width : UInt64) (s : Settings) : Settings :=
  { s with helpWrapWidth := width }

def fetchTimeout (s : Settings) : Duration := ⟨s.fetchTimeoutSecs, 0⟩

inductive Defect where
  | locationBlank
  | keywordEmpty
  | wrapTooNarrow (width : UInt64)
deriving DecidableEq, Repr

def Defect.message : Defect → String
  | .locationBlank => "runtime_location must not be empty"
  | .keywordEmpty => "plot_keyword must not be empty"
  | .wrapTooNarrow w => "help_wrap_width must be at least 8, got " ++ toString w.toNat

def defect? (s : Settings) : Option Defect :=
  if Text.allBlank s.runtimeLocation.toList then some .locationBlank
  else if s.plotKeyword.isEmpty then some .keywordEmpty
  else if s.helpWrapWidth < 8 then some (.wrapTooNarrow s.helpWrapWidth)
  else none

end Settings

end Workpad
