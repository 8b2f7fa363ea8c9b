import Workpad.Settings.Basic

/-!
Calls of setters, one after the other. A call is told by the setting that it sets and by what it is
passed, so that every row of calls is a list.
-/
namespace Workpad.Settings

/-- The settings that have a setter; the limit of size has none. -/
inductive Key where
  | runtimeLocation
  | fetchTimeout
  | plotKeyword
  | plotPrelude
  | icons
  | helpWrapWidth
deriving DecidableEq, Repr

namespace Key

/-- What the setter is passed. It is also what is read back: the timeout is read as a length of time,
not as its number of seconds. -/
abbrev Value : Key → Type
  | .runtimeLocation => String
  | .fetchTimeout => Duration
  | .plotKeyword => String
  | .plotPrelude => String
  | .icons => Icons
  | .helpWrapWidth => UInt64

def set : (k : Key) → k.Value → Settings → Settings
  | .runtimeLocation => withRuntimeLocation
  | .fetchTimeout => withFetchTimeout
  | .plotKeyword => withPlotKeyword
  | .plotPrelude => withPlotPrelude
  | .icons => withIcons
  | .helpWrapWidth => withHelpWrapWidth

def read : (k : Key) → Settings → k.Value
  | .runtimeLocation => (·.runtimeLocation)
  | .fetchTimeout => (·.fetchTimeout)
  | .plotKeyword => (·.plotKeyword)
  | .plotPrelude => (·.plotPrelude)
  | .icons => (·.icons)
  | .helpWrapWidth => (·.helpWrapWidth)

end Key

structure Call where
  key : Key
  value : key.Value

def Call.make (c : Call) (s : Settings) : Settings := c.key.set c.value s

def build (s : Settings) (cs : List Call) : Settings := cs.foldl (fun s c => c.make s) s

end Workpad.Settings
