import Workpad.Json.Record
import Workpad.Json.Quote
import Workpad.Settings.Basic
import Workpad.Files

/-!
Settings as JSON text. A document may name any of the settings and any other keys; what it does not
name keeps its default. The written form is compact and has all settings in their order.
-/
namespace Workpad.Settings

open Json

def iconFields : List (KnownKey Icons) := [
  .of "image" Json.string fun v i => { i with image := v },
  .of "vector" Json.string fun v i => { i with vector := v },
  .of "document" Json.string fun v i => { i with document := v }]

/-- A plain number as a word; plain numbers fit. -/
def word : Reader UInt64 := fun s => (natural s).map fun (n, rest) => (UInt64.ofNat n, rest)

def fields : List (KnownKey Settings) := [
  .of "runtime_location" Json.string withRuntimeLocation,
  .of "fetch_timeout_secs" word fun v s => { s with fetchTimeoutSecs := v },
  .of "max_runtime_bytes" word fun v s => { s with maxRuntimeBytes := v },
  .of "plot_keyword" Json.string withPlotKeyword,
  .of "plot_prelude" Json.string withPlotPrelude,
  .of "icons" (record iconFields {}) withIcons,
  .of "help_wrap_width" word withHelpWrapWidth]

def decode (text : String) : Except Refusal Settings :=
  document (record fields {}) text.toList

inductive LoadError where
  | file (why : FileFault)
  | json (why : Refusal)
  | unusable (why : Defect)
deriving DecidableEq, Repr

def Defect.report (d : Defect) : String := "invalid configuration: " ++ d.message

def ofJson (text : String) : Except LoadError Settings :=
  match decode text with
  | .error e => .error (.json e)
  | .ok s =>
    match s.defect? with
    | some d => .error (.unusable d)
    | none => .ok s

def encodeIcons (i : Icons) : List Char :=
  writeObject [
    ("image".toList, quote i.image.toList),
    ("vector".toList, quote i.vector.toList),
    ("document".toList, quote i.document.toList)]

def encode (s : Settings) : List Char :=
  writeObject [
    ("runtime_location".toList, quote s.runtimeLocation.toList),
    ("fetch_timeout_secs".toList, writeNat s.fetchTimeoutSecs.toNat),
    ("max_runtime_bytes".toList, writeNat s.maxRuntimeBytes.toNat),
    ("plot_keyword".toList, quote s.plotKeyword.toList),
    ("plot_prelude".toList, quote s.plotPrelude.toList),
    ("icons".toList, encodeIcons s.icons),
    ("help_wrap_width".toList, writeNat s.helpWrapWidth.toNat)]

def toJson (s : Settings) : String := String.ofList s.encode

def ofFile (fs : Files) (p : Path) : Except LoadError Settings :=
  match fs.readText p with
  | .error f => .error (.file f)
  | .ok text => ofJson text

end Workpad.Settings
