/-!
A tree of regular files and directories. Reading and writing reach a file through directories only,
and text is a file whose bytes are well-formed UTF-8. The top is a directory that always exists.
-/
namespace Workpad

/-- The names on the way from the top. -/
abbrev Path := List String

/-- The names between slashes; empty names and dots stand for the place itself. -/
def Path.ofString (s : String) : Path :=
  ((s.toList.splitOnP (· == '/')).map String.ofList).filter fun n => n != "" && n != "."

inductive Node where
  | file (bytes : ByteArray)
  | directory

inductive FileFault where
  | notFound
  | isDirectory
  | notDirectory
  | invalidText
deriving DecidableEq, Repr

structure Files where
  nodes : List (Path × Node) := []

namespace Files

def node? (fs : Files) (p : Path) : Option Node :=
  if p = [] then some .directory else fs.nodes.lookup p

def put (fs : Files) (p : Path) (n : Node) : Files :=
  { nodes := (p, n) :: fs.nodes.filter fun e => e.1 != p }

/-- What keeps a path from being followed below `seen`: the first name that is no directory. -/
def obstacle? (fs : Files) (seen : Path) : Path → Option FileFault
  | [] => none
  | [_] => none
  | name :: rest =>
    match fs.node? (seen ++ [name]) with
    | some .directory => fs.obstacle? (seen ++ [name]) rest
    | some (.file _) => some .notDirectory
    | none => some .notFound

def read (fs : Files) (p : Path) : Except FileFault ByteArray :=
  match fs.obstacle? [] p with
  | some f => .error f
  | none =>
    match fs.node? p with
    | none => .error .notFound
    | some .directory => .error .isDirectory
    | some (.file bytes) => .ok bytes

def write (fs : Files) (p : Path) (bytes : ByteArray) : Except FileFault Files :=
  match fs.obstacle? [] p with
  | some f => .error f
  | none =>
    match fs.node? p with
    | some .directory => .error .isDirectory
    | _ => .ok (fs.put p (.file bytes))

def readText (fs : Files) (p : Path) : Except FileFault String :=
  match fs.read p with
  | .error f => .error f
  | .ok bytes =>
    match String.fromUTF8? bytes with
    | some text => .ok text
    | none => .error .invalidText

def writeText (fs : Files) (p : Path) (text : String) : Except FileFault Files :=
  fs.write p text.toUTF8

end Files

end Workpad
