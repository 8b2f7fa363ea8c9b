/-!
Looking for a fixed piece of text: whether it occurs, and putting another text in its places.
Places are taken from the left and do not overlap.
-/
namespace Workpad.Text

def occursIn (needle : List Char) : List Char → Bool
  | [] => needle.isEmpty
  | c :: r => needle.isPrefixOf (c :: r) || occursIn needle r

/-- `skip` characters belong to the place just replaced. -/
def replaceFrom (needle new : List Char) : Nat → List Char → List Char
  | _, [] => []
  | skip + 1, _ :: r => replaceFrom needle new skip r
  | 0, c :: r =>
    if needle.isPrefixOf (c :: r) then new ++ replaceFrom needle new (needle.length - 1) r
    else c :: replaceFrom needle new 0 r

/-- Every place of a non-empty `needle` holds `new` instead. -/
def replaceAll (needle new s : List Char) : List Char := replaceFrom needle new 0 s

end Workpad.Text
