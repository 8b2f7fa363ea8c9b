/-!
White space of Unicode text, and the cuts made at it: both trims, and the words between. Texts are
lists of characters here; `String` is met only at the borders of the library.
-/
namespace Workpad.Text

/-- The characters of the Unicode property `White_Space`. -/
def isBlank (c : Char) : Bool :=
  let n := c.toNat
  (Nat.ble 9 n && n.ble 13) || n == 0x20 || n == 0x85 || n == 0xA0 || n == 0x1680 ||
    (Nat.ble 0x2000 n && n.ble 0x200A) || n == 0x2028 || n == 0x2029 || n == 0x202F ||
    n == 0x205F || n == 0x3000

def allBlank (s : List Char) : Bool := s.all isBlank

def trimStart (s : List Char) : List Char := s.dropWhile isBlank

def trimEnd (s : List Char) : List Char := (s.reverse.dropWhile isBlank).reverse

def trim (s : List Char) : List Char := trimEnd (trimStart s)

def words (s : List Char) : List (List Char) :=
  (s.splitOnP isBlank).filter fun w => !w.isEmpty

theorem allBlank_nil : allBlank [] = true := rfl

theorem trimStart_eq_nil_iff (s : List Char) : trimStart s = [] ↔ allBlank s = true := by
  induction s with
  | nil => simp [trimStart, allBlank]
  | cons c r ih =>
    by_cases h : isBlank c
    · have : trimStart (c :: r) = trimStart r := by simp [trimStart, h]
      rw [this, ih, allBlank, allBlank, List.all_cons, h, Bool.true_and]
    · simp [trimStart, allBlank, h]

end Workpad.Text
