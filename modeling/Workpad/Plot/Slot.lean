import Workpad.Transcript

/-!
The one place for the target that plots go to now. Whoever holds it keeps it until that same target
is released; nobody is pushed out.
-/
namespace Workpad

structure Slot where
  holder : Option TargetId := none
deriving DecidableEq, Repr

namespace Slot

def claim (s : Slot) (id : TargetId) : Except TargetId Slot :=
  match s.holder with
  | none => .ok ⟨some id⟩
  | some holder => .error holder

def release (s : Slot) (id : TargetId) : Bool × Slot :=
  if s.holder = some id then (true, ⟨none⟩) else (false, s)

end Slot

structure Supply where
  id : Nat → TargetId
  distinct : ∀ m n, id m = id n → m = n

def Supply.numbered : Supply where
  id n := ⟨"plot-" ++ String.ofList (Nat.toDigits 10 (Nat.pow 10 31 + n))⟩
  distinct m n h := by
    have h := congrArg (fun t => t.text.toList) h
    simp only [String.toList_append, String.toList_ofList, List.append_cancel_left_eq] at h
    have h := congrArg (Nat.ofDigitChars 10 · 0) h
    simp only [Nat.ofDigitChars_toDigits (by decide : 1 < 10) (by decide)] at h
    omega

end Workpad
