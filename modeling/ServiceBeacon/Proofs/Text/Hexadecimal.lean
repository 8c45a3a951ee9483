import ServiceBeacon.Text.Digits

namespace ServiceBeacon
namespace Text

/-!
# Groups in hexadecimal

A number of sixteen bits is written with one to four hexadecimal digits and reads
back as itself.
-/

theorem hexDigit?_lowerHexDigit {value : Nat} (small : value < 16) :
    hexDigit? (lowerHexDigit value) = some value := by
  have checked : ∀ digit < 16, hexDigit? (lowerHexDigit digit) = some digit := by decide
  exact checked value small

theorem digit?_lowerHexDigit {value : Nat} (small : value < 16) :
    (digit? 16 (lowerHexDigit value)).isSome := by
  simp [digit?, hexDigit?_lowerHexDigit small, small]

theorem length_hexGroup_le (value : Nat) : (hexGroup value).length ≤ 4 := by
  unfold hexGroup
  repeat' split
  all_goals simp

theorem hexGroup_ne_nil (value : Nat) : hexGroup value ≠ [] := by
  unfold hexGroup
  repeat' split
  all_goals simp

section Groups

variable {value : Nat} (small : value < 65536)

include small

theorem digit?_of_mem_hexGroup {c : Char} (member : c ∈ hexGroup value) :
    (digit? 16 c).isSome := by
  unfold hexGroup at member
  split at member
  · rw [List.mem_singleton.mp member]
    apply digit?_lowerHexDigit
    omega
  all_goals
    repeat' split at member
    all_goals
      simp only [List.mem_cons, List.not_mem_nil, or_false] at member
      rcases member with rfl | rfl | rfl | rfl <;> apply digit?_lowerHexDigit <;> omega

theorem ofDigits_hexGroup : ofDigits 16 (hexGroup value) = value := by
  unfold hexGroup
  repeat' split
  all_goals
    simp (disch := omega) only [ofDigits, List.foldl_cons, List.foldl_nil, hexDigit?_lowerHexDigit,
      Option.getD_some]
    omega

end Groups

end Text
end ServiceBeacon
