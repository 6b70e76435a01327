import Lexical.Text

/-! Classes of characters given as lists of closed ranges of code points. -/

namespace Lexical

/-- A class of characters: the first and the last code point of each of its ranges. -/
abbrev Ranges := List (Nat × Nat)

namespace Ranges

/-- The character is in one of the ranges. -/
def has (ranges : Ranges) (c : Char) : Bool :=
  ranges.any fun r => r.1 ≤ c.toNat && c.toNat ≤ r.2

/-- The range that holds a character. -/
def find? (ranges : Ranges) (c : Char) : Option (Nat × Nat) :=
  List.find? (fun r => r.1 ≤ c.toNat && c.toNat ≤ r.2) ranges

theorem has_iff {ranges : Ranges} {c : Char} :
    ranges.has c = true ↔ ∃ r ∈ ranges, r.1 ≤ c.toNat ∧ c.toNat ≤ r.2 := by
  simp [has]

@[simp] theorem isSome_find? (ranges : Ranges) (c : Char) :
    (ranges.find? c).isSome = ranges.has c := by
  rw [Bool.eq_iff_iff, find?, List.find?_isSome, has, List.any_eq_true]

/-- Two ascending tables, merged from a code point on: each range ends before the next one starts,
of whichever table that is. -/
def apartFrom (n : Nat) : Ranges → Ranges → Bool
  | [], right => right.all (n ≤ ·.1)
  | left, [] => left.all (n ≤ ·.1)
  | l :: left, r :: right =>
    if l.1 ≤ r.1 then n ≤ l.1 && l.1 ≤ l.2 && apartFrom (l.2 + 1) left (r :: right)
    else n ≤ r.1 && r.1 ≤ r.2 && apartFrom (r.2 + 1) (l :: left) right
termination_by left right => left.length + right.length

theorem le_of_apartFrom {n : Nat} {left right : Ranges} (h : apartFrom n left right) :
    (∀ r ∈ left, n ≤ r.1) ∧ ∀ r ∈ right, n ≤ r.1 := by
  fun_induction apartFrom n left right with
  | case1 n right => simpa using h
  | case2 n left => simpa using h
  | case3 n l left r right hle ih =>
    simp only [Bool.and_eq_true, decide_eq_true_eq] at h
    obtain ⟨hleft, hright⟩ := ih h.2
    refine ⟨List.forall_mem_cons.mpr ⟨h.1.1, fun s hs => ?_⟩, fun s hs => ?_⟩
    · have := hleft s hs
      omega
    · have := hright s hs
      omega
  | case4 n l left r right hle ih =>
    simp only [Bool.and_eq_true, decide_eq_true_eq] at h
    obtain ⟨hleft, hright⟩ := ih h.2
    refine ⟨fun s hs => ?_, List.forall_mem_cons.mpr ⟨h.1.1, fun s hs => ?_⟩⟩
    · have := hleft s hs
      omega
    · have := hright s hs
      omega

/-- Tables that are apart have no character in common. -/
theorem not_has_of_apartFrom {n : Nat} {left right : Ranges} (h : apartFrom n left right) {c : Char}
    (hleft : left.has c = true) : right.has c = false := by
  rw [← Bool.not_eq_true]
  intro hright
  rw [has_iff] at hleft hright
  obtain ⟨s, hs, hlow, hhigh⟩ := hleft
  obtain ⟨t, ht, hlow', hhigh'⟩ := hright
  fun_induction apartFrom n left right with
  | case1 => cases hs
  | case2 => cases ht
  | case3 n l left r right hle ih =>
    simp only [Bool.and_eq_true] at h
    obtain rfl | hs := List.mem_cons.mp hs
    · have := (le_of_apartFrom h.2).2 t ht
      omega
    · exact ih h.2 hs ht
  | case4 n l left r right hle ih =>
    simp only [Bool.and_eq_true] at h
    obtain rfl | ht := List.mem_cons.mp ht
    · have := (le_of_apartFrom h.2).1 s hs
      omega
    · exact ih h.2 hs ht

end Ranges
end Lexical
