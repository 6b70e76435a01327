import Lexical.Text

/-! Control sequences: an escape character and a bracket, then parameters, then intermediates, then
one final character. A terminal acts on them and shows nothing. What a stream takes away that is no
terminal is its own affair; the streams of the command take away these. -/

namespace Lexical.Text

/-- The characters from 0 to the question mark. -/
def isParameter (c : Char) : Bool := 0x30 ≤ c.toNat && c.toNat ≤ 0x3F

/-- The characters from the space to the slash. -/
def isIntermediate (c : Char) : Bool := 0x20 ≤ c.toNat && c.toNat ≤ 0x2F

/-- The characters from the at sign to the tilde. -/
def isFinal (c : Char) : Bool := 0x40 ≤ c.toNat && c.toNat ≤ 0x7E

/-- The text after the control sequence that a text starts with. -/
def afterControl? : Text → Option Text
  | '\x1b' :: '[' :: text =>
    match (text.dropWhile isParameter).dropWhile isIntermediate with
    | c :: rest => if isFinal c then some rest else none
    | [] => none
  | _ => none

theorem suffix_of_afterControl? {text rest : Text} (h : afterControl? text = some rest) :
    ∃ c cs, text = '\x1b' :: c :: cs ∧ rest <:+ cs := by
  unfold afterControl? at h
  split at h
  · rename_i text
    split at h
    · rename_i c tail htail
      split at h
      · cases h
        refine ⟨_, _, rfl, (List.suffix_cons c _).trans ?_⟩
        rw [← htail]
        exact (List.dropWhile_suffix _).trans (List.dropWhile_suffix _)
      · cases h
    · cases h
  · cases h

theorem length_of_afterControl? {text rest : Text} (h : afterControl? text = some rest) :
    rest.length < text.length := by
  obtain ⟨c, cs, rfl, hrest⟩ := suffix_of_afterControl? h
  have := hrest.length_le
  simp only [List.length_cons]
  omega

/-- Takes the control sequences away, from left to right. What then stands together is not looked at
again. -/
def withoutControls (text : Text) : Text :=
  match text with
  | [] => []
  | c :: cs =>
    match _h : afterControl? (c :: cs) with
    | some rest => withoutControls rest
    | none => c :: withoutControls cs
termination_by text.length
decreasing_by
  · exact length_of_afterControl? _h
  · simp

/-- A text without escape characters stays as it is. -/
theorem withoutControls_eq_self {text : Text} (h : '\x1b' ∉ text) :
    withoutControls text = text := by
  fun_induction withoutControls text with
  | case1 => rfl
  | case2 c cs rest hrest ih =>
    obtain ⟨d, ds, htext, -⟩ := suffix_of_afterControl? hrest
    rw [htext] at h
    simp at h
  | case3 c cs hnone ih => rw [ih fun hc => h (List.mem_cons_of_mem c hc)]

end Lexical.Text
