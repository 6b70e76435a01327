/-! Text as a list of characters. Every position, width and column of the library counts characters,
so a text is taken as the list of them and not as its encoded bytes. A character is a Unicode scalar
value: no text holds a surrogate, alone or in a pair, and no statement of the library is about one.
-/

namespace Lexical

/-- A text is the list of its characters. -/
abbrev Text := List Char

instance : Coe String Text := ⟨String.toList⟩

instance : LawfulBEq Text := inferInstanceAs (LawfulBEq (List Char))

namespace Text

/-- The text before the first `mark`, if there is one. -/
def before? (mark : Text) : Text → Option Text
  | [] => none
  | c :: cs => if mark.isPrefixOf (c :: cs) then some [] else (before? mark cs).map (c :: ·)

theorem exists_append_of_before? {mark text body : Text} (h : before? mark text = some body) :
    ∃ rest, text = body ++ mark ++ rest := by
  induction text generalizing body with
  | nil => simp [before?] at h
  | cons c cs ih =>
    rw [before?] at h
    split at h
    · rename_i hmark
      cases h
      obtain ⟨rest, hrest⟩ := List.isPrefixOf_iff_prefix.mp hmark
      exact ⟨rest, hrest.symm⟩
    · obtain ⟨tail, htail, rfl⟩ := Option.map_eq_some_iff.mp h
      obtain ⟨rest, rfl⟩ := ih htail
      exact ⟨rest, rfl⟩

theorem before?_eq_none_iff {mark text : Text} (hmark : mark ≠ []) :
    before? mark text = none ↔ ¬ mark <:+: text := by
  induction text with
  | nil => simpa [before?] using hmark
  | cons c cs ih =>
    rw [before?, List.infix_cons_iff, not_or]
    split
    · rename_i h; simp [List.isPrefixOf_iff_prefix.mp h]
    · rename_i h
      rw [Option.map_eq_none_iff, ih]
      exact ⟨fun hcs => ⟨fun hp => h (List.isPrefixOf_iff_prefix.mpr hp), hcs⟩, And.right⟩

/-- The first mark is found again, whatever follows the text. -/
theorem before?_append {mark text body : Text} (h : before? mark text = some body) (more : Text) :
    before? mark (text ++ more) = some body := by
  induction text generalizing body with
  | nil => simp [before?] at h
  | cons c cs ih =>
    rw [List.cons_append, before?]
    rw [before?] at h
    split at h
    · rename_i hmark
      have hlonger : mark.isPrefixOf (c :: (cs ++ more)) := by
        rw [List.isPrefixOf_iff_prefix] at hmark ⊢
        exact hmark.trans (List.prefix_append (c :: cs) more)
      rw [if_pos hlonger]
      exact h
    · rename_i hmark
      obtain ⟨tail, htail, rfl⟩ := Option.map_eq_some_iff.mp h
      -- A mark that reached into what follows would be longer than the one that was found.
      have hlonger : ¬ mark.isPrefixOf (c :: (cs ++ more)) := by
        rw [List.isPrefixOf_iff_prefix] at hmark ⊢
        intro hstart
        obtain ⟨rest, hrest⟩ := exists_append_of_before? htail
        refine hmark (List.prefix_of_prefix_length_le hstart (List.prefix_append (c :: cs) more) ?_)
        rw [hrest]
        simp only [List.length_cons, List.length_append]
        omega
      rw [if_neg hlonger, ih htail]
      rfl

/-- The mark that is found is the first, also among those that overlap it. -/
theorem not_infix_dropLast_of_before? {mark text body : Text} (hmark : mark ≠ [])
    (h : before? mark text = some body) : ¬ mark <:+: (body ++ mark).dropLast := by
  induction text generalizing body with
  | nil => simp [before?] at h
  | cons c cs ih =>
    rw [before?] at h
    split at h
    · cases h
      intro hmem
      have hlength := hmem.length_le
      rw [List.nil_append, List.length_dropLast] at hlength
      have := List.length_pos_iff.mpr hmark
      omega
    · rename_i hprefix
      obtain ⟨tail, htail, rfl⟩ := Option.map_eq_some_iff.mp h
      obtain ⟨rest, rfl⟩ := exists_append_of_before? htail
      have htail_ne : tail ++ mark ≠ [] := List.append_ne_nil_of_right_ne_nil tail hmark
      rw [List.cons_append, List.dropLast_cons_of_ne_nil htail_ne, List.infix_cons_iff, not_or]
      refine ⟨fun h => hprefix (List.isPrefixOf_iff_prefix.mpr ?_), ih htail⟩
      have hdropLast : c :: (tail ++ mark).dropLast <+: c :: (tail ++ mark) :=
        List.cons_prefix_cons.mpr ⟨rfl, List.dropLast_prefix _⟩
      exact h.trans (hdropLast.trans (List.prefix_append (c :: (tail ++ mark)) rest))

theorem not_infix_of_before? {mark text body : Text} (hmark : mark ≠ [])
    (h : before? mark text = some body) : ¬ mark <:+: body := by
  intro hmem
  refine not_infix_dropLast_of_before? hmark h (hmem.trans ?_)
  rw [List.dropLast_append_of_ne_nil hmark]
  exact (List.prefix_append body mark.dropLast).isInfix

/-- A mark is found where it is put, if no other one ends before it. -/
theorem before?_append_mark {mark body : Text} (hmark : mark ≠ [])
    (h : ¬ mark <:+: (body ++ mark).dropLast) : before? mark (body ++ mark) = some body := by
  induction body with
  | nil =>
    obtain ⟨m, ms, rfl⟩ := List.exists_cons_of_ne_nil hmark
    rw [List.nil_append, before?, if_pos (List.isPrefixOf_iff_prefix.mpr List.prefix_rfl)]
  | cons c cs ih =>
    have hne : cs ++ mark ≠ [] := List.append_ne_nil_of_right_ne_nil cs hmark
    have hdropLast : (c :: cs ++ mark).dropLast = c :: (cs ++ mark).dropLast :=
      List.dropLast_cons_of_ne_nil hne
    have hstart : ¬ mark.isPrefixOf (c :: (cs ++ mark)) := by
      rw [List.isPrefixOf_iff_prefix]
      intro hstart
      refine h (List.prefix_of_prefix_length_le hstart (List.dropLast_prefix _) ?_).isInfix
      rw [List.length_dropLast, List.length_cons, List.length_append]
      omega
    rw [hdropLast, List.infix_cons_iff, not_or] at h
    rw [List.cons_append, before?, if_neg hstart, ih h.2]
    rfl

/-- A mark does not reach over a character that it does not hold. -/
theorem prefix_append_cons_iff {mark : Text} {stop : Char} (hstop : stop ∉ mark)
    (text more : Text) :
    mark <+: text ++ stop :: more ↔ mark <+: text := by
  refine ⟨fun h => ?_, fun h => h.trans (List.prefix_append text _)⟩
  induction mark generalizing text with
  | nil => exact List.nil_prefix
  | cons m mark ih =>
    rw [List.mem_cons, not_or] at hstop
    cases text with
    | nil => exact absurd (List.cons_prefix_cons.mp h).1.symm hstop.1
    | cons c text =>
      obtain ⟨rfl, htail⟩ := List.cons_prefix_cons.mp h
      exact List.cons_prefix_cons.mpr ⟨rfl, ih hstop.2 text htail⟩

/-- A run does not reach over a character outside its class. -/
theorem takeWhile_append_cons {p : Char → Bool} {stop : Char} (hstop : p stop = false)
    (text more : Text) : (text ++ stop :: more).takeWhile p = text.takeWhile p := by
  induction text with
  | nil => simp [hstop]
  | cons c text ih => by_cases h : p c <;> simp [h, ih]

/-- A run of the other characters goes over a text without the character. -/
theorem takeWhile_ne_append {mark : Char} {text : Text} (h : mark ∉ text) (more : Text) :
    (text ++ more).takeWhile (· != mark) = text ++ more.takeWhile (· != mark) := by
  refine List.takeWhile_append_of_pos fun c hc => ?_
  simpa using ne_of_mem_of_not_mem hc h

theorem takeWhile_ne {mark : Char} {text : Text} (h : mark ∉ text) :
    text.takeWhile (· != mark) = text := by
  simpa using takeWhile_ne_append h []

/-- A width can pass the end of a text, what it takes cannot. -/
theorem drop_length_take_add (width n : Nat) (text : Text) :
    text.drop ((text.take width).length + n) = (text.drop width).drop n := by
  have htake : text.drop (text.take width).length = text.drop width := by
    rw [List.drop_eq_drop_iff, List.length_take]
    omega
  rw [← List.drop_drop, htake]

theorem drop_length_takeWhile (p : Char → Bool) (text : Text) :
    text.drop (text.takeWhile p).length = text.dropWhile p := by
  induction text with
  | nil => rfl
  | cons c cs ih => by_cases h : p c <;> simp [h, ih]

/-- What follows a run is outside its class. -/
theorem eq_false_of_head?_drop_takeWhile {p : Char → Bool} {text : Text} {next : Char}
    (h : (text.drop (text.takeWhile p).length).head? = some next) : p next = false := by
  rw [drop_length_takeWhile] at h
  have hnot := List.head?_dropWhile_not p text
  rw [h] at hnot
  exact hnot

/-- What follows the run of the other characters is the character itself. -/
theorem head?_dropWhile_ne (mark : Char) (text : Text) :
    (text.dropWhile (· != mark)).head? = if mark ∈ text then some mark else none := by
  induction text with
  | nil => rfl
  | cons c cs ih =>
    by_cases h : c = mark
    · simp [h]
    · simp [h, Ne.symm h, ih]

/-- Joins lines with a newline between them. -/
def ofLines (lines : List Text) : Text := List.intercalate ['\n'] lines

/-- Ends each line with a newline. -/
def unlines (lines : List Text) : Text := lines.flatMap (· ++ ['\n'])

theorem unlines_append (lines more : List Text) :
    unlines (lines ++ more) = unlines lines ++ unlines more := List.flatMap_append

/-- Line ends as newlines: a carriage return, with or without a line feed after it, becomes a line
feed. -/
def unifyNewlines : Text → Text
  | [] => []
  | '\r' :: '\n' :: rest => '\n' :: unifyNewlines rest
  | '\r' :: rest => '\n' :: unifyNewlines rest
  | c :: rest => c :: unifyNewlines rest

/-- The decimal numeral of a number. -/
def ofNat (n : Nat) : Text := Nat.toDigits 10 n

/-- The decimal numeral of a number, with a hyphen if it is negative. -/
def ofInt : Int → Text
  | .ofNat n => ofNat n
  | .negSucc n => '-' :: ofNat (n + 1)

/-- The last `width` hexadecimal digits of a number, in lower case. -/
def hex : (width : Nat) → Nat → Text
  | 0, _ => []
  | width + 1, n => hex width (n / 16) ++ [Nat.digitChar (n % 16)]

@[simp] theorem length_hex (width n : Nat) : (hex width n).length = width := by
  induction width generalizing n with
  | zero => rfl
  | succ width ih => simp [hex, ih]

/-- All hexadecimal digits of a number, in upper case and at least two of them. -/
def upperHex (n : Nat) : Text :=
  ((Nat.toDigits 16 n).leftpad 2 '0').map Char.toUpper

/-- Takes the characters of a class away at both ends. -/
def trim (p : Char → Bool) (text : Text) : Text :=
  ((text.dropWhile p).reverse.dropWhile p).reverse

theorem trim_append {p : Char → Bool} {before text after : Text} (hbefore : ∀ c ∈ before, p c)
    (htext : ∀ c ∈ text, p c = false) (hafter : ∀ c ∈ after, p c) :
    trim p (before ++ text ++ after) = text := by
  have hreverse : ∀ c ∈ after.reverse, p c := fun c hc => hafter c (List.mem_reverse.mp hc)
  rw [trim, List.append_assoc, List.dropWhile_append_of_pos hbefore]
  cases text with
  | nil =>
    have hnone : (after ++ []).dropWhile p = [].dropWhile p := List.dropWhile_append_of_pos hafter
    rw [List.append_nil] at hnone
    rw [List.nil_append, hnone]
    rfl
  | cons c text =>
    rw [List.cons_append, List.dropWhile_cons_of_neg (by simp [htext c]), ← List.cons_append,
      List.reverse_append, List.dropWhile_append_of_pos hreverse]
    cases hlast : (c :: text).reverse with
    | nil => simp at hlast
    | cons d rest =>
      have hd : p d = false := htext d (List.mem_reverse.mp (by simp [hlast]))
      rw [List.dropWhile_cons_of_neg (by simp [hd]), ← hlast, List.reverse_reverse]

/-- What is taken away belongs to the class. -/
theorem exists_append_trim (p : Char → Bool) (text : Text) :
    ∃ before after, text = before ++ trim p text ++ after ∧ (∀ c ∈ before, p c) ∧
      ∀ c ∈ after, p c := by
  refine ⟨text.takeWhile p, ((text.dropWhile p).reverse.takeWhile p).reverse, ?_, ?_, ?_⟩
  · rw [trim, List.append_assoc, ← List.reverse_append, List.takeWhile_append_dropWhile,
      List.reverse_reverse, List.takeWhile_append_dropWhile]
  · exact List.all_eq_true.mp List.all_takeWhile
  · exact fun c hc => List.all_eq_true.mp List.all_takeWhile c (List.mem_reverse.mp hc)

/-- Lower case for the letters A to Z; other characters stay. -/
def lowercase (text : Text) : Text := text.map Char.toLower

end Text
end Lexical
