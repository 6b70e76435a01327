import Lexical.Source

/-! Places in a text. The lines of a text are its pieces between newlines. What stands before an
offset is the lines above, each with the newline that ends it, and the part of a line that its
column counts (`Source.exists_place`). So a location says which line holds an offset and where,
later offsets have later locations, and no two offsets within a text have the same one
(`Source.location_lines`). -/

namespace Lexical

/-- The place comes first, by its line and then by its column. -/
def Location.Before (left right : Location) : Prop :=
  left.line < right.line ∨ left.line = right.line ∧ left.column < right.column

theorem Location.Before.ne {left right : Location} (h : left.Before right) : left ≠ right := by
  rintro rfl
  rcases h with hline | ⟨-, hcolumn⟩
  · exact absurd hline (Int.lt_irrefl _)
  · exact absurd hcolumn (Int.lt_irrefl _)

namespace Source

/-! ### The last line of a text -/

theorem lastLine_append_newline (upper lower : Text) :
    lastLine (upper ++ '\n' :: lower) = lastLine lower := by
  have hreverse : (upper ++ '\n' :: lower).reverse =
      lower.reverse ++ '\n' :: upper.reverse := by simp
  rw [lastLine, lastLine, hreverse, Text.takeWhile_append_cons rfl]

theorem length_lastLine_le (text : Text) : (lastLine text).length ≤ text.length := by
  have hlength := (List.takeWhile_prefix (· != '\n') (l := text.reverse)).length_le
  rw [lastLine, List.length_reverse]
  rwa [List.length_reverse] at hlength

theorem lastLine_eq_self {text : Text} (h : '\n' ∉ text) : lastLine text = text := by
  have hreverse : '\n' ∉ text.reverse := fun hmem => h (List.mem_reverse.mp hmem)
  rw [lastLine, Text.takeWhile_ne hreverse, List.reverse_reverse]

/-- A text of more than one line is the text above its last newline, and its last line. -/
theorem exists_append_lastLine {text : Text} (h : '\n' ∈ text) :
    ∃ upper, text = upper ++ '\n' :: lastLine text ∧ '\n' ∉ lastLine text := by
  obtain ⟨last, upper, hreverse, hlast⟩ := List.eq_append_cons_of_mem (List.mem_reverse.mpr h)
  have hlast : '\n' ∉ last.reverse := fun hmem => hlast (List.mem_reverse.mp hmem)
  have htext : text = upper.reverse ++ '\n' :: last.reverse := by
    have htext := congrArg List.reverse hreverse
    simpa using htext
  refine ⟨upper.reverse, ?_⟩
  rw [htext, lastLine_append_newline, lastLine_eq_self hlast]
  exact ⟨rfl, hlast⟩

/-! ### The lines of a text -/

/-- How many characters lines have, each with the newline that ends it. -/
def extent : List Text → Nat
  | [] => 0
  | line :: lines => line.length + 1 + extent lines

theorem length_unlines (lines : List Text) : (Text.unlines lines).length = extent lines := by
  induction lines with
  | nil => rfl
  | cons line lines ih =>
    have hcons : Text.unlines (line :: lines) = line ++ ['\n'] ++ Text.unlines lines := rfl
    rw [hcons, List.length_append, ih, List.length_append, List.length_singleton, extent]

theorem length_splitOn (text : Text) : (text.splitOn '\n').length = text.count '\n' + 1 := by
  induction text with
  | nil => rfl
  | cons c text ih =>
    rw [List.splitOn_cons_eq_if_modifyHead]
    by_cases hc : c = '\n'
    · simp [hc, ih]
    · simp [hc, ih]

/-- The lines are what the text is made of, but for a newline after the last one. -/
theorem unlines_splitOn (text : Text) : Text.unlines (text.splitOn '\n') = text ++ ['\n'] := by
  induction text with
  | nil => rfl
  | cons c text ih =>
    obtain ⟨line, lines, hlines⟩ := List.exists_cons_of_ne_nil (List.splitOn_ne_nil '\n' text)
    rw [List.splitOn_cons_eq_if_modifyHead, hlines]
    rw [hlines] at ih
    by_cases hc : c = '\n'
    · rw [hc, if_pos (by decide), List.cons_append, ← ih]
      rfl
    · rw [if_neg (by simpa using hc), List.cons_append, ← ih]
      rfl

/-- The first line of a text that starts with part of a line goes on to the next newline. -/
theorem exists_splitOn_append {line : Text} (h : '\n' ∉ line) (text : Text) :
    ∃ below, (line ++ text).splitOn '\n' = (line ++ text.takeWhile (· != '\n')) :: below := by
  by_cases hmem : '\n' ∈ text
  · obtain ⟨first, rest, rfl, hfirst⟩ := List.eq_append_cons_of_mem hmem
    have hline : '\n' ∉ line ++ first := by
      rw [List.mem_append, not_or]
      exact ⟨h, hfirst⟩
    refine ⟨rest.splitOn '\n', ?_⟩
    rw [Text.takeWhile_append_cons rfl, Text.takeWhile_ne hfirst, ← List.append_assoc,
      List.splitOn_append_cons_self_of_not_mem hline]
  · have hline : '\n' ∉ line ++ text := by
      rw [List.mem_append, not_or]
      exact ⟨h, hmem⟩
    exact ⟨[], by rw [Text.takeWhile_ne hmem, List.splitOn_eq_singleton hline]⟩

/-- The lines of a text of two parts. The line across the parts is the last one of the first part,
gone on with. -/
theorem exists_lines_append (before after : Text) :
    ∃ above below, (before ++ after).splitOn '\n' =
        above ++ (lastLine before ++ after.takeWhile (· != '\n')) :: below ∧
      above.length = before.count '\n' ∧ before = Text.unlines above ++ lastLine before := by
  by_cases hmem : '\n' ∈ before
  · obtain ⟨upper, hbefore, hlast⟩ := exists_append_lastLine hmem
    obtain ⟨below, hbelow⟩ := exists_splitOn_append hlast after
    refine ⟨upper.splitOn '\n', below, ?_, ?_, ?_⟩
    · have happend : before ++ after = upper ++ '\n' :: (lastLine before ++ after) := by
        rw [← List.cons_append, ← List.append_assoc, ← hbefore]
      rw [happend, List.splitOn_append_cons_self, hbelow]
    · have hcount := congrArg (List.count '\n') hbefore
      rw [List.count_append, List.count_cons_self, List.count_eq_zero.mpr hlast] at hcount
      rw [length_splitOn, hcount]
    · rw [unlines_splitOn, List.append_assoc]
      exact hbefore
  · obtain ⟨below, hbelow⟩ := exists_splitOn_append hmem after
    rw [lastLine_eq_self hmem]
    exact ⟨[], below, hbelow, (List.count_eq_zero.mpr hmem).symm, rfl⟩

/-! ### Locations -/

theorem upTo_natCast (source : Source) (offset : Nat) :
    source.upTo offset = source.text.take offset := by
  rw [upTo, if_neg (by omega), Int.toNat_natCast]

theorem location_natCast (source : Source) (offset : Nat) :
    source.location offset =
      { filename := source.name
        line := (source.text.take offset).count '\n' + 1
        column := (lastLine (source.text.take offset)).length + 1 } := by
  have hle := length_lastLine_le (source.text.take offset)
  have hcolumn : min (offset : Int) source.text.length -
      ((source.text.take offset).length - (lastLine (source.text.take offset)).length : Nat) + 1 =
      (lastLine (source.text.take offset)).length + 1 := by
    rw [List.length_take] at hle ⊢
    omega
  rw [location, upTo_natCast, hcolumn]

theorem line_natCast (source : Source) (offset : Nat) :
    source.line offset = lastLine (source.text.take offset) ++
      (source.text.drop offset).takeWhile (· != '\n') := by
  have hdrop : source.text.drop (source.text.take offset).length = source.text.drop offset :=
    Text.drop_length_take_add offset 0 source.text
  rw [line, upTo_natCast, hdrop]

theorem newline_not_mem_line (source : Source) (offset : Nat) : '\n' ∉ source.line offset := by
  rw [line_natCast, List.mem_append, lastLine, List.mem_reverse]
  rintro (h | h)
  · exact absurd (List.all_eq_true.mp List.all_takeWhile '\n' h) (by decide)
  · exact absurd (List.all_eq_true.mp List.all_takeWhile '\n' h) (by decide)

/-- Where an offset is: below the lines above, at a column of its line. -/
theorem exists_place (source : Source) (offset : Nat) :
    ∃ (above below : List Text) (column : Nat),
      source.text.splitOn '\n' = above ++ source.line offset :: below ∧
      source.location offset = ⟨source.name, above.length + 1, column + 1⟩ ∧
      source.text.take offset = Text.unlines above ++ (source.line offset).take column ∧
      (source.line offset).drop column = (source.text.drop offset).takeWhile (· != '\n') ∧
      column ≤ (source.line offset).length := by
  obtain ⟨above, below, hlines, hcount, hbefore⟩ :=
    exists_lines_append (source.text.take offset) (source.text.drop offset)
  rw [List.take_append_drop] at hlines
  refine ⟨above, below, (lastLine (source.text.take offset)).length, ?_⟩
  rw [line_natCast, location_natCast, List.take_left, List.drop_left, hcount]
  refine ⟨hlines, rfl, hbefore, rfl, ?_⟩
  rw [List.length_append]
  exact Nat.le_add_right _ _

/-- The column of an offset is where its character stands in the line, unless it is what ends it. -/
theorem getElem?_line_of_place {source : Source} {offset column : Nat} {c : Char}
    (h : (source.line offset).drop column = (source.text.drop offset).takeWhile (· != '\n'))
    (hc : source.text[offset]? = some c) (hnewline : c ≠ '\n') :
    (source.line offset)[column]? = some c := by
  obtain ⟨rest, hrest⟩ : ∃ rest, source.text.drop offset = c :: rest := by
    rw [← List.head?_eq_some_iff, List.head?_drop]
    exact hc
  rw [← List.head?_drop, h, hrest, List.takeWhile_cons_of_pos (by simpa using hnewline)]
  rfl

theorem length_take_of_place {source : Source} {offset column : Nat} {above : List Text}
    (h : source.text.take offset = Text.unlines above ++ (source.line offset).take column)
    (hcolumn : column ≤ (source.line offset).length) :
    min offset source.text.length = extent above + column := by
  have hlength := congrArg List.length h
  rwa [List.length_take, List.length_append, length_unlines,
    List.length_take_of_le hcolumn] at hlength

/-- Later offsets have later locations: on the same line they are further to the right. -/
theorem location_before {source : Source} {p q : Nat} (h : p < q) (hq : q ≤ source.text.length) :
    (source.location p).Before (source.location q) := by
  obtain ⟨above, below, column, hlines, hplace, htake, -, hcolumn⟩ := exists_place source p
  obtain ⟨above', below', column', hlines', hplace', htake', -, hcolumn'⟩ := exists_place source q
  have hp := length_take_of_place htake hcolumn
  have hq' := length_take_of_place htake' hcolumn'
  have hrows : above.length ≤ above'.length := by
    have hprefix : source.text.take p <+: source.text.take q :=
      List.take_prefix_take_left (Nat.le_of_lt h)
    have hcount := hprefix.sublist.count_le '\n'
    have hline := congrArg Location.line hplace
    have hline' := congrArg Location.line hplace'
    rw [location_natCast] at hline hline'
    dsimp only at hline hline'
    omega
  rw [hplace, hplace', Location.Before]
  by_cases hrow : above.length = above'.length
  · obtain ⟨rfl, -⟩ := List.append_inj (hlines.symm.trans hlines') hrow
    refine .inr ⟨rfl, ?_⟩
    show ((column : Int) + 1) < (column' : Int) + 1
    omega
  · refine .inl ?_
    show ((above.length : Int) + 1) < (above'.length : Int) + 1
    omega

/-- Locations are the places among the lines of a text. The offset of one, which stands for the end
if it is past it, is what the lines above take and the column, and the line that is shown is the one
that it is on. Within the text, and at its end, locations come in the order of the offsets. -/
theorem location_lines (source : Source) :
    let lines := source.text.splitOn '\n'
    (∀ offset : Nat, ∃ row column : Nat,
      source.location offset = ⟨source.name, row + 1, column + 1⟩ ∧
      row < lines.length ∧ lines[row]? = some (source.line offset) ∧
      column ≤ (source.line offset).length ∧
      min offset source.text.length = extent (lines.take row) + column ∧
      ∀ c, source.text[offset]? = some c → c ≠ '\n' → (source.line offset)[column]? = some c) ∧
    (∀ p q : Nat, p < q → q ≤ source.text.length →
      (source.location p).Before (source.location q)) ∧
    ∀ p q : Nat, p ≤ source.text.length → q ≤ source.text.length →
      source.location p = source.location q → p = q := by
  intro lines
  refine ⟨?_, fun p q => location_before, ?_⟩
  · intro offset
    obtain ⟨above, below, column, hlines, hplace, htake, hdrop, hcolumn⟩ :=
      exists_place source offset
    change lines = above ++ source.line offset :: below at hlines
    have hlength : lines.length = above.length + (below.length + 1) := by
      rw [← List.length_cons, ← List.length_append, hlines]
    have hline : lines[above.length]? = some (source.line offset) := by
      rw [← List.head?_drop, hlines, List.drop_left]
      rfl
    have habove : lines.take above.length = above := by rw [hlines, List.take_left]
    refine ⟨above.length, column, hplace, by omega, hline, hcolumn, ?_, ?_⟩
    · rw [habove]
      exact length_take_of_place htake hcolumn
    · exact fun c hc hnewline => getElem?_line_of_place hdrop hc hnewline
  · intro p q hp hq hsame
    rcases Nat.lt_trichotomy p q with hlt | heq | hgt
    · exact absurd hsame (location_before hlt hq).ne
    · exact heq
    · exact absurd hsame.symm (location_before hgt hp).ne

end Source
end Lexical
