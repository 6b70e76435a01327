import Lexical.Proofs.Lines
import Lexical.Proofs.Spelling

/-! Comments between tokens. Blanks, line comments and block comments are passed over and give no
token (`tokenize_blanks`, `tokenize_lineComment`, `tokenize_blockComment`). White space after a text
whose literals and comments all have their ends is read as it is by itself, unless the text ends in
a line comment (`exists_trail`); so a comment put there changes no token (`lex_comments`). -/

namespace Lexical

open Reading (commentEnd)

variable {legacy : Bool}

/-- A line comment that goes on to the end of the text. -/
def Text.IsLineComment (text : Text) : Prop :=
  ['/', '/'] <+: text ∧ '\n' ∉ text

/-! ### What is passed over -/

theorem tokenize_of_fits {text : Text} {reading : Reading} (h : Reading.Fits legacy text reading) :
    tokenize legacy text = reading.token?.toList ++ tokenize legacy (text.drop reading.width) := by
  rw [tokenize, Segment.scan_of_fits h, List.filterMap_cons, tokenize, Segment.token?]
  cases reading.token? <;> rfl

theorem tokenize_dropWhile_isBlank (text : Text) :
    tokenize legacy (text.dropWhile Text.isBlank) = tokenize legacy text := by
  cases text with
  | nil => rfl
  | cons c rest =>
    by_cases hc : Text.isBlank c
    · have hfits : Reading.Fits legacy (c :: rest) (.blanks (c :: rest)) := .blanks hc
      have hblanks := tokenize_of_fits hfits
      rw [Reading.blanks, Text.drop_length_takeWhile] at hblanks
      exact hblanks.symm
    · rw [List.dropWhile_cons_of_neg hc]

theorem tokenize_blanks {run : Text} (h : ∀ c ∈ run, Text.isBlank c) (text : Text) :
    tokenize legacy (run ++ text) = tokenize legacy text := by
  rw [← tokenize_dropWhile_isBlank, List.dropWhile_append_of_pos h, tokenize_dropWhile_isBlank]

theorem tokenize_lineComment {comment : Text} (h : comment.IsLineComment) (text : Text) :
    tokenize legacy (comment ++ '\n' :: text) = tokenize legacy ('\n' :: text) := by
  obtain ⟨⟨comment, rfl⟩, hnewline⟩ := h
  have hrun : (['/', '/'] ++ comment ++ '\n' :: text).takeWhile (· != '\n') =
      ['/', '/'] ++ comment := by
    rw [Text.takeWhile_append_cons rfl, Text.takeWhile_ne hnewline]
  have hfits : Reading.Fits legacy (['/', '/'] ++ comment ++ '\n' :: text)
      (.lineComment (['/', '/'] ++ comment ++ '\n' :: text)) := .lineComment
  rw [tokenize_of_fits hfits, Reading.lineComment, hrun, List.drop_left]
  rfl

/-- The comment ends at the mark, whatever else it holds. -/
theorem tokenize_blockComment {comment : Text} (h : ¬ commentEnd <:+: comment)
    (hstar : comment.head? ≠ some '*') (text : Text) :
    tokenize legacy ('/' :: '*' :: (comment ++ commentEnd ++ text)) = tokenize legacy text := by
  have hrest : (comment ++ commentEnd ++ text).head? = some '*' →
      (comment ++ commentEnd ++ text)[1]? = some '/' := by
    intro hhead
    cases comment with
    | nil => rfl
    | cons c comment => exact absurd hhead hstar
  have hfits : Reading.Fits legacy ('/' :: '*' :: (comment ++ commentEnd ++ text))
      (.blockComment ('/' :: '*' :: (comment ++ commentEnd ++ text))) := .blockComment hrest
  have hread : Body.read commentEnd (comment ++ commentEnd ++ text) = ⟨comment, true⟩ := by
    have hbody := Body.read_append_commentEnd h
    rw [Body.read_append (by rw [hbody]), hbody]
  have hwidth : (Reading.blockComment ('/' :: '*' :: (comment ++ commentEnd ++ text))).width =
      ('/' :: '*' :: (comment ++ commentEnd)).length := by
    rw [Reading.blockComment, List.drop_succ_cons, List.drop_succ_cons, List.drop_zero, hread]
    change 2 + comment.length + commentEnd.length = _
    rw [List.length_cons, List.length_cons, List.length_append]
    omega
  rw [tokenize_of_fits hfits, hwidth]
  change [] ++ tokenize legacy
    (('/' :: '*' :: (comment ++ commentEnd) ++ text).drop _) = tokenize legacy text
  rw [List.drop_left]
  rfl

/-! ### White space after a text -/

/-- A first reading that has its end is the same before white space, or it is passed over in both. A
line comment is neither at the end of the text. -/
theorem tokenize_append_of_fits {text : Text} {reading : Reading}
    (h : Reading.Fits legacy text reading) (hflaw : reading.flaw ≠ some .unterminated)
    (hline : reading.form = .lineComment → text.drop reading.width ≠ []) {stop : Char}
    (hstop : Text.isSpace stop = true) (more : Text) :
    tokenize legacy (text ++ stop :: more) =
      reading.token?.toList ++ tokenize legacy (text.drop reading.width ++ stop :: more) := by
  have hspells : reading.Spells (text.take reading.width) (text.drop reading.width) := h.spellsAt
  have htext : text ++ stop :: more =
      text.take reading.width ++ (text.drop reading.width ++ stop :: more) := by
    rw [← List.append_assoc, List.take_append_drop]
  by_cases hblank : reading.form = .blank
  · rw [Reading.Spells, hblank] at hspells
    rw [Reading.token?, hblank, htext, tokenize_blanks hspells]
    rfl
  by_cases hcomment : reading.form = .lineComment
  · rw [Reading.Spells, hcomment] at hspells
    obtain ⟨hopening, hnewline, hnext⟩ := hspells
    obtain ⟨c, following, hfollowing⟩ := List.exists_cons_of_ne_nil (hline hcomment)
    rw [hfollowing] at hnext
    obtain rfl : c = '\n' := hnext c rfl
    rw [Reading.token?, hcomment, htext, hfollowing, List.cons_append,
      tokenize_lineComment ⟨hopening, hnewline⟩]
    rfl
  · have hwidth := h.width_le hflaw
    rw [tokenize_of_fits (h.append hflaw hstop (.inr ⟨hblank, hcomment⟩) more),
      List.drop_append_of_le_length hwidth]

/-- A text whose literals and comments have their ends gives the same tokens before any white space.
After them the scan starts anew, or in the line comment that the text ends in. -/
theorem exists_trail {text : Text} (h : Closed legacy text) :
    ∃ (tokens : List Token) (trail : Text),
      (trail = [] ∨ trail.IsLineComment ∧
        ∃ segment, (Segment.scan legacy text).getLast? = some segment ∧
          segment.reading.form = .lineComment) ∧
      ∀ stop more, Text.isSpace stop = true →
        tokenize legacy (text ++ stop :: more) =
          tokens ++ tokenize legacy (trail ++ stop :: more) := by
  unfold Closed at h
  fun_induction Segment.scan legacy text with
  | case1 => exact ⟨[], [], .inl rfl, fun _ _ _ => rfl⟩
  | case2 c rest reading =>
    rename_i ih
    obtain ⟨hflaw, hafter⟩ := List.forall_mem_cons.mp h
    have hfits : Reading.Fits legacy (c :: rest) reading := Reading.fits_next legacy c rest
    by_cases hline : reading.form = .lineComment ∧ (c :: rest).drop reading.width = []
    · obtain ⟨hcomment, hend⟩ := hline
      have hspells : reading.SpellsAt (c :: rest) := hfits.spellsAt
      have hwhole : (c :: rest).take reading.width = c :: rest :=
        List.take_of_length_le (List.drop_eq_nil_iff.mp hend)
      rw [Reading.SpellsAt, Reading.Spells, hcomment, hwhole] at hspells
      obtain ⟨hopening, hnewline, -⟩ := hspells
      rw [hend, Segment.scan_nil]
      exact ⟨[], c :: rest, .inr ⟨⟨hopening, hnewline⟩, _, rfl, hcomment⟩, fun _ _ _ => rfl⟩
    · obtain ⟨tokens, trail, htrail, htokens⟩ := ih hafter
      refine ⟨reading.token?.toList ++ tokens, trail, ?_, fun stop more hstop => ?_⟩
      · refine htrail.imp_right ?_
        rintro ⟨htrail, segment, hlast, hform⟩
        refine ⟨htrail, segment, ?_, hform⟩
        rw [List.getLast?_cons, hlast]
        rfl
      · have hopen : reading.form = .lineComment → (c :: rest).drop reading.width ≠ [] :=
          fun hcomment hend => hline ⟨hcomment, hend⟩
        rw [tokenize_append_of_fits hfits hflaw hopen hstop, htokens stop more hstop,
          List.append_assoc]

/-- A comment changes no token. A line comment can be put, after a blank, before any newline. A
block comment stands for a blank, except where the text before it ends in a line comment; whatever
holds no end mark can be its text, if it does not make it a documentation comment. -/
theorem lex_comments (text following : Text) (options : Options)
    (hclosed : Closed options.legacy text) :
    (∀ comment, '\n' ∉ comment → ∃ tokens,
      lex (text ++ [' ', '/', '/'] ++ comment ++ ['\n'] ++ following) options = .ok tokens ∧
      lex (text ++ ['\n'] ++ following) options = .ok tokens) ∧
    ((∀ segment, (Segment.scan options.legacy text).getLast? = some segment →
        segment.reading.form ≠ .lineComment) →
      ∀ comment, ¬ commentEnd <:+: comment → comment.head? ≠ some '*' → ∃ tokens,
        lex (text ++ [' ', '/', '*'] ++ comment ++ commentEnd ++ following) options = .ok tokens ∧
        lex (text ++ [' '] ++ following) options = .ok tokens) := by
  obtain ⟨before, trail, htrail, htokens⟩ := exists_trail hclosed
  have hspace : ∀ c ∈ [' '], Text.isBlank c := List.forall_mem_singleton.mpr rfl
  refine ⟨fun comment hnewline => ?_, fun hlast comment hend hstar => ?_⟩
  · have hcomment : Text.IsLineComment (['/', '/'] ++ comment) :=
      ⟨List.prefix_append _ _, by simpa using hnewline⟩
    have hwithout : tokenize options.legacy (trail ++ '\n' :: following) =
        tokenize options.legacy ('\n' :: following) := by
      obtain rfl | ⟨htrail, -⟩ := htrail
      · rfl
      · exact tokenize_lineComment htrail following
    -- In a line comment that goes on, the new one is more of it.
    have hwith : tokenize options.legacy
        (trail ++ ' ' :: (['/', '/'] ++ comment ++ '\n' :: following)) =
        tokenize options.legacy ('\n' :: following) := by
      obtain rfl | ⟨⟨hopening, htrail⟩, -⟩ := htrail
      · exact (tokenize_blanks hspace _).trans (tokenize_lineComment hcomment following)
      · have hlonger : Text.IsLineComment (trail ++ ' ' :: (['/', '/'] ++ comment)) := by
          refine ⟨hopening.trans (List.prefix_append _ _), ?_⟩
          simp [htrail, hnewline]
        simpa using tokenize_lineComment hlonger following
    refine ⟨before ++ tokenize options.legacy ('\n' :: following), ?_, ?_⟩
    · rw [lex_eq, ← hwith, ← htokens ' ' _ rfl]
      simp
    · rw [lex_eq, ← hwithout, ← htokens '\n' _ rfl]
      simp
  · obtain rfl | ⟨-, segment, hsegment, hform⟩ := htrail
    · have hblank : ∀ more, tokenize options.legacy (text ++ ' ' :: more) =
          before ++ tokenize options.legacy more := by
        intro more
        rw [htokens ' ' more rfl]
        exact congrArg (before ++ ·) (tokenize_blanks hspace more)
      refine ⟨before ++ tokenize options.legacy following, ?_, ?_⟩
      · rw [lex_eq, ← tokenize_blockComment hend hstar following, ← hblank]
        simp
      · rw [lex_eq, ← hblank]
        simp
    · exact absurd hform (hlast segment hsegment)

/-- A line comment that opens a block comment, and a block comment that holds quotes, a newline,
slashes and stars. -/
theorem lex_comments_slashes :
    let text : Text := "\"/*\" /**/ x"
    let following : Text := "/ y \"z"
    let line : Text := "\"/* */ // \x27"
    let block : Text := "/\"\"\" //\n/* ***"
    ∀ legacy, Closed legacy text ∧ '\n' ∉ line ∧ ¬ commentEnd <:+: block ∧
      block.head? ≠ some '*' ∧
      (∀ segment, (Segment.scan legacy text).getLast? = some segment →
        segment.reading.form ≠ .lineComment) ∧
      (∃ tokens,
        lex (text ++ [' ', '/', '/'] ++ line ++ ['\n'] ++ following) { legacy } = .ok tokens ∧
        lex (text ++ ['\n'] ++ following) { legacy } = .ok tokens) ∧
      ∃ tokens,
        lex (text ++ [' ', '/', '*'] ++ block ++ commentEnd ++ following) { legacy } = .ok tokens ∧
        lex (text ++ [' '] ++ following) { legacy } = .ok tokens := by
  intro text following line block legacy
  have hclosed : Closed legacy text := by
    unfold Closed
    cases legacy <;> decide +kernel
  have hline : '\n' ∉ line := by decide
  have hblock : ¬ commentEnd <:+: block := by decide +kernel
  have hstar : block.head? ≠ some '*' := by decide
  have hlast : ∀ segment, (Segment.scan legacy text).getLast? = some segment →
      segment.reading.form ≠ .lineComment := by
    change ∀ segment ∈ (Segment.scan legacy text).getLast?, _
    cases legacy <;> decide +kernel
  obtain ⟨hlines, hblocks⟩ := lex_comments text following { legacy } hclosed
  exact ⟨hclosed, hline, hblock, hstar, hlast, hlines line hline, hblocks hlast block hblock hstar⟩

end Lexical
