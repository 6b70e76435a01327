import Lexical.Reading.Dispatch

/-! Segments: a source cut into consecutive stretches, each with its reading. -/

namespace Lexical

/-- A stretch of a source and how it is read. -/
structure Segment where
  lexeme : Text
  reading : Reading
  deriving DecidableEq, Repr

namespace Segment

/-- Reads a text from its start to its end. -/
def scan (legacy : Bool) : Text → List Segment
  | [] => []
  | c :: rest =>
    let reading := Reading.next legacy c rest
    ⟨(c :: rest).take reading.width, reading⟩ :: scan legacy ((c :: rest).drop reading.width)
termination_by text => text.length
decreasing_by
  have := Reading.width_next legacy c rest
  simp only [List.length_drop, List.length_cons]
  omega

@[simp] theorem scan_nil (legacy : Bool) : scan legacy [] = [] := by rw [scan]

theorem scan_cons (legacy : Bool) (c : Char) (rest : Text) :
    scan legacy (c :: rest) =
      ⟨(c :: rest).take (Reading.next legacy c rest).width, Reading.next legacy c rest⟩ ::
        scan legacy ((c :: rest).drop (Reading.next legacy c rest).width) := by
  rw [scan]

/-- The first segment is what the rule that fits makes of the text. -/
theorem of_scan_eq_cons {legacy : Bool} {text : Text} {segment : Segment} {following : List Segment}
    (h : scan legacy text = segment :: following) :
    Reading.Fits legacy text segment.reading ∧ segment.lexeme = text.take segment.reading.width ∧
      following = scan legacy (text.drop segment.reading.width) := by
  cases text with
  | nil =>
    rw [scan_nil] at h
    cases h
  | cons c rest =>
    rw [scan_cons] at h
    obtain ⟨rfl, rfl⟩ := List.cons.inj h
    exact ⟨Reading.fits_next legacy c rest, rfl, rfl⟩

/-- A scan loses nothing. -/
theorem flatten_lexemes (legacy : Bool) (text : Text) :
    ((scan legacy text).map lexeme).flatten = text := by
  fun_induction scan legacy text with
  | case1 => rfl
  | case2 c rest reading ih => simp [ih, List.take_append_drop]

/-- Each segment is what the rule that fits makes of the text that was left. -/
theorem fits_of_mem_scan {legacy : Bool} {text : Text} {segment : Segment}
    (h : segment ∈ scan legacy text) :
    ∃ rest, Reading.Fits legacy rest segment.reading ∧
      segment.lexeme = rest.take segment.reading.width := by
  fun_induction scan legacy text with
  | case1 => cases h
  | case2 c rest reading ih =>
    obtain rfl | h := List.mem_cons.mp h
    · exact ⟨c :: rest, Reading.fits_next legacy c rest, rfl⟩
    · exact ih h

/-- The token of a segment, if it gives one. -/
def token? (segment : Segment) : Option Token := segment.reading.token?

/-- Pairs each segment with the offset of its first character. -/
def locate : Nat → List Segment → List (Nat × Segment)
  | _, [] => []
  | start, segment :: segments =>
    (start, segment) :: locate (start + segment.lexeme.length) segments

theorem snd_locate (start : Nat) (segments : List Segment) :
    (locate start segments).map Prod.snd = segments := by
  induction segments generalizing start with
  | nil => rfl
  | cons segment segments ih => exact congrArg (segment :: ·) (ih _)

theorem locate_append (start : Nat) (segments following : List Segment) :
    locate start (segments ++ following) =
      locate start segments ++ locate (start + (segments.map lexeme).flatten.length) following := by
  induction segments generalizing start with
  | nil => rfl
  | cons segment segments ih =>
    rw [List.cons_append, locate, locate, ih, List.map_cons, List.flatten_cons, List.length_append,
      Nat.add_assoc]
    rfl

theorem mem_of_mem_locate {start : Nat} {segments : List Segment} {entry : Nat × Segment}
    (h : entry ∈ locate start segments) : entry.2 ∈ segments := by
  have hsegment := List.mem_map_of_mem (f := Prod.snd) h
  rwa [snd_locate] at hsegment

theorem exists_mem_locate (start : Nat) {segments : List Segment} {segment : Segment}
    (h : segment ∈ segments) : ∃ offset, (offset, segment) ∈ locate start segments := by
  rw [← snd_locate start segments] at h
  obtain ⟨⟨offset, _⟩, hentry, rfl⟩ := List.mem_map.mp h
  exact ⟨offset, hentry⟩

/-- How far the cursor moves over all segments. -/
def extent : List Segment → Nat
  | [] => 0
  | segment :: segments => segment.reading.width + extent segments

end Segment

/-- The tokens of a text in order, and the end of input after them. -/
def tokenize (legacy : Bool) (text : Text) : List Token :=
  (Segment.scan legacy text).filterMap Segment.token? ++ [.eof]

end Lexical
