import Lexical.Text

/-! UTF-8. Decoding is strict: no overlong form, no surrogate and nothing above U+10FFFF. A failure
tells the bytes that start to spell a character and do not finish, and why. -/

namespace Lexical

/-- Why bytes are no text, and which of them. -/
structure DecodeError where
  encoding : Text
  bytes : List UInt8
  /-- The undecodable bytes are those from `start` up to, not including, `stop`. -/
  start : Int
  stop : Int
  reason : Text
  deriving DecidableEq, Repr

namespace DecodeError

/-- The byte at the start. All bits are set in a byte that would stand before the first. -/
def firstByte? (error : DecodeError) : Option UInt8 :=
  if error.start < 0 then some 0xFF else error.bytes[error.start.toNat]?

/-- A single byte is shown by value, several by their place. -/
def place (error : DecodeError) : Text :=
  match error.firstByte?, error.stop == error.start + 1 with
  | some byte, true => "byte 0x" ++ Text.hex 2 byte.toNat ++ " in position " ++ .ofInt error.start
  | _, _ => "bytes in position " ++ .ofInt error.start ++ "-" ++ .ofInt (error.stop - 1)

/-- The failure in words. -/
def message (error : DecodeError) : Text :=
  "'" ++ error.encoding ++ "' codec can't decode " ++ error.place ++ ": " ++ error.reason

end DecodeError

namespace Utf8

/-- What is wrong with the bytes at the start of a failure. -/
inductive Reason where
  | startByte
  | continuationByte
  | endOfData
  deriving DecidableEq, Repr

/-- The reason in words. -/
def Reason.message : Reason → Text
  | startByte => "invalid start byte"
  | continuationByte => "invalid continuation byte"
  | endOfData => "unexpected end of data"

/-- What a lead byte announces: how many bytes follow, the bounds of the first of them, and the
leading bits of the code point. -/
structure Lead where
  follow : Nat
  low : Nat
  high : Nat
  bits : Nat
  deriving DecidableEq, Repr

/-- A byte that announces nothing cannot start a character. -/
def lead? (byte : UInt8) : Option Lead :=
  let n := byte.toNat
  if n < 0x80 then some ⟨0, 0x80, 0xBF, n⟩
  else if n < 0xC2 then none
  else if n < 0xE0 then some ⟨1, 0x80, 0xBF, n - 0xC0⟩
  else if n = 0xE0 then some ⟨2, 0xA0, 0xBF, 0⟩
  else if n = 0xED then some ⟨2, 0x80, 0x9F, 0xD⟩
  else if n < 0xF0 then some ⟨2, 0x80, 0xBF, n - 0xE0⟩
  else if n = 0xF0 then some ⟨3, 0x90, 0xBF, 0⟩
  else if n < 0xF4 then some ⟨3, 0x80, 0xBF, n - 0xF0⟩
  else if n = 0xF4 then some ⟨3, 0x80, 0x8F, 4⟩
  else none

/-- Adds the continuation bytes to a code point. A failure tells how many bytes were good. -/
def complete : (follow low high seen bits : Nat) → List UInt8 →
    Except (Nat × Reason) (Nat × List UInt8)
  | 0, _, _, _, bits, rest => .ok (bits, rest)
  | _ + 1, _, _, seen, _, [] => .error (seen, .endOfData)
  | follow + 1, low, high, seen, bits, byte :: rest =>
    if low ≤ byte.toNat ∧ byte.toNat ≤ high then
      complete follow 0x80 0xBF (seen + 1) (bits * 64 + byte.toNat % 64) rest
    else .error (seen, .continuationByte)

theorem length_of_complete {follow low high seen bits : Nat} {bytes : List UInt8}
    {result : Nat × List UInt8} (h : complete follow low high seen bits bytes = .ok result) :
    result.2.length + follow = bytes.length := by
  induction follow generalizing low high seen bits bytes with
  | zero => simp only [complete, Except.ok.injEq] at h; simp [← h]
  | succ follow ih =>
    cases bytes with
    | nil => simp [complete] at h
    | cons byte rest =>
      rw [complete] at h
      split at h
      · have := ih h; simp only [List.length_cons]; omega
      · cases h

/-- Where a failure starts, how many bytes it covers, and its reason. -/
def decodeFrom (start : Nat) (bytes : List UInt8) : Except (Nat × Nat × Reason) Text :=
  match bytes with
  | [] => .ok []
  | byte :: rest =>
    match lead? byte with
    | none => .error (start, 1, .startByte)
    | some lead =>
      match h : complete lead.follow lead.low lead.high 1 lead.bits rest with
      | .error (seen, reason) => .error (start, seen, reason)
      | .ok (code, rest) =>
        (decodeFrom (start + 1 + lead.follow) rest).map (Char.ofNat code :: ·)
termination_by bytes.length
decreasing_by
  have := length_of_complete h
  simp only [List.length_cons] at this ⊢
  omega

/-- The text of the bytes, or the first failure. -/
def decode (bytes : List UInt8) : Except DecodeError Text :=
  (decodeFrom 0 bytes).mapError fun (start, count, reason) =>
    ⟨"utf-8", bytes, start, start + count, reason.message⟩

end Utf8
end Lexical
