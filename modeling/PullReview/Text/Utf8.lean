import PullReview.Text.Quoted
/-!
# Text in files

A text file holds UTF-8, and is read with one kind of line end.

Decoding is strict: overlong forms, surrogates and values above U+10FFFF are refused.  A refusal says where the faulty
sequence starts, how many of its octets were still acceptable, and which of three things is wrong with it: no sequence
starts with that octet, an octet in it does not continue it, or the data end inside it.
-/
namespace PullReview
namespace Text

inductive Utf8Flaw where
  | start
  | continuation
  | truncated
deriving DecidableEq, Repr

def Utf8Flaw.reason : Utf8Flaw → String
  | .start => "invalid start byte"
  | .continuation => "invalid continuation byte"
  | .truncated => "unexpected end of data"

structure Utf8Refusal where
  flaw : Utf8Flaw
  /-- Offset of the first octet of the faulty sequence. -/
  position : Nat
  /-- How many octets of the sequence were read. -/
  count : Nat
  first : UInt8
deriving DecidableEq, Repr

def Utf8Refusal.message (r : Utf8Refusal) : String :=
  let place :=
    if r.count = 1 then
      "byte 0x" ++ String.ofList (hex 2 r.first.toNat) ++ " in position " ++ toString r.position
    else
      "bytes in position " ++ toString r.position ++ "-" ++ toString (r.position + r.count - 1)
  "'utf-8' codec can't decode " ++ place ++ ": " ++ r.flaw.reason

/-- The range of the second octet after a first octet of two, three or four.  The narrow ranges are what keeps overlong
forms, surrogates and values beyond the last code point out. -/
def secondRange (b : UInt8) : UInt8 × UInt8 :=
  if b = 0xE0 then (0xA0, 0xBF)
  else if b = 0xED then (0x80, 0x9F)
  else if b = 0xF0 then (0x90, 0xBF)
  else if b = 0xF4 then (0x80, 0x8F)
  else (0x80, 0xBF)

def continues (b : UInt8) : Bool := 0x80 ≤ b && b ≤ 0xBF

def sixBits (b : UInt8) : Nat := b.toNat % 64

def decodeFrom (pos : Nat) : List UInt8 → Except Utf8Refusal (List Char)
  | [] => .ok []
  | b :: rest =>
    if b < 0x80 then do
      return Char.ofNat b.toNat :: (← decodeFrom (pos + 1) rest)
    else if b < 0xC2 || 0xF4 < b then .error ⟨.start, pos, 1, b⟩
    else match rest with
    | [] => .error ⟨.truncated, pos, 1, b⟩
    | b1 :: rest1 =>
      let (low, high) := secondRange b
      if b1 < low || high < b1 then .error ⟨.continuation, pos, 1, b⟩
      else if b < 0xE0 then do
        return Char.ofNat (b.toNat % 32 * 64 + sixBits b1) :: (← decodeFrom (pos + 2) rest1)
      else match rest1 with
      | [] => .error ⟨.truncated, pos, 2, b⟩
      | b2 :: rest2 =>
        if !continues b2 then .error ⟨.continuation, pos, 2, b⟩
        else if b < 0xF0 then do
          return Char.ofNat ((b.toNat % 16 * 64 + sixBits b1) * 64 + sixBits b2) :: (← decodeFrom (pos + 3) rest2)
        else match rest2 with
        | [] => .error ⟨.truncated, pos, 3, b⟩
        | b3 :: rest3 =>
          if !continues b3 then .error ⟨.continuation, pos, 3, b⟩
          else do
            return Char.ofNat (((b.toNat % 8 * 64 + sixBits b1) * 64 + sixBits b2) * 64 + sixBits b3) ::
              (← decodeFrom (pos + 4) rest3)

def decodeUtf8 (bytes : List UInt8) : Except Utf8Refusal String := (decodeFrom 0 bytes).map String.ofList

def encodeUtf8 (s : String) : List UInt8 := s.toUTF8.toList

/-- A carriage return, alone or before a line feed, is read as a line feed. -/
def unifyLineEnds : List Char → List Char
  | [] => []
  | '\r' :: '\n' :: rest => '\n' :: unifyLineEnds rest
  | '\r' :: rest => '\n' :: unifyLineEnds rest
  | c :: rest => c :: unifyLineEnds rest

end Text
end PullReview
