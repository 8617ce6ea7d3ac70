import PullReview.Double.Digits
import PullReview.Json.Basic
/-!
# Writing JSON text

The text of a value, without white space.  Everything beyond the printable characters of ASCII is written as it is,
except for control characters.
-/
namespace PullReview
namespace Json

def hexDigit (n : Nat) : Char := Char.ofNat (if n < 10 then 48 + n else 87 + n)

def writeChar (c : Char) : List Char :=
  if c = '\x22' then ['\\', '\x22']
  else if c = '\\' then ['\\', '\\']
  else if c.toNat < 0x20 || c.toNat = 0x7F then
    "\\u00".toList ++ [hexDigit (c.toNat / 16), hexDigit (c.toNat % 16)]
  else [c]

def writeString (s : String) : String := "\x22" ++ String.ofList (s.toList.flatMap writeChar) ++ "\x22"

def writeReal : Double → String
  | .infinite negative => if negative then "-Infinity" else "Infinity"
  | .undefined => "NaN"
  | x => x.text

mutual

def encode : Json → String
  | .null => "null"
  | .bool b => if b then "true" else "false"
  | .int n => toString n
  | .real x => writeReal x
  | .text s => writeString s
  | .list xs => "[" ++ encodeItems xs ++ "]"
  | .object fs | .record fs => "\x7b" ++ encodeFields fs ++ "\x7d"

def encodeItems : List Json → String
  | [] => ""
  | [x] => encode x
  | x :: y :: rest => encode x ++ "," ++ encodeItems (y :: rest)

def encodeFields : List (String × Json) → String
  | [] => ""
  | [(name, v)] => writeString name ++ ":" ++ encode v
  | (name, v) :: f :: rest => writeString name ++ ":" ++ encode v ++ "," ++ encodeFields (f :: rest)

end

end Json
end PullReview
