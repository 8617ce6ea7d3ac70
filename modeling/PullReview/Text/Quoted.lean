import PullReview.Text.Printable
/-!
# Quoted text

A text inside quotation marks, on one line and without loss.  The marks are single, or double when the text itself
holds a single mark and no double one.  The mark in use and the backslash are written behind a backslash, tab, line feed
and carriage return by their letters, and what cannot be printed by its code point in hexadecimal.
-/
namespace PullReview
namespace Text

def hexDigit (n : Nat) : Char :=
  if n < 10 then Char.ofNat (48 + n) else Char.ofNat (87 + n)

/-- The last `width` hexadecimal digits of a number, small letters. -/
def hex : Nat → Nat → List Char
  | 0, _ => []
  | width + 1, n => hex width (n / 16) ++ [hexDigit (n % 16)]

def singleMark : Char := Char.ofNat 39

def doubleMark : Char := Char.ofNat 34

def quoteChar (mark c : Char) : List Char :=
  let n := c.toNat
  if c = mark || c = '\\' then ['\\', c]
  else if c = '\t' then ['\\', 't']
  else if c = '\n' then ['\\', 'n']
  else if c = '\r' then ['\\', 'r']
  else if isPrintable c then [c]
  else if n < 0x100 then '\\' :: 'x' :: hex 2 n
  else if n < 0x10000 then '\\' :: 'u' :: hex 4 n
  else '\\' :: 'U' :: hex 8 n

def markFor (s : List Char) : Char :=
  if s.contains singleMark && !s.contains doubleMark then doubleMark else singleMark

def quote (s : List Char) : List Char :=
  let mark := markFor s
  mark :: s.flatMap (quoteChar mark) ++ [mark]

def quoted (s : String) : String := String.ofList (quote s.toList)

end Text
end PullReview
