/-!
# Classes of characters

A class of characters given by a standard is a list of ranges of code points, both ends included.

## White space

Which characters stand between words, and what is left of a text when they are taken off its ends.  Core's
`Char.isWhitespace` knows four characters; the texts read here come from people and from language models, so the whole
Unicode class is used, and with it the four information separators.
-/
namespace PullReview
namespace Text

def inRanges (ranges : List (Nat × Nat)) (n : Nat) : Bool := ranges.any fun (a, b) => a ≤ n && n ≤ b

/-- White space: U+0009 to U+000D, the separators U+001C to U+001F, and the spaces of Unicode.  The zero-width space and
the byte order mark are not among them. -/
def isBlank (c : Char) : Bool :=
  let n := c.toNat
  (9 ≤ n && n ≤ 13) || (28 ≤ n && n ≤ 32) || n == 0x85 || n == 0xA0 || n == 0x1680 ||
    (0x2000 ≤ n && n ≤ 0x200A) || n == 0x2028 || n == 0x2029 || n == 0x202F || n == 0x205F || n == 0x3000

def trimStart (s : List Char) : List Char := s.dropWhile isBlank

def trimEnd (s : List Char) : List Char := (s.reverse.dropWhile isBlank).reverse

def trim (s : List Char) : List Char := trimEnd (trimStart s)

def strip (s : String) : String := String.ofList (trim s.toList)

def hasInk (s : String) : Bool := s.toList.any fun c => !isBlank c

end Text
end PullReview
