import PullReview.Text.Quoted
/-!
# Blocks of words

The two digests in use cut a message into blocks of sixteen words of thirty-two bits, most significant octet first.  The
message is filled up with one bit, zeros and its length in bits, so that it ends with a whole block.
-/
namespace PullReview
namespace Digest

/-- The last `width` octets of a number, most significant first. -/
def octets : Nat → Nat → List UInt8
  | 0, _ => []
  | width + 1, n => octets width (n / 256) ++ [UInt8.ofNat (n % 256)]

/-- How many zeros fill up a message of `n` octets. -/
def zeroCount (n : Nat) : Nat := (119 - n % 64) % 64

def fill (message : List UInt8) : List UInt8 :=
  message ++ [0x80] ++ List.replicate (zeroCount message.length) 0 ++ octets 8 (8 * message.length)

def word (a b c d : UInt8) : UInt32 :=
  UInt32.ofNat (((a.toNat * 256 + b.toNat) * 256 + c.toNat) * 256 + d.toNat)

def wordsOf : List UInt8 → List UInt32
  | a :: b :: c :: d :: rest => word a b c d :: wordsOf rest
  | _ => []

def blocksOf : Nat → List UInt32 → List (List UInt32)
  | 0, _ => []
  | count + 1, words => words.take 16 :: blocksOf count (words.drop 16)

def blocks (message : List UInt8) : List (List UInt32) :=
  let filled := fill message
  blocksOf (filled.length / 64) (wordsOf filled)

/-- Words up to the length `16 + steps`, newest first, each made of those before it. -/
def extend (next : List UInt32 → UInt32) : Nat → List UInt32 → List UInt32
  | 0, words => words
  | steps + 1, words => extend next steps (next words :: words)

def rotateLeft (n : UInt32) (x : UInt32) : UInt32 := (x <<< n) ||| (x >>> (32 - n))

def rotateRight (n : UInt32) (x : UInt32) : UInt32 := (x >>> n) ||| (x <<< (32 - n))

def wordOctets (x : UInt32) : List UInt8 := octets 4 x.toNat

def hexText (bytes : List UInt8) : String := String.ofList (bytes.flatMap fun b => Text.hex 2 b.toNat)

end Digest
end PullReview
