import PullReview.Digest.Block
/-!
# SHA-1

The digest by which a repository's address is turned into a directory name.
-/
namespace PullReview
namespace Digest
namespace Sha1

structure State where
  a : UInt32
  b : UInt32
  c : UInt32
  d : UInt32
  e : UInt32

def initial : State := ⟨0x67452301, 0xEFCDAB89, 0x98BADCFE, 0x10325476, 0xC3D2E1F0⟩

/-- The next word of the schedule, from the words before it, newest first. -/
def next (before : List UInt32) : UInt32 :=
  rotateLeft 1 (before.getD 2 0 ^^^ before.getD 7 0 ^^^ before.getD 13 0 ^^^ before.getD 15 0)

def schedule (block : List UInt32) : List UInt32 := (extend next 64 block.reverse).reverse

def mix (round : Nat) (s : State) : UInt32 × UInt32 :=
  if round < 20 then ((s.b &&& s.c) ||| (~~~s.b &&& s.d), 0x5A827999)
  else if round < 40 then (s.b ^^^ s.c ^^^ s.d, 0x6ED9EBA1)
  else if round < 60 then ((s.b &&& s.c) ||| (s.b &&& s.d) ||| (s.c &&& s.d), 0x8F1BBCDC)
  else (s.b ^^^ s.c ^^^ s.d, 0xCA62C1D6)

def step (s : State) (w : UInt32 × Nat) : State :=
  let (f, k) := mix w.2 s
  ⟨rotateLeft 5 s.a + f + s.e + k + w.1, s.a, rotateLeft 30 s.b, s.c, s.d⟩

def compress (s : State) (block : List UInt32) : State :=
  let t := (schedule block).zipIdx.foldl step s
  ⟨s.a + t.a, s.b + t.b, s.c + t.c, s.d + t.d, s.e + t.e⟩

end Sha1

def sha1 (message : List UInt8) : List UInt8 :=
  let s := (blocks message).foldl Sha1.compress Sha1.initial
  [s.a, s.b, s.c, s.d, s.e].flatMap wordOctets

end Digest
end PullReview
