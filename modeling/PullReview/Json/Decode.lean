import PullReview.Fault
/-!
# Reading JSON text

The grammar of JSON, with three more words for numbers that are not finite.  White space is the four characters of the
standard.  When an object names a field twice, the last value counts and the first place is kept.  A whole number of too
many digits and lists or objects nested too deep are faults of their own; all else that does not fit is malformed.

The reader takes a measure that falls with every call.  Each two calls take a character, so twice the length of the text
is enough.  It also takes how much room there is: how many more lists and objects may be opened inside one another.  A
number that is not finite needs one level of it, and so does each step of saying what is wrong with a text, unless it
is only that no value stands where one should.
-/
namespace PullReview
namespace Json

def malformed {α : Type} : Except Fault α := .error .malformedJson

def malformedWithin {α : Type} (room : Nat) : Except Fault α :=
  match room with
  | 0 => .error (.nestedTooDeep .call)
  | 1 => .error (.nestedTooDeep .step)
  | 2 => .error (.nestedTooDeep .call)
  | _ + 3 => malformed

def skipSpace (s : List Char) : List Char := s.dropWhile fun c => c = ' ' || c = '\t' || c = '\n' || c = '\r'

def isAsciiDigit (c : Char) : Bool := '0' ≤ c && c ≤ '9'

/-! ## Strings -/

def hexValue? (c : Char) : Option Nat :=
  if isAsciiDigit c then some (c.toNat - 48)
  else if 'a' ≤ c && c ≤ 'f' then some (c.toNat - 87)
  else if 'A' ≤ c && c ≤ 'F' then some (c.toNat - 55)
  else none

def hexQuad? (a b c d : Char) : Option Nat := do
  return (((← hexValue? a) * 16 + (← hexValue? b)) * 16 + (← hexValue? c)) * 16 + (← hexValue? d)

def escaped? (c : Char) : Option Nat :=
  match c with
  | '\x22' => some 0x22
  | '\\' => some 0x5C
  | '/' => some 0x2F
  | 'b' => some 8
  | 'f' => some 12
  | 'n' => some 10
  | 'r' => some 13
  | 't' => some 9
  | _ => none

/-- The code units of a string and what follows its closing mark. -/
def units? : List Char → Option (List Nat × List Char)
  | [] => none
  | '\\' :: 'u' :: a :: b :: c :: d :: rest => do
    let unit ← hexQuad? a b c d
    let (more, tail) ← units? rest
    return (unit :: more, tail)
  | '\\' :: c :: rest => do
    let unit ← escaped? c
    let (more, tail) ← units? rest
    return (unit :: more, tail)
  | c :: rest =>
    if c = '\x22' then some ([], rest)
    else if c = '\\' || c.toNat < 0x20 then none
    else do
      let (more, tail) ← units? rest
      return (c.toNat :: more, tail)

def isHighSurrogate (n : Nat) : Bool := 0xD800 ≤ n && n ≤ 0xDBFF

def isLowSurrogate (n : Nat) : Bool := 0xDC00 ≤ n && n ≤ 0xDFFF

/-- Two surrogates make one character; a single one makes the replacement character. -/
def pairUp : List Nat → List Char
  | [] => []
  | [n] => [if isHighSurrogate n || isLowSurrogate n then Char.ofNat 0xFFFD else Char.ofNat n]
  | n :: m :: rest =>
    if isHighSurrogate n && isLowSurrogate m then
      Char.ofNat (0x10000 + (n - 0xD800) * 0x400 + (m - 0xDC00)) :: pairUp rest
    else if isHighSurrogate n || isLowSurrogate n then Char.ofNat 0xFFFD :: pairUp (m :: rest)
    else Char.ofNat n :: pairUp (m :: rest)

def readString (room : Nat) (s : List Char) : Except Fault (String × List Char) :=
  match units? s with
  | some (units, rest) => .ok (String.ofList (pairUp units), rest)
  | none => malformedWithin room

/-! ## Numbers -/

/-- The whole part: a zero alone, or digits that do not start with one. -/
def wholePart? (s : List Char) : Option (List Char × List Char) :=
  match s with
  | '0' :: rest => some (['0'], rest)
  | c :: rest =>
    if isAsciiDigit c then some (c :: rest.takeWhile isAsciiDigit, rest.dropWhile isAsciiDigit) else none
  | [] => none

def fraction (s : List Char) : List Char × List Char :=
  match s with
  | '.' :: rest =>
    match rest.takeWhile isAsciiDigit with
    | [] => ([], s)
    | digits => ('.' :: digits, rest.dropWhile isAsciiDigit)
  | _ => ([], s)

def exponent (s : List Char) : List Char × List Char :=
  match s with
  | e :: rest =>
    if e = 'e' || e = 'E' then
      let (sign, digits) := match rest with
        | '+' :: r => (['+'], r)
        | '-' :: r => (['-'], r)
        | r => ([], r)
      match digits.takeWhile isAsciiDigit with
      | [] => ([], s)
      | ds => (e :: sign ++ ds, digits.dropWhile isAsciiDigit)
    else ([], s)
  | [] => ([], s)

def exponentValue (s : List Char) : Int :=
  match s.drop 1 with
  | '-' :: ds => -(Text.numeral ds : Int)
  | '+' :: ds => Text.numeral ds
  | ds => Text.numeral ds

def readNumber (negative : Bool) (s : List Char) : Except Fault (Json × List Char) :=
  match wholePart? s with
  | none => malformed
  | some (whole, rest) =>
    let (frac, rest) := fraction rest
    let (exp, rest) := exponent rest
    if frac.isEmpty && exp.isEmpty then
      if Text.digitLimit < whole.length then .error (.tooManyDigits whole.length)
      else
        let n : Int := Text.numeral whole
        .ok (.int (if negative then -n else n), rest)
    else
      let digits := whole ++ frac.drop 1
      .ok (.real (.ofDecimal negative (Text.numeral digits) (exponentValue exp - (frac.drop 1).length)), rest)

def words : List (List Char × Json) := [
  ("null".toList, .null), ("true".toList, .bool true), ("false".toList, .bool false),
  ("NaN".toList, .real .undefined), ("Infinity".toList, .real (.infinite false)),
  ("-Infinity".toList, .real (.infinite true))]

def readWord? (s : List Char) : Option (Json × List Char) :=
  words.findSome? fun (word, v) => (Text.after? word s).map fun rest => (v, rest)

def wordWithin (room : Nat) (found : Json × List Char) : Except Fault (Json × List Char) :=
  match room, found.1 with
  | 0, .real _ => .error (.nestedTooDeep .call)
  | _, _ => .ok found

/-! ## Values -/

mutual

def readValue : Nat → Nat → List Char → Except Fault (Json × List Char)
  | 0, _, _ => malformed
  | fuel + 1, room, s =>
    match readWord? s with
    | some found => wordWithin room found
    | none =>
      match s with
      | [] => malformed
      | c :: rest =>
        if c = '\x22' then do
          let (written, rest) ← readString room rest
          return (.text written, rest)
        else if c = '[' then
          match room, skipSpace rest with
          | 0, _ => .error (.nestedTooDeep .list)
          | _ + 1, ']' :: tail => .ok (.list [], tail)
          | room + 1, body => readItems fuel room [] body
        else if c = '\x7b' then
          match room, skipSpace rest with
          | 0, _ => .error (.nestedTooDeep .object)
          | _ + 1, '\x7d' :: tail => .ok (.object [], tail)
          | room + 1, body => readFields fuel room [] body
        else if c = '-' then readNumber true rest
        else readNumber false s

/-- The items of a list up to its end; `before` are those already read, last first. -/
def readItems : Nat → Nat → List Json → List Char → Except Fault (Json × List Char)
  | 0, _, _, _ => malformed
  | fuel + 1, room, before, s => do
    let (v, rest) ← readValue fuel room s
    match skipSpace rest with
    | ',' :: tail => readItems fuel room (v :: before) (skipSpace tail)
    | ']' :: tail => return (.list (v :: before).reverse, tail)
    | _ => malformedWithin room

def readFields : Nat → Nat → List (String × Json) → List Char → Except Fault (Json × List Char)
  | 0, _, _, _ => malformed
  | fuel + 1, room, before, s =>
    match s with
    | '\x22' :: rest => do
      let (name, rest) ← readString room rest
      match skipSpace rest with
      | ':' :: rest =>
        let (v, rest) ← readValue fuel room (skipSpace rest)
        let fields := putBy Prod.fst (name, v) before
        match skipSpace rest with
        | ',' :: tail => readFields fuel room fields (skipSpace tail)
        | '\x7d' :: tail => return (.object fields, tail)
        | _ => malformedWithin room
      | _ => malformedWithin room
    | _ => malformedWithin room

end

/-- The value that a text denotes, with white space around it and nothing else, and with no more than `room` lists and
objects inside one another. -/
def decodeWithin (room : Nat) (text : String) : Except Fault Json := do
  let s := text.toList
  let (v, rest) ← readValue (2 * s.length + 2) room (skipSpace s)
  if (skipSpace rest).isEmpty then return v else malformed

def nestingLimit : Nat := 981

def decode (text : String) : Except Fault Json := decodeWithin nestingLimit text

end Json
end PullReview
