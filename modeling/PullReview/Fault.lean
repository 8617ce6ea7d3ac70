import PullReview.Json.Basic
import PullReview.Text.Decimal
import PullReview.Text.Utf8
/-!
# Faults

Everything that can go wrong, by its cause.  `Fault.message` is the one place where the wording stands: reviews, error
lists and the console quote it.
-/
namespace PullReview

/-- What there was no room for when values stood too deep inside one another. -/
inductive Descent where
  | list
  | object
  /-- Calling for help. -/
  | call
  /-- Carrying out what was called. -/
  | step
deriving DecidableEq, Repr

def Descent.words : Descent → String
  | .list => " while decoding a JSON array from a unicode string"
  | .object => " while decoding a JSON object from a unicode string"
  | .call => " while calling a Python object"
  | .step => ""

inductive Fault where
  /-- A value of this kind has no such part. -/
  | noAttribute (kind : Kind) (name : String)
  | notIterable (kind : Kind)
  | notSubscriptable (kind : Kind)
  | noLength (kind : Kind)
  /-- A value of this kind holds nothing that could be looked for. -/
  | notSearchable (kind : Kind)
  /-- A value of this kind cannot be looked up. -/
  | notAKey (kind : Kind)
  /-- A text position was asked for by a name. -/
  | textPosition
  /-- A list position was asked for by a name. -/
  | listPosition
  /-- A part of a list was asked for with an end that is no number. -/
  | notAPosition
  /-- The beginning of an object was asked for. -/
  | noBeginning
  | missingField (name : String)
  /-- The first field of an object was asked for. -/
  | missingPosition
  | joinOfSingle
  /-- The item at this place of a list to be joined is no text. -/
  | joinItem (place : Nat) (kind : Kind)
  | cannotCompare (kind : Kind)
  /-- A whole number was to be written, and this kind of value is none. -/
  | notWhole (kind : Kind)
  | cannotExtend (kind : Kind)
  | notAPath (kind : Kind)
  /-- A path was to be continued by a value of this kind. -/
  | cannotFollow (kind : Kind)
  | emptyList
  | emptyText
  | tooManyDigits (count : Nat)
  /-- A whole number was to be written that has too many digits. -/
  | unwritable
  | undecodable (refusal : Text.Utf8Refusal)
  | malformedJson
  /-- Too many lists and objects stand inside one another. -/
  | nestedTooDeep (next : Descent)
  | noSuchFile (path : String)
  | fileExists (path : String)
  | isDirectory (path : String)
  | notDirectory (path : String)
  | nameTooLong (path : String)
  /-- The working directory was to be removed. -/
  | invalidRemoval (path : String)
  /-- A path holds the character that ends all paths. -/
  | embeddedNull
  /-- A plain file stands where a directory was to be removed. -/
  | notRemovable (path : String)
  | unknownLanguage (name : String)
  /-- No grammar can be loaded for a known language. -/
  | noGrammar (name : String)
  /-- The source text of a file was not accepted. -/
  | unparsable (reason : String)
  | unknownStatus (name : String)
  | unknownProvider (name : String)
  | noEmbeddings (provider : String)
  /-- The provider was changed to one whose connection was never opened. -/
  | noConnection
  | invalidKey
  | incomparableDigest
  /-- A service outside refused a call. -/
  | refused (reason : String)
  /-- An answer for the caller of the web service. -/
  | http (status : Nat) (detail : String)
deriving DecidableEq, Repr

def Fault.message : Fault → String
  | .noAttribute kind name => "'" ++ kind.name ++ "' object has no attribute '" ++ name ++ "'"
  | .notIterable kind => "'" ++ kind.name ++ "' object is not iterable"
  | .notSubscriptable kind => "'" ++ kind.name ++ "' object is not subscriptable"
  | .noLength kind => "object of type '" ++ kind.name ++ "' has no len()"
  | .notSearchable kind => "argument of type '" ++ kind.name ++ "' is not iterable"
  | .notAKey kind => "unhashable type: '" ++ kind.name ++ "'"
  | .textPosition => "string indices must be integers, not 'str'"
  | .listPosition => "list indices must be integers or slices, not str"
  | .notAPosition => "slice indices must be integers or None or have an __index__ method"
  | .noBeginning => "unhashable type: 'slice'"
  | .missingField name => Text.quoted name
  | .missingPosition => "0"
  | .joinOfSingle => "can only join an iterable"
  | .joinItem place kind => "sequence item " ++ toString place ++ ": expected str instance, " ++ kind.name ++ " found"
  | .cannotCompare kind => "'>' not supported between instances of '" ++ kind.name ++ "' and 'int'"
  | .notWhole kind =>
    if kind = .text || kind = .real then "Unknown format code 'd' for object of type '" ++ kind.name ++ "'"
    else "unsupported format string passed to " ++ kind.name ++ ".__format__"
  | .cannotExtend kind => "unsupported operand type(s) for +=: '" ++ kind.name ++ "' and 'str'"
  | .notAPath kind => "expected str, bytes or os.PathLike object, not " ++ kind.name
  | .cannotFollow kind => "unsupported operand type(s) for /: 'PosixPath' and '" ++ kind.name ++ "'"
  | .emptyList => "list index out of range"
  | .emptyText => "string index out of range"
  | .tooManyDigits count =>
    "Exceeds the limit (" ++ toString Text.digitLimit ++ " digits) for integer string conversion: value has " ++
      toString count ++ " digits; use sys.set_int_max_str_digits() to increase the limit"
  | .unwritable =>
    "Exceeds the limit (" ++ toString Text.digitLimit ++
      " digits) for integer string conversion; use sys.set_int_max_str_digits() to increase the limit"
  | .undecodable refusal => refusal.message
  | .malformedJson => ""
  | .nestedTooDeep next => "maximum recursion depth exceeded" ++ next.words
  | .noSuchFile path => "[Errno 2] No such file or directory: " ++ Text.quoted path
  | .fileExists path => "[Errno 17] File exists: " ++ Text.quoted path
  | .isDirectory path => "[Errno 21] Is a directory: " ++ Text.quoted path
  | .notDirectory path => "[Errno 20] Not a directory: " ++ Text.quoted path
  | .nameTooLong path => "[Errno 36] File name too long: " ++ Text.quoted path
  | .invalidRemoval path => "[Errno 22] Invalid argument: " ++ Text.quoted path
  | .embeddedNull => "embedded null byte"
  | .notRemovable path => "[Errno 20] Not a directory: PosixPath(" ++ Text.quoted path ++ ")"
  | .unknownLanguage name => "Unsupported language: " ++ name
  | .noGrammar name => "module 'tree_sitter_" ++ name ++ "' has no attribute 'language'"
  | .unparsable reason => reason
  | .unknownStatus name => Text.quoted name ++ " is not a valid AgentStatus"
  | .unknownProvider name => "Unsupported AI provider: " ++ name
  | .noEmbeddings provider => "Embeddings not supported for provider: " ++ provider
  | .noConnection => "'AIClient' object has no attribute 'client'"
  | .invalidKey => "Invalid private key format. Must start with -----BEGIN"
  | .incomparableDigest => "comparing strings with non-ASCII characters is not supported"
  | .refused reason => reason
  | .http _ detail => detail

end PullReview
