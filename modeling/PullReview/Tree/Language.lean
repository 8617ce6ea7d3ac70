import PullReview.Files.Path
import PullReview.Json.Access
import PullReview.Json.Display
import PullReview.Text.Lower
/-!
# Programming languages

Five languages have rules for what a node of their trees defines.  Any other name is a language without rules.
-/
namespace PullReview

inductive Language where
  | python
  | javascript
  | typescript
  | go
  | rust
  | other (name : String)
deriving DecidableEq, Repr

namespace Language

def name : Language → String
  | .python => "python"
  | .javascript => "javascript"
  | .typescript => "typescript"
  | .go => "go"
  | .rust => "rust"
  | .other name => name

def ofName (s : String) : Language :=
  match s with
  | "python" => .python
  | "javascript" => .javascript
  | "typescript" => .typescript
  | "go" => .go
  | "rust" => .rust
  | _ => .other s

/-- The language of a file, by the ending of its name in any case of letters.  A file with no known ending is taken for
Python. -/
def ofFile (path : Path) : Language :=
  match Text.lower path.suffix with
  | ".js" => .javascript
  | ".ts" => .typescript
  | ".go" => .go
  | ".rs" => .rust
  | _ => .python

def ofPath (path : String) : Language := ofFile (Path.ofString path)

/-- Whether source text of the language can be parsed: the TypeScript package offers its grammar under other names than
the rest do, so its grammar is not found. -/
def loadGrammar : Language → Except Fault Unit
  | .other name => .error (.unknownLanguage name)
  | .typescript => .error (.noGrammar Language.typescript.name)
  | _ => .ok ()

/-- The language that a value names, if source text of it can be parsed. -/
def named (v : Json) : Except Fault Language := do
  v.requireKey
  let lang := ofName v.display
  lang.loadGrammar
  return lang

def ofPaths (paths : Json) : Except Fault (List Language) := do
  (← paths.elements).mapM fun path => do return ofFile (← Path.named path)

end Language
end PullReview
