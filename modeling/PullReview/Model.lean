import PullReview.Json.Display
import PullReview.Run
/-!
# Language models

A client speaks to one of two providers.  Its model is settled when it is opened; its provider can be changed later, and
a provider that the client was not opened for may lack its connection.
-/
namespace PullReview

structure ModelCall where
  provider : String
  model : String
  prompt : String
deriving DecidableEq, Repr

inductive Reply where
  /-- An answer, which may be without text. -/
  | text (s : Option String)
  | refusal (reason : String)
deriving DecidableEq, Repr

structure ModelClient where
  provider : Json
  model : String
  /-- A connection to the second provider was opened. -/
  connected : Bool

inductive Provider where
  | gemini
  | groq
deriving DecidableEq, Repr

namespace Provider

def name : Provider → String
  | .gemini => "gemini"
  | .groq => "groq"

def named? (v : Json) : Option Provider := [gemini, groq].find? fun p => v.isText p.name

end Provider

namespace ModelClient

def usualProvider : String := Provider.groq.name

def ofProvider (provider : Json) : Except Fault ModelClient :=
  match Provider.named? provider with
  | some .gemini => .ok ⟨provider, "gemini-2.0-flash-exp", false⟩
  | some .groq => .ok ⟨provider, "llama-3.3-70b-versatile", true⟩
  | none => .error (.unknownProvider provider.display)

def openFor (usual provider : Json) : Except Fault ModelClient :=
  ofProvider (if provider.isGiven then provider else usual)

/-- Asks the model; every request is kept, also one that is refused.  A provider nobody knows answers nothing. -/
def generate (client : ModelClient) (reply : String → Reply) (prompt : String) :
    Run (List ModelCall) (Option String) := do
  match Provider.named? client.provider with
  | none => return none
  | some p =>
    if p = .groq && !client.connected then throw .noConnection
    Run.update (· ++ [⟨p.name, client.model, prompt⟩])
    match reply prompt with
    | .text s => return s
    | .refusal reason => throw (.refused reason)

/-- Only the two providers give embeddings. -/
def canEmbed (client : ModelClient) : Except Fault Unit :=
  match Provider.named? client.provider with
  | some _ => .ok ()
  | none => .error (.noEmbeddings client.provider.display)

end ModelClient
end PullReview
