import PullReview.Files.Basic
import PullReview.Forge.Basic
import PullReview.Json.Display
import PullReview.Run
/-!
# Posting to the forge

The bot signs in with the key of its application, which the forge may refuse, and posts comments and reviews.  Whatever
goes wrong in posting is answered with status 500.  A review with remarks on single lines is tied to the last commit; one
without is posted as a comment.
-/
namespace PullReview
namespace Forge

structure Credentials where
  application : Nat
  key : String
  installation : Json

/-- Backslash and letter become a line feed. -/
def unfoldKey : List Char → List Char
  | [] => []
  | '\\' :: 'n' :: rest => '\n' :: unfoldKey rest
  | c :: rest => c :: unfoldKey rest

/-- The key itself, from the name of a file or from a key on one line. -/
def readKey (files : Files) (setting : String) : Except Fault String :=
  match files.find setting with
  | .file _ => files.readText setting
  | _ =>
    let key := String.ofList (unfoldKey setting.toList)
    if Text.startsWith "-----BEGIN" key then .ok key else .error .invalidKey

/-- The credentials that the bot goes on with, unless they are refused. -/
def signIn (files : Files) (refusal : Credentials → Option String) (application : Nat) (setting : String)
    (installation : Json) : Except Fault Credentials := do
  let credentials : Credentials := ⟨application, ← readKey files setting, installation⟩
  match refusal credentials with
  | some reason => throw (.refused reason)
  | none => return credentials

structure Remark where
  path : Json
  line : Json
  body : Json
  suggestion : Json

structure PostedRemark where
  path : Json
  line : Json
  body : Json

inductive Post where
  | comment (repository pull : Json) (body : Json)
  | review (repository pull : Json) (commit body event : Json) (remarks : List PostedRemark)

/-- A body with more text after it.  To a body that is a list the text is added character by character. -/
def extended (body : Json) (more : String) : Except Fault Json :=
  match body with
  | .text s => .ok (.text (s ++ more))
  | .list xs => .ok (.list (xs ++ more.toList.map fun c => .text (String.singleton c)))
  | other => .error (.cannotExtend other.kind)

def Remark.posted (r : Remark) : Except Fault PostedRemark := do
  let body ← if r.suggestion.isGiven then
      extended r.body ("\n\n**Suggestion:**\n```suggestion\n" ++ r.suggestion.display ++ "\n```")
    else pure r.body
  return ⟨r.path, r.line, body⟩

def asServerError {α : Type} (r : Except Fault α) : Except Fault α :=
  match r with
  | .ok a => .ok a
  | .error cause => .error (.http 500 cause.message)

def commentPost (forge : Forge) (repository pull body : Json) : Except Fault Post := do
  forge.call .repository
  forge.call .pull
  forge.call .createComment
  return .comment repository pull body

def reviewPost (forge : Forge) (repository pull body event : Json) (remarks : List Remark) :
    Except Fault Post := do
  forge.call .repository
  forge.call .pull
  forge.call .commits
  let commit ← match forge.commits.getLast? with
    | some c => Except.ok c
    | none => Except.error Fault.emptyList
  let posted ← remarks.mapM Remark.posted
  if posted.isEmpty then
    forge.call .createComment
    return .comment repository pull body
  else
    forge.call .createReview
    return .review repository pull (← told (← item commit "sha").sha "sha") body event posted

def postComment (forge : Forge) (repository pull body : Json) : Run (List Post) Unit := do
  let post ← Run.of (asServerError (forge.commentPost repository pull body))
  Run.update (· ++ [post])

def postReview (forge : Forge) (repository pull body event : Json) (remarks : List Remark) :
    Run (List Post) Unit := do
  let post ← Run.of (asServerError (forge.reviewPost repository pull body event remarks))
  Run.update (· ++ [post])

def usualEvent : String := "COMMENT"

end Forge
end PullReview
