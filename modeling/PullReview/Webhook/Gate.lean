import PullReview.Digest.Sha256
import PullReview.Files.Basic
import PullReview.Json.Access
import PullReview.Json.Decode
import PullReview.Json.Display
import PullReview.Run
/-!
# The gate

What happens to a webhook request at once.  A request is signed with the keyed digest of its body under a secret; one that
is not is turned away.  One that says a pull request was opened or changed is queued.  One that says it was closed removes
the request's directory.  Everything else is skipped.
-/
namespace PullReview
namespace Webhook

/-! ## Signatures -/

def isAscii (s : String) : Bool := s.toList.all fun c => c.toNat < 128

def signatureOf (secret : String) (body : List UInt8) : String :=
  "sha256=" ++ Digest.hexText (Digest.hmacSha256 (Text.encodeUtf8 secret) body)

/-- Only plain signatures can be compared: one with a character outside of ASCII cannot. -/
def verify (secret : String) (body : List UInt8) (signature : Option String) : Except Fault Bool :=
  match signature with
  | none => .ok false
  | some s => if isAscii s then .ok (signatureOf secret body = s) else .error .incomparableDigest

/-! ## Requests -/

structure Delivery where
  body : List UInt8
  event : Option String
  signature : Option String

structure Yard where
  files : Files
  /-- Payloads to be processed, first come first. -/
  queue : List Json

inductive Response where
  | otherEvent (event : Option String)
  | accepted (pull action : Json)
  | cleanedUp (pull : Json)
  | cleanupFailed (pull : Json) (cause : Fault)
  | nothingToClean (pull : Json)
  | ignored (pull action : Json)

def Response.body : Response → Json
  | .otherEvent event => .object [("status", "skipped"), ("event", .ofOption event)]
  | .accepted pull action =>
    .object [("status", "accepted"), ("message", "Processing webhook in background"), ("pr_number", pull),
      ("action", action)]
  | .cleanedUp pull =>
    .object [("status", "cleaned_up"), ("pr_number", pull),
      ("message", .text ("Repository cache deleted for PR #" ++ pull.display))]
  | .cleanupFailed pull cause =>
    .object [("status", "cleanup_failed"), ("pr_number", pull), ("error", .text cause.message)]
  | .nothingToClean pull =>
    .object [("status", "no_cleanup_needed"), ("pr_number", pull), ("message", "No cached repository found")]
  | .ignored pull action =>
    .object [("status", "skipped"), ("message", action), ("pr_number", pull),
      ("action", .text ("Action '" ++ action.display ++ "' does not trigger review"))]

def reviewActions : List String := ["opened", "synchronize", "reopened"]

def isReviewAction (action : Json) : Bool := reviewActions.any action.isText

/-- The directory that a closed pull request's clone is looked for in. -/
def closedDirectory (root : Path) (pull : Json) : Path := root.join ("pr_" ++ pull.display)

def Yard.atFiles {α : Type} (act : Run Files α) : Run Yard α := act.within (·.files) fun files y => { y with files }

/-- Removes the directory of a closed pull request; what goes wrong in it is part of the answer. -/
def cleanUp (directory : Path) (pull : Json) : Run Yard Response :=
  cleaned.orElse fun cause => do
    Run.say ("Error cleaning up PR #" ++ pull.display ++ ": " ++ cause.message)
    return .cleanupFailed pull cause
where
  cleaned : Run Yard Response := do
    Yard.atFiles (Files.removeTree directory)
    Run.say ("Cleaned up repository for closed PR #" ++ pull.display)
    return .cleanedUp pull

def close (root : Path) (pull : Json) : Run Yard Response := do
  let directory := closedDirectory root pull
  if ← Run.of ((← Run.state).files.hasPath directory) then cleanUp directory pull
  else return .nothingToClean pull

/-- The payload of a delivery whose signature is right. -/
def payload (secret : String) (d : Delivery) : Except Fault Json := do
  if ← verify secret d.body d.signature then
    Json.decode (← Files.decode d.body)
  else .error (.http 401 "Invalid signature")

def pullNumber (p : Json) : Except Fault Json := do
  (← p.field "pull_request" (.object [])).field "number" .null

def receive (root : Path) (secret : String) (d : Delivery) : Run Yard Response := do
  let p ← Run.of (payload secret d)
  if d.event ≠ some "pull_request" then return .otherEvent d.event
  else
    let pull ← Run.of (pullNumber p)
    let action ← Run.of (p.field "action" "")
    if action.isText "closed" then close root pull
    else if isReviewAction action then
      Run.update fun y => { y with queue := y.queue ++ [p] }
      return .accepted pull action
    else return .ignored pull action

def receiveAll (root : Path) (secret : String) (y : Yard) (ds : List Delivery) : Yard :=
  ds.foldl (fun y d => ((receive root secret d).start y).2.state) y

end Webhook
end PullReview
