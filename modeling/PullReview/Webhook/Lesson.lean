import PullReview.Forge.History
import PullReview.Json.Display
import PullReview.Store.Index
/-!
# Lessons from a history

Every review by the bot is a lesson, together with the first feedback that answers it.  Every review by a maintainer
is a lesson too, together with the latest of the bot's reviews before it.  All lessons are about the commit at the
head of the list.
-/
namespace PullReview
namespace Webhook

def answerTo (review : Comment) (feedback : List Comment) : Option Comment :=
  feedback.find? fun f => f.inReplyTo.same review.id

def isBefore (a b : String) : Bool := decide (a.toList < b.toList)

/-- The later of the review found so far and one more candidate; of two at one time, the first. -/
def laterBefore (time : String) (found : Option Comment) (candidate : Comment) : Option Comment :=
  if isBefore candidate.createdAt time then
    match found with
    | none => some candidate
    | some best => if isBefore best.createdAt candidate.createdAt then some candidate else some best
  else found

def latestBefore (time : String) (reviews : List Comment) : Option Comment := reviews.foldl (laterBefore time) none

def ofKind (kind : CommentKind) (comments : List Comment) : List Comment := comments.filter fun c => c.kind = kind

def botLesson (commit : Commit) (context : String) (feedback : List Comment) (review : Comment) : Store.Learning :=
  { commit := commit.document, review := review.document,
    feedback := ((answerTo review feedback).map (·.document)).getD .null, context }

/-- A maintainer's review in the words of both, the bot's first. -/
def combined (bot review : Comment) : Comment :=
  { review with
    body := .text ("Bot Review: " ++ bot.body.display ++ "\n\nMaintainer Feedback: " ++ review.body.display) }

def maintainerLesson (commit : Commit) (context : String) (botReviews : List Comment) (review : Comment) :
    Store.Learning :=
  let told := match latestBefore review.createdAt botReviews with
    | some bot => combined bot review
    | none => review
  { commit := commit.document, review := told.document, context }

def lessons (h : History) (context : String) : List Store.Learning :=
  match h.commits with
  | [] => []
  | commit :: _ =>
    let botReviews := ofKind .botReview h.comments
    let feedback := ofKind .userFeedback h.comments
    botReviews.map (botLesson commit context feedback) ++
      (ofKind .maintainerReview h.comments).map (maintainerLesson commit context botReviews)

end Webhook
end PullReview
