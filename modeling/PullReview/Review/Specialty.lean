import PullReview.Fault
/-!
# Specialties

A pull request is read by three reviewers, each with a specialty of its own.  Every station of a review has a status.
-/
namespace PullReview
namespace Review

inductive Specialty where
  | security
  | quality
  | performance
deriving DecidableEq, Repr

namespace Specialty

def title : Specialty → String
  | .security => "Security"
  | .quality => "Code Quality"
  | .performance => "Performance"

/-- All specialties, in the order in which a review names them. -/
def all : List Specialty := [.security, .quality, .performance]

end Specialty

inductive Status where
  | pending
  | processing
  | completed
  | failed
deriving DecidableEq, Repr

namespace Status

def all : List Status := [.pending, .processing, .completed, .failed]

def name : Status → String
  | .pending => "pending"
  | .processing => "processing"
  | .completed => "completed"
  | .failed => "failed"

def ofName (s : String) : Except Fault Status :=
  ((all.find? fun status => status.name == s).map .ok).getD (.error (.unknownStatus s))

end Status

end Review
end PullReview
