import PullReview.Proofs.Review.Prompts
/-!
# What an examination comes to

A reviewer's opinion hangs on what its model answers and on nothing that other reviewers do (`perform_opinion`).  So an
examination comes to a dossier that can be told beforehand: the opinions on the three answers, taken in one after the
other, and the verdict on them (`examine_eq`).
-/
namespace PullReview
namespace Review

/-! ## One reviewer -/

/-- What a reviewer gets to hear: the model's answer to its prompt, or why there is none. -/
def answer (oracle : Oracle) (state : Json) (s : Specialty) : Except Fault (Option String) := do
  let prompt ← promptFor state s
  let _ ← ModelClient.ofProvider oracle.provider
  heard (oracle.reply prompt)

theorem report_result (oracle : Oracle) (state : Json) (s : Specialty) (t : Session (List ModelCall)) :
    ((report oracle state s).perform t).1 = answer oracle state s := by
  unfold report answer
  cases promptFor state s with
  | error cause => rfl
  | ok prompt =>
    rw [Run.perform_bind_ok (Run.perform_of _ t)]
    cases hclient : ModelClient.ofProvider oracle.provider with
    | error cause => rfl
    | ok client =>
      obtain ⟨call, -, hrun⟩ := perform_generate hclient oracle.reply prompt t
      rw [Run.perform_bind_ok (Run.perform_of _ t), hrun]
      rfl

def opinionOn (s : Specialty) : Except Fault (Option String) → Opinion
  | .ok given => { report := given, status := .completed, errors := [] }
  | .error cause => .ofFailure s cause

theorem perform_opinion (oracle : Oracle) (state : Json) (s : Specialty) (t : Session (List ModelCall)) :
    ((opinion oracle state s).perform t).1 = .ok (opinionOn s (answer oracle state s)) := by
  have hreport := report_result oracle state s t
  have hrun : (report oracle state s).perform t =
      (answer oracle state s, ((report oracle state s).perform t).2) := Prod.ext hreport rfl
  rw [opinion, Run.perform_orElse, opinion.formed, Run.perform_bind, hrun]
  cases answer oracle state s <;> rfl

/-! ## All of them -/

theorem opinions_result (oracle : Oracle) (state : Json) (t : Session Desk) :
    ((opinions oracle state).perform t).1 =
      .ok (order.map fun s => (s, opinionOn s (answer oracle state s))) := by
  refine Run.mapEach_result (fun s u => ?_) order t
  have hopinion : ((Desk.atModel (opinion oracle state s)).perform u).1 = .ok (opinionOn s (answer oracle state s)) :=
    perform_opinion oracle state s ⟨u.state.calls, u.console⟩
  rw [Run.perform_bind_ok (Prod.ext hopinion rfl)]
  rfl

def Dossier.informed (d : Dossier) (answers : Specialty → Except Fault (Option String)) : Dossier :=
  order.foldl (fun e s => e.withOpinion s (opinionOn s (answers s))) d

def answersTo (svc : Store.Service) (oracle : Oracle) (d : Dossier) (store : Store) :
    Specialty → Except Fault (Option String) :=
  answer oracle (d.withRetrieved (retrieved svc d store)).state

/-- **An examination always comes to an end**, with the verdict on the opinions. -/
theorem examine_eq (svc : Store.Service) (oracle : Oracle) (d : Dossier) (store : Store) (calls : List ModelCall) :
    let e := (d.withRetrieved (retrieved svc d store)).informed (answersTo svc oracle d store)
    ((examine svc oracle d).start ⟨store, calls⟩).1 = .ok (e.withVerdict e.reports.aggregate) := by
  intro e
  obtain ⟨after, console, hretrieve⟩ := atStore_retrieve svc d store calls
  have hopinions := opinions_result oracle (d.withRetrieved (retrieved svc d store)).state ⟨⟨after, calls⟩, console⟩
  rw [examine, Run.start_eq, Run.perform_bind_ok hretrieve, Run.perform_bind_ok (Prod.ext hopinions rfl), List.foldl_map]
  rfl

/-! ## What is in the dossier then -/

section Informed

variable (d : Dossier) (answers : Specialty → Except Fault (Option String))

theorem informed_report (s : Specialty) :
    (d.informed answers).report s = .ofOption (opinionOn s (answers s)).report := by cases s <;> rfl

theorem withRetrieved_changedFiles (r : Store.Retrieved) : (d.withRetrieved r).changedFiles = d.changedFiles := by
  cases r <;> rfl

end Informed

end Review
end PullReview
