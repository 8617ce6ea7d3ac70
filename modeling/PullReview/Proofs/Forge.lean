import PullReview.Forge.History
import PullReview.Forge.Post
import PullReview.Proofs.Run
/-!
# What the forge tells

A history keeps the comments and the commits in their order (`comments_of_history`, `commits_of_history`), and quotes
what was said in the comments (`body_of_history`).  A review with remarks is tied to the last of these commits
(`reviewPost_commit`).
-/
namespace PullReview
namespace Forge

theorem eq_told_of_item {α : Type} {p : Part α} {next : String} {a : α} (h : item p next = .ok a) : p = .told a := by
  cases p with
  | told b =>
    cases h
    rfl
  | _ => cases h

theorem eq_some_of_told {v : Option Json} {name : String} {x : Json} (h : told v name = .ok x) : v = some x := by
  cases v with
  | none => cases h
  | some y =>
    cases h
    rfl

/-! ## Comments -/

/-- Every comment that the forge tells has a body like this. -/
def HasBodies (forge : Forge) (bodies : Json → Prop) : Prop :=
  ∀ c : PostedComment, .told c ∈ forge.comments → ∀ body ∈ c.body, bodies body

theorem posted_of_sort {bot maintainers : Json} {p : Part PostedComment} {c : Comment}
    (h : sort bot maintainers p = .ok c) :
    ∃ posted t, p = .told posted ∧ posted.body = some c.body ∧ posted.createdAt = .told t ∧ c.createdAt = t.text := by
  obtain ⟨posted, hitem, h⟩ := Run.ok_of_bind h
  iterate 4 obtain ⟨_, -, h⟩ := Run.ok_of_bind h
  obtain ⟨body, hbody, h⟩ := Run.ok_of_bind h
  obtain ⟨_, -, h⟩ := Run.ok_of_bind h
  obtain ⟨text, hiso, h⟩ := Run.ok_of_bind h
  obtain ⟨t, htime, htext⟩ := Run.ok_of_bind hiso
  obtain rfl := Except.ok.inj h
  have htext : text = t.text := (Except.ok.inj htext).symm
  have htold : posted.createdAt = .told t := by
    cases hpart : posted.createdAt with
    | told u =>
      rw [hpart] at htime
      cases htime
      rfl
    | _ =>
      rw [hpart] at htime
      cases htime
  exact ⟨posted, t, eq_told_of_item hitem, eq_some_of_told hbody, htold, htext⟩

/-- **A history keeps the comments of the forge, in their order.** -/
theorem comments_of_history {forge : Forge} {bot : String} {h : History} (hhistory : forge.history? bot = .ok h) :
    ∃ maintainers, List.Forall₂ (fun p c => sort bot maintainers p = .ok c) forge.comments h.comments := by
  iterate 2 obtain ⟨_, -, hhistory⟩ := Run.ok_of_bind hhistory
  obtain ⟨maintainers, -, hhistory⟩ := Run.ok_of_bind hhistory
  iterate 2 obtain ⟨_, -, hhistory⟩ := Run.ok_of_bind hhistory
  obtain ⟨comments, hcomments, hhistory⟩ := Run.ok_of_bind hhistory
  cases hhistory
  obtain ⟨_, -, hcomments⟩ := Run.ok_of_bind hcomments
  exact ⟨.list maintainers, Run.forall₂_of_mapM hcomments⟩

/-- **What a history quotes was said.** -/
theorem body_of_history {forge : Forge} {bot : String} {h : History} {bodies : Json → Prop}
    (hforge : forge.HasBodies bodies) (hhistory : forge.history? bot = .ok h) : ∀ c ∈ h.comments, bodies c.body := by
  obtain ⟨maintainers, hcomments⟩ := comments_of_history hhistory
  intro c hc
  obtain ⟨p, hp, hsort⟩ := Run.exists_of_forall₂ hcomments hc
  obtain ⟨posted, -, rfl, hbody, -⟩ := posted_of_sort hsort
  exact hforge posted hp c.body hbody

/-! ## Commits -/

theorem sha_of_commit {p : Part PushedCommit} {c : Commit} (h : commit p = .ok c) :
    ∃ pushed, p = .told pushed ∧ pushed.sha = some c.sha := by
  obtain ⟨pushed, hitem, h⟩ := Run.ok_of_bind h
  obtain ⟨sha, hsha, h⟩ := Run.ok_of_bind h
  iterate 6 obtain ⟨_, -, h⟩ := Run.ok_of_bind h
  cases h
  exact ⟨pushed, eq_told_of_item hitem, eq_some_of_told hsha⟩

/-- **A history keeps the commits of the forge, in their order.** -/
theorem commits_of_history {forge : Forge} {bot : String} {h : History} (hhistory : forge.history? bot = .ok h) :
    List.Forall₂ (fun p c => commit p = .ok c) forge.commits h.commits := by
  iterate 4 obtain ⟨_, -, hhistory⟩ := Run.ok_of_bind hhistory
  obtain ⟨commits, hcommits, hhistory⟩ := Run.ok_of_bind hhistory
  obtain ⟨_, -, hhistory⟩ := Run.ok_of_bind hhistory
  cases hhistory
  obtain ⟨_, -, hcommits⟩ := Run.ok_of_bind hcommits
  exact Run.forall₂_of_mapM hcommits

theorem last_of_history {forge : Forge} {bot : String} {h : History} {newest : Commit}
    (hhistory : forge.history? bot = .ok h) (hnewest : h.commits.getLast? = some newest) :
    ∃ pushed, forge.commits.getLast? = some (.told pushed) ∧ pushed.sha = some newest.sha := by
  have hreverse := List.forall₂_reverse_iff.2 (commits_of_history hhistory)
  rw [← List.head?_reverse] at hnewest ⊢
  obtain ⟨earlier, hearlier⟩ := List.head?_eq_some_iff.1 hnewest
  rw [hearlier] at hreverse
  obtain ⟨p, earlierParts, hcommit, -, hparts⟩ := List.forall₂_cons_right_iff.1 hreverse
  obtain ⟨pushed, rfl, hsha⟩ := sha_of_commit hcommit
  rw [hparts]
  exact ⟨pushed, rfl, hsha⟩

/-- **A review with remarks is tied to the commit at the end of the list.** -/
theorem reviewPost_commit {forge : Forge} {bot : String} {h : History} {newest : Commit}
    (hhistory : forge.history? bot = .ok h) (hnewest : h.commits.getLast? = some newest)
    {repository pull body event : Json} {remarks : List Remark} (hremarks : remarks ≠ []) {post : Post}
    (hpost : forge.reviewPost repository pull body event remarks = .ok post) :
    ∃ posted, post = .review repository pull newest.sha body event posted := by
  obtain ⟨pushed, hlast, hsha⟩ := last_of_history hhistory hnewest
  unfold reviewPost at hpost
  rw [hlast] at hpost
  iterate 3 obtain ⟨_, -, hpost⟩ := Run.ok_of_bind hpost
  obtain ⟨_, hcommit, hpost⟩ := Run.ok_of_bind hpost
  cases hcommit
  obtain ⟨posted, hposted, hpost⟩ := Run.ok_of_bind hpost
  have hsome : posted ≠ [] := by
    intro hnone
    have hlength := (Run.forall₂_of_mapM hposted).length_eq
    rw [hnone, List.length_nil, List.length_eq_zero_iff] at hlength
    exact hremarks hlength
  rw [if_neg (by simpa using hsome)] at hpost
  obtain ⟨_, -, hpost⟩ := Run.ok_of_bind hpost
  refine ⟨posted, ?_⟩
  have htold : told pushed.sha "sha" = .ok newest.sha := by rw [hsha, told]
  obtain ⟨_, hitem, hpost⟩ := Run.ok_of_bind hpost
  cases hitem
  rw [htold] at hpost
  cases hpost
  rfl

end Forge
end PullReview
