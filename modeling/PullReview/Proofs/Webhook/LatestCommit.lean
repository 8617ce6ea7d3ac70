import PullReview.Proofs.Forge
import PullReview.Proofs.Webhook.Upserts
/-!
# Which commit counts as the latest

A forge lists commits oldest first.  The document shows the commit at the head of that list as the latest
(`header_latest`), and every lesson that a run stores is about it (`storeAfter_lessons`).  A review with remarks is tied
to the commit at the end.  So the three agree exactly on pull requests with a single commit
(`latest_commit_agrees_iff`).
-/
namespace PullReview

open Text

def Commit.shown (c : Commit) : String :=
  joinLines ["- **Message**: " ++ c.message.display, "- **Author**: " ++ c.author.display, "- **Date**: " ++ c.date]

/-! ## The document -/

theorem joinLines_ending (above : List String) (habove : above ≠ []) (title body : String) :
    joinLines (above ++ [title, body]) = joinLines above ++ "\n" ++ (title ++ "\n" ++ body) :=
  joinWith_append (List.cons_ne_nil _ _) habove

theorem commitLines_oldest {h : History} {oldest : Commit} (holdest : h.commits.head? = some oldest) :
    Context.commitLines (.list (h.commits.map (·.document))) = .ok oldest.shown := by
  obtain ⟨later, hlater⟩ := List.head?_eq_some_iff.1 holdest
  rw [hlater]
  rfl

/-- **The document shows the commit at the head of the list as the latest.** -/
theorem header_latest {h : History} {oldest : Commit} (holdest : h.commits.head? = some oldest) {diff : Json}
    {top : String} (htop : Context.header diff h.document = .ok top) :
    ∃ above, top = above ++ "\n" ++ ("### Latest Commit" ++ "\n" ++ oldest.shown) := by
  have hcommits : h.document.field "commits" (.list []) = .ok (.list (h.commits.map (·.document))) := rfl
  obtain ⟨_, -, htop⟩ := Run.ok_of_bind htop
  rw [hcommits] at htop
  obtain ⟨_, hlisted, htop⟩ := Run.ok_of_bind htop
  cases hlisted
  rw [commitLines_oldest holdest] at htop
  -- all that stands above the commit
  iterate 14 obtain ⟨_, -, htop⟩ := Run.ok_of_bind htop
  obtain ⟨_, hlatest, htop⟩ := Run.ok_of_bind htop
  cases hlatest
  cases htop
  exact ⟨_, joinLines_ending [_, _, _, _, _, _, _, _, _, _, _, _, _, _, _, _, _, _, _, _] (List.cons_ne_nil _ _) _ _⟩

/-! ## The lessons -/

namespace Webhook

/-- What is stored of a lesson is about this commit. -/
def IsAbout (commit : Commit) (payload : Json) : Prop :=
  payload.get? "commit_sha" = some commit.sha ∧ payload.get? "commit_message" = some commit.message

theorem isAbout_of_lessonPoints {h : History} {oldest : Commit} (holdest : h.commits.head? = some oldest)
    {context : String} : ∀ point ∈ lessonPoints h context, IsAbout oldest point.2 := by
  obtain ⟨later, hlater⟩ := List.head?_eq_some_iff.1 holdest
  unfold lessonPoints
  rw [hlater]
  intro point hpoint
  obtain ⟨review, -, rfl⟩ := List.mem_map.1 hpoint
  exact ⟨rfl, rfl⟩

theorem isByPath_of_pointsFor {c : Context.Checkout} {path : String} :
    ∀ point ∈ pointsFor c path, point.1.isByPath = true := by
  unfold pointsFor
  cases analysed c path with
  | error cause => exact List.forall_mem_nil _
  | ok found => exact List.forall_mem_cons.2 ⟨rfl, List.forall_mem_singleton.2 rfl⟩

/-- **Every lesson that a run stores is about the commit at the head of the list.** -/
theorem storeAfter_lessons {settings : Settings} {world : World} {h : History} {oldest : Commit}
    (hhistory : world.forge.history? settings.botName = .ok h) (houtage : world.historyOutage = none)
    (holdest : h.commits.head? = some oldest) (payload : Json) (b : Bench) :
    ∃ more, (storeAfter settings world payload b).points = b.desk.store.points ++ more ∧
      ∀ learned, (.learnings, learned) ∈ more → IsAbout oldest learned := by
  rcases hsurvey : (survey settings world payload).perform ⟨b, []⟩ with ⟨cause | ⟨r, directory, diff⟩, t⟩
  · exact ⟨[], by rw [process_points_stopped world hsurvey, List.append_nil], fun _ h => absurd h List.not_mem_nil⟩
  · have hpoints := process_points settings world hsurvey
    dsimp only at hpoints
    rw [List.append_assoc] at hpoints
    refine ⟨_, hpoints, fun learned hlearned => ?_⟩
    rcases List.mem_append.1 hlearned with hkept | hlearnt
    · obtain ⟨file, -, hfile⟩ := List.mem_flatMap.1 hkept
      cases isByPath_of_pointsFor _ (kept_isPrefix.subset hfile)
    · unfold learnsFrom historyOf at hlearnt
      rw [houtage] at hlearnt
      simp only [hhistory] at hlearnt
      split at hlearnt
      · cases hlearnt
      · exact isAbout_of_lessonPoints holdest _ (learnt_isPrefix.subset hlearnt)

/-! ## Agreement -/

theorem head_eq_last_iff {commits : List Commit} {oldest newest : Commit} (holdest : commits.head? = some oldest)
    (hnewest : commits.getLast? = some newest) (hnodup : (commits.map (·.sha)).Nodup) :
    oldest.sha = newest.sha ↔ commits.length = 1 := by
  obtain ⟨later, rfl⟩ := List.head?_eq_some_iff.1 holdest
  cases later with
  | nil =>
    cases hnewest
    exact ⟨fun _ => rfl, fun _ => rfl⟩
  | cons next rest =>
    have hlast : newest ∈ next :: rest := by
      rw [List.getLast?_cons_cons] at hnewest
      exact List.mem_of_getLast? hnewest
    have hne : oldest.sha ≠ newest.sha := by
      intro hsame
      refine (List.nodup_cons.1 hnodup).1 ?_
      exact List.mem_map.2 ⟨newest, hlast, hsame.symm⟩
    refine ⟨fun hsame => absurd hsame hne, fun hlength => ?_⟩
    simp at hlength

/-- **The commit that the document calls the latest and that lessons are about is the first of the list, and the one that
a review is tied to is the last.**  They are the same exactly when the pull request has a single commit. -/
theorem latest_commit_agrees_iff {forge : Forge} {bot : String} {h : History} (hhistory : forge.history? bot = .ok h)
    (hsome : forge.commits ≠ []) :
    ∃ oldest newest, h.commits.head? = some oldest ∧ h.commits.getLast? = some newest ∧
      (∀ diff top, Context.header diff h.document = .ok top →
        ∃ above, top = above ++ "\n" ++ ("### Latest Commit" ++ "\n" ++ oldest.shown)) ∧
      (∀ settings world payload b, settings.botName = bot → world.forge = forge → world.historyOutage = none →
        ∃ more, (storeAfter settings world payload b).points = b.desk.store.points ++ more ∧
          ∀ learned, (.learnings, learned) ∈ more → IsAbout oldest learned) ∧
      (∀ repository pull body event remarks post, remarks ≠ [] →
        forge.reviewPost repository pull body event remarks = .ok post →
          ∃ posted, post = .review repository pull newest.sha body event posted) ∧
      ((h.commits.map (·.sha)).Nodup → (oldest.sha = newest.sha ↔ forge.commits.length = 1)) := by
  have hlength := (Forge.commits_of_history hhistory).length_eq
  have hne : h.commits ≠ [] := by
    intro hnone
    rw [hnone] at hlength
    exact hsome (List.length_eq_zero_iff.1 hlength)
  obtain ⟨oldest, holdest⟩ := Option.ne_none_iff_exists'.1 (mt List.head?_eq_none_iff.1 hne)
  obtain ⟨newest, hnewest⟩ := Option.ne_none_iff_exists'.1 (mt List.getLast?_eq_none_iff.1 hne)
  refine ⟨oldest, newest, holdest, hnewest, fun _ _ htop => header_latest holdest htop, ?_, ?_, ?_⟩
  · rintro settings world payload b rfl rfl houtage
    exact storeAfter_lessons hhistory houtage holdest payload b
  · intro repository pull body event remarks post hremarks hpost
    exact Forge.reviewPost_commit hhistory hnewest hremarks hpost
  · intro hnodup
    rw [hlength]
    exact head_eq_last_iff holdest hnewest hnodup

/-! ## Two commits -/

/-- A pull request that has grown by a commit. -/
def grownForge : Forge :=
  { tellingWorld.forge with
    commits := [.told ⟨some "c0ffee", .told ⟨some "Name x", .told ⟨some "u", .told lessonTime⟩⟩, .told []⟩,
      .told ⟨some "decade", .told ⟨some "Rename x", .told ⟨some "u", .told lessonTime⟩⟩, .told []⟩] }

def grownHistory : History :=
  { tellingHistory with
    commits := [⟨"c0ffee", "Name x", "u", "2024-01-02T03:04:05", []⟩,
      ⟨"decade", "Rename x", "u", "2024-01-02T03:04:05", []⟩] }

theorem learnsFrom_grownForge (s : Session Bench) : ∃ context,
    learnsFrom usualSettings { tellingWorld with forge := grownForge } tellingRequest openedDiff tellingCheckout s =
      some (grownHistory, context) := ⟨_, rfl⟩

/-- The lesson is about the first commit and the review about the second. -/
theorem latest_commit_differs_grownForge :
    (∃ above, Context.header (.object []) grownHistory.document = .ok (above ++ "\n" ++ ("### Latest Commit" ++ "\n" ++
        (⟨"c0ffee", "Name x", "u", "2024-01-02T03:04:05", []⟩ : Commit).shown))) ∧
      (∃ learned, (Collection.learnings, learned) ∈
          (storeAfter usualSettings { tellingWorld with forge := grownForge } tellingPayload freshBench).points ∧
        learned.get? "commit_sha" = some "c0ffee") ∧
      ∃ posted, grownForge.reviewPost "p/q" (.int 7) "s" "COMMENT" [⟨"a.py", .int 1, "b", .null⟩] =
        .ok (.review "p/q" (.int 7) "decade" "s" "COMMENT" posted) := by
  have hhistory : grownForge.history? usualSettings.botName = .ok grownHistory := rfl
  obtain ⟨oldest, newest, holdest, hnewest, hheader, hlessons, hreview, -⟩ :=
    latest_commit_agrees_iff hhistory (List.cons_ne_nil _ _)
  cases holdest
  cases hnewest
  refine ⟨?_, ?_, ?_⟩
  · obtain ⟨above, habove⟩ := hheader (.object []) _ rfl
    exact ⟨above, congrArg Except.ok habove⟩
  · obtain ⟨more, hmore, habout⟩ := hlessons usualSettings { tellingWorld with forge := grownForge } tellingPayload
      freshBench rfl rfl rfl
    obtain ⟨context, hpoints⟩ : ∃ context,
        (storeAfter usualSettings { tellingWorld with forge := grownForge } tellingPayload freshBench).points =
          [(Collection.codeGraphs, graphPayload), (Collection.importFiles, importsPayload)] ++
            lessonPoints grownHistory context := points_tellingForge learnsFrom_grownForge .empty
    obtain ⟨learned, hlearned⟩ : ∃ learned, lessonPoints grownHistory context = [(Collection.learnings, learned)] :=
      ⟨_, rfl⟩
    have hmem : (Collection.learnings, learned) ∈
        (storeAfter usualSettings { tellingWorld with forge := grownForge } tellingPayload freshBench).points := by
      rw [hpoints, hlearned]
      exact List.mem_append_right _ (List.mem_singleton_self _)
    have hnew : (Collection.learnings, learned) ∈ more := by
      rw [hmore] at hmem
      exact (List.mem_append.1 hmem).resolve_left List.not_mem_nil
    exact ⟨learned, hmem, (habout learned hnew).1⟩
  · obtain ⟨posted, hposted⟩ := hreview "p/q" (.int 7) "s" "COMMENT" [⟨"a.py", .int 1, "b", .null⟩] _
      (List.cons_ne_nil _ _) rfl
    exact ⟨posted, congrArg Except.ok hposted⟩

end Webhook
end PullReview
