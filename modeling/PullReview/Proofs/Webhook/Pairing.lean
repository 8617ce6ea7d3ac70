import PullReview.Proofs.Forge
import PullReview.Proofs.Timestamp
import PullReview.Proofs.Webhook.Sharing
/-!
# Which reviews make one lesson

A maintainer's review is learned together with the bot's latest review before it.  The search for that one compares texts
of timestamps and keeps the later of two candidates (`laterBefore`); what it has found among the reviews seen so far is the
latest of them (`IsChosen`), step by step (`isChosen_laterBefore`) and so at the end (`isChosen_latestBefore`).  As texts
are ordered like the points in time, the lessons are the ones that the times of the comments ask for (`lessons_paired`).
-/
namespace PullReview
namespace Webhook

/-! ## The latest review before a time -/

section Latest

variable (instant : Comment → Nat) (limit : Nat)

/-- The latest of the reviews before a point in time, and of those at one time the first. -/
def IsLatestBefore (reviews : List Comment) (best : Comment) : Prop :=
  ∃ before after, reviews = before ++ best :: after ∧ instant best < limit ∧
    (∀ c ∈ before, instant c < limit → instant c < instant best) ∧
    ∀ c ∈ after, instant c < limit → instant c ≤ instant best

/-- What is found among some reviews: the latest before the time, if there is any before it. -/
def IsChosen (seen : List Comment) : Option Comment → Prop
  | none => ∀ c ∈ seen, limit ≤ instant c
  | some best => IsLatestBefore instant limit seen best

variable {instant : Comment → Nat} {limit : Nat} {time : String}

namespace IsLatestBefore

variable {reviews : List Comment} {best c : Comment}

theorem mem (h : IsLatestBefore instant limit reviews best) : best ∈ reviews := by
  obtain ⟨before, after, rfl, -⟩ := h
  simp

theorem lt (h : IsLatestBefore instant limit reviews best) : instant best < limit := by
  obtain ⟨_, _, -, hbest, -⟩ := h
  exact hbest

theorem le (h : IsLatestBefore instant limit reviews best) (hc : c ∈ reviews) (hlt : instant c < limit) :
    instant c ≤ instant best := by
  obtain ⟨before, after, rfl, -, hearlier, hlater⟩ := h
  rcases List.mem_append.1 hc with hc | hc
  · exact Nat.le_of_lt (hearlier c hc hlt)
  · rcases List.mem_cons.1 hc with rfl | hc
    · exact Nat.le_refl _
    · exact hlater c hc hlt

/-- It stays the latest when one more is not later, or not before the time. -/
theorem concat (h : IsLatestBefore instant limit reviews best) (hc : instant c < limit → instant c ≤ instant best) :
    IsLatestBefore instant limit (reviews ++ [c]) best := by
  obtain ⟨before, after, rfl, hbest, hearlier, hlater⟩ := h
  refine ⟨before, after ++ [c], by simp, hbest, hearlier, fun x hx hlt => ?_⟩
  rcases List.mem_append.1 hx with hx | hx
  · exact hlater x hx hlt
  · rw [List.mem_singleton.1 hx] at hlt ⊢
    exact hc hlt

theorem of_last (hc : instant c < limit) (h : ∀ x ∈ reviews, instant x < limit → instant x < instant c) :
    IsLatestBefore instant limit (reviews ++ [c]) c :=
  ⟨reviews, [], rfl, hc, h, fun _ hx => absurd hx List.not_mem_nil⟩

end IsLatestBefore

/-- **One more candidate.** -/
theorem isChosen_laterBefore {seen : List Comment} {found : Option Comment} {candidate : Comment}
    (hlimit : isBefore candidate.createdAt time = decide (instant candidate < limit))
    (hbest : ∀ best ∈ found, isBefore best.createdAt candidate.createdAt = decide (instant best < instant candidate))
    (h : IsChosen instant limit seen found) :
    IsChosen instant limit (seen ++ [candidate]) (laterBefore time found candidate) := by
  unfold laterBefore
  rw [hlimit]
  by_cases hbefore : instant candidate < limit
  · rw [decide_eq_true hbefore, if_pos rfl]
    cases found with
    | none => exact .of_last hbefore fun c hc hlt => absurd hlt (Nat.not_lt.2 (h c hc))
    | some best =>
      dsimp only
      rw [hbest best rfl]
      by_cases hnewer : instant best < instant candidate
      · rw [decide_eq_true hnewer, if_pos rfl]
        exact .of_last hbefore fun c hc hlt => Nat.lt_of_le_of_lt (IsLatestBefore.le h hc hlt) hnewer
      · rw [decide_eq_false hnewer, if_neg Bool.false_ne_true]
        exact IsLatestBefore.concat h fun _ => Nat.not_lt.1 hnewer
  · rw [decide_eq_false hbefore, if_neg Bool.false_ne_true]
    cases found with
    | none =>
      intro c hc
      rcases List.mem_append.1 hc with hc | hc
      · exact h c hc
      · rw [List.mem_singleton.1 hc]
        omega
    | some best => exact IsLatestBefore.concat h fun hlt => absurd hlt hbefore

theorem isChosen_foldl : ∀ {rest seen : List Comment} {found : Option Comment},
    (∀ c ∈ rest, isBefore c.createdAt time = decide (instant c < limit)) →
    (∀ a ∈ seen ++ rest, ∀ b ∈ rest, isBefore a.createdAt b.createdAt = decide (instant a < instant b)) →
    IsChosen instant limit seen found → IsChosen instant limit (seen ++ rest) (rest.foldl (laterBefore time) found)
  | [], seen, found, _, _, h => by rwa [List.append_nil]
  | c :: rest, seen, found, hlimit, horder, h => by
    have hbest : ∀ best ∈ found, isBefore best.createdAt c.createdAt = decide (instant best < instant c) := by
      intro best hfound
      rw [Option.mem_def.1 hfound] at h
      exact horder best (List.mem_append_left _ (IsLatestBefore.mem h)) c List.mem_cons_self
    have hstep := isChosen_laterBefore (hlimit c List.mem_cons_self) hbest h
    rw [List.append_cons] at horder ⊢
    exact isChosen_foldl (fun x hx => hlimit x (List.mem_cons_of_mem c hx))
      (fun a ha b hb => horder a ha b (List.mem_cons_of_mem c hb)) hstep

/-- **The search ends with the latest review before the time.** -/
theorem isChosen_latestBefore {reviews : List Comment}
    (hlimit : ∀ c ∈ reviews, isBefore c.createdAt time = decide (instant c < limit))
    (horder : ∀ a ∈ reviews, ∀ b ∈ reviews, isBefore a.createdAt b.createdAt = decide (instant a < instant b)) :
    IsChosen instant limit reviews (latestBefore time reviews) := by
  have hnone : IsChosen instant limit [] none := fun _ hc => absurd hc List.not_mem_nil
  rw [← List.nil_append reviews] at horder ⊢
  exact isChosen_foldl hlimit (fun a ha b hb => horder a ha b hb) hnone

end Latest

/-! ## Lessons -/

/-- What a maintainer's review is learned as: alone, or together with the bot's latest review before it. -/
structure IsPaired (instant : Comment → Nat) (botReviews : List Comment) (review : Comment) (said : Json) : Prop where
  alone : said = review.body ↔ ∀ bot ∈ botReviews, ¬ instant bot < instant review
  together : (∃ bot ∈ botReviews, instant bot < instant review) →
    ∃ best, IsLatestBefore instant (instant review) botReviews best ∧
      said = .text ("Bot Review: " ++ best.body.display ++ "\n\nMaintainer Feedback: " ++ review.body.display)

/-- The first feedback that answers a review, if there is any. -/
def IsFirstAnswer (feedback : List Comment) (review : Comment) : Option Comment → Prop
  | none => ∀ f ∈ feedback, f.inReplyTo.same review.id = false
  | some f => f.inReplyTo.same review.id = true ∧
    ∃ before after, feedback = before ++ f :: after ∧ ∀ g ∈ before, g.inReplyTo.same review.id = false

theorem isFirstAnswer_answerTo (review : Comment) (feedback : List Comment) :
    IsFirstAnswer feedback review (answerTo review feedback) := by
  cases hanswer : answerTo review feedback with
  | none => exact fun f hf => by simpa using List.find?_eq_none.1 hanswer f hf
  | some f =>
    obtain ⟨hf, before, after, hsplit, hbefore⟩ := List.find?_eq_some_iff_append.1 hanswer
    exact ⟨hf, before, after, hsplit, fun g hg => by simpa using hbefore g hg⟩

/-- A review in the words of two is longer than it was. -/
theorem combined_ne (bot review : Json) :
    Json.text ("Bot Review: " ++ bot.display ++ "\n\nMaintainer Feedback: " ++ review.display) ≠ review := by
  intro heq
  have hdisplay := congrArg (fun v => (Json.display v).length) heq
  simp [Json.display] at hdisplay

theorem isPaired_saidIn {instant : Comment → Nat} {comments : List Comment} {review : Comment}
    (hkind : review.kind = .maintainerReview) (hreview : review ∈ comments)
    (horder : ∀ a ∈ comments, ∀ b ∈ comments, isBefore a.createdAt b.createdAt = decide (instant a < instant b)) :
    IsPaired instant (ofKind .botReview comments) review (saidIn comments review) := by
  have hsub : ∀ c ∈ ofKind .botReview comments, c ∈ comments := fun c hc => List.mem_of_mem_filter hc
  have hchosen := isChosen_latestBefore (fun c hc => horder c (hsub c hc) review hreview)
    fun a ha b hb => horder a (hsub a ha) b (hsub b hb)
  unfold saidIn
  rw [hkind]
  cases hlatest : latestBefore review.createdAt (ofKind .botReview comments) with
  | none =>
    rw [hlatest] at hchosen
    refine ⟨⟨fun _ bot hbot => Nat.not_lt.2 (hchosen bot hbot), fun _ => rfl⟩, fun ⟨bot, hbot, hlt⟩ => ?_⟩
    exact absurd hlt (Nat.not_lt.2 (hchosen bot hbot))
  | some best =>
    rw [hlatest] at hchosen
    refine ⟨⟨fun halone => absurd halone (combined_ne _ _), fun hnone => ?_⟩, fun _ => ⟨best, hchosen, rfl⟩⟩
    exact absurd (IsLatestBefore.lt hchosen) (hnone best (IsLatestBefore.mem hchosen))

/-- **Comments that were posted at valid times are compared as their times are.** -/
theorem exists_times {forge : Forge} {bot : String} {h : History} (hhistory : forge.history? bot = .ok h)
    (hvalid : ∀ posted t, .told posted ∈ forge.comments → posted.createdAt = .told t → t.IsValid) :
    ∃ (maintainers : Json) (time : Comment → Timestamp),
      List.Forall₂ (fun p c => Forge.sort bot maintainers p = .ok c ∧
        ∃ posted, p = .told posted ∧ posted.createdAt = .told (time c)) forge.comments h.comments ∧
      ∀ a ∈ h.comments, ∀ b ∈ h.comments,
        isBefore a.createdAt b.createdAt = decide ((time a).instant < (time b).instant) := by
  obtain ⟨maintainers, hcomments⟩ := Forge.comments_of_history hhistory
  have hposted : List.Forall₂ (fun p c => Forge.sort bot maintainers p = .ok c ∧ ∃ posted t, p = .told posted ∧
      posted.createdAt = .told t ∧ t.IsValid ∧ c.createdAt = t.text) forge.comments h.comments := by
    refine ((List.forall₂_and_left _ _).2 ⟨fun p hp => hp, hcomments⟩).imp fun p c ⟨hp, hsort⟩ => ⟨hsort, ?_⟩
    obtain ⟨posted, t, rfl, -, htold, htext⟩ := Forge.posted_of_sort hsort
    exact ⟨posted, t, rfl, htold, hvalid posted t hp htold, htext⟩
  -- the text of a comment's time tells the time, as no two valid times have one text
  have hread : ∀ c : Comment, ∃ t : Timestamp,
      (∃ u : Timestamp, u.IsValid ∧ c.createdAt = u.text) → t.IsValid ∧ c.createdAt = t.text := by
    intro c
    by_cases hsome : ∃ u : Timestamp, u.IsValid ∧ c.createdAt = u.text
    · obtain ⟨u, hu⟩ := hsome
      exact ⟨u, fun _ => hu⟩
    · exact ⟨lessonTime, fun hsome' => absurd hsome' hsome⟩
  choose time htime using hread
  have hwritten : ∀ c ∈ h.comments, (time c).IsValid ∧ c.createdAt = (time c).text := by
    intro c hc
    obtain ⟨p, -, -, posted, t, -, -, ht⟩ := Run.exists_of_forall₂ hposted hc
    exact htime c ⟨t, ht⟩
  refine ⟨maintainers, time, hposted.imp fun p c hc => ?_, fun a ha b hb => ?_⟩
  · obtain ⟨hsort, posted, t, hp, htold, ht, htext⟩ := hc
    obtain ⟨hvalidTime, htimeText⟩ := htime c ⟨t, ht, htext⟩
    obtain rfl : t = time c := Timestamp.text_inj ht hvalidTime (htext.symm.trans htimeText)
    exact ⟨hsort, posted, hp, htold⟩
  · obtain ⟨hva, hta⟩ := hwritten a ha
    obtain ⟨hvb, htb⟩ := hwritten b hb
    rw [isBefore, hta, htb]
    exact decide_eq_decide.2 (Timestamp.text_lt_iff hva hvb)

/-- **Reviews are paired by the time at which they were posted.**  A lesson from a review by the bot has the first feedback
that answers it.  One from a maintainer's review has the bot's latest review before it, the first of those at one time, and
stands alone exactly when the bot had said nothing before.  All lessons are stored in their order, up to the first that the
store does not take. -/
theorem lessons_paired {forge : Forge} {bot : String} {h : History} (hhistory : forge.history? bot = .ok h)
    (hvalid : ∀ posted t, .told posted ∈ forge.comments → posted.createdAt = .told t → t.IsValid) :
    ∃ (maintainers : Json) (time : Comment → Timestamp) (said : Comment → Json) (answer : Comment → Option Comment),
      List.Forall₂ (fun p c => Forge.sort bot maintainers p = .ok c ∧
        ∃ posted, p = .told posted ∧ posted.createdAt = .told (time c)) forge.comments h.comments ∧
      (∀ review ∈ ofKind .botReview h.comments, said review = review.body ∧
        IsFirstAnswer (ofKind .userFeedback h.comments) review (answer review)) ∧
      (∀ review ∈ ofKind .maintainerReview h.comments, answer review = none ∧
        IsPaired (fun c => (time c).instant) (ofKind .botReview h.comments) review (said review)) ∧
      ∀ world context s commit, h.commits.head? = some commit →
        let all := (ofKind .botReview h.comments ++ ofKind .maintainerReview h.comments).map fun review =>
          (Collection.learnings, learnedPayload commit (said review) (answer review) context)
        ∃ learned, ((learn world h context).perform s).2.state.desk.store.points = s.state.desk.store.points ++ learned ∧
          learned <+: all ∧ ((∀ i, (world.lessonStore i).IsSound) → learned = all) := by
  obtain ⟨maintainers, time, hposted, horder⟩ := exists_times hhistory hvalid
  refine ⟨maintainers, time, saidIn h.comments, answerIn h.comments, hposted, fun review hreview => ?_,
    fun review hreview => ?_, fun world context s commit hcommit => ?_⟩
  · have hkind : review.kind = .botReview := of_decide_eq_true (List.mem_filter.1 hreview).2
    refine ⟨by rw [saidIn, hkind], ?_⟩
    rw [answerIn, if_pos hkind]
    exact isFirstAnswer_answerTo review _
  · have hkind : review.kind = .maintainerReview := of_decide_eq_true (List.mem_filter.1 hreview).2
    refine ⟨if_neg (by rw [hkind]; decide), ?_⟩
    exact isPaired_saidIn hkind (List.mem_of_mem_filter hreview) horder
  · obtain ⟨later, hcommits⟩ := List.head?_eq_some_iff.1 hcommit
    have hprefix : learnt world.lessonStore h context <+: lessonPoints h context := learnt_isPrefix
    have hsound : (∀ i, (world.lessonStore i).IsSound) → learnt world.lessonStore h context = lessonPoints h context :=
      learnt_eq
    simp only [lessonPoints, hcommits] at hprefix hsound
    exact ⟨_, learn_points world h context s, hprefix, hsound⟩

/-! ## Three reviews by the bot around the end of a month -/

def lastSecond (microsecond : Nat) : Timestamp := ⟨4, 2, 29, 23, 59, 59, microsecond⟩

def nextMonth : Timestamp := ⟨4, 3, 1, 0, 0, 0, 0⟩

def debatedForge : Forge :=
  { tellingWorld.forge with
    comments := [.told ⟨some (.int 1), .told ⟨some "code-rabbit-bot"⟩, some "One.", .told (lastSecond 0), none⟩,
      .told ⟨some (.int 2), .told ⟨some "code-rabbit-bot"⟩, some "Two.", .told (lastSecond 999999), none⟩,
      .told ⟨some (.int 3), .told ⟨some "code-rabbit-bot"⟩, some "Three.", .told nextMonth, none⟩,
      .told ⟨some (.int 4), .told ⟨some "p"⟩, some "No.", .told nextMonth, none⟩] }

def firstReview : Comment := ⟨.botReview, "One.", "code-rabbit-bot", "0004-02-29T23:59:59", .int 1, .null⟩

def secondReview : Comment := ⟨.botReview, "Two.", "code-rabbit-bot", "0004-02-29T23:59:59.999999", .int 2, .null⟩

def thirdReview : Comment := ⟨.botReview, "Three.", "code-rabbit-bot", "0004-03-01T00:00:00", .int 3, .null⟩

def objection : Comment := ⟨.maintainerReview, "No.", "p", "0004-03-01T00:00:00", .int 4, .null⟩

def debatedHistory : History :=
  { tellingHistory with comments := [firstReview, secondReview, thirdReview, objection] }

/-- The objection comes with the second review: the third is not before it, and the first is earlier by a fraction. -/
theorem lessons_paired_debatedForge :
    debatedForge.history? usualSettings.botName = .ok debatedHistory ∧
      (∀ posted t, .told posted ∈ debatedForge.comments → posted.createdAt = .told t → t.IsValid) ∧
      ∀ context s, ∃ learned,
        ((learn tellingWorld debatedHistory context).perform s).2.state.desk.store.points =
          s.state.desk.store.points ++ learned ∧
        (Collection.learnings, learnedPayload ⟨"c0ffee", "Name x", "u", "2024-01-02T03:04:05", []⟩
          "Bot Review: Two.\n\nMaintainer Feedback: No." none context) ∈ learned := by
  have hhistory : debatedForge.history? usualSettings.botName = .ok debatedHistory := rfl
  have hvalid : ∀ posted t, .told posted ∈ debatedForge.comments → posted.createdAt = .told t → t.IsValid := by
    intro posted t hposted ht
    simp only [debatedForge, List.mem_cons, List.not_mem_nil, or_false, Forge.Part.told.injEq] at hposted
    rcases hposted with rfl | rfl | rfl | rfl <;> cases ht <;> decide
  obtain ⟨maintainers, time, said, answer, hposted, -, hpaired, hlearned⟩ := lessons_paired hhistory hvalid
  obtain ⟨ht₁, ht₂, ht₃, ht₄⟩ : time firstReview = lastSecond 0 ∧ time secondReview = lastSecond 999999 ∧
      time thirdReview = nextMonth ∧ time objection = nextMonth := by
    simp only [debatedForge, debatedHistory, List.forall₂_cons, Forge.Part.told.injEq, exists_eq_left'] at hposted
    obtain ⟨⟨-, h₁⟩, ⟨-, h₂⟩, ⟨-, h₃⟩, ⟨-, h₄⟩, -⟩ := hposted
    exact ⟨h₁.symm, h₂.symm, h₃.symm, h₄.symm⟩
  have hbots : ofKind .botReview debatedHistory.comments = [firstReview, secondReview, thirdReview] := rfl
  have hobjection : objection ∈ ofKind .maintainerReview debatedHistory.comments := List.mem_singleton_self objection
  obtain ⟨hanswer, hpaired⟩ := hpaired objection hobjection
  have hsecond : (time secondReview).instant < (time objection).instant := by
    rw [ht₂, ht₄]
    decide
  rw [hbots] at hpaired
  obtain ⟨best, hbest, hsaid⟩ := hpaired.together ⟨secondReview, by simp, hsecond⟩
  have hlatest : (time secondReview).instant ≤ (time best).instant := hbest.le (by simp) hsecond
  have hbefore : (time best).instant < (time objection).instant := hbest.lt
  have hmem := hbest.mem
  refine ⟨hhistory, hvalid, fun context s => ?_⟩
  obtain ⟨learned, hpoints, -, hall⟩ := hlearned tellingWorld context s _ rfl
  refine ⟨learned, hpoints, ?_⟩
  rw [hall fun i => isSound_tellingWorld _]
  refine List.mem_map.2 ⟨objection, List.mem_append_right _ hobjection, ?_⟩
  rw [hanswer, hsaid]
  simp only [List.mem_cons, List.not_mem_nil, or_false] at hmem
  rcases hmem with rfl | rfl | rfl
  · rw [ht₁, ht₂] at hlatest
    exact absurd hlatest (by decide)
  · rfl
  · rw [ht₃, ht₄] at hbefore
    exact absurd hbefore (Nat.lt_irrefl _)

end Webhook
end PullReview
