import PullReview.Proofs.Forge
import PullReview.Proofs.Webhook.Upserts
/-!
# Whether retrieval reads what indexing wrote

Every point of a store that runs have filled is one of three kinds (`Written`): a run leaves only such points
(`storeAfter_written`), so a store that was reached from the empty one holds no others (`written_of_reached`).  Graphs,
sources and imports can always be shown.  A lesson can be shown unless the review it is about says nothing
(`learningLines_written`); one such lesson among the first five, and retrieval fails for all that are reviewed
from then on (`retrieval_completes_iff`).
-/
namespace PullReview

namespace Webhook

/-- What a forge gives as the body of a comment. -/
def IsBody (body : Json) : Prop := body = .null ∨ ∃ text, body = .text text

/-! ## What is written -/

/-- The points that runs write when comments have such bodies. -/
inductive Written (bodies : Json → Prop) : Collection × Json → Prop
  | graph (path : String) (g : Graph) : Written bodies (.codeGraphs, (Store.GraphDigest.ofGraph path g).payload)
  | source (path source : String) (imports : List String) :
    Written bodies (.importFiles, Store.sourcePayload path source imports)
  | lesson (commit : Commit) (said : Json) (answer : Option Comment) (context : String)
    (hsaid : bodies said ∨ ∃ text, said = .text text) (hanswer : ∀ f ∈ answer, bodies f.body) :
    Written bodies (.learnings, learnedPayload commit said answer context)

variable {bodies : Json → Prop}

theorem written_of_pointsFor {c : Context.Checkout} {path : String} : ∀ point ∈ pointsFor c path, Written bodies point := by
  unfold pointsFor
  cases analysed c path with
  | error cause => exact List.forall_mem_nil _
  | ok found => exact List.forall_mem_cons.2 ⟨.graph _ _, List.forall_mem_singleton.2 (.source _ _ _)⟩

theorem saidIn_written {comments : List Comment} {review : Comment} (hreview : bodies review.body) :
    bodies (saidIn comments review) ∨ ∃ text, saidIn comments review = .text text := by
  unfold saidIn
  split
  · exact .inr ⟨_, rfl⟩
  · exact .inl hreview

theorem written_of_lessonPoints {h : History} (hbodies : ∀ c ∈ h.comments, bodies c.body) (context : String) :
    ∀ point ∈ lessonPoints h context, Written bodies point := by
  have hanswer (review : Comment) : ∀ f ∈ answerIn h.comments review, bodies f.body := by
    intro f hf
    unfold answerIn at hf
    split at hf
    · exact hbodies f (List.mem_filter.1 (List.mem_of_find?_eq_some hf)).1
    · cases hf
  unfold lessonPoints
  cases h.commits with
  | nil => exact List.forall_mem_nil _
  | cons commit rest =>
    intro point hpoint
    obtain ⟨review, hreview, rfl⟩ := List.mem_map.1 hpoint
    have hcomment : review ∈ h.comments :=
      (List.mem_append.1 hreview).elim (fun h => (List.mem_filter.1 h).1) fun h => (List.mem_filter.1 h).1
    exact .lesson commit _ _ context (saidIn_written (hbodies review hcomment)) (hanswer review)

theorem body_of_historyOf {settings : Settings} {world : World} {r : Request} {h : History}
    (hforge : world.forge.HasBodies bodies) (hhistory : historyOf settings world r = .ok h) :
    ∀ c ∈ h.comments, bodies c.body := by
  unfold historyOf at hhistory
  split at hhistory
  · split at hhistory
    · rename_i hfetched
      cases hhistory
      exact Forge.body_of_history hforge hfetched
    · cases hhistory
      exact List.forall_mem_nil _
  · obtain ⟨_, -, hhistory⟩ := Run.ok_of_bind hhistory
    obtain ⟨_, -, hhistory⟩ := Run.ok_of_bind hhistory
    obtain ⟨_, -, hhistory⟩ := Run.ok_of_bind hhistory
    obtain ⟨_, -, hhistory⟩ := Run.ok_of_bind hhistory
    obtain ⟨_, -, hhistory⟩ := Run.ok_of_bind hhistory
    obtain ⟨_, -, hhistory⟩ := Run.ok_of_bind hhistory
    obtain ⟨_, -, hhistory⟩ := Run.ok_of_bind hhistory
    obtain ⟨_, -, hhistory⟩ := Run.ok_of_bind hhistory
    cases hhistory
    exact List.forall_mem_nil _

/-- **A run writes no other points**, whatever goes wrong in it. -/
theorem storeAfter_written {settings : Settings} {world : World} {payload : Json} {b : Bench}
    (hforge : world.forge.HasBodies bodies) (hb : ∀ point ∈ b.desk.store.points, Written bodies point) :
    ∀ point ∈ (storeAfter settings world payload b).points, Written bodies point := by
  rcases hsurvey : (survey settings world payload).perform ⟨b, []⟩ with ⟨cause | ⟨r, directory, diff⟩, t⟩
  · rw [process_points_stopped world hsurvey]
    exact hb
  · intro point hpoint
    rw [storeAfter, process_points settings world hsurvey] at hpoint
    rcases List.mem_append.1 hpoint with hpoint | hlearnt
    · rcases List.mem_append.1 hpoint with hold | hkept
      · exact hb point hold
      · obtain ⟨file, -, hfile⟩ := List.mem_flatMap.1 hkept
        exact written_of_pointsFor point (kept_isPrefix.subset hfile)
    · unfold learnsFrom at hlearnt
      split at hlearnt
      · cases hlearnt
      · rename_i h hhistory
        split at hlearnt
        · cases hlearnt
        · exact written_of_lessonPoints (body_of_historyOf hforge hhistory) _ point (learnt_isPrefix.subset hlearnt)

/-- The stores that runs make of the empty one, when comments have such bodies.  Each run has a world of its own, and disk
and clones may be anything. -/
inductive Reached (bodies : Json → Prop) : Store → Prop
  | empty : Reached bodies .empty
  | processed {b : Bench} (settings : Settings) {world : World} (payload : Json) (hstore : Reached bodies b.desk.store)
    (hforge : world.forge.HasBodies bodies) : Reached bodies (storeAfter settings world payload b)

theorem written_of_reached {s : Store} (h : Reached bodies s) : ∀ point ∈ s.points, Written bodies point := by
  induction h with
  | empty => exact List.forall_mem_nil _
  | processed settings payload _ hforge ih => exact storeAfter_written hforge ih

theorem written_of_mem_payloads {s : Store} (hs : ∀ point ∈ s.points, Written bodies point) {c : Collection}
    {payload : Json} (h : payload ∈ s.payloads c) : Written bodies (c, payload) := by
  obtain ⟨⟨d, kept⟩, hmem, hkept⟩ := List.mem_filterMap.1 h
  by_cases hd : d = c
  · simp only [hd, if_true, Option.some.injEq] at hkept
    rw [← hkept, ← hd]
    exact hs _ hmem
  · simp [hd] at hkept

/-! ## What can be shown -/

theorem graphLines_written {payload : Json} (h : Written bodies (.codeGraphs, payload)) :
    ∃ lines, Store.graphLines payload = .ok lines := by
  cases h with
  | graph path g =>
    have hfield (name : String) (fallback : Json) : (Store.GraphDigest.ofGraph path g).payload.field name fallback =
        .ok (((Store.GraphDigest.ofGraph path g).payload.get? name).getD fallback) := rfl
    have hfunctions : (((Store.GraphDigest.ofGraph path g).payload.get? "functions").getD (.list [])).listed =
        .ok (Text.joinWith ", " (g.namesOf .function)) := Json.listed_ofTexts _
    have hclasses : (((Store.GraphDigest.ofGraph path g).payload.get? "classes").getD (.list [])).listed =
        .ok (Text.joinWith ", " (g.namesOf .classType)) := Json.listed_ofTexts _
    simp only [Store.graphLines, hfield, bind, Except.bind, hfunctions, hclasses]
    exact ⟨_, rfl⟩

theorem importLines_written {payload : Json} (h : Written bodies (.importFiles, payload)) :
    ∃ lines, Store.importLines payload = .ok lines := by
  cases h with
  | source path source imports => exact ⟨_, rfl⟩

theorem learningLines_eq_ok {l message feedback : Json} {comment : String}
    (hmessage : l.field "commit_message" Store.unknown = .ok message)
    (hcomment : Store.opening l "bot_comment" Store.unknown = .ok comment)
    (hfeedback : ∀ fallback, l.field "user_feedback" fallback = .ok feedback)
    (htext : IsBody feedback) : ∃ lines, Store.learningLines l = .ok lines := by
  unfold Store.learningLines
  rw [hmessage, hcomment, hfeedback]
  rcases htext with rfl | ⟨text, rfl⟩
  · exact ⟨_, rfl⟩
  · have hopening : Store.opening l "user_feedback" Store.unknown = .ok (Text.clip 100 text ++ "...") := by
      rw [Store.opening, hfeedback]
      rfl
    rw [hopening]
    -- an empty answer counts as none
    by_cases hgiven : (Json.text text).isGiven = true
    · exact ⟨_, if_pos hgiven⟩
    · exact ⟨_, if_neg hgiven⟩

/-- **A lesson can be shown unless the review it is about says nothing.** -/
theorem learningLines_written (hbodies : ∀ body, bodies body → IsBody body) {payload : Json}
    (h : Written bodies (.learnings, payload)) :
    (payload.get? "bot_comment" ≠ some .null → ∃ lines, Store.learningLines payload = .ok lines) ∧
      (payload.get? "bot_comment" = some .null → Store.learningLines payload = .error (.notSubscriptable .null)) := by
  cases h with
  | lesson commit said answer context hsaid hanswer =>
    have hget : (learnedPayload commit said answer context).get? "bot_comment" = some said := rfl
    have hfeedback : IsBody ((answer.map (·.body)).getD .null) := by
      cases answer with
      | none => exact .inl rfl
      | some f => exact hbodies f.body (hanswer f rfl)
    rw [hget]
    obtain rfl | ⟨text, rfl⟩ : IsBody said := hsaid.elim (hbodies said) .inr
    · exact ⟨fun hsaid => absurd rfl hsaid, fun _ => rfl⟩
    · exact ⟨fun _ => learningLines_eq_ok rfl rfl (fun _ => rfl) hfeedback, fun hsaid => by cases hsaid⟩

/-! ## Retrieval -/

theorem titled_ok_or_error (title : String) {lines : Json → Except Fault (List String)} (bad : Json → Prop)
    (cause : Fault) {items : List Json} (hgood : ∀ x ∈ items, ¬ bad x → ∃ shown, lines x = .ok shown)
    (hbad : ∀ x ∈ items, bad x → lines x = .error cause) :
    ((∃ shown, Store.titled title lines (.list items) = .ok shown) ∧ ∀ x ∈ items, ¬ bad x) ∨
      (Store.titled title lines (.list items) = .error cause ∧ ∃ x ∈ items, bad x) := by
  cases items with
  | nil => exact .inl ⟨⟨[], rfl⟩, List.forall_mem_nil _⟩
  | cons x rest =>
    have hgiven : (Json.list (x :: rest)).isGiven = true := rfl
    have htitled : Store.titled title lines (.list (x :: rest)) =
        (do return title :: (← (x :: rest).mapM lines).flatten) := if_pos hgiven
    rw [htitled]
    rcases Run.mapM_ok_or_error hgood hbad with ⟨⟨shown, hshown⟩, hnone⟩ | ⟨herror, hsome⟩
    · rw [hshown]
      exact .inl ⟨⟨title :: shown.flatten, rfl⟩, hnone⟩
    · rw [herror]
      exact .inr ⟨rfl, hsome⟩

theorem titled_eq_ok (title : String) {lines : Json → Except Fault (List String)} {items : List Json}
    (h : ∀ x ∈ items, ∃ shown, lines x = .ok shown) : ∃ shown, Store.titled title lines (.list items) = .ok shown := by
  have hall := titled_ok_or_error title (fun _ => False) .joinOfSingle (fun x hx _ => h x hx) fun _ _ hbad => hbad.elim
  rcases hall with ⟨hshown, -⟩ | ⟨-, _, -, hbad⟩
  · exact hshown
  · exact hbad.elim

theorem firstUnder_eq_ok {payloads : List Json} (h : ∀ p ∈ payloads, p.kind = .object) (path : Json) :
    ∃ found, Store.firstUnder path payloads = .ok found ∧ ∀ p ∈ found, p ∈ payloads := by
  have habout : ∀ p ∈ payloads, Store.isAbout path p = .ok (((p.get? "file_path").getD .null).same path) := by
    intro p hp
    cases p with
    | object fields => rfl
    | _ => cases h _ hp
  refine ⟨(payloads.filter fun p => ((p.get? "file_path").getD .null).same path).take 1, ?_, fun p hp => ?_⟩
  · rw [Store.firstUnder, Store.filterM_eq_ok _ habout]
    rfl
  · exact (List.mem_filter.1 (List.mem_of_mem_take hp)).1

/-- The review that a lesson is about says nothing. -/
def IsNulled (learned : Json) : Prop := learned.get? "bot_comment" = some .null

theorem digestText_written (hbodies : ∀ body, bodies body → IsBody body)
    {graphs imports learned : List Json} (hgraphs : ∀ g ∈ graphs, Written bodies (.codeGraphs, g))
    (himports : ∀ i ∈ imports, Written bodies (.importFiles, i)) (hlearned : ∀ l ∈ learned, Written bodies (.learnings, l)) :
    ((∃ text, Store.digestText (.list graphs) (.list imports) (.list learned) = .ok text) ∧ ∀ l ∈ learned, ¬ IsNulled l) ∨
      (Store.digestText (.list graphs) (.list imports) (.list learned) = .error (.notSubscriptable .null) ∧
        ∃ l ∈ learned, IsNulled l) := by
  obtain ⟨structured, hstructured⟩ := titled_eq_ok "\n## Code Structure:" fun g hg =>
    graphLines_written (hgraphs g hg)
  obtain ⟨sources, hsources⟩ := titled_eq_ok "\n## Source Code:" fun i hi => importLines_written (himports i hi)
  rcases titled_ok_or_error "## Past Learnings:" IsNulled (.notSubscriptable .null)
      (fun l hl => (learningLines_written hbodies (hlearned l hl)).1)
      (fun l hl => (learningLines_written hbodies (hlearned l hl)).2) with ⟨⟨shown, hshown⟩, hnone⟩ | ⟨herror, hsome⟩
  · exact .inl ⟨⟨_, Store.digestText_eq hshown hstructured hsources⟩, hnone⟩
  · refine .inr ⟨?_, hsome⟩
    rw [Store.digestText, herror]
    rfl

theorem kind_of_written {c : Collection} {payload : Json} (h : Written bodies (c, payload)) : payload.kind = .object := by
  cases h <;> rfl

theorem not_isNulled_written (hsaid : ∀ body, bodies body → body ≠ .null) {l : Json}
    (h : Written bodies (.learnings, l)) : ¬ IsNulled l := by
  intro hnulled
  cases h with
  | lesson commit said answer context hfrom _ =>
    obtain rfl : said = .null := Option.some.inj hnulled
    rcases hfrom with hbody | ⟨text, htext⟩
    · exact hsaid .null hbody rfl
    · cases htext

/-- **Retrieval completes exactly when none of the first five lessons is about a review that says nothing.**  So it is on
every store that runs have filled and on every list of changed files, while the store answers.  Where every comment says
something it always completes. -/
theorem retrieval_completes_iff (hbodies : ∀ body, bodies body → IsBody body) {s : Store}
    (hreached : Reached bodies s) {svc : Store.Service} (hscroll : ∀ c, svc.outage .scroll c = none) {state : Json}
    {paths : List Json} (hstate : state.field "changed_files" (.list []) = .ok (.list paths)) :
    let learned := (s.payloads .learnings).take 5
    ∃ found, ((Store.retrieve svc state).start s).1 = .ok found ∧
      ((∃ graphs imports text, found = .completed graphs imports learned text) ↔ ∀ l ∈ learned, ¬ IsNulled l) ∧
      ((∃ l ∈ learned, IsNulled l) → found = .failed (.notSubscriptable .null)) ∧
      ((∀ body, bodies body → body ≠ .null) → ∀ l ∈ learned, ¬ IsNulled l) := by
  intro learned
  have hwritten {c : Collection} {payload : Json} (h : payload ∈ s.payloads c) : Written bodies (c, payload) :=
    written_of_mem_payloads (written_of_reached hreached) h
  have hlearned : ∀ l ∈ learned, Written bodies (.learnings, l) := fun l hl => hwritten (List.mem_of_mem_take hl)
  have hcheck (c : Collection) : svc.check .scroll c = .ok () := by rw [Store.Service.check, hscroll]
  have hfirst (c : Collection) (path : Json) : ∃ found, Store.firstUnder path (s.payloads c) = .ok found ∧
      ∀ p ∈ found, p ∈ s.payloads c := firstUnder_eq_ok (fun p hp => kind_of_written (hwritten hp)) path
  choose first hfound hsub using hfirst
  have hretrieve := Store.perform_retrieve hcheck hstate (s := ⟨s, []⟩) (fun p _ => hfound .codeGraphs p)
    (fun p _ => hfound .importFiles p)
  have hshown (c : Collection) : ∀ payload ∈ paths.flatMap (first c), Written bodies (c, payload) := by
    intro payload hpayload
    obtain ⟨path, -, hpath⟩ := List.mem_flatMap.1 hpayload
    exact hwritten (hsub c path payload hpath)
  refine ⟨_, by rw [Run.start_eq, hretrieve], ?_, ?_, ?_⟩
  · rcases digestText_written hbodies (hshown .codeGraphs) (hshown .importFiles) hlearned with
      ⟨⟨text, htext⟩, hnone⟩ | ⟨herror, l, hl, hnulled⟩
    · rw [htext]
      exact ⟨fun _ => hnone, fun _ => ⟨_, _, text, rfl⟩⟩
    · rw [herror]
      refine ⟨fun h => ?_, fun hnone => absurd hnulled (hnone l hl)⟩
      obtain ⟨_, _, _, h⟩ := h
      cases h
  · rintro ⟨l, hl, hnulled⟩
    rcases digestText_written hbodies (hshown .codeGraphs) (hshown .importFiles) hlearned with
      ⟨-, hnone⟩ | ⟨herror, -⟩
    · exact absurd hnulled (hnone l hl)
    · rw [herror]
  · exact fun hsaid l hl => not_isNulled_written hsaid (hlearned l hl)

/-! ## A review without words -/

/-- The one review has no body. -/
def wordlessForge : Forge :=
  { tellingWorld.forge with
    comments := [.told ⟨some (.int 1), .told ⟨some "code-rabbit-bot"⟩, some .null, .told lessonTime, none⟩] }

def wordlessHistory : History :=
  { tellingHistory with
    comments := [⟨.botReview, .null, "code-rabbit-bot", "2024-01-02T03:04:05", .int 1, .null⟩] }

theorem learnsFrom_wordlessForge (s : Session Bench) : ∃ context,
    learnsFrom usualSettings { tellingWorld with forge := wordlessForge } tellingRequest openedDiff tellingCheckout s =
      some (wordlessHistory, context) := ⟨_, rfl⟩

theorem learned_wordlessForge : ∃ context,
    ((storeAfter usualSettings { tellingWorld with forge := wordlessForge } tellingPayload freshBench).payloads
      .learnings).take 5 =
        [learnedPayload ⟨"c0ffee", "Name x", "u", "2024-01-02T03:04:05", []⟩ .null none context] := by
  obtain ⟨context, hpoints⟩ : ∃ context,
      (storeAfter usualSettings { tellingWorld with forge := wordlessForge } tellingPayload freshBench).points =
        [(Collection.codeGraphs, graphPayload), (Collection.importFiles, importsPayload)] ++
          lessonPoints wordlessHistory context := points_tellingForge learnsFrom_wordlessForge .empty
  refine ⟨context, ?_⟩
  unfold Store.payloads
  rw [hpoints]
  rfl

/-- One run, and retrieval fails whatever was changed. -/
theorem retrieval_fails_wordlessForge :
    let store := storeAfter usualSettings { tellingWorld with forge := wordlessForge } tellingPayload freshBench
    Reached IsBody store ∧
      ∀ paths : List Json,
        ((Store.retrieve Review.readyService (.object [("changed_files", .list paths)])).start store).1 =
          .ok (.failed (.notSubscriptable .null)) := by
  intro store
  have hforge : wordlessForge.HasBodies IsBody := by
    intro c hc body hbody
    cases List.mem_singleton.1 hc
    cases hbody
    exact .inl rfl
  have hreached : Reached IsBody store :=
    .processed (b := freshBench) usualSettings tellingPayload .empty hforge
  obtain ⟨context, hlearned⟩ : ∃ context, (store.payloads .learnings).take 5 =
      [learnedPayload ⟨"c0ffee", "Name x", "u", "2024-01-02T03:04:05", []⟩ .null none context] := learned_wordlessForge
  -- from here on only its lessons matter
  clear_value store
  refine ⟨hreached, fun paths => ?_⟩
  have hstate : (Json.object [("changed_files", .list paths)]).field "changed_files" (.list []) = .ok (.list paths) := rfl
  obtain ⟨found, hfound, -, hfails, -⟩ := retrieval_completes_iff (fun _ hbody => hbody) hreached
    (show ∀ c, Review.readyService.outage .scroll c = none from fun _ => rfl) hstate
  rw [hlearned] at hfails
  rw [hfound, hfails ⟨_, List.mem_singleton_self _, rfl⟩]

end Webhook
end PullReview
