import PullReview.Proofs.Review.Prompts
import PullReview.Proofs.Store.View
import PullReview.Proofs.Webhook.Posting
/-!
# What processing asks and stores

Processing a payload first finds out what the pull request changes (`survey`), which leaves the desk alone.  From then on
it only adds to the store (`process_grown`): the graph and the imports of each changed file that can be read
(`each_indexChanged_points`), and at its end the lessons of the history (`finish_points`).  Its calls to the model are
those of its review (`finish_calls`).
-/
namespace PullReview

namespace Review

/-- A review reads the store and adds nothing. -/
theorem run_store (machinery : Machinery) (svc : Store.Service) (oracle : Oracle) (m : Matter) (P : Store → Prop) :
    (run machinery svc oracle m).Preserves fun d => P d.store := by
  have hretrieve (state : Json) : (Desk.atStore (Store.retrieve svc state)).Preserves fun d => P d.store :=
    Run.Preserves.within (fun _ _ => Store.retrieve_preserves svc state P) fun _ hd => hd
  have hopinions (state : Json) : (opinions oracle state).Preserves fun d => P d.store := by
    refine Run.Preserves.mapEach (fun s => Run.Preserves.bind ?_ fun _ => Run.Preserves.pure _) order
    exact fun _ hd => hd
  unfold run
  cases machinery.assembly with
  | some reason => exact Run.Preserves.throw _
  | none =>
    refine (Run.Preserves.of _).bind fun d => ?_
    cases machinery.operation with
    | some reason => exact Run.Preserves.pure _
    | none =>
      refine Run.Preserves.bind ?_ fun _ => Run.Preserves.pure _
      exact (hretrieve _).bind fun _ => (hopinions _).bind fun _ => Run.Preserves.pure _

end Review

namespace Webhook

section Processing

variable (settings : Settings) (world : World) (payload : Json)

/-! ## What comes first -/

theorem work_eq_survey :
    work settings world payload =
      survey settings world payload >>= fun found => afterDiff settings world payload found.1 found.2.1 found.2.2 := rfl

/-- What is found out first leaves the desk alone. -/
theorem survey_desk (P : Review.Desk → Prop) : (survey settings world payload).Preserves fun b => P b.desk := by
  unfold survey
  refine (Run.Preserves.of _).bind fun r => Run.Preserves.bind (fun _ hs => hs) fun directory => ?_
  refine Run.Preserves.bind ?_ fun _ => Run.Preserves.pure _
  cases directory with
  | none => exact Run.Preserves.throw _
  | some directory => exact fun _ hs => hs

variable {settings world payload} in
theorem survey_read {r : Request} {directory : Option Path} {diff : Diff} {s t : Session Bench}
    (h : (survey settings world payload).perform s = (.ok (r, directory, diff), t)) : Request.read payload = .ok r := by
  unfold survey at h
  obtain ⟨r', u, hread, h⟩ := (Run.perform_bind_eq_ok_iff _ _ _ _ _).1 h
  obtain ⟨directory', v, -, h⟩ := (Run.perform_bind_eq_ok_iff _ _ _ _ _).1 h
  obtain ⟨diff', w, -, h⟩ := (Run.perform_bind_eq_ok_iff _ _ _ _ _).1 h
  rw [Run.perform_of] at hread
  cases h
  exact congrArg Prod.fst hread

variable {settings world payload} in
/-- The workspace stays as it was when that was found out. -/
theorem process_workspace {b : Bench} {found : Request × Option Path × Diff} {t : Session Bench}
    (hsurvey : (survey settings world payload).perform ⟨b, []⟩ = (.ok found, t)) :
    ((process settings world payload).start b).2.state.workspace = t.state.workspace := by
  rw [Run.start_eq, process_state, work_eq_survey, Run.perform_bind_ok hsurvey]
  exact afterDiff_workspace (· = t.state.workspace) settings world payload found.1 found.2.1 found.2.2 t rfl

/-! ## Growth -/

theorem atDesk_store (matter : Review.Matter) (P : Store → Prop) :
    (Bench.atDesk (Review.run world.machinery world.store world.oracle matter)).Preserves fun b => P b.desk.store :=
  Run.Preserves.within (fun _ _ => Review.run_store _ _ _ _ P) fun _ hb => hb

theorem indexChanged_grown (base : Store) (c : Context.Checkout) (file : String × Nat) :
    (indexChanged world c file).Preserves (Store.Grown base) := by
  have hfile : (indexFile world c file.1 file.2).Preserves (Store.Grown base) := by
    unfold indexFile
    simp only [Store.indexGraph_eq, Store.indexImports_eq]
    refine (Run.Preserves.of _).bind fun source => (Run.Preserves.of _).bind fun tree => ?_
    refine (Store.addEntry_grown _ _ base (Store.graphEntry_object _ _)).bind fun _ => ?_
    exact (Store.addEntry_grown _ _ base (Store.importEntry_object _ _ _)).bind fun _ => Run.Preserves.pure _
  unfold indexChanged
  split
  · exact hfile.orElse fun _ => Run.Preserves.say _
  · exact Run.Preserves.pure _

theorem atStore_grown {α : Type} {base : Store} {act : Run Store α} (h : act.Preserves (Store.Grown base)) :
    (Bench.atStore act).Preserves fun b => Store.Grown base b.desk.store :=
  fun s hs => h ⟨s.state.desk.store, s.console⟩ hs

theorem indexLesson_grown (base : Store) (lesson : Store.Learning × Nat) :
    (indexLesson world lesson).Preserves (Store.Grown base) := by
  simp only [indexLesson, Store.indexLearning_eq]
  exact (Store.addEntry_grown _ _ base (Store.entry_object lesson.1)).bind fun _ => Run.Preserves.pure _

/-- **Processing only adds to the store.** -/
theorem process_grown (base : Store) :
    (process settings world payload).Preserves fun b => Store.Grown base b.desk.store := by
  have hindex (c : Context.Checkout) (files : List (String × Nat)) :=
    atStore_grown (Run.Preserves.each (indexChanged_grown world base c) files)
  have hlessons (lessons : List (Store.Learning × Nat)) :=
    atStore_grown (Run.Preserves.each (indexLesson_grown world base) lessons)
  have hreview (matter : Review.Matter) := atDesk_store world matter (Store.Grown base)
  have hwork : (work settings world payload).Preserves fun b => Store.Grown base b.desk.store := by
    rw [work_eq_survey]
    exact (survey_desk settings world payload fun d => Store.Grown base d.store).bind fun found =>
      afterDiff_preserves hindex hreview hlessons (fun _ _ _ hb => hb) settings payload found.1 found.2.1 found.2.2
  exact hwork.orElse fun _ => Run.Preserves.say _

end Processing

/-- What is found out, and the files then, from what can be checked of it. -/
theorem survey_eq_ok {settings : Settings} {world : World} {payload : Json} {r : Request} {d : Path} {full : String}
    {paths : List String} {files : Files} {s : Session Bench} (hread : Request.read payload = .ok r)
    (hchecked : ((survey settings world payload).perform s).1.toOption.map
        (fun found => (found.2.1, found.2.2.files, found.2.2.full.isText full)) = some (some d, paths, true) ∧
      ((survey settings world payload).perform s).2.state.workspace.files.entries = files.entries) :
    ((survey settings world payload).perform s).1 = .ok (r, some d, ⟨.text full, paths⟩) ∧
      ((survey settings world payload).perform s).2.state.workspace.files = files := by
  obtain ⟨hfound, hentries⟩ := hchecked
  refine ⟨?_, congrArg Files.mk hentries⟩
  rcases hrun : (survey settings world payload).perform s with ⟨cause | ⟨r', directory, ⟨text, paths'⟩⟩, t⟩
  · rw [hrun] at hfound
    cases hfound
  · rw [hrun] at hfound
    simp only [Except.toOption, Option.map_some, Option.some.injEq, Prod.mk.injEq] at hfound
    obtain ⟨rfl, rfl, htext⟩ := hfound
    have hfull : text = .text full := by
      cases text <;> simp [Json.isText] at htext
      rw [htext]
    -- the request goes through as it was read, so it needs no check
    unfold survey at hrun
    rw [hread, Run.perform_bind_ok (Run.perform_of _ s)] at hrun
    obtain ⟨made, u, -, hrun⟩ := (Run.perform_bind_eq_ok_iff _ _ _ _ _).1 hrun
    obtain ⟨found, v, -, hrun⟩ := (Run.perform_bind_eq_ok_iff _ _ _ _ _).1 hrun
    cases hrun
    rw [hfull]

/-! ## One file, and the end -/

section Steps

variable (settings : Settings) {world : World}

/-- The calls of a run that comes to its end are its review's. -/
theorem finish_calls (r : Request) (matter : Review.Matter) (h : History) (context : String) (x : Session Bench) :
    ((finish settings world r matter h context).perform x).2.state.desk.calls =
      ((Review.run world.machinery world.store world.oracle matter).perform
        ⟨x.state.desk, x.console⟩).2.state.calls := by
  have hreview : ((review world matter).perform x).2.state.desk.calls =
      ((Review.run world.machinery world.store world.oracle matter).perform
        ⟨x.state.desk, x.console⟩).2.state.calls := by
    rw [review, Run.perform_orElse, review.made, Run.perform_bind, Bench.atDesk, Run.perform_within]
    rcases (Review.run world.machinery world.store world.oracle matter).perform ⟨x.state.desk, x.console⟩ with
      ⟨_ | o, d⟩ <;> rfl
  have hlearn (calls : List ModelCall) : (learn world h context).Preserves fun b => b.desk.calls = calls :=
    learn_preserves (fun _ _ hs => hs) h context
  rw [← hreview, finish, Run.perform_bind]
  rcases (review world matter).perform x with ⟨_ | document, t⟩
  · rfl
  · have hpost := post_preserves (Q := fun b => b.desk.calls = t.state.desk.calls) (fun _ _ _ hb => hb) settings world r
      document
    exact (hlearn _).bind (fun _ => hpost) t rfl

theorem perform_atStore {α : Type} {act : Run Store α} {s : Session Bench} {result : Except Fault α} {t : Session Store}
    (h : act.perform ⟨s.state.desk.store, s.console⟩ = (result, t)) :
    (Bench.atStore act).perform s =
      (result, ⟨{ s.state with desk := { s.state.desk with store := t.state } }, t.console⟩) := by
  rw [Bench.atStore, Bench.atDesk, Run.perform_within, Review.Desk.atStore, Run.perform_within, h]

/-! ## The changed files -/

def analysed (c : Context.Checkout) (path : String) : Except Fault (String × Node) := do
  let source ← c.files.readText (c.directory.toString ++ "/" ++ path)
  let (root, _) ← c.parseFile .python (c.directory.toString ++ "/" ++ path)
  return (source, root)

/-- The points for a changed file: its graph and its imports, if it can be read and has a tree. -/
def pointsFor (c : Context.Checkout) (path : String) : List (Collection × Json) :=
  match analysed c path with
  | .ok (source, root) =>
    [(.codeGraphs, (Store.GraphDigest.ofGraph path (Graph.ofTree .python source root)).payload),
      (.importFiles, Store.sourcePayload path source (root.imports .python source))]
  | .error _ => []

/-- How they are added: the graph with the first of the services, the imports with the second. -/
def fileAttempts (svc svc' : Store.Service) (c : Context.Checkout) (path : String) : List Store.Attempt :=
  match analysed c path with
  | .ok (source, root) =>
    [⟨svc, .codeGraphs, Store.graphEntry path (Graph.ofTree .python source root)⟩,
      ⟨svc', .importFiles, Store.importEntry path source (.ofTexts (root.imports .python source))⟩]
  | .error _ => []

def kept (svc svc' : Store.Service) (c : Context.Checkout) (path : String) : List (Collection × Json) :=
  Store.accepted (fileAttempts svc svc' c path)

section Kept

variable {svc svc' : Store.Service} {c : Context.Checkout} {path : String}

theorem fileAttempts_isFor : List.Forall₂ Store.Attempt.IsFor (fileAttempts svc svc' c path) (pointsFor c path) := by
  unfold fileAttempts pointsFor
  cases analysed c path with
  | error cause => exact .nil
  | ok found =>
    exact .cons ⟨rfl, Store.graphEntry_eq_ok _ _⟩ (.cons ⟨rfl, Store.importEntry_eq_ok _ _ _⟩ .nil)

/-- **A changed file leaves a beginning of its points.** -/
theorem kept_isPrefix : kept svc svc' c path <+: pointsFor c path := Store.accepted_isPrefix fileAttempts_isFor

theorem kept_eq (hsvc : svc.IsSound) (hsvc' : svc'.IsSound) : kept svc svc' c path = pointsFor c path := by
  refine Store.accepted_eq fileAttempts_isFor ?_
  unfold fileAttempts
  cases analysed c path with
  | error cause => exact List.forall_mem_nil _
  | ok found => exact List.forall_mem_cons.2 ⟨hsvc, List.forall_mem_singleton.2 hsvc'⟩

end Kept

def World.keptOf (world : World) (c : Context.Checkout) (file : String × Nat) : List (Collection × Json) :=
  kept (world.storeAt (.graph file.2)) (world.storeAt (.imports file.2)) c file.1

theorem indexFile_points (world : World) (c : Context.Checkout) (file : String × Nat) (s : Session Store) :
    ((indexFile world c file.1 file.2).perform s).2.state.points =
      s.state.points ++ world.keptOf c file := by
  unfold indexFile World.keptOf kept fileAttempts analysed
  dsimp only
  cases c.files.readText (c.directory.toString ++ "/" ++ file.1) with
  | error cause =>
    rw [Run.perform_bind_error (Run.perform_of _ s)]
    exact (List.append_nil _).symm
  | ok source =>
    rw [Run.perform_bind_ok (Run.perform_of _ s)]
    cases c.parseFile .python (c.directory.toString ++ "/" ++ file.1) with
    | error cause =>
      rw [Run.perform_bind_error (Run.perform_of _ s)]
      exact (List.append_nil _).symm
    | ok tree =>
      obtain ⟨root, text⟩ := tree
      rw [Run.perform_bind_ok (Run.perform_of _ s)]
      have hadd := Store.each_add_points
        [⟨world.storeAt (.graph file.2), .codeGraphs, Store.graphEntry file.1 (Graph.ofTree .python source root)⟩,
          ⟨world.storeAt (.imports file.2), .importFiles,
            Store.importEntry file.1 source (.ofTexts (root.imports .python source))⟩] s
      simp only [Run.each, Store.Attempt.add, bind_assoc, pure_bind] at hadd
      simp only [Store.indexGraph_eq, Store.indexImports_eq]
      exact hadd

theorem indexChanged_points (world : World) (c : Context.Checkout) (file : String × Nat) (s : Session Store) :
    ((indexChanged world c file).perform s).2.state.points = s.state.points ++
      if Text.endsWith ".py" file.1 then world.keptOf c file else [] := by
  unfold indexChanged
  split
  · -- a file that fails is only reported
    rw [← indexFile_points world c file s, Run.perform_orElse]
    rcases (indexFile world c file.1 file.2).perform s with ⟨_ | _, t⟩ <;> rfl
  · exact (List.append_nil _).symm

/-- **What indexing leaves**: for each changed file what its own attempts leave. -/
theorem each_indexChanged_points (world : World) (c : Context.Checkout) (files : List (String × Nat))
    (s : Session Store) :
    ((Run.each (indexChanged world c) files).perform s).2.state.points = s.state.points ++
      (files.filter fun file => Text.endsWith ".py" file.1).flatMap (world.keptOf c) := by
  induction files generalizing s with
  | nil => exact (List.append_nil _).symm
  | cons file rest ih =>
    have hone := indexChanged_points world c file s
    obtain ⟨⟨⟩, t, hdone⟩ := (indexChanged_succeeds world c file).eq_ok s
    rw [hdone] at hone
    rw [Run.each, Run.perform_bind_ok hdone, ih t, hone, List.append_assoc, List.filter_cons]
    split <;> rfl

/-! ## The lessons -/

/-- What is kept of a lesson: the commit it is about, what the review says, what was answered and the code. -/
def learnedPayload (commit : Commit) (said : Json) (answer : Option Comment) (context : String) : Json :=
  .object [("type", "learning"), ("commit_sha", commit.sha), ("commit_message", commit.message), ("bot_comment", said),
    ("bot_comment_file", ""), ("user_feedback", (answer.map (·.body)).getD .null),
    ("user_feedback_author", (answer.map fun f => Json.text f.author).getD .null),
    ("has_user_feedback", .bool answer.isSome), ("code_context", .text (Text.clip 1000 context))]

theorem document_field (c : Comment) : c.document.kind = .object ∧ c.document.isGiven = true ∧
    c.document.field "comment" "" = .ok c.body ∧ c.document.field "author" "" = .ok (.text c.author) ∧
    c.document.field "file" "" = .ok "" := by
  obtain ⟨kind, body, author, createdAt, id, inReplyTo⟩ := c
  cases kind <;> exact ⟨rfl, rfl, rfl, rfl, rfl⟩

theorem answer_eq {l : Store.Learning} {answer : Option Comment} (h : l.feedback = (answer.map (·.document)).getD .null)
    (fallback : Json) :
    l.answer "comment" fallback = .ok ((answer.map (·.body)).getD fallback) ∧
      l.answer "author" fallback = .ok ((answer.map fun f => Json.text f.author).getD fallback) ∧
      l.hasFeedback = answer.isSome := by
  unfold Store.Learning.answer Store.Learning.hasFeedback
  rw [h]
  cases answer with
  | none => exact ⟨rfl, rfl, rfl⟩
  | some f =>
    obtain ⟨hkind, hgiven, hbody, hauthor, -⟩ := document_field f
    have hthere : f.document.kind ≠ .null := by rw [hkind]; decide
    exact ⟨(if_pos hgiven).trans hbody, (if_pos hgiven).trans hauthor, decide_eq_true hthere⟩

theorem entry_eq_ok (commit : Commit) (review : Comment) (answer : Option Comment) (context : String) :
    ∃ text, (⟨commit.document, review.document, (answer.map (·.document)).getD .null, .text context⟩ :
      Store.Learning).entry = .ok (text, learnedPayload commit review.body answer context) := by
  generalize hl : (⟨commit.document, review.document, (answer.map (·.document)).getD .null, .text context⟩ :
    Store.Learning) = l
  obtain ⟨-, -, hcomment, -, hfile⟩ := document_field review
  have hanswer := answer_eq (show l.feedback = _ by rw [← hl])
  have hsha : l.commit.field "sha" "" = .ok commit.sha := by rw [← hl]; rfl
  have hmessage : l.commit.field "message" "" = .ok commit.message := by rw [← hl]; rfl
  replace hcomment : l.review.field "comment" "" = .ok review.body := by rw [← hl, hcomment]
  replace hfile : l.review.field "file" "" = .ok "" := by rw [← hl, hfile]
  have hcontext : l.context = .text context := by rw [← hl]
  have hrecord : ∃ text, l.record = .ok text := by
    rw [Store.Learning.record, hmessage, hcomment, (hanswer "").1, hcontext]
    by_cases hgiven : (Json.text context).isGiven = true
    · exact ⟨_, if_pos hgiven⟩
    · exact ⟨_, if_neg hgiven⟩
  have hpayload : l.payload = .ok (learnedPayload commit review.body answer context) := by
    rw [Store.Learning.payload, hcontext, hsha, hmessage, hcomment, hfile, (hanswer .null).1, (hanswer .null).2.1,
      (hanswer .null).2.2]
    by_cases hempty : context = ""
    · -- of an empty text the beginning is empty too
      subst hempty
      rfl
    · exact if_pos (bne_iff_ne.2 hempty)
  obtain ⟨text, hrecord⟩ := hrecord
  rw [Store.Learning.entry, hrecord, hpayload]
  exact ⟨text, rfl⟩

/-- What a review by the bot says, or one by a maintainer: with the bot's latest before it, if there is any. -/
def saidIn (comments : List Comment) (review : Comment) : Json :=
  match review.kind, latestBefore review.createdAt (ofKind .botReview comments) with
  | .maintainerReview, some bot =>
    .text ("Bot Review: " ++ bot.body.display ++ "\n\nMaintainer Feedback: " ++ review.body.display)
  | _, _ => review.body

/-- What answers a review: only to those by the bot there are answers. -/
def answerIn (comments : List Comment) (review : Comment) : Option Comment :=
  if review.kind = .botReview then answerTo review (ofKind .userFeedback comments) else none

/-- The points for the lessons of a history, all of them about the first commit: one for each review by the bot, then one
for each by a maintainer. -/
def lessonPoints (h : History) (context : String) : List (Collection × Json) :=
  match h.commits with
  | [] => []
  | commit :: _ =>
    (ofKind .botReview h.comments ++ ofKind .maintainerReview h.comments).map fun review =>
      (.learnings, learnedPayload commit (saidIn h.comments review) (answerIn h.comments review) context)

theorem lessons_eq_ok (h : History) (context : String) :
    List.Forall₂ (fun l point => Collection.learnings = point.1 ∧ ∃ text, l.entry = .ok (text, point.2))
      (lessons h context) (lessonPoints h context) := by
  unfold lessons lessonPoints
  cases h.commits with
  | nil => exact .nil
  | cons commit rest =>
    dsimp only
    rw [List.map_append]
    refine List.rel_append ?_ ?_
    · rw [List.forall₂_map_left_iff, List.forall₂_map_right_iff, List.forall₂_same]
      intro review hreview
      have hkind : review.kind = .botReview := of_decide_eq_true (List.mem_filter.1 hreview).2
      have hsaid : saidIn h.comments review = review.body := by rw [saidIn, hkind]
      have hanswer : answerIn h.comments review = answerTo review (ofKind .userFeedback h.comments) := if_pos hkind
      rw [hsaid, hanswer]
      exact ⟨rfl, entry_eq_ok commit review _ context⟩
    · rw [List.forall₂_map_left_iff, List.forall₂_map_right_iff, List.forall₂_same]
      intro review hreview
      have hkind : review.kind = .maintainerReview := of_decide_eq_true (List.mem_filter.1 hreview).2
      have hanswer : answerIn h.comments review = none := if_neg (by rw [hkind]; decide)
      rw [hanswer, saidIn, hkind, maintainerLesson]
      cases latestBefore review.createdAt (ofKind .botReview h.comments) with
      | none => exact ⟨rfl, entry_eq_ok commit review none context⟩
      | some bot => exact ⟨rfl, entry_eq_ok commit (combined bot review) none context⟩

def lessonAttempts (svcs : Nat → Store.Service) (h : History) (context : String) : List Store.Attempt :=
  (lessons h context).zipIdx.map fun lesson => ⟨svcs lesson.2, .learnings, lesson.1.entry⟩

theorem lessonAttempts_isFor (svcs : Nat → Store.Service) (h : History) (context : String) :
    List.Forall₂ Store.Attempt.IsFor (lessonAttempts svcs h context) (lessonPoints h context) := by
  have hlessons := lessons_eq_ok h context
  -- a lesson's place matters only for when it is added
  rw [← List.zipIdx_map_fst 0 (lessons h context), List.forall₂_map_left_iff] at hlessons
  rw [lessonAttempts, List.forall₂_map_left_iff]
  exact hlessons

def learnt (svcs : Nat → Store.Service) (h : History) (context : String) : List (Collection × Json) :=
  Store.accepted (lessonAttempts svcs h context)

/-- **A history leaves a beginning of its lessons.** -/
theorem learnt_isPrefix {svcs : Nat → Store.Service} {h : History} {context : String} :
    learnt svcs h context <+: lessonPoints h context := Store.accepted_isPrefix (lessonAttempts_isFor svcs h context)

theorem learnt_eq {svcs : Nat → Store.Service} {h : History} {context : String} (hsound : ∀ i, (svcs i).IsSound) :
    learnt svcs h context = lessonPoints h context := by
  refine Store.accepted_eq (lessonAttempts_isFor svcs h context) fun a ha => ?_
  obtain ⟨lesson, -, rfl⟩ := List.mem_map.1 ha
  exact hsound lesson.2

def World.lessonStore (world : World) (place : Nat) : Store.Service := world.storeAt (.lesson place)

theorem learn_points (world : World) (h : History) (context : String) (s : Session Bench) :
    ((learn world h context).perform s).2.state.desk.store.points =
      s.state.desk.store.points ++ learnt world.lessonStore h context := by
  unfold learn
  split
  · -- without commits or comments there is no lesson
    rename_i hnone
    have hlessons : lessons h context = [] := by
      rcases (Bool.or_eq_true _ _).mp hnone with hcommits | hcomments
      · rw [lessons, List.isEmpty_iff.1 hcommits]
      · rw [lessons, List.isEmpty_iff.1 hcomments]
        cases h.commits <;> rfl
    rw [learnt, lessonAttempts, hlessons]
    exact (List.append_nil _).symm
  · have hadd := Store.each_add_points (lessonAttempts world.lessonStore h context) ⟨s.state.desk.store, s.console⟩
    have hlessons : Run.each (indexLesson world) (lessons h context).zipIdx =
        Run.each Store.Attempt.add (lessonAttempts world.lessonStore h context) := by
      rw [lessonAttempts, Run.each_map]
      simp only [Store.Attempt.add, ← Store.indexLearning_eq]
      rfl
    rw [← hlessons] at hadd
    rw [learnt, ← hadd, Run.perform_orElse, Bench.atStore, Bench.atDesk, Run.perform_within, Review.Desk.atStore,
      Run.perform_within]
    rcases (Run.each (indexLesson world) (lessons h context).zipIdx).perform ⟨s.state.desk.store, s.console⟩ with
      ⟨_ | _, t⟩ <;> rfl

/-- What a run that comes to its end adds is what it learned. -/
theorem finish_points (r : Request) (matter : Review.Matter) (h : History) (context : String) (x : Session Bench) :
    ((finish settings world r matter h context).perform x).2.state.desk.store.points =
      x.state.desk.store.points ++ learnt world.lessonStore h context := by
  have hreview := review_preserves (atDesk_store world matter (·.points = x.state.desk.store.points)) x rfl
  obtain ⟨document, t, hdone⟩ : ∃ document t, (review world matter).perform x = (.ok document, t) :=
    Run.Succeeds.eq_ok (Run.Succeeds.orElse _ fun _ => (Run.Succeeds.say _).bind fun _ => Run.Succeeds.pure _) x
  obtain ⟨⟨⟩, u, hlearned⟩ := (learn_succeeds world h context).eq_ok t
  have hpoints := learn_points world h context t
  rw [hdone] at hreview
  rw [hlearned, hreview] at hpoints
  rw [finish, Run.perform_bind_ok hdone, Run.perform_bind_ok hlearned, ← hpoints]
  exact post_preserves (Q := fun b => b.desk.store.points = u.state.desk.store.points) (fun _ _ _ hb => hb) settings
    world r document u rfl

/-! ## The whole run -/

/-- What a run learns from: the history and the document, if both are there. -/
def learnsFrom (world : World) (r : Request) (diff : Diff) (c : Context.Checkout) (s : Session Bench) :
    Option (History × String) :=
  match historyOf settings world r with
  | .error _ => none
  | .ok h =>
    match ((Context.build c (changes diff r.title r.description) h.document world.now).perform s).1 with
    | .error _ => none
    | .ok context => some (h, context)

theorem afterDiff_points (world : World) (payload : Json) {r : Request}
    (hbody : r.pull.field "body" "" = .ok r.description) (directory : Option Path) (diff : Diff) (s : Session Bench) :
    let c : Context.Checkout := ⟨s.state.workspace.files, directory.getD ⟨"", []⟩, world.parse⟩
    ((afterDiff settings world payload r directory diff).perform s).2.state.desk.store.points =
      s.state.desk.store.points ++
        (diff.files.zipIdx.filter fun file => Text.endsWith ".py" file.1).flatMap (world.keptOf c) ++
        (learnsFrom settings world r diff c s).elim [] fun found => learnt world.lessonStore found.1 found.2 := by
  intro c
  have hpoints := each_indexChanged_points world c diff.files.zipIdx ⟨s.state.desk.store, s.console⟩
  obtain ⟨⟨⟩, v, hindexed⟩ := (Run.Succeeds.each (indexChanged_succeeds world c) diff.files.zipIdx).eq_ok
    ⟨s.state.desk.store, s.console⟩
  rw [hindexed] at hpoints
  rw [afterDiff, gather, Run.perform_bind, Run.perform_bind_ok (Run.perform_state s)]
  dsimp only
  rw [Run.perform_bind_ok (perform_atStore hindexed), ← hpoints, learnsFrom]
  -- what follows looks only for its history and its document, and what these are is the same from everywhere
  obtain ⟨heard, lines, hheard⟩ := history_tells settings world r
  have hresult := history_result settings world r s
  rw [hheard] at hresult
  cases hhistory : historyOf settings world r with
  | error cause =>
    rw [hhistory] at hresult
    subst hresult
    rw [Run.perform_bind_error (hheard _)]
    exact (List.append_nil _).symm
  | ok h =>
    rw [hhistory] at hresult
    subst hresult
    obtain ⟨built, more, hbuilt⟩ := Context.build_tells (σ := Bench) c (changes diff r.title r.description) h.document
      world.now
    rw [Run.perform_bind_ok (hheard _), hbody, Run.perform_bind_ok (Run.perform_of _ _), Run.perform_bind,
      describe, Run.perform_orElse]
    dsimp only
    rw [Run.perform_bind, hbuilt, hbuilt]
    cases built with
    | error cause => exact (List.append_nil _).symm
    | ok context => exact finish_points settings r _ h context _

theorem process_points (world : World) {payload : Json} {b : Bench} {r : Request} {directory : Option Path} {diff : Diff}
    {t : Session Bench} (hsurvey : (survey settings world payload).perform ⟨b, []⟩ = (.ok (r, directory, diff), t)) :
    let c : Context.Checkout := ⟨t.state.workspace.files, directory.getD ⟨"", []⟩, world.parse⟩
    ((process settings world payload).start b).2.state.desk.store.points =
      b.desk.store.points ++
        (diff.files.zipIdx.filter fun file => Text.endsWith ".py" file.1).flatMap (world.keptOf c) ++
        (learnsFrom settings world r diff c t).elim [] fun found => learnt world.lessonStore found.1 found.2 := by
  intro c
  have hdesk := survey_desk settings world payload (· = b.desk) ⟨b, []⟩ rfl
  have hbody := read_description (survey_read hsurvey)
  rw [hsurvey] at hdesk
  rw [Run.start_eq, process_state, work_eq_survey, Run.perform_bind_ok hsurvey, ← hdesk]
  exact afterDiff_points settings world payload hbody directory diff t

theorem perform_indexChanged_unreadable {c : Context.Checkout} {file : String × Nat} {cause : Fault}
    (hread : c.files.readText (c.directory.toString ++ "/" ++ file.1) = .error cause) (s : Session Store) :
    ∃ console, (indexChanged world c file).perform s = (.ok (), ⟨s.state, console⟩) := by
  unfold indexChanged
  split
  · rw [Run.perform_orElse, indexFile]
    dsimp only
    rw [hread, Run.perform_bind_error (Run.perform_of _ s)]
    exact ⟨_, rfl⟩
  · exact ⟨s.console, rfl⟩

theorem perform_atStore_each {α : Type} {act : α → Run Store Unit} {a : α} {s : Session Bench} {t : Session Store}
    (h : (act a).perform ⟨s.state.desk.store, s.console⟩ = (.ok (), t)) :
    (Bench.atStore (Run.each act [a])).perform s =
      (.ok (), ⟨{ s.state with desk := { s.state.desk with store := t.state } }, t.console⟩) := by
  refine perform_atStore ?_
  rw [Run.each, Run.perform_bind_ok h]
  rfl

end Steps

end Webhook
end PullReview
