import PullReview.Proofs.Webhook.Frame
/-!
# One comment for each payload

When a payload can be read and its clone, its diff and the document about it are there, processing it ends with posting
(`process_posts`): one comment on its pull request if the bot can sign in, and nothing if it cannot, whatever fails in
between: indexing, the history, the store, the model, the machinery or the learnings.  It never ends with a review.
-/
namespace PullReview
namespace Webhook

/-! ## What cannot fail -/

theorem indexChanged_succeeds (world : World) (c : Context.Checkout) (file : String × Nat) :
    (indexChanged world c file).Succeeds := by
  unfold indexChanged
  split
  · exact Run.Succeeds.orElse _ fun _ => Run.Succeeds.say _
  · exact Run.Succeeds.pure ()

theorem indexing_succeeds (world : World) (c : Context.Checkout) (files : List (String × Nat)) :
    (Bench.atStore (Run.each (indexChanged world c) files)).Succeeds :=
  Run.Succeeds.within (Run.Succeeds.within (Run.Succeeds.each (indexChanged_succeeds world c) files))

theorem learn_succeeds (world : World) (h : History) (context : String) : (learn world h context).Succeeds := by
  unfold learn
  split
  · exact Run.Succeeds.pure ()
  · exact Run.Succeeds.orElse _ fun _ => Run.Succeeds.say _

theorem post_succeeds (settings : Settings) (world : World) (r : Request) (document : Json) :
    (post settings world r document).Succeeds := Run.Succeeds.orElse _ fun _ => Run.Succeeds.say _

/-- The history that a run goes on with.  When the forge has a gap there is one that says so; only without a connection
the payload has to tell. -/
def historyOf (settings : Settings) (world : World) (r : Request) : Except Fault History :=
  match world.historyOutage with
  | none =>
    match world.forge.history? settings.botName with
    | .ok h => .ok h
    | .error cause => .ok (Forge.noHistory cause)
  | some reason => payloadHistory r.pull (.refused reason)

theorem history_result (settings : Settings) (world : World) (r : Request) (s : Session Bench) :
    ((history settings world r).perform s).1 = historyOf settings world r := by
  unfold history historyOf
  cases world.historyOutage with
  | none =>
    simp only [Forge.fetchHistory]
    cases world.forge.history? settings.botName <;> rfl
  | some reason =>
    simp only
    rw [Run.perform_bind_ok (Run.perform_say _ s), Run.perform_of]

/-! ## What is posted -/

/-- The bot posts these as comments: texts, and review documents without remarks. -/
inductive IsComment : Json → Prop where
  | text (s : String) : IsComment (.text s)
  | outcome (o : Review.Outcome) : IsComment (Outcome.document o)

/-- **A review is always there and is posted as a comment.** -/
theorem review_isComment (world : World) (matter : Review.Matter) (s : Session Bench) :
    ∃ document t, (review world matter).perform s = (.ok document, t) ∧ IsComment document := by
  rw [review, Run.perform_orElse]
  rcases hmade : (review.made world matter).perform s with ⟨cause | document, t⟩
  · exact ⟨_, _, Run.perform_bind_ok (Run.perform_say _ t) _, .text _⟩
  · refine ⟨document, t, rfl, ?_⟩
    rw [review.made] at hmade
    obtain ⟨o, u, -, hpure⟩ := (Run.perform_bind_eq_ok_iff _ _ _ _ _).1 hmade
    cases hpure
    exact .outcome o

/-- The calls that posting a comment makes are in order. -/
structure TakesComments (forge : Forge) : Prop where
  repository : forge.outage .repository = none
  pull : forge.outage .pull = none
  createComment : forge.outage .createComment = none

theorem perform_postComment {forge : Forge} (h : TakesComments forge) (repository pull body : Json)
    (s : Session (List Forge.Post)) :
    (forge.postComment repository pull body).perform s =
      (.ok (), { s with state := s.state ++ [.comment repository pull body] }) := by
  have hpost : forge.commentPost repository pull body = .ok (.comment repository pull body) := by
    simp only [Forge.commentPost, Forge.call, h.repository, h.pull, h.createComment]
    rfl
  rw [Forge.postComment, hpost, Forge.asServerError, Run.perform_bind_ok (Run.perform_of _ s)]
  rfl

theorem perform_postDocument {world : World} (h : TakesComments world.forge) (r : Request) {document : Json}
    (hdocument : IsComment document) : ∃ body, ∀ s : Session (List Forge.Post),
      (postDocument world r document).perform s =
        (.ok (), { s with state := s.state ++ [.comment r.repository r.number body] }) := by
  cases hdocument with
  | text body => exact ⟨.text body, perform_postComment h r.repository r.number (.text body)⟩
  | outcome o =>
    have hsummary : (Outcome.document o).field "summary" "" = .ok (.text o.summary) := by
      simp [Outcome.document, Json.field, Json.lookup]
    have hinline : (Outcome.document o).field "inline_comments" (.list []) = .ok (.list []) := by
      simp [Outcome.document, Json.field, Json.lookup]
    have htotal : (Outcome.document o).field "total_issues" (.int 0) = .ok (.int o.total) := by
      simp [Outcome.document, Json.field, Json.lookup]
    refine ⟨.text o.summary, fun s => ?_⟩
    rw [← perform_postComment h r.repository r.number (.text o.summary) s]
    unfold postDocument
    simp only [Outcome.document] at hsummary hinline htotal ⊢
    rw [hsummary, Run.perform_bind_ok (Run.perform_of _ s), hinline, Run.perform_bind_ok (Run.perform_of _ s), htotal,
      Run.perform_bind_ok (Run.perform_of _ s)]
    rfl

/-- The key can be read, and the forge takes the credentials. -/
def canSignIn (settings : Settings) (world : World) (r : Request) (files : Files) : Bool :=
  match Forge.readKey files settings.keySetting with
  | .ok key => (world.signInRefusal ⟨settings.application, key, r.installation⟩).isNone
  | .error _ => false

/-- Signing in succeeds just then. -/
theorem isOk_signIn (settings : Settings) (world : World) (r : Request) (files : Files) :
    (Forge.signIn files world.signInRefusal settings.application settings.keySetting r.installation).isOk =
      canSignIn settings world r files := by
  rw [Forge.signIn, canSignIn]
  cases Forge.readKey files settings.keySetting with
  | error cause => rfl
  | ok key =>
    dsimp only [bind, Except.bind]
    cases world.signInRefusal ⟨settings.application, key, r.installation⟩ <;> rfl

/-- **Posting**: one comment if the bot can sign in, else nothing. -/
theorem post_posts (settings : Settings) {world : World} (h : TakesComments world.forge) (r : Request) {document : Json}
    (hdocument : IsComment document) (s : Session Bench) : ∃ body,
      ((post settings world r document).perform s).2.state.posts = s.state.posts ++
        if canSignIn settings world r s.state.workspace.files then [.comment r.repository r.number body] else [] := by
  obtain ⟨body, hbody⟩ := perform_postDocument h r hdocument
  refine ⟨body, ?_⟩
  rw [post, Run.perform_orElse, post.signedIn, Run.perform_bind_ok (Run.perform_state s), ← isOk_signIn]
  dsimp only
  cases Forge.signIn s.state.workspace.files world.signInRefusal settings.application settings.keySetting
    r.installation with
  | error cause =>
    rw [Run.perform_bind_error (Run.perform_of _ s)]
    exact (List.append_nil _).symm
  | ok credentials =>
    rw [Run.perform_bind_ok (Run.perform_of _ s), Run.perform_bind_ok (Run.perform_update _ s), Bench.atPosts,
      Run.perform_within, hbody]
    rfl

/-! ## The whole run -/

def Request.description (r : Request) : Json := (r.pull.get? "body").getD ""

theorem read_description {payload : Json} {r : Request} (h : Request.read payload = .ok r) :
    r.pull.field "body" "" = .ok r.description := by
  unfold Request.read at h
  obtain ⟨pull, -, h⟩ := Run.ok_of_bind h
  obtain ⟨repository, -, h⟩ := Run.ok_of_bind h
  obtain ⟨installations, -, h⟩ := Run.ok_of_bind h
  obtain ⟨installation, -, h⟩ := Run.ok_of_bind h
  obtain ⟨number, hnumber, h⟩ := Run.ok_of_bind h
  obtain ⟨title, -, h⟩ := Run.ok_of_bind h
  obtain ⟨url, -, h⟩ := Run.ok_of_bind h
  obtain ⟨fullName, -, h⟩ := Run.ok_of_bind h
  obtain ⟨base, -, h⟩ := Run.ok_of_bind h
  obtain ⟨head, -, h⟩ := Run.ok_of_bind h
  cases h
  -- only an object has a number
  cases pull with
  | object fields => rfl
  | _ => cases hnumber

def Unposted (b : Bench) (b' : Bench) : Prop := b'.posts = b.posts ∧ b'.workspace.files = b.workspace.files

theorem atWorkspace_posts {α : Type} (act : Run Clone.Workspace α) (posts : List Forge.Post) :
    (Bench.atWorkspace act).Preserves fun b => b.posts = posts := fun _ hs => hs

theorem finish_posts (settings : Settings) {world : World} (hforge : TakesComments world.forge) (r : Request)
    (matter : Review.Matter) (h : History) (context : String) (s : Session Bench) :
    ∃ body t, (finish settings world r matter h context).perform s = (.ok (), t) ∧
      t.state.posts = s.state.posts ++
        if canSignIn settings world r s.state.workspace.files then [.comment r.repository r.number body] else [] := by
  have hdesk (b : Bench) (desk : Review.Desk) (hb : Unposted s.state b) : Unposted s.state { b with desk } := hb
  obtain ⟨document, t, hreview, hdocument⟩ := review_isComment world matter s
  obtain ⟨⟨⟩, u, hlearn⟩ := (learn_succeeds world h context).eq_ok t
  obtain ⟨⟨⟩, v, hpost⟩ := (post_succeeds settings world r document).eq_ok u
  have hreviewed : Unposted s.state t.state :=
    (review_preserves (atDesk_preserves hdesk _)).after hreview ⟨rfl, rfl⟩
  have hunposted : Unposted s.state u.state :=
    (learn_preserves (fun _ => atDesk_preserves hdesk _) h context).after hlearn hreviewed
  obtain ⟨body, hbody⟩ := post_posts settings hforge r hdocument u
  rw [hpost, hunposted.1, hunposted.2] at hbody
  refine ⟨body, v, ?_, hbody⟩
  rw [finish, Run.perform_bind_ok hreview, Run.perform_bind_ok hlearn, hpost]

/-- Once there is a diff and the document can be built, the run comes to its end: nothing in between stops it. -/
theorem afterDiff_posts (settings : Settings) {world : World} (hforge : TakesComments world.forge) (payload : Json)
    {r : Request} (hdescription : r.pull.field "body" "" = .ok r.description) {d : Path} {diff : Diff} {u : Session Bench}
    {h : History} (hhistory : historyOf settings world r = .ok h)
    {context : String} (hbuild : ((Context.build ⟨u.state.workspace.files, d, world.parse⟩
      (changes diff r.title r.description) h.document world.now).perform u).1 = .ok context) :
    ∃ body v, (afterDiff settings world payload r (some d) diff).perform u = (.ok (), v) ∧
      v.state.posts = u.state.posts ++
        if canSignIn settings world r u.state.workspace.files then [.comment r.repository r.number body] else [] := by
  obtain ⟨⟨⟩, v, hindex⟩ := (indexing_succeeds world ⟨u.state.workspace.files, d, world.parse⟩ diff.files.zipIdx).eq_ok u
  obtain ⟨w, hheard⟩ := (history_tells settings world r).eq_ok ((history_result settings world r v).trans hhistory) v
  -- the document is built only now, but building does not look at the session
  have hbuilds := Context.build_tells (σ := Bench) ⟨u.state.workspace.files, d, world.parse⟩
    (changes diff r.title r.description) h.document world.now
  obtain ⟨x, hbuilt⟩ := hbuilds.eq_ok hbuild w
  have hindexed : Unposted u.state v.state := (atDesk_preserves (fun _ _ hb => hb) _).after hindex ⟨rfl, rfl⟩
  have hunposted : Unposted u.state x.state :=
    (hbuilds.preserves _).after hbuilt (((history_tells settings world r).preserves _).after hheard hindexed)
  obtain ⟨body, y, hfinish, hposts⟩ := finish_posts settings hforge r
    { diff := diff.full, context, event := payload, changes := changes diff r.title r.description } h context x
  rw [hunposted.1, hunposted.2] at hposts
  refine ⟨body, y, ?_, hposts⟩
  rw [afterDiff_eq_finish settings world payload hindex hheard hdescription hbuilt]
  exact hfinish

/-- **One comment for each payload.**  When the payload can be read, the clone, its diff and the document about it are
there and the forge takes comments, processing posts one comment on the pull request, or nothing if the bot's key cannot
be read or the forge does not take its credentials; whatever else fails. -/
theorem process_posts (settings : Settings) {world : World} (hforge : TakesComments world.forge) {payload : Json}
    {r : Request} (hread : Request.read payload = .ok r) {b : Bench} {d : Path} {t : Session Bench}
    (hclone : (clone settings world r).perform ⟨b, []⟩ = (.ok (some d), t))
    {diff : Diff} {u : Session Bench} (hdiff : (Webhook.diff world r (some d)).perform t = (.ok diff, u))
    {h : History} (hhistory : historyOf settings world r = .ok h)
    {context : String} (hbuild : ((Context.build ⟨u.state.workspace.files, d, world.parse⟩
      (changes diff r.title r.description) h.document world.now).perform u).1 = .ok context) :
    ∃ body, ((process settings world payload).start b).2.state.posts = b.posts ++
      if canSignIn settings world r u.state.workspace.files then [.comment r.repository r.number body] else [] := by
  have hfetched : u.state.posts = b.posts :=
    (atWorkspace_posts _ _).after hdiff ((atWorkspace_posts _ _).after hclone rfl)
  obtain ⟨body, v, hafter, hposts⟩ := afterDiff_posts settings hforge payload (read_description hread) hhistory hbuild
  refine ⟨body, ?_⟩
  rw [Run.start_eq, process_state, work_eq, hread, Run.of_ok_bind, Run.perform_bind_ok hclone, Run.perform_bind_ok hdiff,
    hafter, ← hfetched]
  exact hposts

/-! The same on a rough day: nothing works but the clone, its diff and the forge. -/

def openedFiles : Files :=
  ⟨[(["temp_repos"], .directory), (["temp_repos", "3b037e95_pr_5"], .directory (some "https://forge/o/r.git")),
    (["temp_repos", "3b037e95_pr_5", "a.py"], .file [0xFF])]⟩

def openedDiff : Diff := { full := "+x", files := ["a.py"] }

def openedHistory : History := Forge.noHistory (.noAttribute .pullRequest "title")

theorem fetched_openedRequest : ∃ t u : Session Bench,
    (clone usualSettings roughWorld openedRequest).perform ⟨freshBench, []⟩ =
        (.ok (some ⟨"", ["temp_repos", "3b037e95_pr_5"]⟩), t) ∧
      (diff roughWorld openedRequest (some ⟨"", ["temp_repos", "3b037e95_pr_5"]⟩)).perform t = (.ok openedDiff, u) ∧
      u.state.workspace.files = openedFiles := by
  have hdirectory : usualSettings.place.directory "https://forge/o/r.git" (.int 5) =
      ⟨"", ["temp_repos", "3b037e95_pr_5"]⟩ := by decide +kernel
  have hclone := clone_openedRequest
  rw [hdirectory] at hclone
  refine ⟨((clone usualSettings roughWorld openedRequest).perform ⟨freshBench, []⟩).2, _, Prod.ext hclone rfl,
    Prod.ext ?_ rfl, ?_⟩
  · have hchecked : (Option.any (fun diff => diff.files = ["a.py"] && diff.full.isText "+x")
        ((diff roughWorld openedRequest (some ⟨"", ["temp_repos", "3b037e95_pr_5"]⟩)).perform
          ((clone usualSettings roughWorld openedRequest).perform ⟨freshBench, []⟩).2).1.toOption) = true := by
      decide +kernel
    revert hchecked
    rcases (diff roughWorld openedRequest _).perform _ with ⟨cause | ⟨full, files⟩, u⟩
    · simp [Except.toOption]
    · cases full <;> simp [Except.toOption, Json.isText, openedDiff]
      exact fun hfiles hfull => ⟨hfull, hfiles⟩
  · exact congrArg Files.mk (by decide +kernel)

theorem history_openedRequest : historyOf usualSettings roughWorld openedRequest = .ok openedHistory := rfl

theorem build_openedRequest (s : Session Bench) : ∃ context,
    ((Context.build ⟨openedFiles, ⟨"", ["temp_repos", "3b037e95_pr_5"]⟩, roughWorld.parse⟩
      (changes openedDiff openedRequest.title openedRequest.description) openedHistory.document
      roughWorld.now).perform s).1 = .ok context := ⟨_, rfl⟩

theorem takesComments_roughWorld : TakesComments roughWorld.forge := ⟨rfl, rfl, rfl⟩

theorem process_posts_roughWorld : TakesComments roughWorld.forge ∧ Request.read openedPayload = .ok openedRequest ∧
    openedRequest.installation = .int 77 ∧ canSignIn usualSettings roughWorld openedRequest openedFiles = true ∧
    historyOf usualSettings roughWorld openedRequest = .ok openedHistory ∧
    ∃ body, ((process usualSettings roughWorld openedPayload).start freshBench).2.state.posts =
      [.comment "o/r" (.int 5) body] := by
  obtain ⟨t, u, hclone, hdiff, hfiles⟩ := fetched_openedRequest
  obtain ⟨context, hbuild⟩ := build_openedRequest u
  obtain ⟨body, hposts⟩ := process_posts usualSettings takesComments_roughWorld read_openedPayload hclone hdiff
    history_openedRequest (by rw [hfiles]; exact hbuild)
  have hcan : canSignIn usualSettings roughWorld openedRequest openedFiles = true := by decide +kernel
  rw [hfiles, if_pos hcan] at hposts
  exact ⟨takesComments_roughWorld, read_openedPayload, rfl, hcan, history_openedRequest, body, hposts⟩

def keylessSettings : Settings := { usualSettings with keySetting := "garbage" }

/-- **Without a key there is no comment**, though the clone, its diff and the document are there and the forge takes
comments. -/
theorem keyless_posts_nothing : TakesComments roughWorld.forge ∧
    Request.read openedPayload = .ok openedRequest ∧
    (∃ d t diff u h context,
      (clone keylessSettings roughWorld openedRequest).perform ⟨freshBench, []⟩ = (.ok (some d), t) ∧
      (Webhook.diff roughWorld openedRequest (some d)).perform t = (.ok diff, u) ∧
      historyOf keylessSettings roughWorld openedRequest = .ok h ∧
      ((Context.build ⟨u.state.workspace.files, d, roughWorld.parse⟩
        (changes diff openedRequest.title openedRequest.description) h.document roughWorld.now).perform u).1 =
        .ok context) ∧
    ¬ ∃ body, ((process keylessSettings roughWorld openedPayload).start freshBench).2.state.posts =
      freshBench.posts ++ [.comment openedRequest.repository openedRequest.number body] := by
  obtain ⟨t, u, hclone, hdiff, hfiles⟩ := fetched_openedRequest
  obtain ⟨context, hbuild⟩ := build_openedRequest u
  refine ⟨takesComments_roughWorld, read_openedPayload, ⟨_, t, openedDiff, u, openedHistory, context, hclone, hdiff,
    history_openedRequest, by rw [hfiles]; exact hbuild⟩, ?_⟩
  rintro ⟨body, hposts⟩
  have hnone : ((process keylessSettings roughWorld openedPayload).start freshBench).2.state.posts.length = 0 := by
    decide +kernel
  rw [hposts] at hnone
  cases hnone

end Webhook
end PullReview
