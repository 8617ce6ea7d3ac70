import PullReview.Proofs.Clone.Prepare
import PullReview.Webhook.Process
/-!
# What processing a webhook leaves alone

Processing a payload is at work on the clones first and leaves them alone from then on (`afterDiff_workspace`); it changes
the files only while it prepares the clone (`afterClone_files`, `process_files`).  The document about a pull request and
its history are told without a change to anything (`build_tells`, `history_tells`), and indexing, the review and its
learnings stay at the desk (`afterDiff_preserves`).  Once the history and the document are there, nothing stops the work
before its end (`afterDiff_eq_finish`).
-/
namespace PullReview

/-! ## Telling only -/

namespace Context

variable {σ : Type} (c : Checkout)

theorem readable_tells (name path : String) : (readable c name path : Run σ _).Tells := by
  unfold readable
  refine (Run.Tells.of _).bind fun found => ?_
  split
  · split
    · exact Run.Tells.pure _
    · exact (Run.Tells.say _).bind fun _ => Run.Tells.pure _
  · exact Run.Tells.pure _

theorem firstReadable_tells (name : String) : ∀ paths : List String, (firstReadable c name paths : Run σ _).Tells
  | [] => Run.Tells.pure none
  | path :: rest => by
    unfold firstReadable
    refine (readable_tells c name path).bind fun found => ?_
    split
    · exact Run.Tells.pure _
    · exact firstReadable_tells name rest

theorem resolve_tells (imports : List String) : (resolve c imports : Run σ _).Tells := by
  have hname (name : String) : (resolveName c name : Run σ _).Tells := by
    unfold resolveName
    split
    · exact Run.Tells.pure _
    · exact firstReadable_tells c name _
  exact (Run.Tells.mapEach hname imports).bind fun _ => Run.Tells.pure _

theorem dependenciesOf_tells (path : String) : (dependenciesOf c path : Run σ _).Tells := by
  have hanalysed : (dependenciesOf.analysed c path : Run σ _).Tells :=
    (Run.Tells.of _).bind fun _ => resolve_tells c _
  unfold dependenciesOf
  refine (Run.Tells.of _).bind fun found => ?_
  split
  · exact hanalysed.orElse fun _ => (Run.Tells.say _).bind fun _ => Run.Tells.pure _
  · exact Run.Tells.pure _

theorem listedPart_tells (diff path : Json) : (listedPart c diff path : Run σ _).Tells := by
  have hanalysed (path : String) : (analysedPart c diff path : Run σ _).Tells :=
    (Run.Tells.of _).bind fun _ => (resolve_tells c _).bind fun _ => (Run.Tells.of _).bind fun _ =>
      Run.Tells.pure _
  have hbroken (path : String) (cause : Fault) : (brokenPart c path cause : Run σ _).Tells := by
    unfold brokenPart
    cases c.files.readText (c.locate path).toString with
    | ok text => exact (Run.Tells.pure _).bind fun _ => Run.Tells.pure _
    | error again => exact ((Run.Tells.say _).bind fun _ => Run.Tells.pure _).bind fun _ => Run.Tells.pure _
  have hpart (path : String) : (filePart c diff path : Run σ _).Tells := by
    unfold filePart
    refine (Run.Tells.of _).bind fun found => ?_
    split
    · exact (hanalysed path).orElse (hbroken path)
    · exact Run.Tells.pure _
  exact (Run.Tells.of _).bind fun path => (hpart path).bind fun _ => Run.Tells.pure _

theorem build_tells (diff history : Json) (now : Timestamp) : (build c diff history now : Run σ _).Tells := by
  have hcollect (changed : List String) (isChanged : String → Bool) :
      (collect c changed isChanged : Run σ _).Tells :=
    (Run.Tells.mapEach (dependenciesOf_tells c) changed).bind fun _ => Run.Tells.pure _
  unfold build
  refine (Run.Tells.of _).bind fun top => (Run.Tells.of _).bind fun changed => (Run.Tells.of _).bind
    fun items => (Run.Tells.mapEach (listedPart_tells c diff) items).bind fun parts => (hcollect _ _).bind
    fun dependencies => ?_
  split
  · exact (Run.Tells.pure _).bind fun _ => (Run.Tells.of _).bind fun _ => Run.Tells.pure _
  · exact (Run.Tells.of _).bind fun _ => (Run.Tells.pure _).bind fun _ => (Run.Tells.of _).bind fun _ =>
      Run.Tells.pure _

end Context

namespace Webhook

theorem history_tells (settings : Settings) (world : World) (r : Request) :
    (history settings world r).Tells := by
  unfold history
  cases world.historyOutage with
  | none =>
    show (world.forge.fetchHistory settings.botName : Run Bench _).Tells
    unfold Forge.fetchHistory
    cases world.forge.history? settings.botName with
    | ok h => exact Run.Tells.pure _
    | error cause => exact (Run.Tells.say _).bind fun _ => Run.Tells.pure _
  | some reason => exact (Run.Tells.say _).bind fun _ => Run.Tells.of _

theorem describe_tells (world : World) (c : Context.Checkout) (changes history : Json) :
    (describe world c changes history).Tells :=
  ((Context.build_tells c changes history world.now).bind fun _ => Run.Tells.pure _).orElse fun _ =>
    (Run.Tells.say _).bind fun _ => Run.Tells.pure _

/-! ## The steps

Each step preserves what its own work at the desk preserves; for the rest it only tells.
-/

section Steps

variable {Q : Bench → Prop} {world : World}

theorem atDesk_preserves (hdesk : ∀ b desk, Q b → Q { b with desk }) {α : Type} (act : Run Review.Desk α) :
    (Bench.atDesk act).Preserves Q := fun s hs => hdesk s.state _ hs

theorem review_preserves {matter : Review.Matter}
    (hrun : (Bench.atDesk (Review.run world.machinery world.store world.oracle matter)).Preserves Q) :
    (review world matter).Preserves Q := by
  have hmade : (review.made world matter).Preserves Q := hrun.bind fun _ => Run.Preserves.pure _
  exact hmade.orElse fun _ => (Run.Preserves.say _).bind fun _ => Run.Preserves.pure _

theorem learn_preserves (hlessons : ∀ lessons, (Bench.atStore (Run.each (indexLesson world) lessons)).Preserves Q)
    (h : History) (context : String) : (learn world h context).Preserves Q := by
  unfold learn
  split
  · exact Run.Preserves.pure _
  · exact (hlessons _).orElse fun _ => Run.Preserves.say _

/-- Posting changes the credentials and the posts only. -/
theorem post_preserves (hposts : ∀ b credentials posts, Q b → Q { b with credentials, posts }) (settings : Settings)
    (world : World) (r : Request) (document : Json) : (post settings world r document).Preserves Q := by
  have hsigned : (post.signedIn settings world r document).Preserves Q := by
    unfold post.signedIn
    refine Run.Preserves.state.bind fun b => (Run.Preserves.of _).bind fun credentials => ?_
    refine (Run.Preserves.update fun b hb => hposts b (some credentials) b.posts hb).bind fun _ s hs => ?_
    exact hposts s.state s.state.credentials _ hs
  exact hsigned.orElse fun _ => Run.Preserves.say _

theorem gather_preserves (hindex : ∀ c files, (Bench.atStore (Run.each (indexChanged world c) files)).Preserves Q)
    (settings : Settings) (payload : Json) (r : Request) (directory : Option Path) (diff : Diff) :
    (gather settings world payload r directory diff).Preserves Q := by
  unfold gather
  refine Run.Preserves.state.bind fun b => (hindex _ _).bind fun _ =>
    ((history_tells settings world r).preserves _).bind fun h => (Run.Preserves.of _).bind fun description => ?_
  exact ((describe_tells world _ _ _).preserves _).bind fun _ => Run.Preserves.pure _

/-- **What indexing, the review and learning preserve, all that follows the diff does**, as long as credentials and posts
do not bear on it. -/
theorem afterDiff_preserves
    (hindex : ∀ c files, (Bench.atStore (Run.each (indexChanged world c) files)).Preserves Q)
    (hreview : ∀ matter, (Bench.atDesk (Review.run world.machinery world.store world.oracle matter)).Preserves Q)
    (hlessons : ∀ lessons, (Bench.atStore (Run.each (indexLesson world) lessons)).Preserves Q)
    (hposts : ∀ b credentials posts, Q b → Q { b with credentials, posts })
    (settings : Settings) (payload : Json) (r : Request) (directory : Option Path) (diff : Diff) :
    (afterDiff settings world payload r directory diff).Preserves Q := by
  unfold afterDiff
  refine (gather_preserves hindex settings payload r directory diff).bind fun gathered => ?_
  split
  · exact Run.Preserves.pure ()
  · exact (review_preserves (hreview _)).bind fun document => (learn_preserves hlessons _ _).bind fun _ =>
      post_preserves hposts settings world r document

end Steps

theorem afterDiff_workspace (K : Clone.Workspace → Prop) (settings : Settings) (world : World) (payload : Json)
    (r : Request) (directory : Option Path) (diff : Diff) :
    (afterDiff settings world payload r directory diff).Preserves fun b => K b.workspace :=
  have hdesk {α : Type} (act : Run Review.Desk α) : (Bench.atDesk act).Preserves fun b => K b.workspace :=
    atDesk_preserves (fun _ _ hb => hb) act
  afterDiff_preserves (fun _ _ => hdesk _) (fun _ => hdesk _) (fun _ => hdesk _) (fun _ _ _ hb => hb) settings payload r
    directory diff

/-! ## The files -/

section Files

variable (K : Files → Prop) (settings : Settings) (world : World)

theorem atWorkspace_files {α : Type} {act : Run Clone.Workspace α} (h : act.Preserves fun w => K w.files) :
    (Bench.atWorkspace act).Preserves fun b => K b.workspace.files :=
  Run.Preserves.within (fun _ _ => h) fun _ hb => hb

theorem diff_files (r : Request) (directory : Option Path) :
    (diff world r directory).Preserves fun b => K b.workspace.files := by
  unfold diff
  cases directory with
  | none => exact Run.Preserves.throw _
  | some directory =>
    refine atWorkspace_files K ?_
    have hlog (w : Clone.Workspace) (c : Clone.Command) (hw : K w.files) : K (w.log c).files := hw
    unfold Clone.diff Clone.readDiff
    exact (Clone.openClone_preserves hlog world.remote _).bind fun _ =>
      (Clone.command_preserves hlog world.remote _ _).bind fun _ =>
        (Clone.command_preserves hlog world.remote _ _).bind fun _ => (Run.Preserves.of _).bind fun _ =>
          Run.Preserves.state.bind fun _ => (Run.Preserves.of _).bind fun _ => Run.Preserves.pure _

/-- Nothing stops the work between the diff and its end once the history and the document are there. -/
theorem afterDiff_eq_finish (payload : Json) {r : Request} {d : Path} {diff : Diff} {description : Json} {h : History}
    {context : String} {u v w x : Session Bench}
    (hindex : (Bench.atStore (Run.each (indexChanged world ⟨u.state.workspace.files, d, world.parse⟩)
      diff.files.zipIdx)).perform u = (.ok (), v))
    (hhistory : (history settings world r).perform v = (.ok h, w)) (hbody : r.pull.field "body" "" = .ok description)
    (hbuild : (Context.build ⟨u.state.workspace.files, d, world.parse⟩ (changes diff r.title description) h.document
      world.now).perform w = (.ok context, x)) :
    (afterDiff settings world payload r (some d) diff).perform u =
      (finish settings world r
        { diff := diff.full, context, event := payload, changes := changes diff r.title description } h context).perform
        x := by
  have hcontext : (describe world ⟨u.state.workspace.files, d, world.parse⟩ (changes diff r.title description)
      h.document).perform w = (.ok (some context), x) := by
    rw [describe, Run.perform_orElse, Run.perform_bind_ok hbuild]
    rfl
  rw [afterDiff, gather, Run.perform_bind, Run.perform_bind_ok (Run.perform_state u)]
  dsimp only
  rw [Option.getD_some, Run.perform_bind_ok hindex, Run.perform_bind_ok hhistory, hbody,
    Run.perform_bind_ok (Run.perform_of _ w), Run.perform_bind_ok hcontext]
  rfl

theorem work_eq (payload : Json) :
    work settings world payload =
      Run.of (Request.read payload) >>= fun r => clone settings world r >>= fun directory =>
        diff world r directory >>= fun diff => afterDiff settings world payload r directory diff := by
  simp only [work, survey, bind_assoc, pure_bind]

/-- What stops the work is only reported. -/
theorem process_state (payload : Json) (s : Session Bench) :
    ((process settings world payload).perform s).2.state = ((work settings world payload).perform s).2.state := by
  rw [process, Run.perform_orElse]
  rcases (work settings world payload).perform s with ⟨_ | _, t⟩ <;> rfl

/-- Once the clone is prepared, the files stay. -/
theorem afterClone_files (payload : Json) (r : Request) (directory : Option Path) :
    (diff world r directory >>= fun diff => afterDiff settings world payload r directory diff).Preserves fun b =>
      K b.workspace.files :=
  (diff_files K world r directory).bind fun diff =>
    afterDiff_workspace (fun w => K w.files) settings world payload r directory diff

/-- **Processing changes the files as preparing the clone does.** -/
theorem process_files {payload : Json}
    (hclone : ∀ r, Request.read payload = .ok r → (clone settings world r).Preserves fun b => K b.workspace.files) :
    (process settings world payload).Preserves fun b => K b.workspace.files := by
  intro s hs
  rw [process_state, work_eq]
  cases hread : Request.read payload with
  | error cause =>
    rw [Run.perform_bind_error (Run.perform_of _ s)]
    exact hs
  | ok r =>
    rw [Run.of_ok_bind]
    exact (hclone r hread).bind (fun directory => afterClone_files K settings world payload r directory) s hs

/-- What holds of the files when the clone is there still holds when the payload is processed. -/
theorem process_of_clone {payload : Json} {r : Request} {directory : Option Path} {s t : Session Bench}
    (hread : Request.read payload = .ok r) (hclone : (clone settings world r).perform s = (.ok directory, t))
    (ht : K t.state.workspace.files) : K ((process settings world payload).perform s).2.state.workspace.files := by
  rw [process_state, work_eq, hread, Run.of_ok_bind, Run.perform_bind_ok hclone]
  exact afterClone_files K settings world payload r directory t ht

end Files

/-! ## A usual day -/

def usualSettings : Settings :=
  { place := { root := .ofString "./temp_repos", nameOf := Clone.shortName }, botName := "code-rabbit-bot",
    application := 12345, keySetting := "-----BEGIN KEY-----\\nabc\\n-----END KEY-----" }

/-- A world in which only the clone, its diff and the forge work: the one changed file cannot be read, and store, model
and machinery are out of order. -/
def roughWorld : World :=
  { remote :=
      { files := [("a.py", .file [0xFF])], diff := "+x", names := "a.py", content := .null, outage := fun _ => none }
    parse := fun _ _ => .error (.refused "no tree")
    forge :=
      { owner := .untold, collaborators := [], pull := ⟨none, none, .untold, none, .untold, .untold, .untold⟩,
        commits := [], comments := [], outage := fun _ => none }
    historyOutage := none
    signInRefusal := fun credentials => if credentials.installation.whole?.isSome then none else some "no installation"
    store := ⟨fun _ => [], some "no model", fun _ _ => some "no store"⟩
    oracle := ⟨"groq", fun _ => .refusal "no model"⟩
    machinery := { assembly := some "no graph" }
    now := ⟨2024, 1, 2, 3, 4, 5, 0⟩ }

def freshBench : Bench :=
  { workspace := ⟨⟨[(["temp_repos"], .directory)]⟩, []⟩, desk := ⟨.empty, []⟩, credentials := none, posts := [] }

def openedPayload : Json :=
  .object [("action", "opened"), ("pull_request", .object [("number", .int 5), ("title", "t")]),
    ("repository", .object [("clone_url", "https://forge/o/r.git"), ("full_name", "o/r")]),
    ("installation", .object [("id", .int 77)])]

def openedRequest : Request :=
  { pull := .object [("number", .int 5), ("title", "t")], installation := .int 77, number := .int 5, title := "t",
    url := "https://forge/o/r.git", repository := "o/r", base := "main", head := "" }

theorem read_openedPayload : Request.read openedPayload = .ok openedRequest := rfl

theorem clone_openedRequest : ((clone usualSettings roughWorld openedRequest).start freshBench).1 =
    .ok (some (usualSettings.place.directory "https://forge/o/r.git" (.int 5))) := by
  have hchecked : ((clone usualSettings roughWorld openedRequest).start freshBench).1.toOption =
      some (some (usualSettings.place.directory "https://forge/o/r.git" (.int 5))) := by decide +kernel
  cases hclone : ((clone usualSettings roughWorld openedRequest).start freshBench).1 with
  | error cause => simp [hclone, Except.toOption] at hchecked
  | ok made => simpa [hclone, Except.toOption] using hchecked

end Webhook
end PullReview
