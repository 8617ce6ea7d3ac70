import PullReview.Proofs.Webhook.Beside
import PullReview.Proofs.Webhook.Posting
/-!
# What one pull request leaves for the next

What a pull request sends to the model hangs on the store through what its review can see there (`promptsFrom_congr`),
and processing another one before it only adds to the store.  So the prompts stay the same as long as nothing comes in
front of what is seen (`prompts_unchanged_by_other`).  Otherwise they need not: learnings, and graphs and sources under
an equal path, are shown to every pull request, whatever repository they come from (`prompts_changed_by_other`).
-/
namespace PullReview
namespace Webhook

section Prompts

variable (settings : Settings) (world : World) (payload : Json)

/-- The prompts that processing a payload sends to the model, on a bench with this store. -/
def promptsFrom (b : Bench) (store : Store) : List String :=
  Review.promptsOf ((process settings world payload).start { b with desk := ⟨store, []⟩ }).2.state.desk.calls

theorem promptsFrom_congr {b : Bench} {store store' : Store}
    (h : Store.SeenAlike (changedBy settings world payload b) store store') :
    promptsFrom settings world payload b store = promptsFrom settings world payload b store' := by
  rw [← changedBy_desk settings world payload b ⟨store, []⟩] at h
  obtain ⟨_, hend, -⟩ := process_beside settings world payload
    (b := { b with desk := ⟨store, []⟩ }) (c := { b with desk := ⟨store', []⟩ }) ⟨store', rfl, h⟩
  rw [promptsFrom, promptsFrom, hend]

def storeAfter (b : Bench) : Store := ((process settings world payload).start b).2.state.desk.store

end Prompts

/-! ## One pull request after another -/

/-- **What one pull request sends to the model does not hang on another that was processed before it**, as long as that
one stored nothing under a changed path of which the store had nothing yet, and learned nothing while there were fewer
learnings than a review is given.  What the store had already hides what comes later only because a review is shown the
oldest of it; were it shown the latest, the other one would have to store nothing under a changed path and learn nothing
at all. -/
theorem prompts_unchanged_by_other (settings : Settings) (world other : World) (payload otherPayload : Json) (b c : Bench)
    (hpaths : ∀ p ∈ changedBy settings world payload c, ∀ k : Collection, k.isByPath = true →
      (storeAfter settings other otherPayload b).Holds k p → b.desk.store.Holds k p)
    (hlearnings : 5 ≤ (b.desk.store.payloads .learnings).length ∨
      (storeAfter settings other otherPayload b).payloads .learnings = b.desk.store.payloads .learnings) :
    promptsFrom settings world payload c (storeAfter settings other otherPayload b) =
      promptsFrom settings world payload c b.desk.store := by
  have hgrown : Store.Grown b.desk.store (storeAfter settings other otherPayload b) :=
    process_grown settings other otherPayload b.desk.store ⟨b, []⟩ (.refl _)
  exact promptsFrom_congr settings world payload (Store.seenAlike_of_grown hgrown hpaths hlearnings)

/-! A pull request that tells something about a path, and one that hears it: their repositories are not the same. -/

def lessonTime : Timestamp := ⟨2024, 1, 2, 3, 4, 5, 0⟩

/-- A world in which everything works, with one file and one review by the bot. -/
def tellingWorld : World :=
  { roughWorld with
    remote :=
      { files := [("a.py", .file [0x78])], diff := "+x", names := "a.py", content := .null, outage := fun _ => none }
    parse := fun _ _ => .ok Node.bare
    forge :=
      { owner := .told ⟨some "p"⟩, collaborators := []
        pull := ⟨some "t", some "", .told ⟨some "u"⟩, some "open", .told lessonTime, .told ⟨some "main"⟩,
          .told ⟨some "dev"⟩⟩
        commits := [.told ⟨some "c0ffee", .told ⟨some "Name x", .told ⟨some "u", .told lessonTime⟩⟩, .told []⟩]
        comments := [.told ⟨some (.int 1), .told ⟨some "code-rabbit-bot"⟩, some "What is x?", .told lessonTime, none⟩]
        outage := fun _ => none }
    store := Review.readyService, oracle := Review.silentOracle, machinery := {} }

def tellingPayload : Json :=
  .object [("action", "opened"), ("pull_request", .object [("number", .int 7), ("title", "t")]),
    ("repository", .object [("clone_url", "https://forge/p/q.git"), ("full_name", "p/q")])]

def tellingRequest : Request :=
  { pull := .object [("number", .int 7), ("title", "t")], installation := .null, number := .int 7, title := "t",
    url := "https://forge/p/q.git", repository := "p/q", base := "main", head := "" }

theorem read_tellingPayload : Request.read tellingPayload = .ok tellingRequest := rfl

def tellingFiles : Files :=
  ⟨[(["temp_repos"], .directory), (["temp_repos", "739ac3e8_pr_7"], .directory (some "https://forge/p/q.git")),
    (["temp_repos", "739ac3e8_pr_7", "a.py"], .file [0x78])]⟩

def tellingCheckout : Context.Checkout := ⟨tellingFiles, ⟨"", ["temp_repos", "739ac3e8_pr_7"]⟩, tellingWorld.parse⟩

def tellingHistory : History :=
  { info := .object [("title", "t"), ("description", ""), ("author", "u"), ("state", "open"),
      ("created_at", "2024-01-02T03:04:05"), ("base_branch", "main"), ("head_branch", "dev")]
    commits := [⟨"c0ffee", "Name x", "u", "2024-01-02T03:04:05", []⟩]
    comments := [⟨.botReview, "What is x?", "code-rabbit-bot", "2024-01-02T03:04:05", .int 1, .null⟩]
    maintainers := some ["p"] }

theorem survey_tellingPayload :
    ((survey usualSettings tellingWorld tellingPayload).perform ⟨freshBench, []⟩).1 =
        .ok (tellingRequest, some ⟨"", ["temp_repos", "739ac3e8_pr_7"]⟩, openedDiff) ∧
      ((survey usualSettings tellingWorld tellingPayload).perform ⟨freshBench, []⟩).2.state.workspace.files =
        tellingFiles :=
  survey_eq_ok read_tellingPayload (by decide +kernel)

theorem learnsFrom_tellingRequest (s : Session Bench) : ∃ context,
    learnsFrom usualSettings tellingWorld tellingRequest openedDiff tellingCheckout s = some (tellingHistory, context) :=
  ⟨_, rfl⟩

def lessonPayload (code : Json) : Json :=
  .object [("type", "learning"), ("commit_sha", "c0ffee"), ("commit_message", "Name x"), ("bot_comment", "What is x?"),
    ("bot_comment_file", ""), ("user_feedback", .null), ("user_feedback_author", .null), ("has_user_feedback", .bool false),
    ("code_context", code)]

def graphPayload : Json := (Store.GraphDigest.ofGraph "a.py" (Graph.ofTree .python "x" Node.bare)).payload

def importsPayload : Json :=
  .object [("type", "import_file"), ("file_path", "a.py"), ("source_code", "x"), ("imports", .list []),
    ("import_count", .int 0)]

theorem python_openedDiff :
    openedDiff.files.zipIdx.filter (fun file => Text.endsWith ".py" file.1) = [("a.py", 0)] := by decide +kernel

theorem pointsFor_tellingCheckout :
    pointsFor tellingCheckout "a.py" = [(.codeGraphs, graphPayload), (.importFiles, importsPayload)] := by
  have hwritten : tellingCheckout.directory.toString ++ "/" ++ "a.py" = "temp_repos/739ac3e8_pr_7/a.py" := by
    decide +kernel
  rw [pointsFor, analysed, hwritten]
  rfl

theorem lessonPoints_tellingHistory (context : String) :
    lessonPoints tellingHistory context = [(.learnings, lessonPayload (.text (Text.clip 1000 context)))] := rfl

theorem isSound_tellingWorld (m : Moment) : (tellingWorld.storeAt m).IsSound := ⟨rfl, fun _ => rfl⟩

/-- Processing it leaves its graph, its source and the lessons of its forge behind what the store had. -/
theorem points_tellingForge {forge : Forge} {h : History}
    (hlearns : ∀ s, ∃ context,
      learnsFrom usualSettings { tellingWorld with forge } tellingRequest openedDiff tellingCheckout s = some (h, context))
    (store : Store) : ∃ context,
    (storeAfter usualSettings { tellingWorld with forge } tellingPayload { freshBench with desk := ⟨store, []⟩ }).points =
      store.points ++ [(.codeGraphs, graphPayload), (.importFiles, importsPayload)] ++ lessonPoints h context := by
  obtain ⟨u, hsurvey, hworkspace, hdesk⟩ :=
    survey_of_workspace survey_tellingPayload.1 (c := { freshBench with desk := ⟨store, []⟩ }) rfl
  have hfiles : u.state.workspace.files = tellingFiles := by rw [hworkspace, survey_tellingPayload.2]
  obtain ⟨context, hlearns⟩ := hlearns u
  have hpoints := process_points usualSettings { tellingWorld with forge } hsurvey
  rw [hfiles] at hpoints
  refine ⟨context, hpoints.trans ?_⟩
  have hindexed : tellingWorld.keptOf tellingCheckout ("a.py", 0) =
      [(.codeGraphs, graphPayload), (.importFiles, importsPayload)] :=
    (kept_eq (isSound_tellingWorld _) (isSound_tellingWorld _)).trans pointsFor_tellingCheckout
  have hlearnt : learnt tellingWorld.lessonStore h context = lessonPoints h context :=
    learnt_eq fun _ => isSound_tellingWorld _
  rw [python_openedDiff, List.flatMap_singleton]
  show store.points ++ tellingWorld.keptOf tellingCheckout ("a.py", 0) ++
    (learnsFrom usualSettings { tellingWorld with forge } tellingRequest openedDiff tellingCheckout u).elim []
      (fun found => learnt tellingWorld.lessonStore found.1 found.2) = _
  rw [hindexed, hlearns, Option.elim_some, hlearnt]

theorem points_tellingPayload (store : Store) : ∃ code,
    (storeAfter usualSettings tellingWorld tellingPayload { freshBench with desk := ⟨store, []⟩ }).points =
      store.points ++
        [(.codeGraphs, graphPayload), (.importFiles, importsPayload), (.learnings, lessonPayload code)] := by
  obtain ⟨context, hpoints⟩ := points_tellingForge learnsFrom_tellingRequest store
  rw [lessonPoints_tellingHistory, List.append_assoc] at hpoints
  exact ⟨_, hpoints⟩

/-- A world in which the one changed file cannot be read. -/
def hearingWorld : World :=
  { roughWorld with store := Review.readyService, oracle := Review.silentOracle, machinery := {} }

def hearingFiles : Files :=
  ⟨[(["temp_repos"], .directory), (["temp_repos", "739ac3e8_pr_7"], .directory (some "https://forge/p/q.git")),
    (["temp_repos", "739ac3e8_pr_7", "a.py"], .file [0x78]),
    (["temp_repos", "3b037e95_pr_5"], .directory (some "https://forge/o/r.git")),
    (["temp_repos", "3b037e95_pr_5", "a.py"], .file [0xFF])]⟩

def hearingCheckout : Context.Checkout := ⟨hearingFiles, ⟨"", ["temp_repos", "3b037e95_pr_5"]⟩, hearingWorld.parse⟩

/-- The bench with what the first of the two did to the files. -/
def toldBench : Bench :=
  { freshBench with
    workspace :=
      { files := tellingFiles
        commands :=
          ((survey usualSettings tellingWorld tellingPayload).perform ⟨freshBench, []⟩).2.state.workspace.commands } }

theorem survey_openedPayload :
    ((survey usualSettings hearingWorld openedPayload).perform ⟨toldBench, []⟩).1 =
        .ok (openedRequest, some ⟨"", ["temp_repos", "3b037e95_pr_5"]⟩, openedDiff) ∧
      ((survey usualSettings hearingWorld openedPayload).perform ⟨toldBench, []⟩).2.state.workspace.files =
        hearingFiles :=
  survey_eq_ok read_openedPayload (by decide +kernel)

theorem build_hearingCheckout (s : Session Bench) : ∃ context,
    ((Context.build hearingCheckout (changes openedDiff openedRequest.title openedRequest.description)
      openedHistory.document hearingWorld.now).perform s).1 = .ok context := ⟨_, rfl⟩

def hearingDossier (context : String) : Review.Dossier :=
  { diff := changes openedDiff openedRequest.title openedRequest.description, context, changedFiles := .ofTexts ["a.py"] }

theorem opened_hearingDossier (context : String) :
    Review.Dossier.opened
        { diff := openedDiff.full, context, event := openedPayload,
          changes := changes openedDiff openedRequest.title openedRequest.description } =
      .ok (hearingDossier context) := rfl

theorem retrieve_hearingDossier (context : String) {store : Store} {graphs imports : List Json} {text : String}
    (hgraphs : Store.firstUnder "a.py" (store.payloads .codeGraphs) = .ok graphs)
    (himports : Store.firstUnder "a.py" (store.payloads .importFiles) = .ok imports)
    (htext : Store.digestText (.list graphs) (.list imports) (.list ((store.payloads .learnings).take 5)) = .ok text)
    (console : List String) :
    (Review.Desk.atStore (Store.retrieve Review.readyService (hearingDossier context).state)).perform
        ⟨⟨store, []⟩, console⟩ =
      (.ok (.completed graphs imports ((store.payloads .learnings).take 5) text), ⟨⟨store, []⟩, console⟩) := by
  have hscroll (c : Collection) : Review.readyService.check .scroll c = .ok () := rfl
  have hstate : (hearingDossier context).state.field "changed_files" (.list []) = .ok (.list ["a.py"]) := rfl
  have hone (found : List Json) : [Json.text "a.py"].flatMap (fun _ => found) = found := by simp
  have hfirst {c : Collection} {found : List Json} (h : Store.firstUnder "a.py" (store.payloads c) = .ok found) :
      ∀ p ∈ [Json.text "a.py"], Store.firstUnder p (store.payloads c) = .ok ((fun _ : Json => found) p) := by
    intro p hp
    rw [List.mem_singleton.1 hp]
    exact h
  have hretrieve := Store.perform_retrieve hscroll hstate (s := ⟨store, console⟩) (hfirst hgraphs) (hfirst himports)
  dsimp only at hretrieve
  rw [hone, hone, htext] at hretrieve
  rw [Review.Desk.atStore, Run.perform_within, hretrieve]

/-- Its run comes to its end with the store as it was: its own file cannot be read. -/
theorem work_openedPayload {c : Bench} (hc : toldBench.workspace = c.workspace) (store : Store) : ∃ (context : String) (x : Session Bench), x.state.desk = ⟨store, []⟩ ∧
      (work usualSettings hearingWorld openedPayload).perform ⟨{ c with desk := ⟨store, []⟩ }, []⟩ =
        (finish usualSettings hearingWorld openedRequest
          { diff := openedDiff.full, context, event := openedPayload,
            changes := changes openedDiff openedRequest.title openedRequest.description }
          openedHistory context).perform x := by
  obtain ⟨u, hsurvey, hworkspace, hdesk⟩ :=
    survey_of_workspace survey_openedPayload.1 (c := { c with desk := ⟨store, []⟩ }) hc
  have hfiles : u.state.workspace.files = hearingFiles := by rw [hworkspace, survey_openedPayload.2]
  have hwritten : hearingCheckout.directory.toString ++ "/" ++ "a.py" = "temp_repos/3b037e95_pr_5/a.py" := by
    decide +kernel
  obtain ⟨console, hindexed⟩ : ∃ console, (indexChanged hearingWorld hearingCheckout ("a.py", 0)).perform
      ⟨u.state.desk.store, u.console⟩ = (.ok (), ⟨u.state.desk.store, console⟩) :=
    perform_indexChanged_unreadable (by rw [hwritten]; rfl) _
  obtain ⟨v, hindex, hv⟩ : ∃ v, (Bench.atStore (Run.each (indexChanged hearingWorld hearingCheckout)
      openedDiff.files.zipIdx)).perform u = (.ok (), v) ∧ v.state.desk = u.state.desk := ⟨_, perform_atStore_each hindexed, rfl⟩
  have htells := history_tells usualSettings hearingWorld openedRequest
  obtain ⟨w, hhistory⟩ :=
    htells.eq_ok ((history_result usualSettings hearingWorld openedRequest v).trans history_openedRequest) v
  have hbuilds := Context.build_tells (σ := Bench) hearingCheckout
    (changes openedDiff openedRequest.title openedRequest.description) openedHistory.document hearingWorld.now
  obtain ⟨context, hcontext⟩ := build_hearingCheckout w
  obtain ⟨x, hbuild⟩ := hbuilds.eq_ok hcontext w
  have hw : w.state.desk = v.state.desk := (htells.preserves (·.desk = v.state.desk)).after hhistory rfl
  have hx : x.state.desk = w.state.desk := (hbuilds.preserves (·.desk = w.state.desk)).after hbuild rfl
  rw [hearingCheckout, ← hfiles] at hindex hbuild
  refine ⟨context, x, by rw [hx, hw, hv, hdesk], ?_⟩
  rw [work_eq_survey, Run.perform_bind_ok hsurvey]
  exact afterDiff_eq_finish usualSettings hearingWorld openedPayload hindex hhistory
    (read_description read_openedPayload) hbuild

/-- What it sends: the digest of what the store has under its path, and of the first learnings. -/
theorem prompts_openedPayload {c : Bench} (hc : toldBench.workspace = c.workspace) {store : Store} {graphs imports : List Json} {text : String}
    (hgraphs : Store.firstUnder "a.py" (store.payloads .codeGraphs) = .ok graphs)
    (himports : Store.firstUnder "a.py" (store.payloads .importFiles) = .ok imports)
    (htext : Store.digestText (.list graphs) (.list imports) (.list ((store.payloads .learnings).take 5)) = .ok text) :
    promptsFrom usualSettings hearingWorld openedPayload c store =
      Review.order.map fun s => Review.prompt s "+x" text := by
  obtain ⟨context, x, hx, hwork⟩ := work_openedPayload hc store
  have hdiff : (hearingDossier context).diffText = "+x" := rfl
  have hasked : (Provider.named? Review.silentOracle.provider).isSome = true := by decide +kernel
  have hsent := Review.promptsOf_run Review.readyService Review.silentOracle (opened_hearingDossier context)
    (retrieve_hearingDossier context hgraphs himports htext x.console)
  rw [Review.flatMap_asked hasked, hdiff] at hsent
  rw [promptsFrom, Run.start_eq, process_state, hwork, finish_calls usualSettings, hx]
  exact hsent

/-- The workspace as the first of the two leaves it, whatever the store is. -/
theorem workspace_tellingPayload (store : Store) :
    toldBench.workspace = ((process usualSettings tellingWorld tellingPayload).start
      { freshBench with desk := ⟨store, []⟩ }).2.state.workspace := by
  obtain ⟨u, hsurvey, hu, -⟩ :=
    survey_of_workspace survey_tellingPayload.1 (c := { freshBench with desk := ⟨store, []⟩ }) rfl
  rw [process_workspace hsurvey, hu, toldBench, ← survey_tellingPayload.2]

def knownPath : Store :=
  .ofPoints [(.codeGraphs, .object [("file_path", "a.py")]), (.importFiles, .object [("file_path", "a.py")])]

def muchLearned : Store := .ofPoints (List.replicate 5 (.learnings, .object []))

def allKnown : Store := .ofPoints (knownPath.points ++ muchLearned.points)

theorem changedBy_openedPayload {c : Bench} (hc : toldBench.workspace = c.workspace) :
    changedBy usualSettings hearingWorld openedPayload c = ["a.py"] := by
  obtain ⟨u, hsurvey, -, -⟩ := survey_of_workspace survey_openedPayload.1 hc
  rw [changedBy, Run.start_eq, hsurvey]
  rfl

theorem holds_allKnown {k : Collection} (hk : k.isByPath = true) : allKnown.Holds k "a.py" := by
  cases k with
  | codeGraphs => exact ⟨_, List.mem_cons_self, by decide +kernel⟩
  | importFiles => exact ⟨_, List.mem_cons_self, by decide +kernel⟩
  | learnings => cases hk

/-- Nothing new is heard where all is known. -/
theorem prompts_unchanged_allKnown :
    let after := ((process usualSettings tellingWorld tellingPayload).start
      { freshBench with desk := ⟨allKnown, []⟩ }).2.state
    changedBy usualSettings hearingWorld openedPayload after = ["a.py"] ∧
      (∀ k : Collection, k.isByPath = true → allKnown.Holds k "a.py") ∧ 5 ≤ (allKnown.payloads .learnings).length ∧
      promptsFrom usualSettings hearingWorld openedPayload after
          (storeAfter usualSettings tellingWorld tellingPayload { freshBench with desk := ⟨allKnown, []⟩ }) =
        promptsFrom usualSettings hearingWorld openedPayload after allKnown := by
  have hchanged := changedBy_openedPayload (workspace_tellingPayload allKnown)
  have hlearned : 5 ≤ (allKnown.payloads .learnings).length := by decide +kernel
  refine ⟨hchanged, fun _ => holds_allKnown, hlearned, ?_⟩
  refine prompts_unchanged_by_other usualSettings hearingWorld tellingWorld openedPayload tellingPayload
    { freshBench with desk := ⟨allKnown, []⟩ } _ ?_ (.inl hlearned)
  intro p hp k hk _
  rw [hchanged] at hp
  rw [List.mem_singleton.1 hp]
  exact holds_allKnown hk

theorem map_prompt_ne {text text' : String} (h : text ≠ text') :
    (Review.order.map fun s => Review.prompt s "+x" text) ≠ Review.order.map fun s => Review.prompt s "+x" text' := by
  intro hsame
  have hquality := List.map_inj_left.1 hsame .quality (by decide)
  exact h (Review.prompt_injective .quality "+x" hquality)

/-- **Repositories hear of each other.**  Where the path is known the lesson is new, and where enough is learned the path
is new: the prompts of the second pull request change with the first, which is another repository's. -/
theorem prompts_changed_by_other :
    Request.read tellingPayload = .ok tellingRequest ∧ Request.read openedPayload = .ok openedRequest ∧
    tellingRequest.url ≠ openedRequest.url ∧ tellingRequest.repository ≠ openedRequest.repository ∧
    ∀ store ∈ [knownPath, muchLearned],
      let before : Bench := { freshBench with desk := ⟨store, []⟩ }
      let after := ((process usualSettings tellingWorld tellingPayload).start before).2.state
      promptsFrom usualSettings hearingWorld openedPayload after
          (storeAfter usualSettings tellingWorld tellingPayload before) ≠
        promptsFrom usualSettings hearingWorld openedPayload after store := by
  refine ⟨rfl, rfl, by simp [tellingRequest, openedRequest], by simp [tellingRequest, openedRequest], ?_⟩
  intro store hstore before after
  have hworkspace := workspace_tellingPayload store
  obtain ⟨code, hpoints⟩ := points_tellingPayload store
  have hpayloads := Store.payloads_append hpoints
  rcases List.mem_cons.1 hstore with rfl | hstore
  · obtain ⟨learned, hlearned, hnew⟩ : ∃ learned, Store.titled "## Past Learnings:" Store.learningLines
        (.list [lessonPayload code]) = .ok learned ∧ learned ≠ [] := ⟨_, rfl, List.cons_ne_nil _ _⟩
    obtain ⟨structured, hstructured, hold⟩ : ∃ structured, Store.titled "\n## Code Structure:" Store.graphLines
        (.list [.object [("file_path", "a.py")]]) = .ok structured ∧ structured ≠ [] := ⟨_, rfl, List.cons_ne_nil _ _⟩
    obtain ⟨sources, hsources⟩ : ∃ sources, Store.titled "\n## Source Code:" Store.importLines
        (.list [.object [("file_path", "a.py")]]) = .ok sources := ⟨_, rfl⟩
    have hafter := prompts_openedPayload hworkspace (by rw [hpayloads]; rfl) (by rw [hpayloads]; rfl)
      (by rw [hpayloads]; exact Store.digestText_eq hlearned hstructured hsources)
    have hbefore : promptsFrom usualSettings hearingWorld openedPayload after knownPath = _ :=
      prompts_openedPayload hworkspace rfl rfl (Store.digestText_eq rfl hstructured hsources)
    rw [hafter, hbefore, List.append_assoc, List.append_assoc]
    -- the lines of the lesson stand before those that were there
    exact map_prompt_ne (Text.joinLines_append_ne hnew (List.append_ne_nil_of_left_ne_nil hold _)).2
  · obtain rfl := List.mem_singleton.1 hstore
    obtain ⟨learned, hlearned, hold⟩ : ∃ learned, Store.titled "## Past Learnings:" Store.learningLines
        (.list (List.replicate 5 (.object []))) = .ok learned ∧ learned ≠ [] := ⟨_, rfl, List.cons_ne_nil _ _⟩
    obtain ⟨structured, hstructured, hnew⟩ : ∃ structured, Store.titled "\n## Code Structure:" Store.graphLines
        (.list [graphPayload]) = .ok structured ∧ structured ≠ [] := ⟨_, rfl, List.cons_ne_nil _ _⟩
    obtain ⟨sources, hsources⟩ : ∃ sources, Store.titled "\n## Source Code:" Store.importLines
        (.list [importsPayload]) = .ok sources := ⟨_, rfl⟩
    have hafter := prompts_openedPayload hworkspace (by rw [hpayloads]; rfl) (by rw [hpayloads]; rfl)
      (by rw [hpayloads]; exact Store.digestText_eq hlearned hstructured hsources)
    have hbefore : promptsFrom usualSettings hearingWorld openedPayload after muchLearned = _ :=
      prompts_openedPayload hworkspace rfl rfl (Store.digestText_eq hlearned rfl rfl)
    rw [hafter, hbefore, List.append_assoc, List.append_nil, List.append_nil]
    -- the lines of the file stand behind those that were there
    exact map_prompt_ne (Text.joinLines_append_ne hold (List.append_ne_nil_of_left_ne_nil hnew _)).1

end Webhook
end PullReview
