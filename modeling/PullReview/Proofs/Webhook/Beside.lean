import PullReview.Proofs.Webhook.Stored
/-!
# Processing beside another store

All pull requests share one store.  On two stores that look alike to what a pull request changes, processing it does the
same, calls to the model included, and the stores look alike still (`process_beside`).
-/
namespace PullReview

/-! ## A review on two stores -/

namespace Review

/-- Two desks that differ in their stores at most, which look alike. -/
def Desk.Beside (paths : List String) (d e : Desk) : Prop :=
  ∃ store, e = { d with store } ∧ Store.SeenAlike paths d.store store

variable {paths : List String}

theorem Desk.atStore_alike {α β : Type} {Q : α → β → Prop} {x : Run Store α} {y : Run Store β}
    (h : Run.Alike (Store.SeenAlike paths) Q x y) :
    Run.Alike (Desk.Beside paths) Q (Desk.atStore x) (Desk.atStore y) := by
  refine h.within ?_ ?_
  · rintro d _ ⟨store, rfl, hseen⟩
    exact hseen
  · rintro d _ u v ⟨store, rfl, -⟩ hseen
    exact ⟨v, rfl, hseen⟩

theorem Desk.atModel_alike {α : Type} (x : Run (List ModelCall) α) :
    Run.Alike (Desk.Beside paths) Eq (Desk.atModel x) (Desk.atModel x) := by
  refine (Run.Alike.same x).within ?_ ?_
  · rintro d _ ⟨store, rfl, -⟩
    rfl
  · rintro d _ u _ ⟨store, rfl, hseen⟩ rfl
    exact ⟨store, rfl, hseen⟩

theorem examine_alike (svc : Store.Service) (oracle : Oracle) {d : Dossier} (hd : d.changedFiles = .ofTexts paths) :
    Run.Alike (Desk.Beside paths) Eq (examine svc oracle d) (examine svc oracle d) := by
  have hstate : d.state.field "changed_files" (.list []) = .ok (.ofTexts paths) := by
    rw [← hd]
    simp [Dossier.state, Json.field, Json.lookup]
  have hopinions (state : Json) : Run.Alike (Desk.Beside paths) Eq (opinions oracle state) (opinions oracle state) := by
    refine Run.Alike.mapEach fun s _ => (Desk.atModel_alike _).bind fun o o' ho => ?_
    subst ho
    exact Run.Alike.pure rfl
  unfold examine
  refine (Desk.atStore_alike (Store.retrieve_alike svc hstate)).bind fun r r' hr => ?_
  subst hr
  refine (hopinions _).bind fun formed formed' hformed => ?_
  subst hformed
  exact Run.Alike.pure rfl

theorem run_alike (machinery : Machinery) (svc : Store.Service) (oracle : Oracle) {m : Matter}
    (hm : m.listed = .ok (.ofTexts paths)) :
    Run.Alike (Desk.Beside paths) Eq (run machinery svc oracle m) (run machinery svc oracle m) := by
  unfold run
  cases machinery.assembly with
  | some reason => exact Run.Alike.throw _
  | none =>
    refine (Run.Alike.of_result _).bind fun d d' hd => ?_
    obtain ⟨rfl, hopened⟩ := hd
    have hchanged : d.changedFiles = .ofTexts paths := Except.ok.inj ((opened_start hopened).1.symm.trans hm)
    cases machinery.operation with
    | some reason => exact Run.Alike.pure rfl
    | none =>
      refine (examine_alike svc oracle hchanged).bind fun e e' he => ?_
      subst he
      exact Run.Alike.pure rfl

end Review

namespace Webhook

/-! ## Processing on two stores -/

/-- Two benches that differ in their stores at most, which look alike. -/
def Beside (paths : List String) (b c : Bench) : Prop :=
  ∃ store, c = { b with desk := { b.desk with store } } ∧ Store.SeenAlike paths b.desk.store store

variable {paths : List String}

/-- Benches related so are at work on the same files. -/
def SharesWorkspace (R : Bench → Bench → Prop) : Prop :=
  ∀ b c, R b c → b.workspace = c.workspace ∧ ∀ workspace, R { b with workspace } { c with workspace }

theorem beside_sharesWorkspace : SharesWorkspace (Beside paths) := by
  rintro b _ ⟨store, rfl, hseen⟩
  exact ⟨rfl, fun _ => ⟨store, rfl, hseen⟩⟩

theorem sameWorkspace_sharesWorkspace : SharesWorkspace fun b c => b.workspace = c.workspace :=
  fun _ _ h => ⟨h, fun _ => rfl⟩

theorem atWorkspace_alike {α : Type} {R : Bench → Bench → Prop} (hR : SharesWorkspace R) (x : Run Clone.Workspace α) :
    Run.Alike R Eq (Bench.atWorkspace x) (Bench.atWorkspace x) := by
  refine (Run.Alike.same x).within (fun b c h => (hR b c h).1) ?_
  rintro b c workspace _ h rfl
  exact (hR b c h).2 workspace

theorem atPosts_alike {α : Type} (x : Run (List Forge.Post) α) :
    Run.Alike (Beside paths) Eq (Bench.atPosts x) (Bench.atPosts x) := by
  refine (Run.Alike.same x).within ?_ ?_
  · rintro b _ ⟨store, rfl, -⟩
    rfl
  · rintro b _ u _ ⟨store, rfl, hseen⟩ rfl
    exact ⟨store, rfl, hseen⟩

theorem atDesk_alike {α β : Type} {Q : α → β → Prop} {x : Run Review.Desk α} {y : Run Review.Desk β}
    (h : Run.Alike (Review.Desk.Beside paths) Q x y) :
    Run.Alike (Beside paths) Q (Bench.atDesk x) (Bench.atDesk y) := by
  refine h.within ?_ ?_
  · rintro b _ ⟨store, rfl, hseen⟩
    exact ⟨store, rfl, hseen⟩
  · rintro b _ d _ ⟨store, rfl, -⟩ ⟨store', rfl, hseen⟩
    exact ⟨store', rfl, hseen⟩

theorem indexChanged_alike (world : World) (c : Context.Checkout) (file : String × Nat) :
    Run.Alike (Store.SeenAlike paths) Eq (indexChanged world c file) (indexChanged world c file) := by
  have hfile : Run.Alike (Store.SeenAlike paths) Eq (indexFile world c file.1 file.2)
      (indexFile world c file.1 file.2) := by
    unfold indexFile
    refine (Run.Alike.of _).bind fun source source' hsource => ?_
    subst hsource
    refine (Run.Alike.of _).bind fun tree tree' htree => ?_
    subst htree
    simp only [Store.indexGraph_eq, Store.indexImports_eq]
    exact (Store.addEntry_alike _ _ _).bind fun _ _ _ => (Store.addEntry_alike _ _ _).bind fun _ _ _ =>
      Run.Alike.pure rfl
  unfold indexChanged
  split
  · exact hfile.orElse fun _ => Run.Alike.say _
  · exact Run.Alike.pure rfl

theorem learn_alike (world : World) (h : History) (context : String) :
    Run.Alike (Beside paths) Eq (learn world h context) (learn world h context) := by
  unfold learn
  split
  · exact Run.Alike.pure rfl
  · refine Run.Alike.orElse ?_ fun _ => Run.Alike.say _
    refine atDesk_alike (Review.Desk.atStore_alike (Run.Alike.each fun lesson _ => ?_))
    simp only [indexLesson, Store.indexLearning_eq]
    exact (Store.addEntry_alike _ _ _).bind fun _ _ _ => Run.Alike.pure rfl

theorem post_alike (settings : Settings) (world : World) (r : Request) (document : Json) :
    Run.Alike (Beside paths) Eq (post settings world r document) (post settings world r document) := by
  have hsigned : Run.Alike (Beside paths) Eq (post.signedIn settings world r document)
      (post.signedIn settings world r document) := by
    unfold post.signedIn
    refine Run.Alike.state.bind fun b c hbeside => ?_
    obtain ⟨store, rfl, -⟩ := hbeside
    refine (Run.Alike.of _).bind fun credentials credentials' hcredentials => ?_
    subst hcredentials
    refine Run.Alike.bind (Run.Alike.update ?_) fun _ _ _ => atPosts_alike _
    rintro b _ ⟨store, rfl, hseen⟩
    exact ⟨store, rfl, hseen⟩
  exact hsigned.orElse fun _ => Run.Alike.say _

theorem review_alike (world : World) {matter : Review.Matter} (hlisted : matter.listed = .ok (.ofTexts paths)) :
    Run.Alike (Beside paths) Eq (review world matter) (review world matter) := by
  have hmade : Run.Alike (Beside paths) Eq (review.made world matter) (review.made world matter) := by
    unfold review.made
    refine (atDesk_alike (Review.run_alike _ _ _ hlisted)).bind fun o o' ho => ?_
    subst ho
    exact Run.Alike.pure rfl
  exact hmade.orElse fun _ => (Run.Alike.say _).bind fun _ _ _ => Run.Alike.pure rfl

theorem listed_changes (diff : Diff) (title description full context event : Json) :
    Review.Matter.listed { diff := full, context, event, changes := changes diff title description } =
      .ok (.ofTexts diff.files) := by
  simp [Review.Matter.listed, changes, Diff.fields, Json.isGiven, Json.field, Json.lookup]

section Processing

variable (settings : Settings) (world : World) (payload : Json)

theorem survey_alike {R : Bench → Bench → Prop} (hR : SharesWorkspace R) :
    Run.Alike R Eq (survey settings world payload) (survey settings world payload) := by
  unfold survey
  refine (Run.Alike.of _).bind fun r r' hr => ?_
  subst hr
  refine (atWorkspace_alike hR _).bind fun directory directory' hdirectory => ?_
  subst hdirectory
  have hdiff : Run.Alike R Eq (diff world r directory) (diff world r directory) := by
    unfold diff
    cases directory with
    | none => exact Run.Alike.throw _
    | some directory => exact atWorkspace_alike hR _
  refine hdiff.bind fun found found' hfound => ?_
  subst hfound
  exact Run.Alike.pure rfl

variable {settings world payload} in
/-- What is found out hangs on the workspace alone. -/
theorem survey_of_workspace {b : Bench} {found : Request × Option Path × Diff}
    (hb : ((survey settings world payload).perform ⟨b, []⟩).1 = .ok found) {c : Bench} (h : b.workspace = c.workspace) : ∃ u,
      (survey settings world payload).perform ⟨c, []⟩ = (.ok found, u) ∧
        u.state.workspace = ((survey settings world payload).perform ⟨b, []⟩).2.state.workspace ∧
        u.state.desk = c.desk := by
  obtain ⟨hsame, hworkspace, -⟩ :=
    survey_alike settings world payload sameWorkspace_sharesWorkspace ⟨b, []⟩ ⟨c, []⟩ h rfl
  exact ⟨_, Prod.ext (hsame.eq.symm.trans hb) rfl, hworkspace.symm,
    survey_desk settings world payload (· = c.desk) ⟨c, []⟩ rfl⟩

/-- What is gathered for the review is the same, and lists the paths that are changed. -/
theorem gather_alike (r : Request) (directory : Option Path) (diff : Diff) :
    Run.Alike (Beside diff.files)
      (fun found found' => found = found' ∧ ∀ matter ∈ found.map (·.1), matter.listed = .ok (.ofTexts diff.files))
      (gather settings world payload r directory diff) (gather settings world payload r directory diff) := by
  unfold gather
  refine Run.Alike.state.bind fun b c hbeside => ?_
  obtain ⟨store, rfl, -⟩ := hbeside
  dsimp only
  refine Run.Alike.bind (atDesk_alike (Review.Desk.atStore_alike (Run.Alike.each fun file _ =>
    indexChanged_alike world _ file))) fun _ _ _ => ?_
  refine (Run.Alike.of_tells (history_tells settings world r)).bind fun h h' hh => ?_
  subst hh
  refine (Run.Alike.of _).bind fun description description' hdescription => ?_
  subst hdescription
  refine (Run.Alike.of_tells (describe_tells world _ _ _)).bind fun context context' hcontext => ?_
  subst hcontext
  refine Run.Alike.pure ⟨rfl, fun matter hmatter => ?_⟩
  simp only [Option.map_map, Option.mem_def, Option.map_eq_some_iff] at hmatter
  obtain ⟨text, -, rfl⟩ := hmatter
  exact listed_changes _ _ _ _ _ _

theorem afterDiff_alike (r : Request) (directory : Option Path) (diff : Diff) :
    Run.Alike (Beside diff.files) Eq (afterDiff settings world payload r directory diff)
      (afterDiff settings world payload r directory diff) := by
  unfold afterDiff
  refine (gather_alike settings world payload r directory diff).bind fun found found' hfound => ?_
  obtain ⟨rfl, hlisted⟩ := hfound
  rcases found with _ | ⟨matter, h, context⟩
  · exact Run.Alike.pure rfl
  · refine (review_alike world (hlisted matter rfl)).bind fun document document' hdocument => ?_
    subst hdocument
    exact (learn_alike world h context).bind fun _ _ _ => post_alike settings world r document

/-- The paths that a payload's pull request changes; none if that cannot be found out. -/
def changedBy (b : Bench) : List String :=
  match ((survey settings world payload).start b).1 with
  | .ok (_, _, diff) => diff.files
  | .error _ => []

/-- What a pull request changes does not hang on the desk. -/
theorem changedBy_desk (b : Bench) (desk : Review.Desk) :
    changedBy settings world payload { b with desk } = changedBy settings world payload b := by
  have hsame := (survey_alike settings world payload sameWorkspace_sharesWorkspace ⟨{ b with desk }, []⟩ ⟨b, []⟩
    rfl rfl).1.eq
  rw [changedBy, Run.start_eq, hsame, changedBy, Run.start_eq]

/-- **Processing is the same on stores that look alike** to what the pull request changes. -/
theorem process_beside {b c : Bench} (h : Beside (changedBy settings world payload b) b c) :
    Beside (changedBy settings world payload b) ((process settings world payload).start b).2.state
      ((process settings world payload).start c).2.state := by
  obtain ⟨hfound, hstate, hconsole⟩ :=
    survey_alike settings world payload beside_sharesWorkspace ⟨b, []⟩ ⟨c, []⟩ h rfl
  rw [Run.start_eq, Run.start_eq, process, Run.perform_orElse, Run.perform_orElse, work_eq_survey, Run.perform_bind,
    Run.perform_bind]
  rcases hb : (survey settings world payload).perform ⟨b, []⟩ with ⟨found, s⟩
  rcases hc : (survey settings world payload).perform ⟨c, []⟩ with ⟨found', t⟩
  rw [hb, hc] at hfound hstate hconsole
  cases hfound with
  | error cause => exact hstate
  | @ok found _ hsame =>
    subst hsame
    have hpaths : changedBy settings world payload b = found.2.2.files := by rw [changedBy, Run.start_eq, hb]
    rw [hpaths] at hstate ⊢
    obtain ⟨hdone, hstate, -⟩ :=
      afterDiff_alike settings world payload found.1 found.2.1 found.2.2 s t hstate hconsole
    dsimp only at hdone hstate ⊢
    rcases hs : (afterDiff settings world payload found.1 found.2.1 found.2.2).perform s with ⟨done, u⟩
    rcases ht : (afterDiff settings world payload found.1 found.2.1 found.2.2).perform t with ⟨done', v⟩
    rw [hs, ht] at hdone hstate
    -- what stops the work is reported in both
    cases hdone with
    | error cause => exact hstate
    | ok _ => exact hstate

end Processing

end Webhook
end PullReview
