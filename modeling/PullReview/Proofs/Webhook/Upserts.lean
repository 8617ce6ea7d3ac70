import PullReview.Proofs.Webhook.Sharing
/-!
# What a run leaves in the store

Each changed file of Python leaves a beginning of its graph and its imports, by what goes wrong at its own two moments
alone, and after all files the history leaves a beginning of its lessons (`process_upserts`).
-/
namespace PullReview
namespace Webhook

theorem process_points_stopped {settings : Settings} (world : World) {payload : Json} {b : Bench} {cause : Fault}
    {t : Session Bench} (hsurvey : (survey settings world payload).perform ⟨b, []⟩ = (.error cause, t)) :
    (storeAfter settings world payload b).points = b.desk.store.points := by
  have hdesk := survey_desk settings world payload (· = b.desk) ⟨b, []⟩ rfl
  rw [hsurvey] at hdesk
  rw [storeAfter, Run.start_eq, process_state, work_eq_survey, Run.perform_bind_error hsurvey, hdesk]

/-- **The points of a run, whatever goes wrong with the store's services and when.**  They are, in the order of the
diff, a beginning of the graph and the imports of each changed file of Python, and then a beginning of the lessons; all
of them where nothing goes wrong.  What stays of a file hangs on its own two moments, and on nothing that happens to
another. -/
theorem process_upserts (settings : Settings) (world : World) (payload : Json) (b : Bench) :
    match (survey settings world payload).perform ⟨b, []⟩ with
    | (.error _, _) => ∀ mishap, (storeAfter settings { world with mishap } payload b).points = b.desk.store.points
    | (.ok (r, directory, diff), t) =>
      let c : Context.Checkout := ⟨t.state.workspace.files, directory.getD ⟨"", []⟩, world.parse⟩
      let found := learnsFrom settings world r diff c t
      (∀ mishap, (storeAfter settings { world with mishap } payload b).points =
        b.desk.store.points ++
          (diff.files.zipIdx.filter fun file => Text.endsWith ".py" file.1).flatMap (fun file =>
            kept (world.store.amid (mishap (.graph file.2))) (world.store.amid (mishap (.imports file.2))) c file.1) ++
          found.elim [] fun source => learnt (fun i => world.store.amid (mishap (.lesson i))) source.1 source.2) ∧
      (∀ svc svc' path, kept svc svc' c path <+: pointsFor c path ∧
        (svc.IsSound → svc'.IsSound → kept svc svc' c path = pointsFor c path)) ∧
      ∀ svcs, ∀ source ∈ found, learnt svcs source.1 source.2 <+: lessonPoints source.1 source.2 ∧
        ((∀ i, (svcs i).IsSound) → learnt svcs source.1 source.2 = lessonPoints source.1 source.2) := by
  split
  · rename_i cause t hsurvey
    exact fun mishap => process_points_stopped { world with mishap } hsurvey
  · rename_i r directory diff t hsurvey
    refine ⟨fun mishap => ?_, fun svc svc' path => ⟨kept_isPrefix, kept_eq⟩,
      fun svcs source _ => ⟨learnt_isPrefix, learnt_eq⟩⟩
    exact process_points settings { world with mishap } hsurvey

/-- The store is full when the first file's imports are to be added. -/
def importsLost (m : Moment) : Store.Mishap := if m = .imports 0 then { outage := fun _ => some "full" } else {}

theorem kept_importsLost :
    kept (tellingWorld.store.amid (importsLost (.graph 0))) (tellingWorld.store.amid (importsLost (.imports 0)))
      tellingCheckout "a.py" = [(.codeGraphs, graphPayload)] := by
  have hpoints := pointsFor_tellingCheckout
  unfold pointsFor at hpoints
  unfold kept fileAttempts
  cases hanalysed : analysed tellingCheckout "a.py" with
  | error cause =>
    rw [hanalysed] at hpoints
    cases hpoints
  | ok found =>
    rw [hanalysed] at hpoints
    obtain ⟨text, hentry⟩ := Store.graphEntry_eq_ok (.text "a.py") (Graph.ofTree .python found.1 found.2)
    dsimp only at hpoints ⊢
    rw [Store.accepted, hentry, Store.stored, Store.taken_of_isSound ⟨rfl, fun _ => rfl⟩,
      Store.accepted_refused [] (show _ = some "full" from rfl)]
    exact congrArg (List.take 1) hpoints

theorem process_upserts_importsLost : ∃ code,
    (storeAfter usualSettings { tellingWorld with mishap := importsLost } tellingPayload freshBench).points =
      [(.codeGraphs, graphPayload), (.learnings, lessonPayload code)] := by
  have hupserts := process_upserts usualSettings tellingWorld tellingPayload freshBench
  obtain ⟨hfound, hfiles⟩ := survey_tellingPayload
  rcases hsurvey : (survey usualSettings tellingWorld tellingPayload).perform ⟨freshBench, []⟩ with ⟨result, t⟩
  rw [hsurvey] at hupserts hfound hfiles
  dsimp only at hfound hfiles
  subst hfound
  obtain ⟨hpoints, -, hlearnt⟩ := hupserts
  obtain ⟨context, hlearns⟩ := learnsFrom_tellingRequest t
  rw [hfiles] at hpoints hlearnt
  replace hlearnt := (hlearnt (fun i => tellingWorld.store.amid (importsLost (.lesson i))) _ hlearns).2 fun _ =>
    ⟨rfl, fun _ => rfl⟩
  refine ⟨.text (Text.clip 1000 context), (hpoints importsLost).trans ?_⟩
  rw [python_openedDiff, List.flatMap_singleton]
  show [] ++ kept _ _ tellingCheckout "a.py" ++
    (learnsFrom usualSettings tellingWorld tellingRequest openedDiff tellingCheckout t).elim [] _ = _
  -- the lessons are kept although the imports before them are not
  rw [kept_importsLost, hlearns, Option.elim_some, hlearnt]
  rfl

end Webhook
end PullReview
