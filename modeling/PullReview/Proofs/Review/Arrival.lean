import PullReview.Proofs.Review.Isolation
import PullReview.Review.Board
/-!
# Whoever comes first

A review on a board is the review that is done one step after the other.  A board *shows* a dossier when its channels
hold what the dossier holds (`Board.Shows`), and what a station hands in makes of such a board one that shows the next
dossier (`shows_retrieved`, `shows_opinion`, `shows_verdict`).  The order in which the reviewers come in decides only
in which order their errors stand (`told_perm`).  So every order comes to the same review (`review_any_order`).
-/
namespace PullReview
namespace Review

/-! ## Dossiers that differ in the order of errors -/

namespace Dossier

/-- The same dossier, with the errors in an order of their own. -/
def Agrees (d e : Dossier) : Prop := ∃ errors, errors.Perm d.errors ∧ e = { d with errors }

variable {d e f : Dossier}

theorem Agrees.refl (d : Dossier) : d.Agrees d := ⟨d.errors, .refl _, rfl⟩

theorem Agrees.trans (hde : d.Agrees e) (hef : e.Agrees f) : d.Agrees f := by
  obtain ⟨errors, herrors, rfl⟩ := hde
  obtain ⟨errors', herrors', rfl⟩ := hef
  exact ⟨errors', herrors'.trans herrors, rfl⟩

theorem Agrees.withOpinion (h : d.Agrees e) (s : Specialty) (o : Opinion) :
    (d.withOpinion s o).Agrees (e.withOpinion s o) := by
  obtain ⟨errors, herrors, rfl⟩ := h
  exact ⟨errors ++ o.errors, herrors.append_right o.errors, rfl⟩

theorem Agrees.reports (h : d.Agrees e) : e.reports = d.reports := by
  obtain ⟨errors, -, rfl⟩ := h
  rfl

/-- Two reviewers write to places of their own. -/
theorem withOpinion_comm (d : Dossier) {s t : Specialty} (h : s ≠ t) (o p : Opinion) :
    ((d.withOpinion s o).withOpinion t p).Agrees ((d.withOpinion t p).withOpinion s o) := by
  refine ⟨d.errors ++ p.errors ++ o.errors, ?_, ?_⟩
  · show (d.errors ++ p.errors ++ o.errors).Perm (d.errors ++ o.errors ++ p.errors)
    rw [List.append_assoc, List.append_assoc]
    exact List.perm_append_comm.append_left d.errors
  · unfold withOpinion
    congr 1 <;> funext u <;> by_cases hs : u = s <;> by_cases ht : u = t <;> simp_all

/-- The dossier with the opinions of some reviewers, as they come. -/
def told (d : Dossier) (opinionOf : Specialty → Opinion) (arrival : List Specialty) : Dossier :=
  arrival.foldl (fun e s => e.withOpinion s (opinionOf s)) d

variable (opinionOf : Specialty → Opinion)

theorem Agrees.told (arrival : List Specialty) (h : d.Agrees e) :
    (d.told opinionOf arrival).Agrees (e.told opinionOf arrival) := by
  induction arrival generalizing d e with
  | nil => exact h
  | cons s rest ih => exact ih (h.withOpinion s (opinionOf s))

/-- **The order in which opinions come decides only on the order of errors.** -/
theorem told_perm {arrival arrival' : List Specialty} (h : arrival.Perm arrival') (hnodup : arrival.Nodup)
    (d : Dossier) : (d.told opinionOf arrival).Agrees (d.told opinionOf arrival') := by
  induction h generalizing d with
  | nil => exact Agrees.refl d
  | cons s _ ih => exact ih (List.nodup_cons.1 hnodup).2 _
  | swap s t rest =>
    have hne : t ≠ s := fun h => (List.nodup_cons.1 hnodup).1 (by rw [h]; exact List.mem_cons_self)
    exact (withOpinion_comm d hne (opinionOf t) (opinionOf s)).told opinionOf rest
  | trans hfirst _ ih ih' => exact (ih hnodup d).trans (ih' (hfirst.nodup_iff.1 hnodup) d)

theorem told_verdict (d : Dossier) (arrival : List Specialty) : (d.told opinionOf arrival).verdict = d.verdict := by
  induction arrival generalizing d with
  | nil => rfl
  | cons s rest ih => exact ih (d.withOpinion s (opinionOf s))

theorem withRetrieved_verdict (d : Dossier) (r : Store.Retrieved) : (d.withRetrieved r).verdict = d.verdict := by
  cases r <;> rfl

end Dossier

/-! ## Reading the board -/

/-- **Every channel is found under its name.** -/
theorem field_state (b : Board) (c : Channel) (otherwise : Json) : b.state.field c.name otherwise = .ok (b c) := by
  unfold Board.state Json.field
  cases c with
  | status s =>
    cases s with
    | reviewer s => cases s <;> simp [Channel.all, Specialty.all, Channel.name, Json.lookup]
    | _ => simp [Channel.all, Specialty.all, Channel.name, Json.lookup]
  | report s => cases s <;> simp [Channel.all, Specialty.all, Channel.name, Json.lookup]
  | _ => simp [Channel.all, Specialty.all, Channel.name, Json.lookup]

def Dossier.aggregation (d : Dossier) : Status := (d.verdict.map Verdict.status).getD .pending

structure Board.Shows (b : Board) (d : Dossier) : Prop where
  changes : b .changes = d.diff
  changedFiles : b .changedFiles = d.changedFiles
  context : b .context = d.context
  graphs : ∃ items, b .graphs = .list items
  imports : ∃ items, b .imports = .list items
  learnings : ∃ items, b .learnings = .list items
  report : ∀ s, b (.report s) = d.report s
  retrieval : b (.status .retrieval) = .text d.retrieval.name
  status : ∀ s, b (.status (.reviewer s)) = .text (d.status s).name
  aggregation : b (.status .aggregation) = .text d.aggregation.name
  summary : b .summary = .text d.outcome.summary
  inlineComments : b .inlineComments = .list []
  total : b .total = .int d.outcome.total
  errors : b .errors = .ofTexts d.errors

section Reading

variable {b : Board} {d : Dossier}

theorem promptFor_of_shows (h : b.Shows d) (s : Specialty) : promptFor b.state s = promptFor d.state s := by
  have hcontext : b.state.field "comprehensive_context" "" = .ok d.context :=
    (field_state b .context "").trans (congrArg Except.ok h.context)
  have hchanges : b.state.field "diff_data" (.object []) = .ok d.diff :=
    (field_state b .changes (.object [])).trans (congrArg Except.ok h.changes)
  have hcontext' : d.state.field "comprehensive_context" "" = .ok d.context := by
    simp [Dossier.state, Json.field, Json.lookup]
  have hchanges' : d.state.field "diff_data" (.object []) = .ok d.diff := by
    simp [Dossier.state, Json.field, Json.lookup]
  unfold promptFor
  rw [hcontext, hchanges, hcontext', hchanges']

theorem answer_of_shows (h : b.Shows d) (oracle : Oracle) (s : Specialty) :
    answer oracle b.state s = answer oracle d.state s := by
  unfold answer
  rw [promptFor_of_shows h s]

theorem retrieve_of_shows (h : b.Shows d) (svc : Store.Service) :
    Store.retrieve svc b.state = Store.retrieve svc d.state := by
  have hpaths : b.state.field "changed_files" (.list []) = .ok d.changedFiles :=
    (field_state b .changedFiles (.list [])).trans (congrArg Except.ok h.changedFiles)
  have hpaths' : d.state.field "changed_files" (.list []) = .ok d.changedFiles := by
    simp [Dossier.state, Json.field, Json.lookup]
  unfold Store.retrieve Store.retrieve.fetch
  rw [hpaths, hpaths']

theorem find_status (status : Status) :
    (Status.all.find? fun other => (Json.text status.name).isText other.name) = some status := by
  cases status <;> decide +kernel

theorem reports_of_shows (h : b.Shows d) : b.reports = d.reports := by
  have hstatus (s : Specialty) :
      (Status.all.find? fun status => (b (.status (.reviewer s))).isText status.name) = some (d.status s) := by
    rw [h.status s, find_status]
  have hreport : (fun s => b (.report s)) = d.report := funext h.report
  unfold Board.reports Dossier.reports
  rw [hreport, funext hstatus, h.changedFiles]

end Reading

/-! ## Taking in what stations hand in -/

section Absorbing

variable {b : Board} {d : Dossier}

/-- A list that is handed in stands behind the one before. -/
theorem absorb_list {c : Channel} (hrule : c.rule = .append) {old : List Json} (h : b c = .list old)
    (new : List Json) (u : Update) : b.absorb ((c, .list new) :: u) = (b.set c (.list (old ++ new))).absorb u := by
  have hput : b.put c (.list new) = some (b.set c (.list (old ++ new))) := by
    rw [Board.put, hrule, h]
    rfl
  show (b.put c (.list new) >>= fun d => d.absorb u) = _
  rw [hput]
  rfl

theorem absorb_telling {said : List String} (h : b .errors = .ofTexts said) (errors : List String) :
    b.absorb (.telling errors) = some (b.set .errors (.ofTexts (said ++ errors))) := by
  cases errors with
  | nil =>
    have hset : b.set .errors (.ofTexts (said ++ [])) = b := by
      funext c
      by_cases hc : c = .errors
      · rw [Board.set, if_pos hc, hc, h, List.append_nil]
      · rw [Board.set, if_neg hc]
    rw [hset]
    rfl
  | cons first rest =>
    have htold := absorb_list (c := .errors) rfl h ((first :: rest).map Json.text) []
    rw [← List.map_append] at htold
    exact htold

theorem set_apply (b : Board) (c e : Channel) (v : Json) : b.set c v e = if e = c then v else b e := rfl

theorem shows_opinion (h : b.Shows d) (s : Specialty) (o : Opinion) :
    ∃ c, b.absorb (.ofOpinion s o) = some c ∧ c.Shows (d.withOpinion s o) := by
  obtain ⟨c, hc⟩ : ∃ c, c = (b.set (.report s) (.ofOption o.report)).set (.status (.reviewer s)) o.status.name :=
    ⟨_, rfl⟩
  have hreported : b.absorb (.ofOpinion s o) = c.absorb (.telling o.errors) := by rw [hc]; rfl
  have herrors : c .errors = .ofTexts d.errors := by rw [hc]; exact h.errors
  refine ⟨_, hreported.trans (absorb_telling herrors o.errors), ?_⟩
  subst hc
  exact { h with
    report := fun t => by
      simp only [set_apply, Channel.report.injEq, reduceCtorEq, if_false, Dossier.withOpinion, h.report]
    status := fun t => by
      simp only [set_apply, Channel.status.injEq, Station.reviewer.injEq, reduceCtorEq, if_false, Dossier.withOpinion,
        h.status]
      split <;> rfl
    errors := rfl }

theorem shows_retrieved (h : b.Shows d) (r : Store.Retrieved) :
    ∃ c, b.absorb (.ofRetrieved r) = some c ∧ c.Shows (d.withRetrieved r) := by
  cases r with
  | failed cause =>
    have hfailed : b.absorb (.ofRetrieved (.failed cause)) =
        (b.set (.status .retrieval) Status.failed.name).absorb
          (.telling ["Context fetcher failed: " ++ cause.message]) := rfl
    have herrors : b.set (.status .retrieval) Status.failed.name .errors = .ofTexts d.errors := h.errors
    exact ⟨_, hfailed.trans (absorb_telling herrors _), { h with retrieval := rfl, errors := rfl }⟩
  | completed graphs imports learnings text =>
    obtain ⟨known, hgraphs⟩ := h.graphs
    obtain ⟨sources, himports⟩ := h.imports
    obtain ⟨learned, hlearnings⟩ := h.learnings
    -- what was found before is merged or appended to, and the rest is replaced
    obtain ⟨c, hc⟩ : ∃ c, c = b.set .found ((b .found).merge (.object [("code_graphs", .list graphs),
      ("import_files", .list imports), ("learnings", .list learnings)])) := ⟨_, rfl⟩
    have hgraphs : c .graphs = .list known := by rw [hc]; exact hgraphs
    have himports : c.set .graphs (.list (known ++ graphs)) .imports = .list sources := by rw [hc]; exact himports
    have hlearnings : (c.set .graphs (.list (known ++ graphs))).set .imports (.list (sources ++ imports)) .learnings =
        .list learned := by rw [hc]; exact hlearnings
    have htaken : b.absorb (.ofRetrieved (.completed graphs imports learnings text)) =
        some (((((c.set .graphs (.list (known ++ graphs))).set .imports (.list (sources ++ imports))).set .learnings
          (.list (learned ++ learnings))).set .context text).set (.status .retrieval) Status.completed.name) := by
      have hfound : b.absorb (.ofRetrieved (.completed graphs imports learnings text)) =
          c.absorb [(.graphs, .list graphs), (.imports, .list imports), (.learnings, .list learnings),
            (.context, text), (.status .retrieval, Status.completed.name)] := by rw [hc]; rfl
      rw [hfound, absorb_list rfl hgraphs, absorb_list rfl himports, absorb_list rfl hlearnings]
      rfl
    refine ⟨_, htaken, ?_⟩
    subst hc
    exact { h with
      graphs := ⟨_, rfl⟩, imports := ⟨_, rfl⟩, learnings := ⟨_, rfl⟩, context := rfl, retrieval := rfl }

theorem shows_verdict (h : b.Shows d) (hopen : d.verdict = none) (v : Verdict) :
    ∃ c, b.absorb (.ofVerdict v) = some c ∧ c.Shows (d.withVerdict v) := by
  obtain ⟨c, hc⟩ : ∃ c, c = ((b.set .summary v.review).set .inlineComments (.list [])).set (.status .aggregation)
      v.status.name := ⟨_, rfl⟩
  have hbegun (u : Update) : b.absorb ((.summary, v.review) :: (.inlineComments, .list []) ::
      (.status .aggregation, v.status.name) :: u) = c.absorb u := by
    have hinline : b.set .summary v.review .inlineComments = .list [] := h.inlineComments
    rw [hc]
    exact absorb_list rfl hinline [] _
  cases v with
  | completed review total =>
    have herrors : d.errors = (d.withVerdict (.completed review total)).errors := (List.append_nil _).symm
    refine ⟨_, hbegun _, ?_⟩
    subst hc
    exact { h with
      summary := rfl, inlineComments := rfl, aggregation := rfl, total := rfl
      errors := h.errors.trans (congrArg Json.ofTexts herrors) }
  | failed cause =>
    have herrors : c .errors = .ofTexts d.errors := by rw [hc]; exact h.errors
    have htotal : d.outcome.total = 0 := by rw [Dossier.outcome, hopen]
    refine ⟨_, (hbegun _).trans (absorb_telling herrors _), ?_⟩
    subst hc
    exact { h with
      summary := rfl, inlineComments := rfl, aggregation := rfl, errors := rfl
      total := h.total.trans (congrArg (fun n : Nat => Json.int n) htotal) }

theorem shows_opened {m : Matter} (hopened : Dossier.opened m = .ok d) :
    ∃ b, Board.opened m = .ok b ∧ b.Shows d := by
  rw [opened_eq] at hopened
  obtain ⟨changed, hlisted, hopened⟩ := Run.ok_of_bind hopened
  obtain ⟨body, hheard, hopened⟩ := Run.ok_of_bind hopened
  cases hopened
  unfold Matter.listed at hlisted
  unfold Matter.heard at hheard
  rw [Board.opened, hlisted, hheard]
  exact ⟨_, rfl, {
    changes := rfl, changedFiles := rfl, context := rfl, graphs := ⟨_, rfl⟩, imports := ⟨_, rfl⟩, learnings := ⟨_, rfl⟩
    report := fun _ => rfl, retrieval := rfl, status := fun _ => rfl, aggregation := rfl, summary := rfl
    inlineComments := rfl, total := rfl, errors := rfl }⟩

/-- **The board shows the opinions as they came.** -/
theorem shows_told (opinionOf : Specialty → Opinion) (arrival : List Specialty) (h : b.Shows d) :
    ∃ c, (arrival.map fun s => Update.ofOpinion s (opinionOf s)).foldlM Board.absorb b = some c ∧
      c.Shows (d.told opinionOf arrival) := by
  induction arrival generalizing b d with
  | nil => exact ⟨b, rfl, h⟩
  | cons s rest ih =>
    obtain ⟨c, hc, hshows⟩ := shows_opinion h s (opinionOf s)
    obtain ⟨e, he, hrest⟩ := ih hshows
    refine ⟨e, ?_, hrest⟩
    rw [List.map_cons, List.foldlM_cons, hc]
    exact he

end Absorbing

/-! ## Waves of stations -/

/-- The waves that may come after a wave: the stations that it leads to, in any order, until it leads nowhere. -/
inductive Schedule : List Station → List (List Station) → Prop where
  | done {wave : List Station} (h : Station.following wave = []) : Schedule wave []
  | wave {before next : List Station} {rest : List (List Station)} (hne : next ≠ [])
      (h : next.Perm (Station.following before)) (hrest : Schedule next rest) : Schedule before (next :: rest)

def Station.specialty? : Station → Option Specialty
  | .reviewer s => some s
  | _ => none

theorem eq_map_reviewer {wave : List Station} (h : ∀ station ∈ wave, ∃ s, station = .reviewer s) :
    wave = (wave.filterMap Station.specialty?).map .reviewer := by
  induction wave with
  | nil => rfl
  | cons station rest ih =>
    obtain ⟨s, rfl⟩ := h station List.mem_cons_self
    have hrest := ih fun other hother => h other (List.mem_cons_of_mem _ hother)
    exact congrArg (Station.reviewer s :: ·) hrest

theorem flatMap_next_reviewers (arrival : List Specialty) :
    (arrival.map Station.reviewer).flatMap Station.next = List.replicate arrival.length .aggregation := by
  induction arrival with
  | nil => rfl
  | cons s rest ih => exact congrArg (Station.aggregation :: ·) ih

theorem following_reviewers {arrival : List Specialty} (h : arrival.Perm Specialty.all) :
    Station.following (arrival.map .reviewer) = [.aggregation] := by
  rw [Station.following, flatMap_next_reviewers, h.length_eq]
  decide

/-- **After retrieval come the reviewers in some order, and then the aggregation.** -/
theorem schedule_retrieval_iff (waves : List (List Station)) : Schedule [.retrieval] waves ↔
    ∃ arrival : List Specialty, arrival.Perm Specialty.all ∧ waves = [arrival.map .reviewer, [.aggregation]] := by
  constructor
  · intro h
    cases h with
    | done h => exact absurd h (by decide)
    | @wave _ reviewers rest _ hperm hrest =>
      have hall : reviewers.Perm (Specialty.all.map .reviewer) := hperm
      have harrival : (reviewers.filterMap Station.specialty?).Perm Specialty.all := hall.filterMap Station.specialty?
      have hreviewers : reviewers = (reviewers.filterMap Station.specialty?).map .reviewer := by
        refine eq_map_reviewer fun station hstation => ?_
        obtain ⟨s, -, rfl⟩ := List.mem_map.1 (hall.mem_iff.1 hstation)
        exact ⟨s, rfl⟩
      have hnext := following_reviewers harrival
      rw [← hreviewers] at hnext
      refine ⟨_, harrival, ?_⟩
      rw [← hreviewers]
      cases hrest with
      | done h => rw [hnext] at h; cases h
      | wave _ hperm hrest =>
        rw [hnext] at hperm
        obtain rfl := List.perm_singleton.1 hperm
        cases hrest with
        | done => rfl
        | wave hne hperm _ => exact absurd (List.Perm.eq_nil hperm) hne
  · rintro ⟨arrival, harrival, rfl⟩
    have hne : arrival.map Station.reviewer ≠ [] := by
      intro h
      rw [List.map_eq_nil_iff] at h
      rw [h] at harrival
      exact absurd harrival.length_eq (by decide)
    refine .wave hne (harrival.map Station.reviewer) (.wave (List.cons_ne_nil _ _) ?_ (.done (by decide)))
    rw [following_reviewers harrival]

section Waves

variable {b : Board} {d : Dossier} (svc : Store.Service) (oracle : Oracle)

theorem afterWave_retrieval (h : b.Shows d) (store : Store) (calls : List ModelCall) :
    ∃ c t, (b.afterWave svc oracle [.retrieval]).perform ⟨⟨store, calls⟩, []⟩ = (.ok (some c), t) ∧
      c.Shows (d.withRetrieved (retrieved svc d store)) := by
  obtain ⟨after, console, hretrieve⟩ := atStore_retrieve svc d store calls
  obtain ⟨c, hc, hshows⟩ := shows_retrieved h (retrieved svc d store)
  have hhanded : (Board.handedIn svc oracle b .retrieval).perform ⟨⟨store, calls⟩, []⟩ =
      (.ok (.ofRetrieved (retrieved svc d store)), ⟨⟨after, calls⟩, console⟩) := by
    rw [Board.handedIn, retrieve_of_shows h, Run.perform_bind_ok hretrieve]
    rfl
  refine ⟨c, ⟨⟨after, calls⟩, console⟩, ?_, hshows⟩
  have hall : (Run.mapEach (Board.handedIn svc oracle b) [.retrieval]).perform ⟨⟨store, calls⟩, []⟩ =
      (.ok [.ofRetrieved (retrieved svc d store)], ⟨⟨after, calls⟩, console⟩) := by
    rw [Run.mapEach, Run.perform_bind_ok hhanded]
    rfl
  rw [Board.afterWave, Run.perform_bind_ok hall, List.foldlM_cons, hc]
  rfl

theorem afterWave_reviewers (h : b.Shows d) (arrival : List Specialty) (t : Session Desk) :
    ∃ c u, (b.afterWave svc oracle (arrival.map .reviewer)).perform t = (.ok (some c), u) ∧
      c.Shows (d.told (fun s => opinionOn s (answer oracle d.state s)) arrival) := by
  obtain ⟨c, hc, hshows⟩ := shows_told (fun s => opinionOn s (answer oracle d.state s)) arrival h
  have hhanded (s : Specialty) (u : Session Desk) : ((Board.handedIn svc oracle b (.reviewer s)).perform u).1 =
      .ok (.ofOpinion s (opinionOn s (answer oracle d.state s))) := by
    have hopinion : ((Desk.atModel (opinion oracle b.state s)).perform u).1 =
        .ok (opinionOn s (answer oracle b.state s)) := perform_opinion oracle b.state s ⟨u.state.calls, u.console⟩
    rw [answer_of_shows h] at hopinion
    rw [Board.handedIn, Run.perform_bind_ok (Prod.ext hopinion rfl)]
    rfl
  have hall := Run.mapEach_result hhanded arrival t
  rw [Board.afterWave, Run.mapEach_map, Run.perform_bind_ok (Prod.ext hall rfl), hc]
  exact ⟨c, _, rfl, hshows⟩

theorem afterWave_aggregation (h : b.Shows d) (hopen : d.verdict = none) (t : Session Desk) :
    ∃ c u, (b.afterWave svc oracle [.aggregation]).perform t = (.ok (some c), u) ∧
      c.Shows (d.withVerdict d.reports.aggregate) := by
  obtain ⟨c, hc, hshows⟩ := shows_verdict h hopen d.reports.aggregate
  have hall : (Run.mapEach (Board.handedIn svc oracle b) [.aggregation]).perform t =
      (.ok [.ofVerdict d.reports.aggregate], t) := by
    rw [Run.mapEach, Board.handedIn, reports_of_shows h]
    rfl
  rw [Board.afterWave, Run.perform_bind_ok hall, List.foldlM_cons, hc]
  exact ⟨c, t, rfl, hshows⟩

/-- **A review in waves shows the review that is done step by step** in the order in which the reviewers came. -/
theorem review_shows {m : Matter} (hopened : Dossier.opened m = .ok d) (store : Store) (calls : List ModelCall)
    (arrival : List Specialty) :
    let told := (d.withRetrieved (retrieved svc d store)).told
      (fun s => opinionOn s (answersTo svc oracle d store s)) arrival
    ∃ b, ((Board.review svc oracle [arrival.map .reviewer, [.aggregation]] m).start ⟨store, calls⟩).1 = .ok (some b) ∧
      b.Shows (told.withVerdict told.reports.aggregate) := by
  intro told
  obtain ⟨b, hb, hshows⟩ := shows_opened hopened
  obtain ⟨b₁, t₁, hretrieval, hshows⟩ := afterWave_retrieval svc oracle hshows store calls
  obtain ⟨b₂, t₂, hreviewers, hshows⟩ := afterWave_reviewers svc oracle hshows arrival t₁
  have hopen : told.verdict = none := by
    rw [Dossier.told_verdict, Dossier.withRetrieved_verdict, (opened_start hopened).2]
  obtain ⟨b₃, t₃, haggregation, hshows⟩ := afterWave_aggregation svc oracle hshows hopen t₂
  refine ⟨b₃, ?_, hshows⟩
  rw [Run.start_eq, Board.review, hb, Run.perform_bind_ok (Run.perform_of _ _), Board.afterWaves,
    Run.perform_bind_ok hretrieval]
  dsimp only
  rw [Board.afterWaves, Run.perform_bind_ok hreviewers]
  dsimp only
  rw [Board.afterWaves, Run.perform_bind_ok haggregation]
  rfl

end Waves

/-! ## What a review comes to -/

def Verdict.total : Verdict → Nat
  | .completed _ total => total
  | .failed _ => 0

theorem outcome_withVerdict (d : Dossier) (v : Verdict) : (d.withVerdict v).outcome = ⟨v.review, v.total⟩ := by
  cases v <;> rfl

/-- What a reviewer's report is on an answer: the answer, or what stands for it when there was none to be had. -/
def reportOn (s : Specialty) : Except Fault (Option String) → Json
  | .ok given => .ofOption given
  | .error cause => fallback cause s

def statusOn : Except Fault (Option String) → Status
  | .ok _ => .completed
  | .error _ => .failed

def Reports.onAnswers (answers : Specialty → Except Fault (Option String)) (changedFiles : Json) : Reports :=
  { report := fun s => reportOn s (answers s), status := fun s => some (statusOn (answers s)), changedFiles }

theorem informed_status (d : Dossier) (answers : Specialty → Except Fault (Option String)) (s : Specialty) :
    (d.informed answers).status s = statusOn (answers s) := by
  have hopinion : (d.informed answers).status s = (opinionOn s (answers s)).status := by cases s <;> rfl
  rw [hopinion]
  cases answers s <;> rfl

theorem reports_informed (d : Dossier) (answers : Specialty → Except Fault (Option String)) :
    (d.informed answers).reports = .onAnswers answers d.changedFiles := by
  have hreport (s : Specialty) : (d.informed answers).report s = reportOn s (answers s) := by
    rw [informed_report]
    cases answers s <;> rfl
  unfold Dossier.reports Reports.onAnswers
  rw [funext hreport, funext (informed_status d answers)]
  rfl

namespace Station

def all : List Station := .retrieval :: Specialty.all.map .reviewer ++ [.aggregation]

def complaint : Station → Fault → String
  | .retrieval, cause => "Context fetcher failed: " ++ cause.message
  | .reviewer s, cause => Review.reviewer s ++ " failed: " ++ cause.message
  | .aggregation, cause => "Aggregator failed: " ++ cause.message

end Station

def Verdict.cause? : Verdict → Option Fault
  | .completed _ _ => none
  | .failed cause => some cause

def retrievalCause? : Store.Retrieved → Option Fault
  | .completed _ _ _ _ => none
  | .failed cause => some cause

def answerCause? : Except Fault (Option String) → Option Fault
  | .ok _ => none
  | .error cause => some cause

def causeAt (r : Store.Retrieved) (answers : Specialty → Except Fault (Option String)) (v : Verdict) :
    Station → Option Fault
  | .retrieval => retrievalCause? r
  | .reviewer s => answerCause? (answers s)
  | .aggregation => v.cause?

/-- The last board of a review: the verdict, for every station whether it failed, and one error for each that did. -/
structure Board.Concludes (b : Board) (v : Verdict) (cause : Station → Option Fault) : Prop where
  summary : b .summary = .text v.review
  inlineComments : b .inlineComments = .list []
  total : b .total = .int v.total
  status : ∀ station, b (.status station) = .text (if (cause station).isSome then Status.failed else .completed).name
  errors : ∃ said : List String, b .errors = .ofTexts said ∧
    said.Perm (Station.all.filterMap fun station => (cause station).map station.complaint)

section Conclusion

variable (r : Store.Retrieved) (answers : Specialty → Except Fault (Option String)) (v : Verdict)

def complaints (station : Station) : List String := ((causeAt r answers v station).map station.complaint).toList

theorem withRetrieved_errors (d : Dossier) :
    (d.withRetrieved r).errors = d.errors ++ complaints r answers v .retrieval := by
  cases r with
  | completed graphs imports learnings text => exact (List.append_nil _).symm
  | failed cause => rfl

theorem opinionOn_errors (s : Specialty) : (opinionOn s (answers s)).errors = complaints r answers v (.reviewer s) := by
  show _ = ((answerCause? (answers s)).map (Station.reviewer s).complaint).toList
  cases answers s <;> rfl

theorem verdict_errors : v.errors = complaints r answers v .aggregation := by cases v <;> rfl

theorem filterMap_complaint :
    (Station.all.filterMap fun station => (causeAt r answers v station).map station.complaint) =
      complaints r answers v .retrieval ++ complaints r answers v (.reviewer .security) ++
        complaints r answers v (.reviewer .quality) ++ complaints r answers v (.reviewer .performance) ++
          complaints r answers v .aggregation := by
  rw [List.filterMap_eq_flatMap_toList]
  show (complaints r answers v .retrieval ++ (complaints r answers v (.reviewer .security) ++
    (complaints r answers v (.reviewer .quality) ++ (complaints r answers v (.reviewer .performance) ++
      (complaints r answers v .aggregation ++ []))))) = _
  simp only [List.append_nil, List.append_assoc]

/-- Every order of the reviewers leads to the same verdict and to one error for each station that failed. -/
theorem told_concludes {b : Board} {d : Dossier} (herrors : d.errors = []) {arrival : List Specialty}
    (harrival : arrival.Perm Specialty.all)
    (hshows : b.Shows (((d.withRetrieved r).told (fun s => opinionOn s (answers s)) arrival).withVerdict v)) :
    b.Concludes v (causeAt r answers v) := by
  obtain ⟨said, hperm, htold⟩ :=
    Dossier.told_perm (fun s => opinionOn s (answers s)) harrival.symm (by decide) (d.withRetrieved r)
  have houtcome := outcome_withVerdict ((d.withRetrieved r).told (fun s => opinionOn s (answers s)) arrival) v
  refine ⟨?_, hshows.inlineComments, ?_, fun station => ?_, said ++ v.errors, ?_, ?_⟩
  · rw [hshows.summary, houtcome]
  · rw [hshows.total, houtcome]
  · cases station with
    | retrieval =>
      rw [hshows.retrieval, htold]
      cases r <;> rfl
    | reviewer s =>
      have hstatus : ((d.withRetrieved r).told (fun s => opinionOn s (answers s)) Specialty.all).status s =
          (opinionOn s (answers s)).status := by cases s <;> rfl
      rw [hshows.status, htold]
      show Json.text (((d.withRetrieved r).told (fun s => opinionOn s (answers s)) Specialty.all).status s).name =
        .text (if (answerCause? (answers s)).isSome then Status.failed else .completed).name
      rw [hstatus]
      cases answers s <;> rfl
    | aggregation =>
      rw [hshows.aggregation]
      cases v <;> rfl
  · rw [hshows.errors, htold]
    rfl
  · have hall : ((d.withRetrieved r).told (fun s => opinionOn s (answers s)) Specialty.all).errors =
        (d.withRetrieved r).errors ++ (opinionOn .security (answers .security)).errors ++
          (opinionOn .quality (answers .quality)).errors ++
          (opinionOn .performance (answers .performance)).errors := rfl
    rw [hall, withRetrieved_errors r answers v d, herrors, List.nil_append, opinionOn_errors r answers v,
      opinionOn_errors r answers v, opinionOn_errors r answers v] at hperm
    rw [filterMap_complaint, verdict_errors r answers v]
    exact hperm.append_right _

end Conclusion

/-- **Every order of the reviewers comes to the review that is done step by step**: the verdict on what each reviewer was
answered, or what stands for it, and on the changed files as the caller listed them.  At the end every station has
completed or failed, and there is one error for each that failed. -/
theorem review_any_order {m : Matter} {d : Dossier} (hopened : Dossier.opened m = .ok d) (svc : Store.Service)
    (oracle : Oracle) (store : Store) (calls : List ModelCall) :
    let answers := answersTo svc oracle d store
    let v := (Reports.onAnswers answers d.changedFiles).aggregate
    m.listed = .ok d.changedFiles ∧
      ((run {} svc oracle m).start ⟨store, calls⟩).1 = .ok ⟨v.review, v.total⟩ ∧
      ∀ waves, Schedule [.retrieval] waves →
        ∃ b, ((Board.review svc oracle waves m).start ⟨store, calls⟩).1 = .ok (some b) ∧
          b .changedFiles = d.changedFiles ∧ b.Concludes v (causeAt (retrieved svc d store) answers v) := by
  intro answers v
  obtain ⟨hlisted, hstart⟩ := opened_start hopened
  have hverdict : ((d.withRetrieved (retrieved svc d store)).informed answers).reports.aggregate = v := by
    rw [reports_informed, withRetrieved_changedFiles]
  refine ⟨hlisted, ?_, fun waves hwaves => ?_⟩
  · have hrun : run {} svc oracle m = Run.of (.ok d) >>= fun d => examine svc oracle d >>= fun e => pure e.outcome := by
      rw [← hopened]
      rfl
    have hexamine : ((examine svc oracle d).start ⟨store, calls⟩).1 =
        .ok (((d.withRetrieved (retrieved svc d store)).informed answers).withVerdict v) := by
      rw [← hverdict]
      exact examine_eq svc oracle d store calls
    rw [hrun, Run.start_eq, Run.perform_bind_ok (Run.perform_of _ _), Run.perform_bind_ok (Prod.ext hexamine rfl),
      outcome_withVerdict]
    rfl
  · obtain ⟨arrival, harrival, rfl⟩ := (schedule_retrieval_iff waves).1 hwaves
    obtain ⟨b, hb, hshows⟩ := review_shows svc oracle hopened store calls arrival
    -- the order in which the step by step review hears the reviewers is one of all orders
    have horder : order.Perm arrival := (by decide : order.Perm Specialty.all).trans harrival.symm
    have hagrees := Dossier.told_perm (fun s => opinionOn s (answers s)) horder (by decide)
      (d.withRetrieved (retrieved svc d store))
    have hreports : ((d.withRetrieved (retrieved svc d store)).told (fun s => opinionOn s (answers s)) arrival).reports =
        ((d.withRetrieved (retrieved svc d store)).informed answers).reports := hagrees.reports
    rw [hreports, hverdict] at hshows
    refine ⟨b, hb, ?_, told_concludes _ answers v (by rw [hstart]) harrival hshows⟩
    have hchanged : ((d.withRetrieved (retrieved svc d store)).told (fun s => opinionOn s (answers s))
        arrival).changedFiles = d.changedFiles := by
      rw [← withRetrieved_changedFiles d (retrieved svc d store)]
      exact congrArg Reports.changedFiles hreports
    exact hshows.changedFiles.trans hchanged

/-! ## A reviewer that is down -/

def partlyDown : Oracle :=
  ⟨"groq", fun prompt => if isForSecurity prompt then .refusal "down" else .text (some dividingReport)⟩

def dividingMatter : Matter :=
  { diff := "+x = 1/0", context := "", event := .null
    changes := .object [("full_diff", "+x = 1/0"), ("diff_files", .list ["a.py"])] }

def dividingStart : Dossier :=
  { diff := dividingMatter.changes, context := "", changedFiles := .list ["a.py"] }

theorem answersTo_partlyDown (s : Specialty) : answersTo readyService partlyDown dividingStart .empty s =
    if s = .security then .error (.refused "down") else .ok (some dividingReport) := by
  unfold answersTo answer
  rw [promptFor_state _ ((congrArg Json.kind (withRetrieved_diff dividingStart _)).trans rfl)]
  show heard (partlyDown.reply (prompt s _ _)) = _
  simp only [partlyDown, isForSecurity_prompt]
  cases s <;> rfl

theorem aggregate_partlyDown : ∃ review,
    (Reports.onAnswers (answersTo readyService partlyDown dividingStart .empty) (.list ["a.py"])).aggregate =
      .completed review 2 := by
  have htext (s : Specialty) : (Reports.onAnswers (answersTo readyService partlyDown dividingStart .empty)
      (.list ["a.py"])).report s =
        .text (if s = .security then "No critical security issues found." else dividingReport) := by
    show reportOn s _ = _
    rw [answersTo_partlyDown]
    cases s <;> rfl
  have hfound (s : Specialty) : Issue.parse (.list ["a.py"])
      (if s = .security then "No critical security issues found." else dividingReport) =
        .ok (if s = .security then [] else [dividingIssue]) := by
    cases s with
    | security => exact parse_eq_ok (by decide +kernel)
    | _ => exact parse_dividingReport
  exact aggregate_of_texts htext hfound

/-- The reviewers come in another order than the step by step review hears them. -/
theorem review_any_order_partlyDown :
    Schedule [.retrieval] [[.reviewer .performance, .reviewer .security, .reviewer .quality], [.aggregation]] ∧
      ∃ b, ((Board.review readyService partlyDown
          [[.reviewer .performance, .reviewer .security, .reviewer .quality], [.aggregation]] dividingMatter).start
            ⟨.empty, []⟩).1 = .ok (some b) ∧
        b .total = .int 2 ∧ b .errors = .list ["Security agent failed: down"] := by
  have hschedule : Schedule [.retrieval]
      [[.reviewer .performance, .reviewer .security, .reviewer .quality], [.aggregation]] :=
    (schedule_retrieval_iff _).2 ⟨[.performance, .security, .quality], by decide, rfl⟩
  have hopened : Dossier.opened dividingMatter = .ok dividingStart := rfl
  obtain ⟨-, -, hall⟩ := review_any_order hopened readyService partlyDown .empty []
  obtain ⟨b, hb, -, hconcludes⟩ := hall _ hschedule
  obtain ⟨review, hreview⟩ := aggregate_partlyDown
  have hverdict : (Reports.onAnswers (answersTo readyService partlyDown dividingStart .empty)
      dividingStart.changedFiles).aggregate = .completed review 2 := hreview
  rw [hverdict] at hconcludes
  obtain ⟨said, hsaid, hperm⟩ := hconcludes.errors
  refine ⟨hschedule, b, hb, hconcludes.total, ?_⟩
  have hcauses : (Station.all.filterMap fun station => (causeAt (retrieved readyService dividingStart .empty)
      (answersTo readyService partlyDown dividingStart .empty) (.completed review 2) station).map station.complaint) =
        ["Security agent failed: down"] := by
    rw [funext answersTo_partlyDown]
    rfl
  rw [hcauses, List.perm_singleton] at hperm
  rw [hsaid, hperm]
  rfl

end Review
end PullReview
