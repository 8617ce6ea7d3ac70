import PullReview.Proofs.Run
import PullReview.Proofs.Text.Cut
import PullReview.Review.Pipeline
/-!
# What the reviewers are told

The prompts that a review sends, for every matter, store and model (`promptsSent_eq`): one for each specialty, with the
full diff and one context.  That context is what the store answered, whatever the caller gave; the caller's own context
is used only when retrieval fails.  So it reaches the reviewers exactly when retrieval fails or when the prompts hold it
by chance (`context_mem_promptsSent_iff`).
-/
namespace PullReview
namespace Review

open Text

/-! ## One reviewer -/

/-- The prompts that reach a model: none when the provider is not known. -/
def asked (oracle : Oracle) (prompt : String) : List String :=
  if (Provider.named? oracle.provider).isSome then [prompt] else []

def promptsOf (calls : List ModelCall) : List String := calls.map (·.prompt)

def heard : Reply → Except Fault (Option String)
  | .text given => .ok given
  | .refusal reason => .error (.refused reason)

/-- A model that can be asked is asked once, and its reply is what comes back. -/
theorem perform_generate {provider : Json} {client : ModelClient}
    (hclient : ModelClient.ofProvider provider = .ok client) (reply : String → Reply) (prompt : String)
    (s : Session (List ModelCall)) : ∃ call : ModelCall, call.prompt = prompt ∧
      (client.generate reply prompt).perform s = (heard (reply prompt), { s with state := s.state ++ [call] }) := by
  have hasked (p : Provider) (hp : Provider.named? client.provider = some p)
      (hgroq : (p = .groq && !client.connected) = false) : ∃ call : ModelCall, call.prompt = prompt ∧
      (client.generate reply prompt).perform s = (heard (reply prompt), { s with state := s.state ++ [call] }) := by
    refine ⟨⟨p.name, client.model, prompt⟩, rfl, ?_⟩
    rw [ModelClient.generate]
    simp only [hp, hgroq]
    rw [if_neg (by decide), Run.perform_bind_ok (Run.perform_update _ _)]
    -- the call is noted before the model answers or refuses
    cases reply prompt <;> rfl
  rw [ModelClient.ofProvider] at hclient
  split at hclient
  · rename_i hp
    obtain rfl := Except.ok.inj hclient
    exact hasked .gemini hp rfl
  · rename_i hp
    obtain rfl := Except.ok.inj hclient
    exact hasked .groq hp rfl
  · cases hclient

theorem ofProvider_isOk (provider : Json) :
    (∃ client, ModelClient.ofProvider provider = .ok client) ↔ (Provider.named? provider).isSome = true := by
  rw [ModelClient.ofProvider]
  cases h : Provider.named? provider with
  | none => simp
  | some p => cases p <;> simp

/-- **A reviewer sends its prompt once**, if there is a model to send it to. -/
theorem promptsOf_opinion (oracle : Oracle) (state : Json) (s : Specialty) {prompt : String}
    (hprompt : promptFor state s = .ok prompt) (t : Session (List ModelCall)) :
    promptsOf ((opinion oracle state s).perform t).2.state = promptsOf t.state ++ asked oracle prompt := by
  have hreport : promptsOf ((report oracle state s).perform t).2.state = promptsOf t.state ++ asked oracle prompt := by
    rw [report, hprompt, Run.perform_bind_ok (Run.perform_of _ _), asked]
    cases hclient : ModelClient.ofProvider oracle.provider with
    | error e =>
      have hnone : (Provider.named? oracle.provider).isSome ≠ true := fun h => by
        obtain ⟨client, hok⟩ := (ofProvider_isOk oracle.provider).2 h
        rw [hclient] at hok
        cases hok
      rw [Run.perform_bind_error (Run.perform_of _ _), if_neg hnone, List.append_nil]
    | ok client =>
      obtain ⟨call, hcall, hrun⟩ := perform_generate hclient oracle.reply prompt t
      rw [Run.perform_bind_ok (Run.perform_of _ _), if_pos ((ofProvider_isOk oracle.provider).1 ⟨client, hclient⟩), hrun]
      simp [promptsOf, hcall]
  rw [opinion, Run.perform_orElse, opinion.formed, Run.perform_bind]
  rcases hres : (report oracle state s).perform t with ⟨_ | r, u⟩ <;> rw [hres] at hreport <;> exact hreport

theorem opinion_succeeds (oracle : Oracle) (state : Json) (s : Specialty) : (opinion oracle state s).Succeeds :=
  Run.Succeeds.orElse _ fun _ => Run.Succeeds.pure _

/-! ## All reviewers -/

def Dossier.diffText (d : Dossier) : String := ((d.diff.get? "full_diff").getD "").display

theorem promptFor_state (d : Dossier) (hdiff : d.diff.kind = .object) (s : Specialty) :
    promptFor d.state s = .ok (prompt s d.diffText d.context.display) := by
  have hcontext : d.state.field "comprehensive_context" "" = .ok d.context := by
    simp [Dossier.state, Json.field, Json.lookup]
  have hchanges : d.state.field "diff_data" (.object []) = .ok d.diff := by
    simp [Dossier.state, Json.field, Json.lookup]
  have hfull : d.diff.field "full_diff" "" = .ok ((d.diff.get? "full_diff").getD "") := by
    cases h : d.diff with
    | object fields => rfl
    | _ => rw [h] at hdiff; cases hdiff
  simp only [promptFor, hcontext, hchanges, hfull, bind, Except.bind, pure, Except.pure, Dossier.diffText]

theorem atModel_succeeds {α : Type} {act : Run (List ModelCall) α} (h : act.Succeeds) : (Desk.atModel act).Succeeds :=
  Run.Succeeds.within h

theorem promptsOf_mapEach (oracle : Oracle) (state : Json) (promptOf : Specialty → String)
    (hprompt : ∀ s, promptFor state s = .ok (promptOf s)) : ∀ (specialties : List Specialty) (t : Session Desk),
    promptsOf ((Run.mapEach (fun s => do return (s, ← Desk.atModel (opinion oracle state s))) specialties).perform
        t).2.state.calls = promptsOf t.state.calls ++ specialties.flatMap fun s => asked oracle (promptOf s)
  | [], t => by
    rw [Run.mapEach, List.flatMap_nil, List.append_nil]
    rfl
  | s :: rest, t => by
    have hone : promptsOf ((Desk.atModel (opinion oracle state s)).perform t).2.state.calls =
        promptsOf t.state.calls ++ asked oracle (promptOf s) :=
      promptsOf_opinion oracle state s (hprompt s) ⟨t.state.calls, t.console⟩
    obtain ⟨o, u, ho⟩ := (atModel_succeeds (opinion_succeeds oracle state s)).eq_ok t
    have hhead : (do return (s, ← Desk.atModel (opinion oracle state s)) : Run Desk (Specialty × Opinion)).perform t =
        (.ok (s, o), u) := Run.perform_bind_ok ho _
    have ih := promptsOf_mapEach oracle state promptOf hprompt rest u
    rw [ho] at hone
    rw [Run.mapEach, Run.perform_bind_ok hhead, Run.perform_bind_pure_snd, List.flatMap_cons, ← List.append_assoc,
      ← hone, ← ih]

/-! ## A whole review -/

def retrieved (svc : Store.Service) (d : Dossier) (store : Store) : Store.Retrieved :=
  match ((Store.retrieve svc d.state).start store).1 with
  | .ok r => r
  | .error cause => .failed cause

/-- The prompts that a review sends when its machinery is in order. -/
def promptsSent (svc : Store.Service) (oracle : Oracle) (m : Matter) (store : Store) : List String :=
  promptsOf ((run {} svc oracle m).start ⟨store, []⟩).2.state.calls

theorem retrieve_succeeds (svc : Store.Service) (state : Json) : (Store.retrieve svc state).Succeeds :=
  Run.Succeeds.orElse _ fun _ => Run.Succeeds.pure _

theorem atStore_retrieve (svc : Store.Service) (d : Dossier) (store : Store) (calls : List ModelCall) :
    ∃ after console, (Desk.atStore (Store.retrieve svc d.state)).perform ⟨⟨store, calls⟩, []⟩ =
      (.ok (retrieved svc d store), ⟨⟨after, calls⟩, console⟩) := by
  obtain ⟨r, t, hr⟩ := (retrieve_succeeds svc d.state).eq_ok ⟨store, []⟩
  have hretrieved : retrieved svc d store = r := by rw [retrieved, Run.start_eq, hr]
  refine ⟨t.state, t.console, ?_⟩
  rw [hretrieved, Desk.atStore, Run.perform_within, hr]

theorem withRetrieved_diff (d : Dossier) (r : Store.Retrieved) : (d.withRetrieved r).diff = d.diff := by
  cases r <;> rfl

/-! What a matter lists, says and starts with: -/

def Matter.listed (m : Matter) : Except Fault Json :=
  if m.changes.isGiven then m.changes.field "diff_files" (.list []) else .ok (.list [])

def Matter.heard (m : Matter) : Except Fault Json := if m.event.isGiven then m.event.field "body" "" else .ok ""

def Matter.startingDiff (m : Matter) : Json :=
  if m.changes.isGiven then m.changes else .object [("full_diff", m.diff)]

theorem opened_eq (m : Matter) :
    Dossier.opened m = do
      let changed ← m.listed
      let _ ← m.heard
      return { diff := m.startingDiff, context := m.context, changedFiles := changed } := by
  unfold Dossier.opened Matter.listed Matter.heard Matter.startingDiff
  by_cases hchanges : m.changes.isGiven = true <;> by_cases hevent : m.event.isGiven = true <;>
    simp only [hchanges, hevent, if_true, if_false, Bool.false_eq_true] <;> rfl

/-- What a dossier starts with. -/
theorem opened_start {m : Matter} {d : Dossier} (h : Dossier.opened m = .ok d) :
    m.listed = .ok d.changedFiles ∧
      d = { diff := m.startingDiff, context := m.context, changedFiles := d.changedFiles } := by
  rw [opened_eq] at h
  obtain ⟨changed, hlisted, h⟩ := Run.ok_of_bind h
  obtain ⟨body, -, h⟩ := Run.ok_of_bind h
  cases h
  exact ⟨hlisted, rfl⟩

theorem startingDiff_kind {m : Matter} {changed : Json} (h : m.listed = .ok changed) :
    m.startingDiff.kind = .object := by
  unfold Matter.listed at h
  unfold Matter.startingDiff
  by_cases hchanges : m.changes.isGiven = true
  · rw [if_pos hchanges] at h ⊢
    cases hc : m.changes with
    | object fields => rfl
    | _ => rw [hc] at h; cases h
  · rw [if_neg hchanges]
    rfl

/-- A dossier that could be opened has the caller's context, and its changes are an object. -/
theorem opened_eq_ok {m : Matter} {d : Dossier} (h : Dossier.opened m = .ok d) :
    d.context = m.context ∧ d.diff.kind = .object ∧
      ∀ other, Dossier.opened { m with context := other } = .ok { d with context := other } := by
  rw [opened_eq] at h
  cases hlisted : m.listed with
  | error e => rw [hlisted] at h; cases h
  | ok changed =>
    cases hheard : m.heard with
    | error e => rw [hlisted, hheard] at h; cases h
    | ok body =>
      rw [hlisted, hheard] at h
      cases h
      exact ⟨rfl, startingDiff_kind hlisted, fun other => by
        rw [opened_eq]; simp only [Matter.listed, Matter.heard] at hlisted hheard ⊢; rw [hlisted, hheard]; rfl⟩

/-- What a review sends from where it is, once the store has answered. -/
theorem promptsOf_run (svc : Store.Service) (oracle : Oracle) {m : Matter} {d : Dossier}
    (hopened : Dossier.opened m = .ok d) {r : Store.Retrieved} {t u : Session Desk}
    (hretrieve : (Desk.atStore (Store.retrieve svc d.state)).perform t = (.ok r, u)) :
    promptsOf ((run {} svc oracle m).perform t).2.state.calls = promptsOf u.state.calls ++
      order.flatMap fun s => asked oracle (prompt s d.diffText (d.withRetrieved r).context.display) := by
  obtain ⟨-, hobject, -⟩ := opened_eq_ok hopened
  have hprompt (s : Specialty) : promptFor (d.withRetrieved r).state s =
      .ok (prompt s d.diffText (d.withRetrieved r).context.display) := by
    have hdiff := withRetrieved_diff d r
    rw [promptFor_state _ (hdiff ▸ hobject), Dossier.diffText, hdiff, Dossier.diffText]
  have hrun : run {} svc oracle m = Run.of (.ok d) >>= fun d => examine svc oracle d >>= fun e => pure e.outcome := by
    rw [← hopened]
    rfl
  rw [hrun, Run.perform_bind_ok (Run.perform_of _ _), Run.perform_bind_pure_snd, examine, Run.perform_bind_ok hretrieve,
    Run.perform_bind_pure_snd, opinions, promptsOf_mapEach oracle _ _ hprompt]

/-- **The prompts of a review**: one for each specialty, with the full diff and the context that retrieval leaves. -/
theorem promptsSent_eq (svc : Store.Service) (oracle : Oracle) {m : Matter} (store : Store) {d : Dossier}
    (hopened : Dossier.opened m = .ok d) :
    promptsSent svc oracle m store = order.flatMap fun s =>
      asked oracle (prompt s d.diffText (d.withRetrieved (retrieved svc d store)).context.display) := by
  obtain ⟨after, console, hretrieve⟩ := atStore_retrieve svc d store []
  rw [promptsSent, Run.start_eq, promptsOf_run svc oracle hopened hretrieve, promptsOf, List.map_nil, List.nil_append]

/-! ## Where the caller's context goes -/

theorem infix_prompt (s : Specialty) (diff context : String) : context.toList <:+: (prompt s diff context).toList :=
  infix_joinWith "\n" _ context (by simp)

/-- A prompt tells its context. -/
theorem prompt_injective (s : Specialty) (diff : String) : Function.Injective (prompt s diff) := by
  intro context context' h
  have hparts : joinWith "\n" (["", task s, "", "**Code Changes:**", diff, "", "**Context:**"] ++
      context :: (["", "**Instructions:**"] ++ instructions s ++ [""])) =
    joinWith "\n" (["", task s, "", "**Code Changes:**", diff, "", "**Context:**"] ++
      context' :: (["", "**Instructions:**"] ++ instructions s ++ [""])) := h
  exact eq_of_joinWith_eq hparts

theorem flatMap_asked {oracle : Oracle} (h : (Provider.named? oracle.provider).isSome = true)
    (promptOf : Specialty → String) : (order.flatMap fun s => asked oracle (promptOf s)) = order.map promptOf := by
  simp only [asked, h, if_true]
  rfl

theorem mem_flatMap_asked (oracle : Oracle) (promptOf : Specialty → String) (p : String) :
    (p ∈ order.flatMap fun s => asked oracle (promptOf s)) ↔
      (Provider.named? oracle.provider).isSome = true ∧ ∃ s, p = promptOf s := by
  rw [List.mem_flatMap]
  unfold asked
  by_cases h : (Provider.named? oracle.provider).isSome = true
  · have hall (s : Specialty) : s ∈ order := by cases s <;> decide
    simp [h, hall]
  · simp [h]

/-- What the store answers does not hang on the caller's context. -/
theorem retrieved_congr (svc : Store.Service) (d : Dossier) (store : Store) (other : Json) :
    retrieved svc { d with context := other } store = retrieved svc d store := by
  have hfield (context : Json) :
      ({ d with context } : Dossier).state.field "changed_files" (.list []) = .ok d.changedFiles := by
    simp [Dossier.state, Json.field, Json.lookup]
  have hretrieve : Store.retrieve svc ({ d with context := other } : Dossier).state = Store.retrieve svc d.state := by
    unfold Store.retrieve Store.retrieve.fetch
    rw [hfield other, hfield d.context]
  rw [retrieved, hretrieve, retrieved]

/-- **The caller's context reaches the reviewers exactly when retrieval fails**, or when there is no reviewer to reach,
or when what the prompts hold without it has it by chance.  When retrieval does not fail, the prompts are the same for
every context that the caller may give. -/
theorem context_mem_promptsSent_iff (svc : Store.Service) (oracle : Oracle) (m : Matter) (store : Store) {d : Dossier}
    {context : String} (hopened : Dossier.opened m = .ok d) (hcontext : m.context = .text context) :
    ((∀ p ∈ promptsSent svc oracle m store, context.toList <:+: p.toList) ↔
      Provider.named? oracle.provider = none ∨ (∃ cause, retrieved svc d store = .failed cause) ∨
        ∃ graphs imports learned text, retrieved svc d store = .completed graphs imports learned text ∧
          ∀ s, context.toList <:+: (prompt s d.diffText text).toList) ∧
    ((∀ cause, retrieved svc d store ≠ .failed cause) →
      ∀ other, promptsSent svc oracle { m with context := other } store = promptsSent svc oracle m store) := by
  obtain ⟨hsame, -, hother⟩ := opened_eq_ok hopened
  have hsent := promptsSent_eq svc oracle store hopened
  constructor
  · simp only [hsent, mem_flatMap_asked]
    cases hnamed : Provider.named? oracle.provider with
    | none => simp
    | some p =>
      cases hr : retrieved svc d store with
      | failed cause =>
        have hcaller : d.context.display = context := by rw [hsame, hcontext]; rfl
        simpa [Dossier.withRetrieved, hcaller] using fun s => infix_prompt s d.diffText context
      | completed graphs imports learned text => simp [Dossier.withRetrieved, Json.display]
  · intro hcompleted other
    rw [promptsSent_eq svc oracle store (hother other), hsent, retrieved_congr]
    cases hr : retrieved svc d store with
    | failed cause => exact absurd hr (hcompleted cause)
    | completed graphs imports learned text => rfl

def readyService : Store.Service := ⟨fun _ => [], none, fun _ _ => none⟩

/-- A new function, and what was said about it before. -/
def namedMatter : Matter :=
  { diff := "+def f(): pass", context := "§ 4: name every function", event := .null, changes := .null }

def silentOracle : Oracle := ⟨"groq", fun _ => .text none⟩

theorem section_not_mem_prompt : '§' ∉ (prompt .performance "+def f(): pass" "").toList := by
  intro h
  rcases mem_joinWith h with h | ⟨line, hline, h⟩
  · simp at h
  · have hlines : ∀ line ∈ ["", task .performance, "", "**Code Changes:**", "+def f(): pass", "", "**Context:**", "", "",
        "**Instructions:**"] ++ instructions .performance ++ [""], '§' ∉ line.toList := by
      simp [task, instructions, performanceInstructions]
    exact hlines line hline h

/-- The store knows nothing, so the reviewers are told nothing. -/
theorem context_not_mem_promptsSent_namedMatter :
    Dossier.opened namedMatter = .ok
        { diff := .object [("full_diff", "+def f(): pass")], context := "§ 4: name every function",
          changedFiles := .list [] } ∧
      ¬ ∀ p ∈ promptsSent readyService silentOracle namedMatter .empty,
        "§ 4: name every function".toList <:+: p.toList := by
  refine ⟨rfl, fun hall => ?_⟩
  rcases (context_mem_promptsSent_iff readyService silentOracle namedMatter .empty rfl rfl).1.1 hall with
    hnone | ⟨cause, hfailed⟩ | ⟨graphs, imports, learned, text, hcompleted, htext⟩
  · simp [silentOracle, Provider.named?, Json.isText, Provider.name] at hnone
  · cases hfailed
  · cases hcompleted
    exact section_not_mem_prompt ((htext .performance).subset (by simp))

end Review
end PullReview
