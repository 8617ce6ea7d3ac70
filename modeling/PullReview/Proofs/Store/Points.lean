import PullReview.Proofs.Json
import PullReview.Proofs.Run
import PullReview.Store.Index
import PullReview.Store.Retrieve
/-!
# What the store takes and what it gives

Whether a point is taken hangs on the services alone and not on what is in the store already, and one that is taken
stands behind all others (`perform_addEntry`).  Points that are added one after the other leave a beginning of what they
are for (`each_add_points`, `accepted_isPrefix`).  Reading by path gives the first point under that path, so what stands
in front decides (`firstUnder_append`), and it leaves the store as it is (`perform_firstAbout`).
-/
namespace PullReview
namespace Store

/-! ## Taking -/

/-- A text is embedded unless the model is out of order; one without ink needs no model. -/
def embeddable (svc : Service) (text : String) : Except Fault Unit :=
  if Text.hasInk text then
    match svc.embeddingOutage with
    | some reason => .error (.refused reason)
    | none => .ok ()
  else .ok ()

def taken (svc : Service) (c : Collection) (text : String) : Except Fault Unit := do
  embeddable svc text
  svc.check .upsert c

theorem perform_embed (svc : Service) (text : String) (s : Session Store) :
    ∃ vector t, (embed svc text).perform s = ((embeddable svc text).map fun _ => vector, t) ∧
      t.console = s.console ∧ t.state.points = s.state.points := by
  unfold embed embeddable
  by_cases hink : Text.hasInk text = true
  · rw [if_pos hink, if_pos hink, askModel, Run.perform_bind_ok (Run.perform_update _ s)]
    cases svc.embeddingOutage with
    | none => exact ⟨svc.embedding text, _, rfl, rfl, rfl⟩
    | some reason => exact ⟨[], _, rfl, rfl, rfl⟩
  · rw [if_neg hink, if_neg hink]
    exact ⟨zeroVector, s, rfl, rfl, rfl⟩

theorem perform_upsert (svc : Service) (c : Collection) (id : String) (payload : Json) (s : Session Store) :
    ∃ t, (upsert svc c id payload).perform s = (svc.check .upsert c, t) ∧ t.console = s.console ∧
      t.state.points = s.state.points ++ if (svc.check .upsert c).isOk then [(c, payload)] else [] := by
  unfold upsert
  cases hcheck : svc.check .upsert c with
  | error cause =>
    rw [Run.perform_bind_error (Run.perform_of _ s)]
    exact ⟨s, rfl, rfl, (List.append_nil _).symm⟩
  | ok done =>
    rw [Run.perform_bind_ok (Run.perform_of _ s)]
    exact ⟨_, rfl, rfl, rfl⟩

theorem perform_addPoint (svc : Service) (c : Collection) (text : String) (payload : Json) (s : Session Store) :
    ∃ id t, (addPoint svc c text payload).perform s = ((taken svc c text).map fun _ => id, t) ∧
      t.console = s.console ∧
      t.state.points = s.state.points ++ if (taken svc c text).isOk then [(c, payload)] else [] := by
  obtain ⟨vector, t, hembed, hconsole, hpoints⟩ := perform_embed svc text s
  unfold addPoint taken
  cases hembeddable : embeddable svc text with
  | error cause =>
    rw [hembeddable] at hembed
    rw [Run.perform_bind_error hembed]
    exact ⟨"", t, rfl, hconsole, hpoints.trans (List.append_nil _).symm⟩
  | ok done =>
    rw [hembeddable] at hembed
    -- the point gets its id before it is known whether the collection takes it
    have hid : newId.perform t = (.ok ("id-" ++ toString (t.state.issued + 1)),
        { t with state := { t.state with issued := t.state.issued + 1 } }) := rfl
    obtain ⟨u, hupsert, hsaid, hadded⟩ := perform_upsert svc c ("id-" ++ toString (t.state.issued + 1)) payload
      { t with state := { t.state with issued := t.state.issued + 1 } }
    rw [Run.perform_bind_ok hembed, Run.perform_bind_ok hid]
    refine ⟨"id-" ++ toString (t.state.issued + 1), u, ?_, hsaid.trans hconsole,
      hadded.trans (congrArg (· ++ _) hpoints)⟩
    cases hcheck : svc.check .upsert c with
    | error cause =>
      rw [hcheck] at hupsert
      exact Run.perform_bind_error hupsert _
    | ok open_ =>
      rw [hcheck] at hupsert
      exact Run.perform_bind_ok hupsert _

/-! ## The three ways of indexing -/

/-- Adds the point for a text and a payload, if there are any. -/
def addEntry (svc : Service) (c : Collection) (entry : Except Fault (String × Json)) : Run Store String := do
  let (text, payload) ← Run.of entry
  addPoint svc c text payload

def graphEntry (path : Json) (g : Graph) : Except Fault (String × Json) := do
  return (← graphRecord (GraphDigest.ofGraph path g).document, (GraphDigest.ofGraph path g).payload)

def importEntry (path source imports : Json) : Except Fault (String × Json) := do
  return (← importRecord path source imports, ← importPayload path source imports)

def Learning.entry (l : Learning) : Except Fault (String × Json) := do return (← l.record, ← l.payload)

theorem indexGraph_eq (svc : Service) (path : Json) (g : Graph) :
    indexGraph svc path g = addEntry svc .codeGraphs (graphEntry path g) := by
  unfold indexGraph addEntry graphEntry
  generalize GraphDigest.ofGraph path g = digest
  dsimp only
  cases graphRecord digest.document <;> rfl

theorem indexImports_eq (svc : Service) (path source imports : Json) :
    indexImports svc path source imports = addEntry svc .importFiles (importEntry path source imports) := by
  unfold indexImports addEntry importEntry
  cases importRecord path source imports with
  | error cause => rfl
  | ok text => cases importPayload path source imports <;> rfl

theorem indexLearning_eq (svc : Service) (l : Learning) :
    indexLearning svc l = addEntry svc .learnings l.entry := by
  unfold indexLearning addEntry Learning.entry
  cases l.record with
  | error cause => rfl
  | ok text => cases l.payload <;> rfl

def stored (svc : Service) (c : Collection) : Except Fault (String × Json) → Except Fault Json
  | .error cause => .error cause
  | .ok (text, payload) => (taken svc c text).map fun _ => payload

/-- **What indexing does**, from every store: it leaves the entry's payload behind all others, or it fails and leaves
nothing. -/
theorem perform_addEntry (svc : Service) (c : Collection) (entry : Except Fault (String × Json)) (s : Session Store) :
    ∃ id t, (addEntry svc c entry).perform s = ((stored svc c entry).map fun _ => id, t) ∧ t.console = s.console ∧
      t.state.points = s.state.points ++ ((stored svc c entry).toOption.map fun payload => (c, payload)).toList := by
  cases entry with
  | error cause => exact ⟨"", s, rfl, rfl, (List.append_nil _).symm⟩
  | ok entry =>
    obtain ⟨text, payload⟩ := entry
    obtain ⟨id, t, hadd, hconsole, hpoints⟩ := perform_addPoint svc c text payload s
    refine ⟨id, t, ?_, hconsole, ?_⟩
    · unfold addEntry
      rw [Run.perform_bind_ok (Run.perform_of _ s)]
      refine hadd.trans (congrArg (·, t) ?_)
      rw [stored]
      cases taken svc c text <;> rfl
    · rw [hpoints, stored]
      cases taken svc c text <;> rfl

/-! ## One point after the other -/

/-- A point that is to be added: by which services, where to, and its text and payload if they can be had. -/
structure Attempt where
  svc : Service
  collection : Collection
  entry : Except Fault (String × Json)

namespace Attempt

def add (a : Attempt) : Run Store Unit := do let _ ← addEntry a.svc a.collection a.entry

def IsFor (a : Attempt) (point : Collection × Json) : Prop :=
  a.collection = point.1 ∧ ∃ text, a.entry = .ok (text, point.2)

end Attempt

/-- Nothing keeps a service from taking points. -/
structure Service.IsSound (svc : Service) : Prop where
  embedding : svc.embeddingOutage = none
  upsert : ∀ c, svc.outage .upsert c = none

/-- What stays of attempts that are made one after the other until one of them fails. -/
def accepted : List Attempt → List (Collection × Json)
  | [] => []
  | a :: rest =>
    match stored a.svc a.collection a.entry with
    | .ok payload => (a.collection, payload) :: accepted rest
    | .error _ => []

theorem each_add_points (attempts : List Attempt) (s : Session Store) :
    ((Run.each Attempt.add attempts).perform s).2.state.points = s.state.points ++ accepted attempts := by
  induction attempts generalizing s with
  | nil => exact (List.append_nil _).symm
  | cons a rest ih =>
    obtain ⟨id, t, hadd, -, hpoints⟩ := perform_addEntry a.svc a.collection a.entry s
    rw [Run.each, accepted]
    cases hstored : stored a.svc a.collection a.entry with
    | error cause =>
      rw [hstored] at hadd hpoints
      have hone : a.add.perform s = (.error cause, t) := by
        rw [Attempt.add, Run.perform_bind_error hadd]
      rw [Run.perform_bind_error hone]
      exact hpoints
    | ok payload =>
      rw [hstored] at hadd hpoints
      have hone : a.add.perform s = (.ok (), t) := by
        rw [Attempt.add, Run.perform_bind_ok hadd]
        rfl
      rw [Run.perform_bind_ok hone, ih t, hpoints, List.append_assoc]
      rfl

/-- **Attempts leave a beginning of what they are for.** -/
theorem accepted_isPrefix {attempts : List Attempt} {points : List (Collection × Json)}
    (h : List.Forall₂ Attempt.IsFor attempts points) : accepted attempts <+: points := by
  induction h with
  | nil => exact List.prefix_rfl
  | @cons a point attempts points hfor _ ih =>
    obtain ⟨hcollection, text, hentry⟩ := hfor
    rw [accepted, hentry, stored]
    cases taken a.svc a.collection text with
    | error cause => exact List.nil_prefix
    | ok done =>
      rw [hcollection]
      exact List.cons_prefix_cons.2 ⟨rfl, ih⟩

theorem taken_of_isSound {svc : Service} (h : svc.IsSound) (c : Collection) (text : String) :
    taken svc c text = .ok () := by
  unfold taken embeddable Service.check
  rw [h.embedding, h.upsert]
  split <;> rfl

/-- Where nothing keeps the services from taking them, all points are there. -/
theorem accepted_eq {attempts : List Attempt} {points : List (Collection × Json)}
    (h : List.Forall₂ Attempt.IsFor attempts points) (hsound : ∀ a ∈ attempts, a.svc.IsSound) :
    accepted attempts = points := by
  induction h with
  | nil => rfl
  | @cons a point attempts points hfor _ ih =>
    obtain ⟨hcollection, text, hentry⟩ := hfor
    have hrest := ih fun b hb => hsound b (List.mem_cons_of_mem a hb)
    rw [accepted, hentry, stored, taken_of_isSound (hsound a List.mem_cons_self), hcollection, hrest]
    rfl

/-- A collection that refuses a point ends the attempts. -/
theorem accepted_refused {a : Attempt} (rest : List Attempt) {reason : String}
    (h : a.svc.outage .upsert a.collection = some reason) : accepted (a :: rest) = [] := by
  rw [accepted]
  rcases a.entry with cause | ⟨text, payload⟩
  · rfl
  · rw [stored, taken]
    cases embeddable a.svc text with
    | error cause => rfl
    | ok done =>
      rw [Service.check, h]
      rfl

/-! ## What the entries are -/

theorem graphEntry_eq_ok (path : Json) (g : Graph) :
    ∃ text, graphEntry path g = .ok (text, (GraphDigest.ofGraph path g).payload) := by
  obtain ⟨text, hrecord⟩ : ∃ text, graphRecord (GraphDigest.ofGraph path g).document = .ok text := by
    generalize GraphDigest.ofGraph path g = digest
    have hfunctions : digest.document.field "functions" (.list []) = .ok (.ofTexts digest.functions) := rfl
    have hclasses : digest.document.field "classes" (.list []) = .ok (.ofTexts digest.classes) := rfl
    have hcalls : digest.document.field "calls" (.list []) = .ok (.ofTexts digest.calls) := rfl
    rw [graphRecord, hfunctions, hclasses, hcalls]
    simp only [bind, Except.bind, Json.listed_ofTexts]
    exact ⟨_, rfl⟩
  refine ⟨text, ?_⟩
  rw [graphEntry, hrecord]
  rfl

def sourcePayload (path source : String) (imports : List String) : Json :=
  .object [("type", "import_file"), ("file_path", path), ("source_code", source), ("imports", .ofTexts imports),
    ("import_count", .int imports.length)]

theorem importEntry_eq_ok (path source : String) (imports : List String) :
    ∃ text, importEntry path source (.ofTexts imports) = .ok (text, sourcePayload path source imports) := by
  have hpayload : importPayload path source (.ofTexts imports) = .ok (sourcePayload path source imports) := by
    have hsize : (Json.ofTexts imports).size = .ok imports.length := congrArg Except.ok (List.length_map _)
    rw [importPayload, hsize]
    rfl
  rw [importEntry, importRecord, Json.listed_ofTexts, hpayload]
  exact ⟨_, rfl⟩

/-- Every payload in the store is an object. -/
theorem stored_object {svc : Service} {c : Collection} {entry : Except Fault (String × Json)} {payload : Json}
    (hentry : ∀ text payload, entry = .ok (text, payload) → payload.kind = .object)
    (h : stored svc c entry = .ok payload) : payload.kind = .object := by
  cases entry with
  | error cause => cases h
  | ok entry =>
    obtain ⟨text, given⟩ := entry
    rw [stored] at h
    cases htaken : taken svc c text with
    | error cause => rw [htaken] at h; cases h
    | ok done =>
      rw [htaken] at h
      rw [← Except.ok.inj h]
      exact hentry text given rfl

theorem graphEntry_object (path : Json) (g : Graph) :
    ∀ text payload, graphEntry path g = .ok (text, payload) → payload.kind = .object := by
  intro text payload h
  obtain ⟨_, -, h⟩ := Run.ok_of_bind h
  cases h
  rfl

theorem importEntry_object (path source imports : Json) :
    ∀ text payload, importEntry path source imports = .ok (text, payload) → payload.kind = .object := by
  intro text payload h
  obtain ⟨_, -, h⟩ := Run.ok_of_bind h
  obtain ⟨_, hpayload, h⟩ := Run.ok_of_bind h
  obtain ⟨_, -, hpayload⟩ := Run.ok_of_bind hpayload
  cases hpayload
  cases h
  rfl

theorem payload_object {l : Learning} {payload : Json} (h : l.payload = .ok payload) : payload.kind = .object := by
  unfold Learning.payload at h
  dsimp only at h
  split at h
  all_goals
    obtain ⟨_, -, h⟩ := Run.ok_of_bind h
    obtain ⟨_, -, h⟩ := Run.ok_of_bind h
    obtain ⟨_, -, h⟩ := Run.ok_of_bind h
    obtain ⟨_, -, h⟩ := Run.ok_of_bind h
    obtain ⟨_, -, h⟩ := Run.ok_of_bind h
    obtain ⟨_, -, h⟩ := Run.ok_of_bind h
    obtain ⟨_, -, h⟩ := Run.ok_of_bind h
    cases h
    rfl

theorem entry_object (l : Learning) :
    ∀ text payload, l.entry = .ok (text, payload) → payload.kind = .object := by
  intro text payload h
  obtain ⟨_, -, h⟩ := Run.ok_of_bind h
  obtain ⟨given, hgiven, h⟩ := Run.ok_of_bind h
  cases h
  exact payload_object hgiven

/-! ## Giving -/

section FilterM

variable {α : Type} (f : α → Except Fault Bool)

theorem filterAuxM_eq (xs acc : List α) :
    List.filterAuxM f xs acc = (List.filterAuxM f xs []).map (· ++ acc) := by
  induction xs generalizing acc with
  | nil => rfl
  | cons x rest ih =>
    simp only [List.filterAuxM]
    cases f x with
    | error cause => rfl
    | ok fits =>
      show List.filterAuxM f rest (cond fits (x :: acc) acc) =
        (List.filterAuxM f rest (cond fits [x] [])).map (· ++ acc)
      rw [ih (cond fits (x :: acc) acc), ih (cond fits [x] [])]
      cases List.filterAuxM f rest [] <;> cases fits <;> simp [Except.map]

theorem filterM_cons (x : α) (rest : List α) :
    (x :: rest).filterM f = do
      let fits ← f x
      return (if fits then [x] else []) ++ (← rest.filterM f) := by
  unfold List.filterM
  simp only [List.filterAuxM]
  cases f x with
  | error cause => rfl
  | ok fits =>
    show List.filterAuxM f rest (cond fits [x] []) >>= _ = _
    rw [filterAuxM_eq]
    cases List.filterAuxM f rest [] <;> cases fits <;> simp [Except.map, bind, Except.bind, pure, Except.pure]

theorem filterM_append (xs ys : List α) :
    (xs ++ ys).filterM f = do return (← xs.filterM f) ++ (← ys.filterM f) := by
  induction xs with
  | nil =>
    have hnone : ([] : List α).filterM f = .ok [] := rfl
    rw [List.nil_append, hnone]
    cases ys.filterM f <;> rfl
  | cons x rest ih =>
    rw [List.cons_append, filterM_cons, filterM_cons, ih]
    cases f x with
    | error cause => rfl
    | ok fits =>
      cases rest.filterM f with
      | error cause => rfl
      | ok found => cases ys.filterM f <;> simp [bind, Except.bind, pure, Except.pure]

theorem filterM_eq_ok {fits : α → Bool} {xs : List α} (h : ∀ x ∈ xs, f x = .ok (fits x)) :
    xs.filterM f = .ok (xs.filter fits) := by
  induction xs with
  | nil => rfl
  | cons x rest ih =>
    rw [filterM_cons, h x List.mem_cons_self, ih fun y hy => h y (List.mem_cons_of_mem x hy), List.filter_cons]
    cases hx : fits x <;> rfl

theorem mem_of_filterM_eq_ok {xs found : List α} (h : xs.filterM f = .ok found) {x : α} (hx : x ∈ xs)
    (hfits : f x = .ok true) : x ∈ found := by
  induction xs generalizing found with
  | nil => cases hx
  | cons y rest ih =>
    rw [filterM_cons] at h
    obtain ⟨fits, hy, h⟩ := Run.ok_of_bind h
    obtain ⟨more, hmore, h⟩ := Run.ok_of_bind h
    cases h
    rcases List.mem_cons.1 hx with rfl | hx
    · obtain rfl := Except.ok.inj (hfits.symm.trans hy)
      exact List.mem_append_left _ List.mem_cons_self
    · exact List.mem_append_right _ (ih hmore hx)

end FilterM

def isUnder (path : String) (payload : Json) : Bool := (payload.get? "file_path").any (·.isText path)

theorem isAbout_of_object {payload : Json} (h : payload.kind = .object) (path : String) :
    isAbout (.text path) payload = .ok (isUnder path payload) := by
  cases payload with
  | object fields =>
    unfold isAbout isUnder Json.field Json.get?
    simp only [bind, Except.bind, pure, Except.pure, Json.same_text]
    cases Json.lookup fields "file_path" <;> rfl
  | _ => cases h

theorem object_of_isUnder {path : String} {payload : Json} (h : isUnder path payload = true) :
    payload.kind = .object := by
  cases payload with
  | object fields => rfl
  | _ => cases h

/-- The first of some payloads that is about a path, as a list of one or none. -/
def firstUnder (path : Json) (payloads : List Json) : Except Fault (List Json) := do
  return (← payloads.filterM (isAbout path)).take 1

/-- **What stands in front decides.** -/
theorem firstUnder_append (path : Json) (xs ys : List Json) :
    firstUnder path (xs ++ ys) = do return ((← firstUnder path xs) ++ (← firstUnder path ys)).take 1 := by
  unfold firstUnder
  rw [filterM_append]
  cases xs.filterM (isAbout path) with
  | error cause => rfl
  | ok found =>
    cases ys.filterM (isAbout path) with
    | error cause => rfl
    | ok more => cases found <;> simp [bind, Except.bind, pure, Except.pure, List.take_take]

/-- A path that is known shows the same whatever comes behind. -/
theorem firstUnder_append_known {p : String} {xs ys : List Json} (hys : ∀ payload ∈ ys, payload.kind = .object)
    (h : (∃ payload ∈ ys, isUnder p payload = true) → ∃ payload ∈ xs, isUnder p payload = true) :
    firstUnder (.text p) (xs ++ ys) = firstUnder (.text p) xs := by
  have hbehind : ys.filterM (isAbout (.text p)) = .ok (ys.filter (isUnder p)) :=
    filterM_eq_ok _ fun payload hp => isAbout_of_object (hys payload hp) p
  unfold firstUnder
  rw [filterM_append, hbehind]
  cases hfront : xs.filterM (isAbout (.text p)) with
  | error cause => rfl
  | ok found =>
    cases hmore : ys.filter (isUnder p) with
    | nil =>
      show Except.ok ((found ++ []).take 1) = _
      rw [List.append_nil]
      rfl
    | cons payload rest =>
      -- something comes behind, so the path is known and what is found is not empty
      have hnew : payload ∈ ys.filter (isUnder p) := hmore ▸ List.mem_cons_self
      obtain ⟨known, hknown, hunder⟩ := h ⟨payload, (List.mem_filter.1 hnew).1, (List.mem_filter.1 hnew).2⟩
      have habout : isAbout (.text p) known = .ok true := by
        rw [isAbout_of_object (object_of_isUnder hunder), hunder]
      cases found with
      | nil => exact absurd (mem_of_filterM_eq_ok _ hfront hknown habout) List.not_mem_nil
      | cons first others => rfl

theorem firstUnder_of_objects {payloads : List Json} (h : ∀ payload ∈ payloads, payload.kind = .object) (path : String) :
    firstUnder (.text path) payloads = .ok (payloads.filter (isUnder path)).head?.toList := by
  unfold firstUnder
  rw [filterM_eq_ok _ fun payload hp => isAbout_of_object (h payload hp) path]
  cases payloads.filter (isUnder path) <;> rfl

theorem perform_firstAbout (svc : Service) (c : Collection) (what : String) (path : Json) (s : Session Store) :
    (firstAbout svc c what path).perform s =
      match (do svc.check .scroll c; firstUnder path (s.state.payloads c) : Except Fault (List Json)) with
      | .ok found => (.ok found, s)
      | .error cause => (.ok [], { s with console :=
          s.console ++ ["Error getting " ++ what ++ " for " ++ path.display ++ ": " ++ cause.message] }) := by
  unfold firstAbout scroll firstUnder
  rw [Run.perform_orElse]
  cases svc.check .scroll c with
  | error cause => rfl
  | ok done =>
    rw [Run.perform_bind_ok (Run.perform_of _ s), Run.perform_bind_ok (Run.perform_state s)]
    cases hfound : (s.state.payloads c).filterM (isAbout path) with
    | error cause => rfl
    | ok found =>
      rw [Run.perform_bind_ok (Run.perform_of _ s), Run.perform_of]
      rfl

theorem payloads_append {s t : Store} {more : List (Collection × Json)} (h : t.points = s.points ++ more)
    (c : Collection) : t.payloads c = s.payloads c ++ (ofPoints more).payloads c := by
  unfold payloads
  rw [h, List.filterMap_append]
  rfl

end Store
end PullReview
