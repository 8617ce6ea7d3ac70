import PullReview.Proofs.Store.Points
/-!
# Which version of a file is retrieved

A file can be indexed many times, and every time the store keeps one more version of it (`points_indexAll`).  Retrieval
gives the version that was indexed first: the one indexed last is retrieved only where the two are the same
(`retrieves_first_version`).
-/
namespace PullReview
namespace Store

namespace Indexing

def path : Indexing → String
  | .graph path _ => path
  | .imports path _ _ => path

def collection : Indexing → Collection
  | .graph _ _ => .codeGraphs
  | .imports _ _ _ => .importFiles

def version : Indexing → Json
  | .graph path g => (GraphDigest.ofGraph path g).payload
  | .imports path source names =>
    .object [("type", "import_file"), ("file_path", path), ("source_code", source), ("imports", .ofTexts names),
      ("import_count", .int names.length)]

def entry : Indexing → Except Fault (String × Json)
  | .graph path g => graphEntry path g
  | .imports path source names => importEntry path source (.ofTexts names)

theorem perform_eq (svc : Service) (i : Indexing) : i.perform svc = addEntry svc i.collection i.entry := by
  cases i with
  | graph path g => exact indexGraph_eq svc path g
  | imports path source names => exact indexImports_eq svc path source (.ofTexts names)

theorem entry_eq_ok {i : Indexing} {text : String} {payload : Json} (h : i.entry = .ok (text, payload)) :
    payload = i.version := by
  cases i with
  | graph path g =>
    obtain ⟨_, -, h⟩ := Run.ok_of_bind h
    cases h
    rfl
  | imports path source names =>
    obtain ⟨_, -, h⟩ := Run.ok_of_bind h
    obtain ⟨_, hpayload, h⟩ := Run.ok_of_bind h
    have hsize : (Json.ofTexts names).size = .ok names.length := by simp [Json.ofTexts, Json.size]
    unfold importPayload at hpayload
    rw [hsize] at hpayload
    cases hpayload
    cases h
    rfl

theorem version_kind (i : Indexing) : i.version.kind = .object := by cases i <;> rfl

theorem isUnder_version (i : Indexing) (p : String) : isUnder p i.version = decide (i.path = p) := by
  cases i <;> rfl

/-- **One step**: indexing that succeeds puts the version behind all others. -/
theorem points_perform {svc : Service} {i : Indexing} {id : String} {s t : Session Store}
    (h : (i.perform svc).perform s = (.ok id, t)) :
    t.state.points = s.state.points ++ [(i.collection, i.version)] := by
  obtain ⟨id', u, hrun, -, hpoints⟩ := perform_addEntry svc i.collection i.entry s
  rw [perform_eq, hrun] at h
  cases hstored : stored svc i.collection i.entry with
  | error cause => rw [hstored] at h; cases h
  | ok payload =>
    have hpayload : payload = i.version := by
      cases hentry : i.entry with
      | error cause => rw [hentry] at hstored; cases hstored
      | ok entry =>
        obtain ⟨text, given⟩ := entry
        rw [hentry, stored] at hstored
        cases htaken : taken svc i.collection text with
        | error cause => rw [htaken] at hstored; cases hstored
        | ok done =>
          rw [htaken] at hstored
          rw [← Except.ok.inj hstored, entry_eq_ok hentry]
    rw [hstored] at h hpoints
    cases h
    rw [hpoints, hpayload]
    rfl

end Indexing

/-- **A whole run**: the versions stand in the order in which they were indexed. -/
theorem points_indexAll {svc : Service} {calls : List Indexing} {s t : Session Store}
    (h : (indexAll svc calls).perform s = (.ok (), t)) :
    t.state.points = s.state.points ++ calls.map fun i => (i.collection, i.version) := by
  induction calls generalizing s with
  | nil =>
    cases h
    exact (List.append_nil _).symm
  | cons i rest ih =>
    obtain ⟨⟨⟩, u, hfirst, hrest⟩ := (Run.perform_bind_eq_ok_iff _ _ _ _ _).1 h
    obtain ⟨id, v, hindex, hpure⟩ := (Run.perform_bind_eq_ok_iff _ _ _ _ _).1 hfirst
    cases hpure
    rw [ih hrest, Indexing.points_perform hindex, List.append_assoc]
    rfl

/-- The versions of a file in a collection, first to last. -/
def versions (c : Collection) (p : String) (calls : List Indexing) : List Json :=
  (calls.filter fun i => i.collection = c ∧ i.path = p).map Indexing.version

theorem payloads_indexed {store : Store} {calls : List Indexing}
    (h : store.points = calls.map fun i => (i.collection, i.version)) (c : Collection) :
    store.payloads c = (calls.filter fun i => i.collection = c).map Indexing.version := by
  unfold payloads
  rw [h, List.filterMap_map]
  -- from here on only the calls matter: the hypothesis would not hold of the rest of them
  clear h
  induction calls with
  | nil => rfl
  | cons i rest ih =>
    by_cases hc : i.collection = c
    · rw [List.filterMap_cons_some (b := i.version) (by simp [hc]), List.filter_cons_of_pos (by simp [hc]), List.map_cons,
        ih]
    · rw [List.filterMap_cons_none (by simp [hc]), List.filter_cons_of_neg (by simp [hc]), ih]

theorem filter_isUnder_indexed {store : Store} {calls : List Indexing}
    (h : store.points = calls.map fun i => (i.collection, i.version)) (c : Collection) (p : String) :
    (store.payloads c).filter (isUnder p) = versions c p calls := by
  rw [payloads_indexed h, List.filter_map, List.filter_filter, versions]
  congr 2
  funext i
  simp [Indexing.isUnder_version, Bool.and_comm]

/-- Reading one path of a collection. -/
theorem readPath_eq {svc : Service} {c : Collection} (hopen : svc.outage .scroll c = none) (what p : String)
    {s : Session Store} (hobjects : ∀ payload ∈ s.state.payloads c, payload.kind = .object) :
    (do return (← Run.mapEach (firstAbout svc c what) (← Run.of (Json.list [.text p]).elements)).flatten :
      Run Store (List Json)).perform s = (.ok ((s.state.payloads c).filter (isUnder p)).head?.toList, s) := by
  have hone : (firstAbout svc c what (.text p)).perform s =
      (.ok ((s.state.payloads c).filter (isUnder p)).head?.toList, s) := by
    rw [perform_firstAbout, Service.check, hopen, firstUnder_of_objects hobjects]
    rfl
  have hall : (Run.mapEach (firstAbout svc c what) [.text p]).perform s =
      (.ok [((s.state.payloads c).filter (isUnder p)).head?.toList], s) := by
    rw [Run.mapEach, Run.perform_bind_ok hone]
    rfl
  rw [Json.elements, Run.perform_bind_ok (Run.perform_of _ s), Run.perform_bind_ok hall, Run.perform_pure,
    List.flatten_singleton]

/-- **Retrieval gives the first version of a file, not the latest.**  After any indexing that succeeds, a path gives the
version that was first indexed under it, in each of the two collections, or nothing if there is none.  So it gives the
version that was indexed last exactly when that is the same as the first. -/
theorem retrieves_first_version (svc : Service) (hopen : ∀ c, svc.outage .scroll c = none) (calls : List Indexing)
    {t : Session Store} (hindexed : (indexAll svc calls).start .empty = (.ok (), t)) (p : String) :
    let graphs := versions .codeGraphs p calls
    let imports := versions .importFiles p calls
    ((graphsOf svc (.list [.text p])).start t.state).1 = .ok graphs.head?.toList ∧
      ((importsOf svc (.list [.text p])).start t.state).1 = .ok imports.head?.toList ∧
      (((graphsOf svc (.list [.text p])).start t.state).1 = .ok graphs.getLast?.toList ↔
        graphs.head? = graphs.getLast?) ∧
      (((importsOf svc (.list [.text p])).start t.state).1 = .ok imports.getLast?.toList ↔
        imports.head? = imports.getLast?) := by
  intro graphs imports
  have hpoints : t.state.points = calls.map fun i => (i.collection, i.version) :=
    (points_indexAll hindexed).trans (List.nil_append _)
  have hread (c : Collection) (what : String) :
      ((do return (← Run.mapEach (firstAbout svc c what) (← Run.of (Json.list [.text p]).elements)).flatten :
        Run Store (List Json)).perform ⟨t.state, []⟩).1 = .ok (versions c p calls).head?.toList := by
    have hobjects : ∀ payload ∈ t.state.payloads c, payload.kind = .object := by
      intro payload hp
      rw [payloads_indexed hpoints] at hp
      obtain ⟨i, -, rfl⟩ := List.mem_map.1 hp
      exact i.version_kind
    rw [readPath_eq (hopen c) what p (s := ⟨t.state, []⟩) hobjects, filter_isUnder_indexed hpoints]
  have hgraphs : ((graphsOf svc (.list [.text p])).start t.state).1 = .ok graphs.head?.toList :=
    hread .codeGraphs "code graph"
  have himports : ((importsOf svc (.list [.text p])).start t.state).1 = .ok imports.head?.toList :=
    hread .importFiles "import file"
  have hsame (versions : List Json) : (Except.ok versions.head?.toList : Except Fault (List Json)) =
      .ok versions.getLast?.toList ↔ versions.head? = versions.getLast? := by
    rw [Except.ok.injEq]
    exact ⟨fun h => by simpa using congrArg List.head? h, fun h => by rw [h]⟩
  exact ⟨hgraphs, himports, by rw [hgraphs, hsame], by rw [himports, hsame]⟩

/-! A file that is indexed, mended and indexed again: -/

def mendedFile : List Indexing := [.imports "a.py" "x = 1/0" [], .imports "a.py" "x = 1" []]

theorem retrieves_first_version_mendedFile :
    ∃ t, (indexAll ⟨fun _ => [], none, fun _ _ => none⟩ mendedFile).start .empty = (.ok (), t) ∧
      ((importsOf ⟨fun _ => [], none, fun _ _ => none⟩ (.list [.text "a.py"])).start t.state).1 ≠
        .ok [(Indexing.imports "a.py" "x = 1" []).version] := by
  obtain ⟨⟨⟩, t, hindexed⟩ : ∃ done t,
      (indexAll ⟨fun _ => [], none, fun _ _ => none⟩ mendedFile).start .empty = (.ok done, t) := ⟨(), _, rfl⟩
  refine ⟨t, hindexed, fun hlatest => ?_⟩
  have hfirst := retrieves_first_version ⟨fun _ => [], none, fun _ _ => none⟩ (fun _ => rfl) mendedFile hindexed "a.py"
  have hversion := (Except.ok.inj (hfirst.2.1.symm.trans hlatest))
  simp [versions, mendedFile, Indexing.version, Indexing.collection, Indexing.path] at hversion

end Store
end PullReview
