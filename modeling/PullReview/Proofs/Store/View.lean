import PullReview.Proofs.Alike
import PullReview.Proofs.Store.Points
/-!
# What a review can see of the store

A review about some paths sees the first graph and the first imports under each of them, and the first learnings.  Two
stores that look alike to it (`SeenAlike`) give it the same (`retrieve_alike`), and they look alike still after the same
was indexed into both (`addEntry_alike`).  A store that has only grown looks as before if nothing new stands in front:
no path that is read was new to it, and no learning came among the first (`seenAlike_of_grown`).
-/
namespace PullReview
namespace Store

def SeenAlike (paths : List String) (s t : Store) : Prop :=
  (∀ p ∈ paths, ∀ c : Collection, c.isByPath = true →
    firstUnder (.text p) (s.payloads c) = firstUnder (.text p) (t.payloads c)) ∧
  (s.payloads .learnings).take 5 = (t.payloads .learnings).take 5

variable {paths : List String}

/-! ## Indexing -/

theorem take_append_take {α : Type} (n : Nat) (xs more : List α) :
    (xs ++ more).take n = (xs.take n ++ more).take n := by
  by_cases h : n ≤ xs.length
  · rw [List.take_append_of_le_length h, List.take_append_of_le_length (by simp [h]), List.take_take, Nat.min_self]
  · rw [List.take_of_length_le (l := xs) (by omega)]

theorem SeenAlike.append {s t s' t' : Store} {more : List (Collection × Json)} (h : SeenAlike paths s t)
    (hs : s'.points = s.points ++ more) (ht : t'.points = t.points ++ more) : SeenAlike paths s' t' := by
  constructor
  · intro p hp c hc
    rw [payloads_append hs, payloads_append ht, firstUnder_append, firstUnder_append, h.1 p hp c hc]
  · -- what is shown after the addition hangs on what was shown before it, not on all that was there
    rw [payloads_append hs, payloads_append ht, take_append_take, h.2, ← take_append_take]

/-- The ids of the two points may differ. -/
theorem addEntry_alike (svc : Service) (c : Collection) (entry : Except Fault (String × Json)) :
    Run.Alike (SeenAlike paths) (fun _ _ => True) (addEntry svc c entry) (addEntry svc c entry) := by
  intro s t hseen hconsole
  obtain ⟨id, s', hs, hsaid, hpoints⟩ := perform_addEntry svc c entry s
  obtain ⟨id', t', ht, hsaid', hpoints'⟩ := perform_addEntry svc c entry t
  rw [hs, ht]
  refine ⟨?_, hseen.append hpoints hpoints', by rw [hsaid, hsaid', hconsole]⟩
  cases stored svc c entry with
  | error cause => exact .error cause
  | ok payload => exact .ok trivial

/-! ## Retrieval -/

theorem firstAbout_alike (svc : Service) {c : Collection} (hc : c.isByPath = true) (what : String) {p : String}
    (hp : p ∈ paths) :
    Run.Alike (SeenAlike paths) Eq (firstAbout svc c what (.text p)) (firstAbout svc c what (.text p)) := by
  intro s t hseen hconsole
  rw [perform_firstAbout, perform_firstAbout, hseen.1 p hp c hc]
  split
  · exact ⟨.ok rfl, hseen, hconsole⟩
  · exact ⟨.ok rfl, hseen, by rw [hconsole]⟩

theorem perform_learnings (svc : Service) (s : Session Store) :
    (learnings svc learningLimit).perform s =
      match svc.check .scroll .learnings with
      | .ok _ => (.ok ((s.state.payloads .learnings).take 5), s)
      | .error cause => (.ok [], { s with console := s.console ++ ["Error getting learnings: " ++ cause.message] }) := by
  have hall (payloads : List Json) : payloads.filterM (fun _ => (.ok true : Except Fault Bool)) = .ok payloads := by
    have hkept : payloads.filter (fun _ => true) = payloads := List.filter_eq_self.2 fun _ _ => rfl
    exact (filterM_eq_ok _ fun _ _ => rfl).trans (congrArg Except.ok hkept)
  unfold learnings scroll
  rw [Run.perform_orElse]
  cases svc.check .scroll .learnings with
  | error cause => rfl
  | ok done =>
    rw [Run.perform_bind_ok (Run.perform_of _ s), Run.perform_bind_ok (Run.perform_state s), hall,
      Run.perform_bind_ok (Run.perform_of _ s), Run.perform_of]
    rfl

theorem learnings_alike (svc : Service) :
    Run.Alike (SeenAlike paths) Eq (learnings svc learningLimit) (learnings svc learningLimit) := by
  intro s t hseen hconsole
  rw [perform_learnings, perform_learnings, hseen.2]
  split
  · exact ⟨.ok rfl, hseen, hconsole⟩
  · exact ⟨.ok rfl, hseen, by rw [hconsole]⟩

/-- **Stores that look alike give the same.** -/
theorem retrieve_alike (svc : Service) {state : Json}
    (hstate : state.field "changed_files" (.list []) = .ok (.ofTexts paths)) :
    Run.Alike (SeenAlike paths) Eq (retrieve svc state) (retrieve svc state) := by
  have hread (c : Collection) (hc : c.isByPath = true) (what : String) : Run.Alike (SeenAlike paths) Eq
      (do return (← Run.mapEach (firstAbout svc c what) (← Run.of (Json.ofTexts paths).elements)).flatten)
      (do return (← Run.mapEach (firstAbout svc c what) (← Run.of (Json.ofTexts paths).elements)).flatten) := by
    have helements : (Json.ofTexts paths).elements = .ok (paths.map .text) := rfl
    rw [helements, Run.of_ok_bind]
    have hone : ∀ item ∈ paths.map Json.text,
        Run.Alike (SeenAlike paths) Eq (firstAbout svc c what item) (firstAbout svc c what item) := by
      intro item hitem
      obtain ⟨p, hp, rfl⟩ := List.mem_map.1 hitem
      exact firstAbout_alike svc hc what hp
    refine (Run.Alike.mapEach hone).bind fun found found' hfound => ?_
    subst hfound
    exact Run.Alike.pure rfl
  have hfetch : Run.Alike (SeenAlike paths) Eq (retrieve.fetch svc state) (retrieve.fetch svc state) := by
    unfold retrieve.fetch
    rw [hstate, Run.of_ok_bind]
    refine (hread .codeGraphs rfl "code graph").bind fun graphs graphs' hgraphs => ?_
    refine (hread .importFiles rfl "import file").bind fun imports imports' himports => ?_
    refine (learnings_alike svc).bind fun learned learned' hlearned => ?_
    subst hgraphs himports hlearned
    refine (Run.Alike.of _).bind fun text text' htext => ?_
    subst htext
    exact Run.Alike.pure rfl
  exact hfetch.orElse fun _ => Run.Alike.pure rfl

/-- **What retrieval gives** when the store answers: the first under each path, the first learnings, and the text of it
all.  It fails only where that text does. -/
theorem perform_retrieve {svc : Service} (hscroll : ∀ c, svc.check .scroll c = .ok ()) {state : Json} {paths : List Json}
    (hstate : state.field "changed_files" (.list []) = .ok (.list paths)) {s : Session Store}
    {graphs imports : Json → List Json}
    (hgraphs : ∀ p ∈ paths, firstUnder p (s.state.payloads .codeGraphs) = .ok (graphs p))
    (himports : ∀ p ∈ paths, firstUnder p (s.state.payloads .importFiles) = .ok (imports p)) :
    let learned := (s.state.payloads .learnings).take 5
    (retrieve svc state).perform s =
      (.ok (match digestText (.list (paths.flatMap graphs)) (.list (paths.flatMap imports)) (.list learned) with
        | .ok text => .completed (paths.flatMap graphs) (paths.flatMap imports) learned text
        | .error cause => .failed cause), s) := by
  intro learned
  have hread (c : Collection) (what : String) (found : Json → List Json)
      (hfound : ∀ p ∈ paths, firstUnder p (s.state.payloads c) = .ok (found p)) :
      (do return (← Run.mapEach (firstAbout svc c what) paths).flatten : Run Store (List Json)).perform s =
        (.ok (paths.flatMap found), s) := by
    have hone : ∀ p ∈ paths, (firstAbout svc c what p).perform s = (.ok (found p), s) := by
      intro p hp
      rw [perform_firstAbout, hscroll, hfound p hp]
      rfl
    rw [Run.perform_bind_ok (Run.perform_mapEach hone), List.flatMap_def]
    rfl
  have helements : (Json.list paths).elements = .ok paths := rfl
  have hlearned := perform_learnings svc s
  rw [hscroll] at hlearned
  rw [retrieve, Run.perform_orElse, retrieve.fetch, hstate, Run.of_ok_bind, graphsOf, importsOf, helements,
    Run.of_ok_bind, Run.of_ok_bind, Run.perform_bind_ok (hread _ _ _ hgraphs),
    Run.perform_bind_ok (hread _ _ _ himports), Run.perform_bind_ok hlearned]
  cases digestText (.list (paths.flatMap graphs)) (.list (paths.flatMap imports)) (.list learned) with
  | error cause => rfl
  | ok text => rfl

theorem digestText_eq {graphs imports learnings : Json} {learned structured sources : List String}
    (hlearned : titled "## Past Learnings:" learningLines learnings = .ok learned)
    (hstructured : titled "\n## Code Structure:" graphLines graphs = .ok structured)
    (hsources : titled "\n## Source Code:" importLines imports = .ok sources) :
    digestText graphs imports learnings = .ok (Text.joinLines (learned ++ structured ++ sources)) := by
  unfold digestText
  rw [hlearned, hstructured, hsources]
  rfl

theorem firstAbout_preserves (svc : Service) (c : Collection) (what : String) (path : Json) (P : Store → Prop) :
    (firstAbout svc c what path).Preserves P := by
  intro s hs
  rw [perform_firstAbout]
  split <;> exact hs

theorem retrieve_preserves (svc : Service) (state : Json) (P : Store → Prop) : (retrieve svc state).Preserves P := by
  have hread (c : Collection) (what : String) (found : List Json) :
      (Run.mapEach (firstAbout svc c what) found).Preserves P :=
    Run.Preserves.mapEach (fun path => firstAbout_preserves svc c what path P) found
  have hlearnings : (learnings svc learningLimit).Preserves P := by
    intro s hs
    rw [perform_learnings]
    split <;> exact hs
  have hfetch : (retrieve.fetch svc state).Preserves P := by
    unfold retrieve.fetch
    refine (Run.Preserves.of _).bind fun changed => ?_
    refine ((Run.Preserves.of _).bind fun _ => (hread _ _ _).bind fun _ => Run.Preserves.pure _).bind fun graphs => ?_
    refine ((Run.Preserves.of _).bind fun _ => (hread _ _ _).bind fun _ => Run.Preserves.pure _).bind fun imports => ?_
    exact hlearnings.bind fun learned => (Run.Preserves.of _).bind fun text => Run.Preserves.pure _
  exact hfetch.orElse fun _ => Run.Preserves.pure _

/-! ## Growth -/

/-- The store has all it had, in its place, and behind that perhaps more objects. -/
def Grown (base s : Store) : Prop :=
  ∃ more, s.points = base.points ++ more ∧ ∀ point ∈ more, point.2.kind = .object

theorem Grown.refl (s : Store) : Grown s s := ⟨[], (List.append_nil _).symm, fun _ h => absurd h List.not_mem_nil⟩

theorem addEntry_grown (svc : Service) (c : Collection) {entry : Except Fault (String × Json)} (base : Store)
    (hentry : ∀ text payload, entry = .ok (text, payload) → payload.kind = .object) :
    (addEntry svc c entry).Preserves (Grown base) := by
  intro s hs
  obtain ⟨more, hmore, hobjects⟩ := hs
  obtain ⟨id, t, hrun, -, hpoints⟩ := perform_addEntry svc c entry s
  rw [hrun]
  rw [hmore, List.append_assoc] at hpoints
  refine ⟨_, hpoints, fun point hpoint => ?_⟩
  rcases List.mem_append.1 hpoint with hold | hnew
  · exact hobjects point hold
  · obtain ⟨payload, hpayload, rfl⟩ := Option.map_eq_some_iff.1 (Option.mem_toList.1 hnew)
    cases hstored : stored svc c entry with
    | error cause => rw [hstored] at hpayload; cases hpayload
    | ok kept =>
      rw [hstored] at hpayload
      cases hpayload
      exact stored_object hentry hstored

theorem object_of_mem_payloads {more : List (Collection × Json)} (hobjects : ∀ point ∈ more, point.2.kind = .object)
    {c : Collection} : ∀ payload ∈ (ofPoints more).payloads c, payload.kind = .object := by
  intro payload hp
  obtain ⟨⟨d, kept⟩, hmem, hkept⟩ := List.mem_filterMap.1 hp
  by_cases hd : d = c
  · simp only [hd, if_true, Option.some.injEq] at hkept
    rw [← hkept]
    exact hobjects _ hmem
  · simp [hd] at hkept

def Holds (s : Store) (c : Collection) (path : String) : Prop := ∃ payload ∈ s.payloads c, isUnder path payload = true

theorem seenAlike_of_grown {base s : Store} (hgrown : Grown base s)
    (hpaths : ∀ p ∈ paths, ∀ c : Collection, c.isByPath = true → s.Holds c p → base.Holds c p)
    (hlearnings : 5 ≤ (base.payloads .learnings).length ∨ s.payloads .learnings = base.payloads .learnings) :
    SeenAlike paths s base := by
  obtain ⟨more, hmore, hobjects⟩ := hgrown
  constructor
  · intro p hp c hc
    rw [payloads_append hmore]
    refine firstUnder_append_known (object_of_mem_payloads hobjects) fun hnew => hpaths p hp c hc ?_
    obtain ⟨payload, hpayload, hunder⟩ := hnew
    exact ⟨payload, by rw [payloads_append hmore]; exact List.mem_append_right _ hpayload, hunder⟩
  · rcases hlearnings with hmany | hsame
    · -- five are shown, and five were there
      rw [payloads_append hmore, List.take_append_of_le_length hmany]
    · rw [hsame]

end Store
end PullReview
