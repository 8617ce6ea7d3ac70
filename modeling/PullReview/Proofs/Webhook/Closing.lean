import PullReview.Proofs.Webhook.Frame
import PullReview.Webhook.Standing
/-!
# Closing a pull request

A service takes in requests and processes the payloads that it queued, in any order.  A clone is made under a name of
its own, but the request that closes a pull request looks for another name (`label_ne_closed`).  So closing leaves
every clone where it is, that of the closed pull request too: afterwards it is gone exactly if it was gone before
(`closing_leaves_clones`).
-/
namespace PullReview
namespace Webhook

open Clone (Place)
open Files (KeepsTo)

/-! ## Requests at the gate -/

/-- The number of the pull request that a delivery closes, if its signature is right and it closes one. -/
def closedNumber? (secret : String) (d : Delivery) : Option Json :=
  match payload secret d with
  | .error _ => none
  | .ok q =>
    match d.event, pullNumber q, q.field "action" "" with
    | some "pull_request", .ok pull, .ok action => if action.isText "closed" then some pull else none
    | _, _, _ => none

section Gate

variable {K : Files → Prop} {root : Path} {secret : String} {d : Delivery}

theorem close_files {pull : Json} (hremove : (Files.removeTree (closedDirectory root pull)).Preserves K) :
    (close root pull).Preserves fun y => K y.files := by
  have hclean : (cleanUp (closedDirectory root pull) pull).Preserves fun y => K y.files := by
    have htree : (Yard.atFiles (Files.removeTree (closedDirectory root pull))).Preserves fun y => K y.files :=
      Run.Preserves.within (fun _ _ => hremove) fun _ hy => hy
    refine Run.Preserves.orElse ?_ fun _ => (Run.Preserves.say _).bind fun _ => Run.Preserves.pure _
    exact htree.bind fun _ => (Run.Preserves.say _).bind fun _ => Run.Preserves.pure _
  unfold close
  refine Run.Preserves.state.bind fun y => (Run.Preserves.of _).bind fun present => ?_
  split
  · exact hclean
  · exact Run.Preserves.pure _

/-- **A request changes the files only if it closes a pull request**, by removing the directory it looks for. -/
theorem receive_files
    (hclosed : ∀ pull, closedNumber? secret d = some pull →
      (Files.removeTree (closedDirectory root pull)).Preserves K) :
    (receive root secret d).Preserves fun y => K y.files := by
  intro s hs
  rw [receive]
  cases hq : payload secret d with
  | error cause =>
    rw [Run.perform_bind_error (Run.perform_of _ s)]
    exact hs
  | ok q =>
    rw [Run.perform_bind_ok (Run.perform_of _ s)]
    by_cases hevent : d.event = some "pull_request"
    · rw [if_neg (by simp [hevent])]
      cases hpull : pullNumber q with
      | error cause =>
        rw [Run.perform_bind_error (Run.perform_of _ s)]
        exact hs
      | ok pull =>
        rw [Run.perform_bind_ok (Run.perform_of _ s)]
        cases haction : q.field "action" "" with
        | error cause =>
          rw [Run.perform_bind_error (Run.perform_of _ s)]
          exact hs
        | ok action =>
          rw [Run.perform_bind_ok (Run.perform_of _ s)]
          by_cases hclose : action.isText "closed" = true
          · rw [if_pos hclose]
            exact close_files (hclosed pull (by simp [closedNumber?, hq, hevent, hpull, haction, hclose])) s hs
          · rw [if_neg hclose]
            split
            · exact hs
            · exact hs
    · rw [if_pos hevent]
      exact hs

end Gate

/-! ## Two names for one pull request -/

theorem underscore_not_mem_int (n : Int) : '_' ∉ (toString n).toList :=
  Clone.not_mem_toString_int n (by decide) (by decide)

/-- **The directory that closing looks for is no clone's.**  Before the last underscore a clone has at least three
characters, and the other name has two. -/
theorem label_ne_closed (place : Place) (url : String) (m n : Int) : place.label url m ≠ "pr_" ++ toString n := by
  intro h
  have hclosed : Text.cutLast '_' ("pr_" ++ toString n).toList = some (['p', 'r'], (toString n).toList) :=
    (Text.cutLast_eq_some_iff _ _ _ _).2 ⟨by rw [String.toList_append]; rfl, underscore_not_mem_int n⟩
  have hlabel : Text.cutLast '_' (place.label url m).toList =
      some ((place.nameOf url).toList ++ ['_', 'p', 'r'], (toString m).toList) := by
    refine (Text.cutLast_eq_some_iff _ _ _ _).2 ⟨?_, underscore_not_mem_int m⟩
    rw [Place.label, String.toList_append, String.toList_append, List.append_assoc, List.append_assoc]
    rfl
  rw [h, hclosed] at hlabel
  have hlength := congrArg List.length (Prod.mk.inj (Option.some.inj hlabel)).1
  simp at hlength

theorem closedDirectory_eq (root : Path) (n : Int) :
    closedDirectory root (.int n) = ⟨root.root, root.names ++ ["pr_" ++ toString n]⟩ ∧
      Path.IsName ("pr_" ++ toString n) ∧ "pr_" ++ toString n ≠ ".." := by
  have hname := Clone.isName_of_mem_underscore (s := "pr_" ++ toString n) (by simp) (by
    rw [String.toList_append, List.mem_append, not_or]
    exact ⟨by decide, Clone.not_mem_toString_int n (by decide) (by decide)⟩)
  exact ⟨Path.join_of_isName root hname.1, hname⟩

/-! ## What closing leaves -/

section Leaves

variable {settings : Settings} {secret : String} (hplace : settings.place.IsOrderly)

include hplace

theorem removeTree_closed_get? (n m : Int) (url : String) (s : Session Files) {at_ : List String}
    (hat : at_ <+: (settings.place.directory url (.int m)).place) :
    ((Files.removeTree (closedDirectory settings.place.root (.int n))).perform s).2.state.get? at_ =
      s.state.get? at_ := by
  obtain ⟨hclosed, hname, hup⟩ := closedDirectory_eq settings.place.root n
  rw [Clone.directory_place hplace] at hat
  rw [hclosed]
  refine Files.removeTree_get? (hplace.root.snoc hname hup) s fun hbelow => ?_
  rw [Path.place_append] at hbelow
  exact Clone.not_prefix_of_ne (Ne.symm (label_ne_closed settings.place url m n)) (hbelow.trans hat)

/-- **Closing a pull request leaves what leads to every clone.** -/
theorem closing_find {d : Delivery} {n : Int} (hclosed : closedNumber? secret d = some (.int n)) (s : Standing)
    (url : String) (m : Int) :
    (s.step settings secret (.delivery d)).files.find (settings.place.directory url (.int m)).toString =
      s.files.find (settings.place.directory url (.int m)).toString := by
  refine Files.find_congr (Clone.directory_isDirect hplace url m) fun at_ hat => ?_
  have hstep : (receive settings.place.root secret d).Preserves fun y => y.files.get? at_ = s.files.get? at_ := by
    refine receive_files (K := fun fs => fs.get? at_ = s.files.get? at_) fun pull hpull t ht => ?_
    obtain rfl := Option.some.inj (hclosed.symm.trans hpull)
    exact (removeTree_closed_get? hplace n m url t hat).trans ht
  exact hstep ⟨⟨s.files, s.queue⟩, []⟩ rfl

end Leaves

/-! ## What a whole run leaves -/

/-- The happening does not touch a directory by its number: pull requests that are closed have numbers, and one that is
processed has a number too and a directory of its own. -/
def Spares (settings : Settings) (secret : String) (d : Path) (s : Standing) : Happening → Prop
  | .delivery e => ∀ pull, closedNumber? secret e = some pull → ∃ m : Int, pull = .int m
  | .processing position _ => ∀ payload r url, s.queue[position]? = some payload → Request.read payload = .ok r →
      r.url = .text url → ∃ m : Int, r.number = .int m ∧ settings.place.directory url (.int m) ≠ d

def SparesAlong (settings : Settings) (secret : String) (d : Path) : Standing → List Happening → Prop
  | _, [] => True
  | s, h :: rest => Spares settings secret d s h ∧ SparesAlong settings secret d (s.step settings secret h) rest

section Run

variable {settings : Settings} {secret : String} (hplace : settings.place.IsOrderly) {url : String} {n : Int}

include hplace

theorem clone_keeps {fs : Files} (world : World) {r : Request}
    (hother : ∀ v, r.url = .text v → ∃ m : Int, r.number = .int m ∧
      settings.place.directory v (.int m) ≠ settings.place.directory url (.int n)) :
    (clone settings world r).Preserves fun b =>
      KeepsTo (settings.place.directory url (.int n)).place fs b.workspace.files := by
  refine atWorkspace_files _ (Clone.prepare_keeps world.remote fun v hv => ?_)
  obtain ⟨m, hm, hne⟩ := hother v hv
  simp only [hm]
  refine ⟨Clone.directory_isDirect hplace v m, ?_⟩
  rw [Clone.directory_place hplace, Clone.directory_place hplace]
  rw [Clone.directory_eq hplace, Clone.directory_eq hplace] at hne
  exact Clone.not_prefix_of_ne fun hlabel => hne (by rw [hlabel])

theorem step_keeps (s : Standing) {h : Happening}
    (hspares : Spares settings secret (settings.place.directory url (.int n)) s h) :
    KeepsTo (settings.place.directory url (.int n)).place s.files (s.step settings secret h).files := by
  cases h with
  | delivery e =>
    refine receive_files (K := KeepsTo (settings.place.directory url (.int n)).place s.files)
      (fun pull hpull t ht => ?_) ⟨⟨s.files, s.queue⟩, []⟩ (KeepsTo.refl _ _)
    obtain ⟨m, rfl⟩ := hspares pull hpull
    exact ht.trans (KeepsTo.of_get? fun at_ hat => removeTree_closed_get? hplace m n url t hat)
  | processing position world =>
    rw [Standing.step]
    cases hqueue : s.queue[position]? with
    | none => exact KeepsTo.refl _ _
    | some payload =>
      exact process_files (KeepsTo (settings.place.directory url (.int n)).place s.files) settings world
        (fun r hread => clone_keeps hplace world fun v hv => hspares payload r v hqueue hread hv) ⟨s.bench, []⟩
        (KeepsTo.refl _ _)

/-- **A clone that is there stays through every run that spares it.** -/
theorem run_there (happenings : List Happening) (s : Standing)
    (hspares : SparesAlong settings secret (settings.place.directory url (.int n)) s happenings)
    (hthere : s.files.isThere (settings.place.directory url (.int n)) = true) :
    (s.run settings secret happenings).files.isThere (settings.place.directory url (.int n)) = true := by
  induction happenings generalizing s with
  | nil => exact hthere
  | cons h rest ih =>
    obtain ⟨hfirst, hrest⟩ := hspares
    have hkept := step_keeps hplace s hfirst
    exact ih (s.step settings secret h) hrest (Files.isThere_of_keepsTo (Clone.directory_isDirect hplace url n) hkept
      hthere)

/-- Once a payload is processed, the clone that was prepared for it is there. -/
theorem processed_there (s : Standing) {position : Nat} {world : World} {payload : Json} {r : Request} {d : Path}
    (hqueue : s.queue[position]? = some payload) (hread : Request.read payload = .ok r) (hurl : r.url = .text url)
    (hnumber : r.number = .int n) (hclone : ((clone settings world r).start s.bench).1 = .ok (some d)) :
    d = settings.place.directory url (.int n) ∧
      (s.step settings secret (.processing position world)).files.isThere d = true := by
  have hrun : (clone settings world r).perform ⟨s.bench, []⟩ =
      (.ok (some d), ((clone settings world r).perform ⟨s.bench, []⟩).2) := Prod.ext hclone rfl
  have hprepared : d = settings.place.directory url (.int n) ∧
      ((clone settings world r).perform ⟨s.bench, []⟩).2.state.workspace.files.isThere d = true := by
    obtain ⟨v, hv, hd, hthere, -⟩ := Clone.prepare_there
      (s := ⟨s.bench.workspace, []⟩) (t := ⟨((clone settings world r).perform ⟨s.bench, []⟩).2.state.workspace,
        ((clone settings world r).perform ⟨s.bench, []⟩).2.console⟩) (fun v _ => by
          simp only [hnumber]
          exact Clone.directory_isDirect hplace v n)
      (Prod.ext hclone rfl)
    obtain rfl : v = url := Json.text.inj (hv.symm.trans hurl)
    exact ⟨hd.trans (congrArg _ hnumber), hthere⟩
  refine ⟨hprepared.1, ?_⟩
  rw [Standing.step, hqueue]
  exact process_of_clone (fun fs => fs.isThere d = true) settings world hread hrun hprepared.2

end Run

/-- **Closing a pull request leaves its clone.**  When a payload for an address and a number was processed and its clone
was prepared, a later request that closes the number leaves the clone exactly as it was, as it leaves every other clone:
it is gone afterwards only if it was gone before.  And it is not gone before, as long as nothing in between prepares
that directory again. -/
theorem closing_leaves_clones (settings : Settings) (hplace : settings.place.IsOrderly) (secret : String) (s : Standing)
    {position : Nat} {world : World} {payload : Json} {r : Request} {url : String} {n : Int} {d : Path}
    (hqueue : s.queue[position]? = some payload) (hread : Request.read payload = .ok r) (hurl : r.url = .text url)
    (hnumber : r.number = .int n) (hclone : ((clone settings world r).start s.bench).1 = .ok (some d))
    (between : List Happening) {c : Delivery} (hclosed : closedNumber? secret c = some (.int n)) :
    let prepared := s.step settings secret (.processing position world)
    let later := prepared.run settings secret between
    let closed := later.step settings secret (.delivery c)
    d = settings.place.directory url (.int n) ∧
      (closed.files.isThere d = false ↔ later.files.isThere d = false) ∧
      (SparesAlong settings secret d prepared between → closed.files.isThere d = true) ∧
      ∀ v m, closed.files.find (settings.place.directory v (.int m)).toString =
        later.files.find (settings.place.directory v (.int m)).toString := by
  intro prepared later closed
  obtain ⟨rfl, hthere⟩ := processed_there hplace s hqueue hread hurl hnumber hclone
  have hfind (v : String) (m : Int) := closing_find hplace hclosed later v m
  have hsame : closed.files.isThere (settings.place.directory url (.int n)) =
      later.files.isThere (settings.place.directory url (.int n)) := by
    rw [Files.isThere_eq, Files.isThere_eq, hfind]
  refine ⟨rfl, by rw [hsame], fun hspares => ?_, hfind⟩
  rw [hsame]
  exact run_there hplace between prepared hspares hthere

/-! The same on a usual day: one pull request is opened, processed and closed. -/

def closedDelivery : Delivery :=
  { body := Text.encodeUtf8 ("\x7b\"action\":\"closed\",\"pull_request\":\x7b\"number\":5\x7d," ++
      "\"repository\":\x7b\"clone_url\":\"https://forge/o/r.git\"\x7d\x7d")
    event := some "pull_request"
    signature := some "sha256=b8f8833d8a5e68ca804899086ba175dce7f15ff8dbf38a407addf7342f1fcd68" }

theorem isOrderly_usualSettings : usualSettings.place.IsOrderly := by
  have hroot : usualSettings.place.root = ⟨"", ["temp_repos"]⟩ := by decide +kernel
  refine ⟨?_, Clone.slash_not_mem_shortName⟩
  rw [hroot]
  refine ⟨⟨.inl rfl, fun name hname => ?_⟩, [], ["temp_repos"], rfl, List.forall_mem_nil _, fun _ => rfl, by decide⟩
  rw [List.mem_singleton.1 hname]
  exact ⟨by decide, by decide, by decide⟩

theorem closedNumber?_closedDelivery : closedNumber? "s3cr3t" closedDelivery = some (.int 5) := by
  have hchecked : (closedNumber? "s3cr3t" closedDelivery).map (fun pull => (pull.kind, pull.whole?)) =
      some (.int, some 5) := by decide +kernel
  obtain ⟨pull, hpull, hseen⟩ := Option.map_eq_some_iff.1 hchecked
  rw [hpull]
  cases pull <;> simp_all [Json.kind, Json.whole?]

theorem closing_leaves_clone_five :
    let processed := (Standing.mk freshBench [openedPayload]).step usualSettings "s3cr3t" (.processing 0 roughWorld)
    closedNumber? "s3cr3t" closedDelivery = some (.int 5) ∧
      (processed.step usualSettings "s3cr3t" (.delivery closedDelivery)).files.isThere
        (usualSettings.place.directory "https://forge/o/r.git" (.int 5)) = true := by
  have hleaves := closing_leaves_clones usualSettings isOrderly_usualSettings "s3cr3t"
    (Standing.mk freshBench [openedPayload]) (show [openedPayload][0]? = some openedPayload from rfl)
    read_openedPayload rfl rfl clone_openedRequest []
    closedNumber?_closedDelivery
  exact ⟨closedNumber?_closedDelivery, hleaves.2.2.1 trivial⟩

end Webhook
end PullReview
