import PullReview.Proofs.Clone.Prepare
import PullReview.Proofs.Files.Beside
/-!
# Clones over time

Calls for clones, removals and directories that come from elsewhere, in any order, with any commands failing and under
any naming, so also when two repositories have one directory.  Each call is safe (`Call.IsSafe`): a directory that it
returns is there, is a clone of the call's address and is at its head branch; a directory that can be opened and turns out
to be a clone of another address is left alone; and nothing beside the call's own directory is touched (`calls_safe`).  A
clone that cannot be opened is replaced, whatever its address is (`unopened_clone_replaced`).
-/
namespace PullReview
namespace Clone

open Files (SameBeside)

variable {place : Place} {remote : Remote} {r : Request} {s t : Session Workspace}

/-! ## At the head branch -/

/-- The last commands given were a fetch of the branch and the checkout of it, and neither was refused. -/
def EndsAt (remote : Remote) (branch : Json) (before after : List Command) : Prop :=
  ∃ earlier, before <+: earlier ∧ after = earlier ++ [.fetch branch, .checkout branch (remoteBranch branch)] ∧
    remote.refusal? .fetch (earlier ++ [.fetch branch]) = none ∧ remote.refusal? .checkout after = none

theorem endsAt_of_fetched {before : List Command} {branch : Json} {u v : Session Workspace}
    (hbefore : before <+: u.state.commands) (hfetch : (fetch remote branch).perform u = (.ok (), v))
    (hcheckout : (checkout remote branch).perform v = (.ok (), t)) : EndsAt remote branch before t.state.commands := by
  obtain ⟨hfetched, rfl⟩ := command_eq_ok hfetch
  obtain ⟨hchecked, rfl⟩ := command_eq_ok hcheckout
  exact ⟨u.state.commands, hbefore, List.append_assoc _ _ _, hfetched, hchecked⟩

/-- Cloning gives two commands: to clone, and to open the clone. -/
theorem cloneFrom_commands {url : String} {directory : Path} {base : Json}
    (h : (cloneFrom remote url directory base).perform s = (.ok (), t)) :
    t.state.commands = s.state.commands ++ [.clone url directory.toString base, .opened directory.toString] := by
  rw [cloneFrom] at h
  obtain ⟨_, u₁, hclone, h⟩ := (Run.perform_bind_eq_ok_iff _ _ _ _ _).1 h
  obtain ⟨_, u₂, hmake, h⟩ := (Run.perform_bind_eq_ok_iff _ _ _ _ _).1 h
  obtain ⟨_, u₃, hset, h⟩ := (Run.perform_bind_eq_ok_iff _ _ _ _ _).1 h
  obtain ⟨_, u₄, hpopulate, h⟩ := (Run.perform_bind_eq_ok_iff _ _ _ _ _).1 h
  obtain ⟨_, u₅, hopen, h⟩ := (Run.perform_bind_eq_ok_iff _ _ _ _ _).1 h
  have hfiles {α : Type} {act : Run Files α} {u v : Session Workspace} {a : α}
      (hact : (Workspace.atFiles act).perform u = (.ok a, v)) : v.state.commands = u.state.commands :=
    (atFiles_apart (K := fun w => w.commands = u.state.commands) (fun _ _ hw => hw) act).after hact rfl
  obtain ⟨-, rfl⟩ := command_eq_ok hclone
  obtain ⟨-, rfl⟩ := openClone_eq_ok_iff.1 hopen
  cases h
  calc (u₄.state.log (.opened directory.toString)).commands
    _ = u₄.state.commands ++ [.opened directory.toString] := rfl
    _ = s.state.commands ++ [.clone url directory.toString base] ++ [.opened directory.toString] := by
      rw [hfiles hpopulate, hfiles hset, hfiles hmake]
      rfl
    _ = _ := List.append_assoc _ _ _

/-- **A clone that was prepared is at its head branch.** -/
theorem prepare_endsAt {d : Path} (h : (prepare place remote r).perform s = (.ok (some d), t)) :
    EndsAt remote r.head s.state.commands t.state.commands := by
  -- a clone that was there and one that is made anew end alike; what failed before the latter has only added commands
  obtain ⟨url, -, ⟨-, hrefresh⟩ | ⟨u, hgiven, hclone⟩⟩ := prepare_eq_ok h
  · obtain ⟨origin, -, ⟨-, -, u, v, hgiven, hfetch, hcheckout⟩ | ⟨-, hnone, -⟩⟩ := refresh_eq_ok hrefresh
    · exact endsAt_of_fetched hgiven hfetch hcheckout
    · cases hnone
  · obtain ⟨-, v, w, hfrom, hfetch, hcheckout⟩ := cloneAfresh_eq_ok hclone
    have hcloned : u.state.commands <+: v.state.commands := cloneFrom_commands hfrom ▸ List.prefix_append _ _
    exact endsAt_of_fetched (hgiven.trans hcloned) hfetch hcheckout

/-- The last commands given were those for a fresh clone. -/
def ClonedAfresh (url directory : String) (base head : Json) (before after : List Command) : Prop :=
  ∃ earlier, before <+: earlier ∧ after = earlier ++
    [.clone url directory base, .opened directory, .fetch head, .checkout head (remoteBranch head)]

/-- **What could not be opened for its address was cloned afresh.** -/
theorem prepare_clonedAfresh {url : String} {d : Path} (h : (prepare place remote r).perform s = (.ok (some d), t))
    (hurl : r.url = .text url) (hnot : remote.opened? s.state (place.directory url r.pull).toString ≠ some url) :
    ClonedAfresh url (place.directory url r.pull).toString r.base r.head s.state.commands t.state.commands := by
  obtain ⟨url', hurl', ⟨-, hrefresh⟩ | ⟨u, hgiven, hclone⟩⟩ := prepare_eq_ok h
  all_goals obtain rfl : url' = url := Json.text.inj (hurl'.symm.trans hurl)
  · obtain ⟨origin, hopened, ⟨hsame, -, -⟩ | ⟨-, hnone, -⟩⟩ := refresh_eq_ok hrefresh
    · exact absurd (hopened.trans (congrArg some (Json.text.inj (hsame.symm.trans hurl)))) hnot
    · cases hnone
  · obtain ⟨-, v, w, hfrom, hfetch, hcheckout⟩ := cloneAfresh_eq_ok hclone
    obtain ⟨-, rfl⟩ := command_eq_ok hfetch
    obtain ⟨-, rfl⟩ := command_eq_ok hcheckout
    refine ⟨u.state.commands, hgiven, ?_⟩
    show v.state.commands ++ [_] ++ [_] = _
    rw [cloneFrom_commands hfrom, List.append_assoc, List.append_assoc]
    rfl

/-! ## Another address -/

/-- **A directory that is opened as a clone of another address is left alone.** -/
theorem prepare_foreign {url origin : String} {result : Except Fault (Option Path)}
    (h : (prepare place remote r).perform s = (result, t)) (hurl : r.url = .text url)
    (hopened : remote.opened? s.state (place.directory url r.pull).toString = some origin) (hother : origin ≠ url) :
    result = .ok none ∧ t.state = s.state.log (.opened (place.directory url r.pull).toString) := by
  have htext : r.url.textFor "encode" = .ok url := by rw [hurl]; rfl
  have hpresent : (isPresent (place.directory url r.pull)).perform s = (.ok true, s) := by
    rw [perform_isPresent, (hasPath_eq_true_iff _ _).2 (Files.isThere_of_origin? (origin?_of_opened? hopened))]
  have hdiffers : ¬ r.url.isText origin = true := by
    rw [hurl, Json.isText_iff]
    exact fun hsame => hother (Json.text.inj hsame).symm
  rw [prepare, htext, Run.perform_bind_ok (Run.perform_of _ s)] at h
  dsimp only at h
  rw [Run.perform_bind_ok hpresent, if_pos rfl, Run.perform_orElse, refresh,
    Run.perform_bind_ok (openClone_eq_ok_iff.2 ⟨hopened, rfl⟩), if_neg hdiffers,
    Run.perform_bind_ok (Run.perform_say _ _)] at h
  cases h
  exact ⟨rfl, rfl⟩

/-- Only then there is no clone and no fault either. -/
theorem prepare_eq_none (h : (prepare place remote r).perform s = (.ok none, t)) :
    ∃ url, r.url = .text url ∧
      ∃ origin, remote.opened? s.state (place.directory url r.pull).toString = some origin ∧ origin ≠ url := by
  obtain ⟨url, hurl, ⟨-, hrefresh⟩ | ⟨u, -, hclone⟩⟩ := prepare_eq_ok h
  · obtain ⟨origin, hopened, ⟨-, hsome, -⟩ | ⟨hdiffers, -, -⟩⟩ := refresh_eq_ok hrefresh
    · cases hsome
    · exact ⟨url, hurl, origin, hopened, fun hsame => hdiffers (hurl.trans (congrArg Json.text hsame.symm))⟩
  · cases (cloneAfresh_eq_ok hclone).1

/-! ## Beside the directory -/

/-- All content of the remote side has its place inside a clone. -/
def Remote.IsContained (remote : Remote) : Prop :=
  ∀ entry ∈ remote.files, (Path.ofString entry.1).isAbsolute = false ∧ ".." ∉ (Path.ofString entry.1).names

theorem populate_beside {directory : Path} (h : directory.IsDirect) (hcontained : remote.IsContained) (fs : Files) :
    (populate directory remote.files).Preserves (SameBeside directory.place fs) := by
  refine Run.Preserves.each_of_mem ?_
  rintro ⟨path, entry⟩ hentry
  obtain ⟨hrelative, hup⟩ := hcontained _ hentry
  have hjoin : directory.join path = ⟨directory.root, directory.names ++ (Path.ofString path).names⟩ := by
    rw [Path.join, hrelative]
    rfl
  dsimp only
  rw [hjoin]
  exact Files.bring_beside (h.append (Path.isClean_ofString path).name hup)
    (Path.place_prefix _ (List.prefix_append _ _)) entry fs

/-- **Preparing a clone touches nothing beside its directory.** -/
theorem prepare_beside (hcontained : remote.IsContained) {url : String} (hurl : r.url = .text url)
    (hdirect : (place.directory url r.pull).IsDirect) (fs : Files) :
    (prepare place remote r).Preserves fun w => SameBeside (place.directory url r.pull).place fs w.files := by
  refine prepare_preserves (fun _ _ hw => hw) remote r fun url' hurl' => ?_
  obtain rfl : url' = url := Json.text.inj (hurl'.symm.trans hurl)
  exact ⟨atFiles_preserves _ (Files.removeTree_beside hdirect fs),
    atFiles_preserves _ (Files.make_beside false hdirect (.inl List.prefix_rfl) fs),
    atFiles_preserves _ (Run.Preserves.update fun _ hs => Files.setOrigin_beside hdirect _ hs),
    atFiles_preserves _ (populate_beside hdirect hcontained fs)⟩

/-! ## Calls and what comes between them -/

namespace Call

structure IsSafe (place : Place) (w : Workspace) (c : Call) : Prop where
  /-- A directory that is returned is the call's own, is there, is a clone of the address and is at the head branch. -/
  returned : ∀ d, c.result place w = .ok (some d) → d = c.directory place ∧ (c.after place w).files.isThere d = true ∧
    (c.after place w).files.origin? d.toString = some c.url ∧
    EndsAt c.remote c.head w.commands (c.after place w).commands
  /-- No directory is returned just when it is opened as a clone of another address; all that was done then is to look. -/
  foreign : (c.result place w = .ok none ↔
      ∃ origin, c.remote.opened? w (c.directory place).toString = some origin ∧ origin ≠ c.url) ∧
    (c.result place w = .ok none → c.after place w = w.log (.opened (c.directory place).toString))
  /-- One that is returned though it could not be opened was cloned afresh. -/
  afresh : ∀ d, c.result place w = .ok (some d) → c.remote.opened? w (c.directory place).toString = none →
    ClonedAfresh c.url d.toString c.base c.head w.commands (c.after place w).commands
  /-- Nothing but the directory is touched. -/
  untouched : c.remote.IsContained → SameBeside (c.directory place).place w.files (c.after place w).files

theorem perform_request (place : Place) (w : Workspace) (c : Call) : ∃ t,
    (prepare place c.remote c.request).perform ⟨w, []⟩ = (c.result place w, t) ∧ c.after place w = t.state := by
  rw [result, after, Run.start_eq]
  generalize (prepare place c.remote c.request).perform ⟨w, []⟩ = outcome
  exact ⟨outcome.2, rfl, rfl⟩

/-- **Every call is safe, from everywhere.** -/
theorem isSafe (h : place.IsOrderly) (w : Workspace) (c : Call) : c.IsSafe place w := by
  obtain ⟨t, hrun, hafter⟩ := c.perform_request place w
  have hdirect := directory_isDirect h c.url c.number
  have hurl : c.request.url = .text c.url := rfl
  have hforeign (hother : ∃ origin, c.remote.opened? w (c.directory place).toString = some origin ∧ origin ≠ c.url) :
      c.result place w = .ok none ∧ c.after place w = w.log (.opened (c.directory place).toString) := by
    obtain ⟨origin, hopened, hother⟩ := hother
    rw [hafter]
    exact prepare_foreign hrun hurl hopened hother
  have hnone (hresult : c.result place w = .ok none) :
      ∃ origin, c.remote.opened? w (c.directory place).toString = some origin ∧ origin ≠ c.url := by
    rw [hresult] at hrun
    obtain ⟨url, hurl, hother⟩ := prepare_eq_none hrun
    obtain rfl : c.url = url := Json.text.inj hurl
    exact hother
  have hreturned (d : Path) (hd : c.result place w = .ok (some d)) :
      d = c.directory place ∧ t.state.files.isThere d = true ∧ t.state.files.origin? d.toString = some c.url := by
    rw [hd] at hrun
    obtain ⟨url, hurl, hthere⟩ := prepare_there (fun url hurl => by
      obtain rfl : c.url = url := Json.text.inj hurl
      exact hdirect) hrun
    obtain rfl : c.url = url := Json.text.inj hurl
    exact hthere
  refine ⟨fun d hd => ?_, ⟨⟨hnone, fun hother => (hforeign hother).1⟩, fun hresult => (hforeign (hnone hresult)).2⟩,
    fun d hd hnot => ?_, fun hcontained => ?_⟩
  · obtain ⟨hdirectory, hthere, horigin⟩ := hreturned d hd
    rw [hd] at hrun
    rw [hafter]
    exact ⟨hdirectory, hthere, horigin, prepare_endsAt hrun⟩
  · have hnot : c.remote.opened? w (c.directory place).toString ≠ some c.url := by
      simp [hnot]
    have hdirectory := (hreturned d hd).1
    rw [hd] at hrun
    have hafresh := prepare_clonedAfresh hrun hurl hnot
    rw [hafter, hdirectory]
    exact hafresh
  · rw [hafter]
    exact (prepare_beside hcontained hurl hdirect w.files).after hrun (.refl _ _)

end Call

/-- **Every call in every run of events is safe.** -/
theorem calls_safe (h : place.IsOrderly) (events : List Event) (w : Workspace) :
    ∀ p ∈ callsFrom place w events, p.2.IsSafe place p.1 := by
  induction events generalizing w with
  | nil => exact List.forall_mem_nil _
  | cons e rest ih =>
    -- a call is safe from everywhere, so nothing about where the events before it led has to be carried along
    cases e with
    | call c => exact List.forall_mem_cons.2 ⟨c.isSafe h w, ih _⟩
    | cleanUp directory => exact ih _
    | made directory origin => exact ih _

/-! Two repositories with one directory, and a first call that fails at its last command: -/

def collidingPlace : Place := ⟨⟨"/", ["tmp", "repos"]⟩, fun _ => "0"⟩

theorem isOrderly_collidingPlace : collidingPlace.IsOrderly := by
  have hname : ∀ name ∈ ["tmp", "repos"], Path.IsName name := by
    simp [Path.IsName]
  exact ⟨⟨⟨.inr (.inl rfl), hname⟩, [], ["tmp", "repos"], rfl, by simp, fun _ => rfl, by decide⟩,
    fun _ => (by decide : '/' ∉ "0".toList)⟩

def emptyWorkspace : Workspace := ⟨⟨[(["/", "tmp"], .directory), (["/", "tmp", "repos"], .directory)]⟩, []⟩

def smallRemote (outage : Operation → Option String) : Remote :=
  { files := [("a.py", .file [0x78])], diff := .null, names := .null, content := .null, outage }

def brokenCall : Call :=
  ⟨smallRemote fun op => if op = .checkout then some "broken" else none, "https://forge/o/r.git", 5, "dev", "main"⟩

def otherCall : Call := ⟨smallRemote fun _ => none, "https://forge/p/q.git", 5, "dev", "main"⟩

def latestCall : Call := ⟨smallRemote fun _ => none, "https://forge/o/r.git", 5, "dev", "main"⟩

/-- The workspace that the first call leaves: the clone is there, though not at its head branch. -/
def leftover : Workspace := brokenCall.after collidingPlace emptyWorkspace

theorem result_eq_ok {c : Call} {w : Workspace} {made : Option Path}
    (h : (c.result collidingPlace w).toOption = some made) : c.result collidingPlace w = .ok made := by
  cases hresult : c.result collidingPlace w with
  | error cause => simp [hresult, Except.toOption] at h
  | ok found => simpa [hresult, Except.toOption] using h

/-- The second call leaves the clone of the first alone, and the third brings it to its head branch. -/
theorem calls_safe_collidingPlace :
    otherCall.result collidingPlace leftover = .ok none ∧
      otherCall.after collidingPlace leftover = leftover.log (.opened (otherCall.directory collidingPlace).toString) ∧
      EndsAt latestCall.remote "dev" (otherCall.after collidingPlace leftover).commands
        (latestCall.after collidingPlace (otherCall.after collidingPlace leftover)).commands := by
  have hsafe := calls_safe isOrderly_collidingPlace [.call brokenCall, .call otherCall, .call latestCall] emptyWorkspace
  simp only [callsFrom, List.forall_mem_cons] at hsafe
  rw [← leftover] at hsafe
  obtain ⟨-, hother, hlatest, -⟩ := hsafe
  have hopened : otherCall.remote.opened? leftover (otherCall.directory collidingPlace).toString =
      some "https://forge/o/r.git" := by decide +kernel
  have hnone : otherCall.result collidingPlace leftover = .ok none :=
    hother.foreign.1.2 ⟨_, hopened, by decide⟩
  have hreturned := hlatest.returned (latestCall.directory collidingPlace) (result_eq_ok (by decide +kernel))
  exact ⟨hnone, hother.foreign.2 hnone, hreturned.2.2.2⟩

/-! The second call again, but the directory cannot be opened at first: -/

def deniedCall : Call :=
  { otherCall with remote := { otherCall.remote with mishap := fun given => if given.length = 5 then some "denied" else none } }

/-- The clone of the first repository is gone, and that of the second has its place. -/
theorem unopened_clone_replaced :
    leftover.files.origin? (deniedCall.directory collidingPlace).toString = some "https://forge/o/r.git" ∧
      deniedCall.url = "https://forge/p/q.git" ∧
      deniedCall.result collidingPlace leftover = .ok (some (deniedCall.directory collidingPlace)) ∧
      (deniedCall.after collidingPlace leftover).files.origin? (deniedCall.directory collidingPlace).toString =
        some "https://forge/p/q.git" :=
  ⟨by decide +kernel, rfl, result_eq_ok (by decide +kernel), by decide +kernel⟩

end Clone
end PullReview
