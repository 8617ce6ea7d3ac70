import PullReview.Clone.Update
import PullReview.Proofs.Files.Keep
import PullReview.Proofs.Json
/-!
# Clones and their directories

The clone for a pull request is below the root in a directory of its own name (`directory_eq`).  A clone that was
prepared is there with its address (`prepare_there`), and preparing one leaves the way to everything that is not below its
directory (`prepare_keeps`).
-/
namespace PullReview
namespace Clone

open PullReview.Path (IsName join_of_isName)
open Files (KeepsTo)

/-! ## Names -/

theorem mem_toString_int (n : Int) {c : Char} (h : c ∈ (toString n).toList) : c = '-' ∨ c.isDigit = true := by
  have hnat (m : Nat) (h : c ∈ (toString m).toList) : c.isDigit = true := by
    rw [Nat.toString_eq_ofList_toDigits, String.toList_ofList] at h
    exact Nat.isDigit_of_mem_toDigits (by decide) (by decide) h
  cases n with
  | ofNat m => exact Or.inr (hnat m h)
  | negSucc m =>
    have hneg : toString (Int.negSucc m) = "-" ++ toString (m + 1) := rfl
    rw [hneg, String.toList_append, List.mem_append] at h
    rcases h with h | h
    · exact Or.inl (by simpa using h)
    · exact Or.inr (hnat (m + 1) h)

theorem not_mem_toString_int (n : Int) {c : Char} (hminus : c ≠ '-') (hdigit : c.isDigit = false) :
    c ∉ (toString n).toList := fun h => by
  rcases mem_toString_int n h with h | h
  · exact hminus h
  · rw [hdigit] at h
    cases h

theorem slash_not_mem_hex : ∀ width n : Nat, '/' ∉ Text.hex width n
  | 0, _ => List.not_mem_nil
  | width + 1, n => by
    have hdigit : ∀ m < 16, Text.hexDigit m ≠ '/' := by decide
    rw [Text.hex, List.mem_append, not_or]
    exact ⟨slash_not_mem_hex width (n / 16), by
      rw [List.mem_singleton]
      exact Ne.symm (hdigit _ (Nat.mod_lt n (by decide)))⟩

theorem slash_not_mem_shortName (url : String) : '/' ∉ (shortName url).toList := by
  intro h
  rw [shortName, Text.clip, String.toList_ofList, Digest.hexText, String.toList_ofList] at h
  obtain ⟨b, -, hb⟩ := List.mem_flatMap.1 (List.mem_of_mem_take h)
  exact slash_not_mem_hex 2 b.toNat hb

/-- Where clones are kept: at the end of a direct path, under names without a slash. -/
structure Place.IsOrderly (place : Place) : Prop where
  root : place.root.IsDirect
  name : ∀ url, '/' ∉ (place.nameOf url).toList

def Place.label (place : Place) (url : String) (n : Int) : String := place.nameOf url ++ "_pr_" ++ toString n

variable {place : Place}

theorem isName_of_mem_underscore {s : String} (hmem : '_' ∈ s.toList) (hslash : '/' ∉ s.toList) :
    IsName s ∧ s ≠ ".." := by
  refine ⟨⟨fun h => ?_, fun h => ?_, hslash⟩, fun h => ?_⟩ <;> rw [h] at hmem <;> revert hmem <;> decide

theorem label_isName (h : place.IsOrderly) (url : String) (n : Int) :
    IsName (place.label url n) ∧ place.label url n ≠ ".." := by
  refine isName_of_mem_underscore ?_ ?_
  · simp [Place.label]
  · rw [Place.label, String.toList_append, String.toList_append, List.mem_append, List.mem_append, not_or, not_or]
    exact ⟨⟨h.name url, by decide⟩, not_mem_toString_int n (by decide) (by decide)⟩

theorem directory_eq (h : place.IsOrderly) (url : String) (n : Int) :
    place.directory url (.int n) = ⟨place.root.root, place.root.names ++ [place.label url n]⟩ :=
  join_of_isName place.root (label_isName h url n).1

theorem directory_isDirect (h : place.IsOrderly) (url : String) (n : Int) :
    (place.directory url (.int n)).IsDirect := by
  rw [directory_eq h]
  exact h.root.snoc (label_isName h url n).1 (label_isName h url n).2

theorem directory_place (h : place.IsOrderly) (url : String) (n : Int) :
    (place.directory url (.int n)).place = place.root.place ++ [place.label url n] := by
  rw [directory_eq h]
  exact Path.place_append _ _ _

/-- Two directories right below one root are not below each other. -/
theorem not_prefix_of_ne {above : List String} {a b : String} (h : a ≠ b) : ¬ above ++ [a] <+: above ++ [b] := by
  intro hbelow
  rw [List.prefix_append_right_inj, List.cons_prefix_cons] at hbelow
  exact h hbelow.1

/-! ## What every step preserves -/

section Frame

variable {K : Workspace → Prop} (hlog : ∀ w c, K w → K (w.log c)) (remote : Remote)

include hlog

theorem command_preserves (op : Operation) (c : Command) : (command remote op c).Preserves K := by
  unfold command
  refine (Run.Preserves.update fun w hw => hlog w c hw).bind fun _ => Run.Preserves.state.bind fun w => ?_
  cases remote.refusal? op w.commands with
  | none => exact Run.Preserves.pure ()
  | some reason => exact Run.Preserves.throw _

theorem openClone_preserves (directory : String) : (openClone remote directory).Preserves K := by
  unfold openClone
  refine (command_preserves hlog remote _ _).bind fun _ => Run.Preserves.state.bind fun w => ?_
  cases w.files.origin? directory with
  | none => exact Run.Preserves.throw _
  | some url => exact Run.Preserves.pure _

omit hlog in
theorem isPresent_preserves (directory : Path) : (isPresent directory).Preserves K :=
  Run.Preserves.state.bind fun _ => Run.Preserves.of _

theorem refresh_preserves (r : Request) (directory : Path) : (refresh remote r directory).Preserves K := by
  have hcommand := command_preserves hlog remote
  unfold refresh
  refine (openClone_preserves hlog remote _).bind fun origin => ?_
  split
  · exact (hcommand _ _).bind fun _ => (hcommand _ _).bind fun _ => (hcommand _ _).bind fun _ => Run.Preserves.pure _
  · exact (Run.Preserves.say _).bind fun _ => Run.Preserves.pure _

/-- Cloning gives commands, makes the directory, makes it a clone and brings the content. -/
theorem cloneFrom_preserves {url : String} {directory : Path} (base : Json)
    (hmake : (Workspace.atFiles (Files.makeNew directory)).Preserves K)
    (hset : (Workspace.atFiles (Run.update (·.setOrigin directory.toString url))).Preserves K)
    (hpopulate : (Workspace.atFiles (populate directory remote.files)).Preserves K) :
    (cloneFrom remote url directory base).Preserves K := by
  unfold cloneFrom
  exact (command_preserves hlog remote _ _).bind fun _ => hmake.bind fun _ =>
    hset.bind fun _ => hpopulate.bind fun _ => (openClone_preserves hlog remote _).bind fun _ => Run.Preserves.pure _

theorem cloneAfresh_preserves (r : Request) {url : String} {directory : Path}
    (hmake : (Workspace.atFiles (Files.makeNew directory)).Preserves K)
    (hset : (Workspace.atFiles (Run.update (·.setOrigin directory.toString url))).Preserves K)
    (hpopulate : (Workspace.atFiles (populate directory remote.files)).Preserves K) :
    (cloneAfresh remote r url directory).Preserves K := by
  have hcommand := command_preserves hlog remote
  unfold cloneAfresh
  exact (cloneFrom_preserves hlog remote r.base hmake hset hpopulate).bind fun _ => (hcommand _ _).bind fun _ =>
    (hcommand _ _).bind fun _ => Run.Preserves.pure _

end Frame

theorem atFiles_preserves {α : Type} (K : Files → Prop) {act : Run Files α} (h : act.Preserves K) :
    (Workspace.atFiles act).Preserves fun w => K w.files :=
  Run.Preserves.within (fun _ _ => h) fun _ hw => hw

/-- Work on the files preserves what does not hang on them. -/
theorem atFiles_apart {α : Type} {K : Workspace → Prop} (h : ∀ w files, K w → K { w with files }) (act : Run Files α) :
    (Workspace.atFiles act).Preserves K := fun s hs => h s.state _ hs

/-! ## Preparing a clone -/

theorem populate_keeps (names : List String) (fs : Files) {directory : Path} (hclean : directory.IsClean)
    (content : List (String × FileEntry)) : (populate directory content).Preserves (KeepsTo names fs) :=
  Run.Preserves.each (fun (path, entry) => Files.bring_keeps names fs (hclean.join path) entry) content

/-- **Preparing a clone preserves what each of its steps does**: giving commands, removing its directory, making it,
making it a clone and bringing the content. -/
theorem prepare_preserves {K : Workspace → Prop} (hlog : ∀ w c, K w → K (w.log c)) (remote : Remote) (r : Request)
    (hstep : ∀ url, r.url = .text url →
      (Workspace.atFiles (Files.removeTree (place.directory url r.pull))).Preserves K ∧
      (Workspace.atFiles (Files.makeNew (place.directory url r.pull))).Preserves K ∧
      (Workspace.atFiles (Run.update (·.setOrigin (place.directory url r.pull).toString url))).Preserves K ∧
      (Workspace.atFiles (populate (place.directory url r.pull) remote.files)).Preserves K) :
    (prepare place remote r).Preserves K := by
  intro s hs
  rw [prepare]
  cases hurl : r.url.textFor "encode" with
  | error cause =>
    rw [Run.perform_bind_error (Run.perform_of _ s)]
    exact hs
  | ok url =>
    obtain ⟨hremove, hmake, hset, hpopulate⟩ := hstep url (Json.textFor_eq_ok hurl)
    have hclone := cloneAfresh_preserves hlog remote r hmake hset hpopulate
    rw [Run.perform_bind_ok (Run.perform_of _ s)]
    refine (?_ : Run.Preserves K _) s hs
    refine (isPresent_preserves _).bind fun present => ?_
    split
    · refine (refresh_preserves hlog remote r _).orElse fun cause => (Run.Preserves.say _).bind fun _ =>
        (isPresent_preserves _).bind fun still => ?_
      split
      · exact hremove.bind fun _ => hclone
      · exact hclone
    · exact hclone

/-- **Preparing a clone leaves the way to what is not below its directory.** -/
theorem prepare_keeps {names : List String} {fs : Files} (remote : Remote) {r : Request}
    (hdir : ∀ url, r.url = .text url →
      (place.directory url r.pull).IsDirect ∧ ¬ (place.directory url r.pull).place <+: names) :
    (prepare place remote r).Preserves fun w => KeepsTo names fs w.files := by
  refine prepare_preserves (fun _ _ hw => hw) remote r fun url hurl => ?_
  obtain ⟨hdirect, hbelow⟩ := hdir url hurl
  have hremove : (Files.removeTree (place.directory url r.pull)).Preserves (KeepsTo names fs) := fun s hs =>
    hs.trans (KeepsTo.of_get? fun at_ hat => Files.removeTree_get? hdirect s fun h => hbelow (h.trans hat))
  have hset : (Run.update (·.setOrigin (place.directory url r.pull).toString url) : Run Files Unit).Preserves
      (KeepsTo names fs) :=
    Run.Preserves.update fun fs' hs => hs.trans
      (KeepsTo.of_get? fun at_ hat => Files.setOrigin_get? hdirect fs' url fun h => hbelow (h ▸ hat))
  exact ⟨atFiles_preserves _ hremove, atFiles_preserves _ (Files.makeBackwards_keeps names fs false _ _),
    atFiles_preserves _ hset, atFiles_preserves _ (populate_keeps names fs hdirect.clean remote.files)⟩

/-! ## What a clone that was prepared has gone through -/

section Inversion

variable {remote : Remote} {r : Request} {url : String} {directory : Path} {made : Option Path} {s t : Session Workspace}

theorem perform_command (remote : Remote) (op : Operation) (c : Command) (s : Session Workspace) :
    (command remote op c).perform s =
      (match remote.refusal? op (s.state.commands ++ [c]) with
        | none => .ok ()
        | some reason => .error (.refused reason),
      ⟨s.state.log c, s.console⟩) := by
  rw [command, Run.perform_bind_ok (Run.perform_update _ s), Run.perform_bind_ok (Run.perform_state _)]
  have hgiven : (s.state.log c).commands = s.state.commands ++ [c] := rfl
  dsimp only
  rw [hgiven]
  cases remote.refusal? op (s.state.commands ++ [c]) <;> rfl

theorem command_eq_ok {op : Operation} {c : Command} (h : (command remote op c).perform s = (.ok (), t)) :
    remote.refusal? op (s.state.commands ++ [c]) = none ∧ t = ⟨s.state.log c, s.console⟩ := by
  rw [perform_command] at h
  obtain ⟨hresult, rfl⟩ := Prod.mk.inj h
  refine ⟨?_, rfl⟩
  cases hrefusal : remote.refusal? op (s.state.commands ++ [c]) with
  | none => rfl
  | some reason =>
    rw [hrefusal] at hresult
    cases hresult

/-- The address that is read when a directory is opened; none if it cannot be opened or is no clone. -/
def Remote.opened? (remote : Remote) (w : Workspace) (directory : String) : Option String :=
  match remote.refusal? .opening (w.commands ++ [.opened directory]) with
  | some _ => none
  | none => w.files.origin? directory

theorem perform_openClone (remote : Remote) (directory : String) (s : Session Workspace) :
    ((openClone remote directory).perform s).2 = ⟨s.state.log (.opened directory), s.console⟩ ∧
      ∀ origin, ((openClone remote directory).perform s).1 = .ok origin ↔
        remote.opened? s.state directory = some origin := by
  rw [openClone, Run.perform_bind, perform_command, Remote.opened?]
  cases remote.refusal? .opening (s.state.commands ++ [.opened directory]) with
  | some reason => exact ⟨rfl, fun _ => by simp⟩
  | none =>
    dsimp only
    rw [Run.perform_bind_ok (Run.perform_state _)]
    have hsame : (s.state.log (.opened directory)).files = s.state.files := rfl
    dsimp only
    rw [hsame]
    cases s.state.files.origin? directory with
    | none => exact ⟨rfl, fun _ => iff_of_false (fun h => by cases h) (fun h => by cases h)⟩
    | some url => exact ⟨rfl, fun _ => ⟨fun h => congrArg some (Except.ok.inj h), fun h => congrArg _ (Option.some.inj h)⟩⟩

theorem openClone_eq_ok_iff {directory origin : String} : (openClone remote directory).perform s = (.ok origin, t) ↔
    remote.opened? s.state directory = some origin ∧ t = ⟨s.state.log (.opened directory), s.console⟩ := by
  obtain ⟨hstate, hresult⟩ := perform_openClone remote directory s
  rw [Prod.ext_iff, hresult, hstate, eq_comm (b := t)]

/-- What can be opened is a clone. -/
theorem origin?_of_opened? {w : Workspace} {directory origin : String}
    (h : remote.opened? w directory = some origin) : w.files.origin? directory = some origin := by
  rw [Remote.opened?] at h
  split at h
  · cases h
  · exact h

theorem perform_isPresent (directory : Path) (s : Session Workspace) :
    (isPresent directory).perform s = (s.state.files.hasPath directory, s) := by
  rw [isPresent, Run.perform_bind_ok (Run.perform_state s), Run.perform_of]

theorem hasPath_eq_true_iff (fs : Files) (directory : Path) :
    fs.hasPath directory = .ok true ↔ fs.isThere directory = true := by
  rw [Files.hasPath, Files.isThere_eq]
  cases fs.find directory.toString <;> simp [Found.outline]

/-- A clone that was brought up to date: it was there for this address, or for another and was left alone. -/
theorem refresh_eq_ok (h : (refresh remote r directory).perform s = (.ok made, t)) :
    ∃ origin, remote.opened? s.state directory.toString = some origin ∧
      ((r.url = .text origin ∧ made = some directory ∧ ∃ u v, s.state.commands <+: u.state.commands ∧
          (fetch remote r.head).perform u = (.ok (), v) ∧ (checkout remote r.head).perform v = (.ok (), t)) ∨
        (r.url ≠ .text origin ∧ made = none ∧ t.state = s.state.log (.opened directory.toString))) := by
  have hlog (w : Workspace) (c : Command) (hw : s.state.commands <+: w.commands) :
      s.state.commands <+: (w.log c).commands := hw.trans (List.prefix_append _ _)
  rw [refresh] at h
  obtain ⟨origin, u, hopen, h⟩ := (Run.perform_bind_eq_ok_iff _ _ _ _ _).1 h
  have hgiven := (openClone_preserves hlog remote _).after hopen List.prefix_rfl
  obtain ⟨hopened, rfl⟩ := openClone_eq_ok_iff.1 hopen
  refine ⟨origin, hopened, ?_⟩
  split at h
  · rename_i hsame
    obtain ⟨_, v, hbase, h⟩ := (Run.perform_bind_eq_ok_iff _ _ _ _ _).1 h
    obtain ⟨_, w, hhead, h⟩ := (Run.perform_bind_eq_ok_iff _ _ _ _ _).1 h
    obtain ⟨_, x, hcheckout, h⟩ := (Run.perform_bind_eq_ok_iff _ _ _ _ _).1 h
    cases h
    exact Or.inl ⟨(Json.isText_iff _ _).1 hsame, rfl, v, w, (command_preserves hlog remote _ _).after hbase hgiven, hhead,
      hcheckout⟩
  · rename_i hother
    obtain ⟨_, v, hsay, h⟩ := (Run.perform_bind_eq_ok_iff _ _ _ _ _).1 h
    cases hsay
    cases h
    exact Or.inr ⟨mt (Json.isText_iff _ _).2 hother, rfl, rfl⟩

/-- A fresh clone: its content came, then its head branch. -/
theorem cloneAfresh_eq_ok (h : (cloneAfresh remote r url directory).perform s = (.ok made, t)) :
    made = some directory ∧ ∃ u v, (cloneFrom remote url directory r.base).perform s = (.ok (), u) ∧
      (fetch remote r.head).perform u = (.ok (), v) ∧ (checkout remote r.head).perform v = (.ok (), t) := by
  rw [cloneAfresh] at h
  obtain ⟨_, u, hclone, h⟩ := (Run.perform_bind_eq_ok_iff _ _ _ _ _).1 h
  obtain ⟨_, v, hfetch, h⟩ := (Run.perform_bind_eq_ok_iff _ _ _ _ _).1 h
  obtain ⟨_, w, hcheckout, h⟩ := (Run.perform_bind_eq_ok_iff _ _ _ _ _).1 h
  cases h
  exact ⟨rfl, u, v, hclone, hfetch, hcheckout⟩

/-- **The two ways to a clone**: one that was there was brought up to date, or there is a fresh one. -/
theorem prepare_eq_ok (h : (prepare place remote r).perform s = (.ok made, t)) :
    ∃ url, r.url = .text url ∧
      ((s.state.files.isThere (place.directory url r.pull) = true ∧
          (refresh remote r (place.directory url r.pull)).perform s = (.ok made, t)) ∨
        ∃ u, s.state.commands <+: u.state.commands ∧
          (cloneAfresh remote r url (place.directory url r.pull)).perform u = (.ok made, t)) := by
  have hlog (w : Workspace) (c : Command) (hw : s.state.commands <+: w.commands) :
      s.state.commands <+: (w.log c).commands := hw.trans (List.prefix_append _ _)
  rw [prepare] at h
  obtain ⟨url, u, hurl, h⟩ := (Run.perform_bind_eq_ok_iff _ _ _ _ _).1 h
  rw [Run.perform_of] at hurl
  obtain ⟨htext, rfl⟩ := Prod.mk.inj hurl
  refine ⟨url, Json.textFor_eq_ok htext, ?_⟩
  obtain ⟨present, u, hlooked, h⟩ := (Run.perform_bind_eq_ok_iff _ _ _ _ _).1 h
  rw [perform_isPresent] at hlooked
  obtain ⟨hpresent, rfl⟩ := Prod.mk.inj hlooked
  cases present with
  | false => exact Or.inr ⟨s, List.prefix_rfl, h⟩
  | true =>
    rw [if_pos rfl, Run.perform_orElse] at h
    rcases hres : (refresh remote r (place.directory url r.pull)).perform s with ⟨cause | found, v⟩
    · -- the refresh failed: whatever is there is replaced by a fresh clone
      rw [hres] at h
      have hgiven : s.state.commands <+: v.state.commands :=
        (show v = _ from (congrArg Prod.snd hres).symm) ▸ refresh_preserves hlog remote r _ s List.prefix_rfl
      obtain ⟨_, v₁, hsay, h⟩ := (Run.perform_bind_eq_ok_iff _ _ _ _ _).1 h
      cases hsay
      obtain ⟨still, v₂, hstill, h⟩ := (Run.perform_bind_eq_ok_iff _ _ _ _ _).1 h
      rw [perform_isPresent] at hstill
      obtain ⟨-, rfl⟩ := Prod.mk.inj hstill
      split at h
      · obtain ⟨_, v₃, hremove, h⟩ := (Run.perform_bind_eq_ok_iff _ _ _ _ _).1 h
        have hremoves : (removeDirectory (place.directory url r.pull)).Preserves fun w =>
            s.state.commands <+: w.commands := atFiles_apart (fun _ _ hw => hw) _
        exact Or.inr ⟨v₃, hremoves.after hremove hgiven, h⟩
      · refine Or.inr ⟨_, ?_, h⟩
        exact hgiven
    · rw [hres] at h
      cases h
      exact Or.inl ⟨(hasPath_eq_true_iff _ _).1 hpresent, rfl⟩

end Inversion

/-! ## What was prepared is there -/

section There

variable {directory : Path} {s t : Session Workspace}

theorem perform_atFiles_eq_ok {α : Type} {act : Run Files α} {a : α}
    (h : (Workspace.atFiles act).perform s = (.ok a, t)) :
    act.perform ⟨s.state.files, s.console⟩ = (.ok a, ⟨t.state.files, t.console⟩) := by
  rw [Workspace.atFiles, Run.perform_within] at h
  obtain ⟨hok, ht⟩ := Prod.mk.inj h
  exact Prod.ext hok (by rw [← ht])

theorem populate_origin? (hdirect : directory.IsDirect) (content : List (String × FileEntry)) (url : String) :
    (populate directory content).Preserves fun fs => fs.origin? directory.toString = some url := fun u hu =>
  Files.origin?_of_keepsTo hdirect
    (populate_keeps directory.place u.state hdirect.clean content u (KeepsTo.refl _ _)) hu

/-- A clone that was made has its address. -/
theorem cloneFrom_origin? (hdirect : directory.IsDirect) {remote : Remote} {url : String} {base : Json}
    (h : (cloneFrom remote url directory base).perform s = (.ok (), t)) :
    t.state.files.origin? directory.toString = some url := by
  rw [cloneFrom] at h
  obtain ⟨_, u₁, -, h⟩ := (Run.perform_bind_eq_ok_iff _ _ _ _ _).1 h
  obtain ⟨_, u₂, hmake, h⟩ := (Run.perform_bind_eq_ok_iff _ _ _ _ _).1 h
  obtain ⟨_, u₃, hset, h⟩ := (Run.perform_bind_eq_ok_iff _ _ _ _ _).1 h
  obtain ⟨_, u₄, hpopulate, h⟩ := (Run.perform_bind_eq_ok_iff _ _ _ _ _).1 h
  obtain ⟨_, u₅, hopen, h⟩ := (Run.perform_bind_eq_ok_iff _ _ _ _ _).1 h
  -- it is a directory once it is made and a clone once that is noted, and no later step takes this away
  have hmade : u₂.state.files.isDirectory directory = true :=
    Files.makeNew_isDirectory hdirect.clean (perform_atFiles_eq_ok hmake)
  have hcloned : u₃.state.files.origin? directory.toString = some url := by
    cases hset
    exact Files.origin?_setOrigin hmade url
  have hfilled := (atFiles_preserves _ (populate_origin? hdirect remote.files url)).after hpopulate hcloned
  have hopened := (openClone_preserves (K := fun w => w.files.origin? directory.toString = some url)
    (fun _ _ hw => hw) remote _).after hopen hfilled
  cases h
  exact hopened

/-- **A clone that was prepared is there**, in the directory for its address and number, with this address. -/
theorem prepare_there {remote : Remote} {r : Request} {d : Path}
    (hdir : ∀ url, r.url = .text url → (place.directory url r.pull).IsDirect)
    (h : (prepare place remote r).perform s = (.ok (some d), t)) :
    ∃ url, r.url = .text url ∧ d = place.directory url r.pull ∧ t.state.files.isThere d = true ∧
      t.state.files.origin? d.toString = some url := by
  obtain ⟨url, hurl, hway⟩ := prepare_eq_ok h
  suffices hclone : d = place.directory url r.pull ∧ t.state.files.origin? d.toString = some url from
    ⟨url, hurl, hclone.1, Files.isThere_of_origin? hclone.2, hclone.2⟩
  -- the commands do not change the files
  have hlog (w : Workspace) (c : Command) (hw : w.files.origin? d.toString = some url) :
      (w.log c).files.origin? d.toString = some url := hw
  rcases hway with ⟨-, hrefresh⟩ | ⟨u, -, hclone⟩
  · obtain ⟨origin, hopened, ⟨hsame, hd, -⟩ | ⟨-, hnone, -⟩⟩ := refresh_eq_ok hrefresh
    · obtain rfl := Option.some.inj hd
      obtain rfl : origin = url := Json.text.inj (hsame.symm.trans hurl)
      exact ⟨rfl, (refresh_preserves hlog remote r _).after hrefresh (origin?_of_opened? hopened)⟩
    · cases hnone
  · obtain ⟨hd, v, w, hfrom, hfetch, hcheckout⟩ := cloneAfresh_eq_ok hclone
    obtain rfl := Option.some.inj hd
    have hcloned := cloneFrom_origin? (hdir url hurl) hfrom
    have hfetched := (command_preserves hlog remote .fetch (.fetch r.head)).after hfetch hcloned
    exact ⟨rfl, (command_preserves hlog remote .checkout _).after hcheckout hfetched⟩

end There

end Clone
end PullReview
