import Mathlib.Data.String.Basic
import PullReview.Clone.Diff
import PullReview.Proofs.Clone.Safety
/-!
# The paths of a diff

A path that the clone does not have under its whole name is cut behind its first slash, and the rest again, until what is
left is there or has no slash (`isCutDown_tails`).  These are all the texts that follow a slash of the path, longest first
(`mem_tails_iff`, `pairwise_tails`), so the one that is taken is the longest that is there.  The search stops at the first
form that is there or too long to be asked for (`firstPresent_eq`): in the second case the whole diff fails, and in all
other cases every line has its normal form (`changed_paths_normal_iff`).
-/
namespace PullReview
namespace Clone

open Text

/-! ## The forms of a path -/

def Follows (q p : String) : Prop := ∃ before, p = before ++ "/" ++ q

/-- The whole path, or what follows one of its slashes. -/
def IsForm (q p : String) : Prop := q = p ∨ Follows q p

def forms (p : String) : List String := p :: (tails p.toList).map String.ofList

theorem mem_tails_iff {q : List Char} : ∀ {p : List Char}, q ∈ tails p ↔ ∃ before, p = before ++ '/' :: q
  | [] => by simp [tails]
  | c :: cs => by
    have ih : q ∈ tails cs ↔ ∃ before, cs = before ++ '/' :: q := mem_tails_iff
    have hrest : (∃ before, c :: cs = before ++ '/' :: q) ↔ (c = '/' ∧ cs = q) ∨ ∃ before, cs = before ++ '/' :: q := by
      constructor
      · rintro ⟨before, h⟩
        cases before with
        | nil => exact .inl (List.cons.inj h)
        | cons d before => exact .inr ⟨before, (List.cons.inj h).2⟩
      · rintro (⟨rfl, rfl⟩ | ⟨before, rfl⟩)
        · exact ⟨[], rfl⟩
        · exact ⟨c :: before, rfl⟩
    rw [hrest, tails]
    by_cases hc : c = '/'
    · rw [if_pos hc, List.mem_cons, ih, and_iff_right hc, eq_comm]
    · rw [if_neg hc, ih, or_iff_right fun h => hc h.1]

theorem pairwise_tails (p : List Char) : (tails p).Pairwise fun a b => b.length < a.length := by
  induction p with
  | nil => exact List.Pairwise.nil
  | cons c cs ih =>
    rw [tails]
    split
    · refine List.pairwise_cons.2 ⟨fun q hq => ?_, ih⟩
      obtain ⟨before, rfl⟩ := mem_tails_iff.1 hq
      simp only [List.length_append, List.length_cons]
      omega
    · exact ih

theorem mem_map_tails_iff {q p : String} : q ∈ (tails p.toList).map String.ofList ↔ Follows q p := by
  rw [List.mem_map]
  constructor
  · rintro ⟨tail, htail, rfl⟩
    obtain ⟨before, hp⟩ := mem_tails_iff.1 htail
    refine ⟨String.ofList before, String.toList_inj.1 ?_⟩
    simp [hp]
  · rintro ⟨before, rfl⟩
    refine ⟨q.toList, mem_tails_iff.2 ⟨before.toList, by simp⟩, String.ofList_toList⟩

theorem mem_forms_iff {q p : String} : q ∈ forms p ↔ IsForm q p := by
  rw [forms, List.mem_cons, mem_map_tails_iff, IsForm]

theorem pairwise_forms (p : String) : (forms p).Pairwise fun a b => b.length < a.length := by
  refine List.pairwise_cons.2 ⟨fun q hq => ?_, List.pairwise_map.2 ((pairwise_tails p.toList).imp fun h => by simpa using h)⟩
  obtain ⟨before, rfl⟩ := mem_map_tails_iff.1 hq
  simp only [String.length_append]
  have : "/".length = 1 := rfl
  omega

/-- A form stands before another, is that form, or is shorter. -/
theorem forms_split {p q r : String} {before after : List String} (h : forms p = before ++ q :: after)
    (hr : IsForm r p) : (r ∈ before ∧ q.length < r.length) ∨ r = q ∨ r.length < q.length := by
  have hordered := pairwise_forms p
  rw [h, List.pairwise_append, List.pairwise_cons] at hordered
  obtain ⟨-, ⟨hafter, -⟩, hbefore⟩ := hordered
  have hmem := mem_forms_iff.2 hr
  rw [h, List.mem_append, List.mem_cons] at hmem
  rcases hmem with hmem | hmem | hmem
  · exact .inl ⟨hmem, hbefore r hmem q List.mem_cons_self⟩
  · exact .inr (.inl hmem)
  · exact .inr (.inr (hafter r hmem))

theorem length_le_of_isForm {q p : String} (h : IsForm q p) : q.length ≤ p.length := by
  rcases h with rfl | ⟨before, rfl⟩
  · exact Nat.le_refl _
  · simp only [String.length_append]
    omega

/-- Each form is the one before it cut behind its first slash, and the last has no slash. -/
def IsCutDown (forms : List (List Char)) : Prop :=
  forms.IsChain (fun a b => ∃ directory, a = directory ++ '/' :: b ∧ '/' ∉ directory) ∧
    ∀ last ∈ forms.getLast?, '/' ∉ last

theorem isCutDown_tails : ∀ (directory cs : List Char), '/' ∉ directory →
    IsCutDown ((directory ++ cs) :: tails cs)
  | directory, [], h => by
    rw [List.append_nil, tails]
    exact ⟨List.IsChain.singleton _, by simpa using h⟩
  | directory, c :: cs, h => by
    rw [tails]
    by_cases hc : c = '/'
    · have hrest : IsCutDown (cs :: tails cs) := isCutDown_tails [] cs List.not_mem_nil
      rw [if_pos hc, hc]
      refine ⟨List.isChain_cons_cons.2 ⟨⟨directory, rfl, h⟩, hrest.1⟩, ?_⟩
      rw [List.getLast?_cons_cons]
      exact hrest.2
    · rw [if_neg hc, List.append_cons]
      exact isCutDown_tails (directory ++ [c]) cs (by simp [h, Ne.symm hc])

/-! ## The search -/

section Search

variable (files : Files) (directory : Path)

/-- The search goes on past this form. -/
def passes (q : String) : Bool := !files.isThere (directory.join q) && !files.isTooLong (directory.join q)

/-- **The first form that is there or cannot be asked for ends the search.** -/
theorem firstPresent_eq : ∀ paths : List String, firstPresent files directory paths =
    match paths.find? fun q => !passes files directory q with
    | none => .ok none
    | some q =>
      if files.isTooLong (directory.join q) then .error (.nameTooLong (directory.join q).toString) else .ok (some q)
  | [] => rfl
  | path :: rest => by
    rw [firstPresent, Files.hasPath_eq, List.find?_cons, passes]
    cases hlong : files.isTooLong (directory.join path) with
    | true => simp [hlong, bind, Except.bind]
    | false =>
      cases hthere : files.isThere (directory.join path) with
      | true => simp [hlong, bind, Except.bind, pure, Except.pure]
      | false => simpa [bind, Except.bind] using firstPresent_eq rest

/-- A form of the path is too long to be asked for, and no longer one is there. -/
def Stumbles (p : String) : Prop :=
  ∃ q, IsForm q p ∧ files.isTooLong (directory.join q) = true ∧
    ∀ r, IsForm r p → q.length < r.length → files.isThere (directory.join r) = false

/-- The form under which a path is kept, by what is there. -/
inductive IsNormal (there : String → Prop) (p : String) : String → Prop where
  | whole (h : there p) : IsNormal there p p
  | longest {q : String} (h : ¬ there p) (hfollows : Follows q p) (hthere : there q)
    (hlongest : ∀ r, Follows r p → there r → r.length ≤ q.length) : IsNormal there p q
  | absent (h : ¬ there p) (hnone : ∀ q, Follows q p → ¬ there q) : IsNormal there p p

theorem passes_eq_false_iff (q : String) : passes files directory q = false ↔
    files.isThere (directory.join q) = true ∨ files.isTooLong (directory.join q) = true := by
  rw [passes, Bool.and_eq_false_iff, Bool.not_eq_false', Bool.not_eq_false']

/-- **A path has its normal form, or a form of it is too long.** -/
theorem present_cases (p : String) :
    (Stumbles files directory p ∧ ∃ q, IsForm q p ∧
        present files directory p = .error (.nameTooLong (directory.join q).toString)) ∨
      (¬ Stumbles files directory p ∧ ∃ r, present files directory p = .ok r ∧
        IsNormal (fun q => files.isThere (directory.join q) = true) p r) := by
  have hpresent : present files directory p =
      (do return (← firstPresent files directory (forms p)).getD p) := rfl
  rw [hpresent, firstPresent_eq]
  cases hfind : (forms p).find? fun q => !passes files directory q with
  | none =>
    -- every form was passed
    have hpassed : ∀ q, IsForm q p → files.isThere (directory.join q) = false ∧
        files.isTooLong (directory.join q) = false := by
      intro q hq
      have hq := List.find?_eq_none.1 hfind q (mem_forms_iff.2 hq)
      simpa [passes] using hq
    refine .inr ⟨fun ⟨q, hq, hlong, _⟩ => by simp [(hpassed q hq).2] at hlong, p, rfl, ?_⟩
    exact .absent (by simp [hpassed p (.inl rfl)]) fun q hq => by simp [hpassed q (.inr hq)]
  | some q =>
    obtain ⟨hstop, before, after, hsplit, hbefore⟩ := List.find?_eq_some_iff_append.1 hfind
    have hform : IsForm q p := mem_forms_iff.1 (hsplit ▸ List.mem_append_right _ List.mem_cons_self)
    have hpassed : ∀ r ∈ before, files.isThere (directory.join r) = false ∧
        files.isTooLong (directory.join r) = false := fun r hr => by simpa [passes] using hbefore r hr
    dsimp only
    by_cases hlong : files.isTooLong (directory.join q) = true
    · rw [if_pos hlong]
      refine .inl ⟨⟨q, hform, hlong, fun r hr hlt => ?_⟩, q, hform, rfl⟩
      rcases forms_split hsplit hr with ⟨hr, -⟩ | rfl | hshort
      · exact (hpassed r hr).1
      · omega
      · omega
    · rw [if_neg hlong]
      have hthere : files.isThere (directory.join q) = true :=
        ((passes_eq_false_iff files directory q).1 (by simpa using hstop)).resolve_right hlong
      refine .inr ⟨?_, q, rfl, ?_⟩
      · rintro ⟨r, hr, hrlong, hnone⟩
        rcases forms_split hsplit hr with ⟨hr, -⟩ | rfl | hshort
        · simp [(hpassed r hr).2] at hrlong
        · exact hlong hrlong
        · simp [hnone q hform hshort] at hthere
      by_cases hp : files.isThere (directory.join p) = true
      · rcases forms_split hsplit (.inl rfl) with ⟨hmem, -⟩ | rfl | hshort
        · simp [(hpassed p hmem).1] at hp
        · exact .whole hp
        · have := length_le_of_isForm hform
          omega
      · refine .longest hp (hform.resolve_left fun h => hp (h ▸ hthere)) hthere fun r hr hrthere => ?_
        rcases forms_split hsplit (.inr hr) with ⟨hmem, -⟩ | rfl | hshort
        · simp [(hpassed r hmem).1] at hrthere
        · exact Nat.le_refl _
        · exact Nat.le_of_lt hshort

end Search

/-! ## The diff -/

/-- The lines of a listing, empty ones left out. -/
def pathsIn (names : String) : List String := ((lines names.toList).map String.ofList).filter (· ≠ "")

/-- The directory can be opened as a clone, and the remote side gives its diff and this listing. -/
structure Lists (remote : Remote) (directory : Path) (base head : Json) (w : Workspace) (names : String) : Prop where
  opened : (remote.opened? w directory.toString).isSome = true
  compared : remote.refusal? .diff
    (w.commands ++ [.opened directory.toString] ++ [.diff (range base head) false]) = none
  listed : remote.refusal? .diff (w.commands ++ [.opened directory.toString] ++ [.diff (range base head) false] ++
    [.diff (range base head) true]) = none
  names_eq : remote.names = .text names

section Diff

variable {remote : Remote} {directory : Path} {base head : Json} {s : Session Workspace} {names : String}

theorem perform_command_ok {op : Operation} {c : Command} (h : remote.refusal? op (s.state.commands ++ [c]) = none) :
    (command remote op c).perform s = (.ok (), ⟨s.state.log c, s.console⟩) := by
  rw [perform_command, h]

theorem result_diff (h : Lists remote directory base head s.state names) :
    ((diff remote directory base head).perform s).1 =
      (changedPaths s.state.files directory names).map fun files => ⟨remote.diff, files⟩ := by
  obtain ⟨origin, hopened⟩ := Option.isSome_iff_exists.1 h.opened
  have hnames : remote.names.textFor "split" = .ok names := by rw [h.names_eq, Json.textFor]
  rw [diff, Run.perform_bind_ok (openClone_eq_ok_iff.2 ⟨hopened, rfl⟩), readDiff,
    Run.perform_bind_ok (perform_command_ok h.compared),
    Run.perform_bind_ok (perform_command_ok h.listed), hnames, Run.of_ok_bind,
    Run.perform_bind_ok (Run.perform_state _)]
  -- the commands have not touched the files
  change (Run.perform (Run.of (changedPaths s.state.files directory names) >>= fun files => _) _).1 = _
  cases changedPaths s.state.files directory names <;> rfl

theorem changedPaths_cases (files : Files) (directory : Path) (names : String) :
    ((∀ p ∈ pathsIn names, ¬ Stumbles files directory p) ∧ ∃ paths, changedPaths files directory names = .ok paths ∧
        List.Forall₂ (IsNormal fun q => files.isThere (directory.join q) = true) (pathsIn names) paths) ∨
      ∃ p ∈ pathsIn names, Stumbles files directory p ∧ ∃ q, IsForm q p ∧
        changedPaths files directory names = .error (.nameTooLong (directory.join q).toString) := by
  have hnormal {p r : String} (hr : present files directory p = .ok r) :
      ¬ Stumbles files directory p ∧ IsNormal (fun q => files.isThere (directory.join q) = true) p r := by
    rcases present_cases files directory p with ⟨-, q, -, herror⟩ | ⟨hnot, r', hr', hnormal⟩
    · rw [herror] at hr
      cases hr
    · rw [hr'] at hr
      cases hr
      exact ⟨hnot, hnormal⟩
  rcases Run.mapM_ok_or_first_error (present files directory) (pathsIn names) with
    ⟨paths, hpaths⟩ | ⟨p, hp, cause, hcause, herror⟩
  · refine .inl ⟨fun p hp => ?_, paths, hpaths, (Run.forall₂_of_mapM hpaths).imp fun p r hr => (hnormal hr).2⟩
    obtain ⟨r, hr⟩ := Run.ok_of_mapM hpaths p hp
    exact (hnormal hr).1
  · rcases present_cases files directory p with ⟨hstumbles, q, hq, hlong⟩ | ⟨-, r, hr, -⟩
    · rw [hcause] at hlong
      cases hlong
      exact .inr ⟨p, hp, hstumbles, q, hq, herror⟩
    · rw [hr] at hcause
      cases hcause

/-- **A diff has every line in its normal form, unless it stumbles.**  A line is kept whole if it is there, seen from the
clone, else as the longest text after one of its slashes that is there, else whole.  If for some line a form is too long to
be asked for and no longer one is there, then there is no diff at all.  In both cases the search for a line goes through its
forms, each cut from the one before, and ends with one that has no slash left. -/
theorem changed_paths_normal_iff (h : Lists remote directory base head s.state names) :
    let files := s.state.files
    let result := ((diff remote directory base head).perform s).1
    ((∃ d, result = .ok d ∧ d.full = remote.diff ∧
          List.Forall₂ (IsNormal fun q => files.isThere (directory.join q) = true) (pathsIn names) d.files) ↔
        ∀ p ∈ pathsIn names, ¬ Stumbles files directory p) ∧
      ((∃ p ∈ pathsIn names, Stumbles files directory p) →
        ∃ p ∈ pathsIn names, ∃ q, IsForm q p ∧ result = .error (.nameTooLong (directory.join q).toString)) ∧
      ∀ p ∈ pathsIn names, IsCutDown (p.toList :: tails p.toList) := by
  intro files result
  have hresult : result = (changedPaths files directory names).map fun paths => ⟨remote.diff, paths⟩ := result_diff h
  have hcut (p : String) : IsCutDown (p.toList :: tails p.toList) :=
    isCutDown_tails [] p.toList List.not_mem_nil
  rcases changedPaths_cases files directory names with ⟨hnone, paths, hpaths, hnormal⟩ | ⟨p, hp, hstumbles, q, hq, herror⟩
  · rw [hpaths] at hresult
    refine ⟨iff_of_true ⟨_, hresult, rfl, hnormal⟩ hnone, ?_, fun p _ => hcut p⟩
    rintro ⟨p, hp, hstumbles⟩
    exact absurd hstumbles (hnone p hp)
  · rw [herror] at hresult
    refine ⟨iff_of_false ?_ fun hnone => hnone p hp hstumbles, fun _ => ⟨p, hp, q, hq, hresult⟩, fun p _ => hcut p⟩
    rintro ⟨d, hd, -⟩
    rw [hresult] at hd
    cases hd

end Diff

/-! A name of 22 letters, each written as three octets in figures, does not fit: -/

def figures : List Char := '"' :: (List.replicate 22 "\\346\\226\\207".toList).flatten ++ ".py\"".toList

def figuredName : String := String.ofList figures

def figuredClone : Path := .ofString "temp_repos/3b037e95_pr_5"

def figuredRemote : Remote :=
  { files := [], diff := "+x", names := .text ("a.py\n" ++ figuredName), content := .null, outage := fun _ => none }

def figuredWorkspace : Workspace :=
  { files := ⟨[(["temp_repos"], .directory), (["temp_repos", "3b037e95_pr_5"], .directory (some "https://forge/o/r.git")),
      (["temp_repos", "3b037e95_pr_5", "a.py"], .file [0x78])]⟩
    commands := [] }

theorem lt_size_figuredName : Files.nameLimit < figuredName.utf8ByteSize := by
  rw [figuredName, String.utf8ByteSize_ofList]
  decide +kernel

theorem not_mem_figuredName : '/' ∉ figuredName.toList ∧ '\x00' ∉ figuredName.toList ∧ '\n' ∉ figuredName.toList := by
  rw [figuredName, String.toList_ofList]
  decide +kernel

theorem stumbles_figuredName : Stumbles figuredWorkspace.files figuredClone figuredName := by
  have hnames : figuredClone.names = ["temp_repos", "3b037e95_pr_5"] := by decide +kernel
  have hdir : figuredWorkspace.files.walk (Files.startOf figuredClone.isAbsolute) figuredClone.names =
      .directory figuredClone.names := by
    decide +kernel
  have hlong : figuredWorkspace.files.isTooLong (figuredClone.join figuredName) = true := by
    refine Files.isTooLong_join (Path.isClean_ofString _) hdir not_mem_figuredName.1 lt_size_figuredName ?_
    rw [hnames]
    simp [not_mem_figuredName.2.1]
  refine ⟨figuredName, .inl rfl, hlong, fun r hr hlt => ?_⟩
  have := length_le_of_isForm hr
  omega

theorem pathsIn_figuredRemote : pathsIn ("a.py\n" ++ figuredName) = ["a.py", figuredName] := by
  have hlines : lines ("a.py\n" ++ figuredName).toList = ["a.py".toList, figuredName.toList] := by
    rw [show ("a.py\n" ++ figuredName).toList = "a.py".toList ++ '\n' :: figuredName.toList by simp, lines,
      splitOn_append_cons _ _ _ (by decide), splitOn_of_not_mem _ _ not_mem_figuredName.2.2]
  have hne : figuredName ≠ "" := Files.ne_of_size_lt lt_size_figuredName (by decide)
  rw [pathsIn, hlines]
  simp [hne]

theorem changed_paths_lost_figuredName :
    figuredWorkspace.files.isThere (figuredClone.join "a.py") = true ∧
      Stumbles figuredWorkspace.files figuredClone figuredName ∧
      ¬ ∃ d, ((diff figuredRemote figuredClone "main" "dev").perform ⟨figuredWorkspace, []⟩).1 = .ok d ∧
        d.full = figuredRemote.diff ∧ List.Forall₂
          (IsNormal fun q => figuredWorkspace.files.isThere (figuredClone.join q) = true) ["a.py", figuredName] d.files := by
  have hlists : Lists figuredRemote figuredClone "main" "dev" figuredWorkspace ("a.py\n" ++ figuredName) :=
    ⟨by decide +kernel, rfl, rfl, rfl⟩
  refine ⟨by decide +kernel, stumbles_figuredName, fun hdiff => ?_⟩
  have hiff := (changed_paths_normal_iff (s := ⟨figuredWorkspace, []⟩) hlists).1
  rw [pathsIn_figuredRemote] at hiff
  exact hiff.1 hdiff figuredName (by simp) stumbles_figuredName

end Clone
end PullReview
