import PullReview.Proofs.Context.Dependencies
/-!
# Where the search for imports looks

The search asks about files through one way of access (`resolve_direct`), so it can be watched: with an access that notes
every path, it comes to the same and says the same, and the notes are known (`twins_resolve`, `asked_eq`).  A candidate has
no double dots, since its dots became slashes (`up_not_mem_modulePath`).  So it lies under the repository unless the name
starts with a slash, and then it is looked for just where it says (`isUnder_candidates_iff`).
-/
namespace PullReview

/-- The path goes on from the directory, and never up again. -/
def Path.IsUnder (p dir : Path) : Prop := ∃ below, p = ⟨dir.root, dir.names ++ below⟩ ∧ ".." ∉ below

namespace Context

open Text

/-- A way to ask about files: whether a path is there, and what its text is. -/
structure Access (σ : Type) where
  hasPath : Path → Run σ Bool
  readText : Path → Run σ (Except Fault String)

variable {σ : Type}

/-! ## The search by any access -/

namespace Access

variable (a : Access σ) (dir : Path)

def readable (name path : String) : Run σ (Option Dependency) := do
  if ← a.hasPath (dir.join path) then
    match ← a.readText (dir.join path) with
    | .ok source => return some { name, path, source, size := source.length }
    | .error cause =>
      Run.say ("Error reading source code for " ++ name ++ ": " ++ cause.message)
      return none
  else return none

def firstReadable (name : String) : List String → Run σ (Option Dependency)
  | [] => pure none
  | path :: rest => do
    match ← a.readable dir name path with
    | some d => return some d
    | none => firstReadable name rest

def resolveName (name : String) : Run σ (Option Dependency) :=
  if startsWith "." name then pure none else a.firstReadable dir name (candidates name)

def resolve (imports : List String) : Run σ (List Dependency) := do
  return (← Run.mapEach (a.resolveName dir) imports).filterMap id

end Access

namespace Checkout

variable (c : Checkout)

def direct : Access σ := ⟨fun p => Run.of (c.files.hasPath p), fun p => pure (c.files.readText p.toString)⟩

/-- The same, with a note of every path that is asked about or read. -/
def watched : Access (List Path) where
  hasPath p := do
    Run.update (· ++ [p])
    c.direct.hasPath p
  readText p := do
    Run.update (· ++ [p])
    c.direct.readText p

/-- The paths that the search for these imports asks about or reads. -/
def asked (names : List String) : List Path := ((c.watched.resolve c.directory names).start []).2.state

end Checkout

variable (c : Checkout)

theorem readable_direct (name path : String) :
    (c.direct : Access σ).readable c.directory name path = readable c name path := by
  rw [Access.readable, readable, Checkout.locate, Checkout.direct]
  dsimp only
  refine congrArg (Run.of _ >>= ·) (funext fun there => ?_)
  cases there with
  | false => rw [if_neg Bool.false_ne_true, if_neg Bool.false_ne_true]
  | true =>
    rw [if_pos rfl, if_pos rfl]
    refine (pure_bind (c.files.readText (c.directory.join path).toString) _).trans ?_
    cases c.files.readText (c.directory.join path).toString with
    | ok source => rfl
    | error cause => rfl

theorem firstReadable_direct (name : String) : ∀ paths : List String,
    (c.direct : Access σ).firstReadable c.directory name paths = firstReadable c name paths
  | [] => rfl
  | path :: rest => by
    rw [Access.firstReadable, firstReadable]
    refine congrArg₂ (· >>= ·) (readable_direct c name path) (funext fun found => ?_)
    cases found with
    | none => exact firstReadable_direct name rest
    | some d => rfl

/-- **The search by direct access is the search.** -/
theorem resolve_direct (names : List String) :
    (c.direct : Access σ).resolve c.directory names = resolve c names := by
  have hname : (c.direct : Access σ).resolveName c.directory = resolveName c := by
    funext name
    rw [Access.resolveName, resolveName, firstReadable_direct]
  rw [Access.resolve, resolve, hname]

/-! ## Watching it -/

/-- Two runs come to the same and say the same; the first notes some paths besides, the second changes nothing. -/
def Twins {α : Type} (x y : Run (List Path) α) (result : Except Fault α) (paths : List Path) : Prop :=
  ∀ s t : Session (List Path), s.console = t.console → ∃ console,
    x.perform s = (result, ⟨s.state ++ paths, console⟩) ∧ y.perform t = (result, ⟨t.state, console⟩)

namespace Twins

variable {α β : Type} {x y : Run (List Path) α} {f g : α → Run (List Path) β} {paths more : List Path}

theorem pure (a : α) : Twins (pure a) (pure a) (.ok a) [] := by
  intro s t hconsole
  exact ⟨s.console, by simp, by simp [hconsole]⟩

theorem bind {a : α} {result : Except Fault β} (hx : Twins x y (.ok a) paths) (hf : Twins (f a) (g a) result more) :
    Twins (x >>= f) (y >>= g) result (paths ++ more) := by
  intro s t hconsole
  obtain ⟨said, hxrun, hyrun⟩ := hx s t hconsole
  obtain ⟨console, hfrun, hgrun⟩ := hf ⟨s.state ++ paths, said⟩ ⟨t.state, said⟩ rfl
  refine ⟨console, ?_, ?_⟩
  · rw [Run.perform_bind_ok hxrun, hfrun, List.append_assoc]
  · rw [Run.perform_bind_ok hyrun, hgrun]

theorem bind_error {cause : Fault} (hx : Twins x y (.error cause) paths) :
    Twins (x >>= f) (y >>= g) (.error cause) paths := by
  intro s t hconsole
  obtain ⟨console, hxrun, hyrun⟩ := hx s t hconsole
  exact ⟨console, Run.perform_bind_error hxrun f, Run.perform_bind_error hyrun g⟩

end Twins

namespace Checkout

/-- What is noted at a candidate: that it was asked about and, if it is there, that it was read. -/
def notes (path : String) : List Path :=
  if c.files.isThere (c.locate path) then [c.locate path, c.locate path] else [c.locate path]

def notesOn : List String → List Path
  | [] => []
  | path :: rest => c.notes path ++ if c.isTooLong path || c.isReadable path then [] else notesOn rest

def notesFor (name : String) : List Path := if startsWith "." name then [] else c.notesOn (candidates name)

/-- The search for several imports ends at the first that it stumbles over. -/
def notesForAll : List String → List Path
  | [] => []
  | name :: rest => c.notesFor name ++ if c.stumbles name then [] else notesForAll rest

end Checkout

theorem perform_hasPath_watched (p : Path) (s : Session (List Path)) :
    (c.watched.hasPath p).perform s = (c.files.hasPath p, ⟨s.state ++ [p], s.console⟩) := by
  rw [Checkout.watched, Checkout.direct, Run.perform_bind, Run.perform_update]
  exact Run.perform_of _ _

theorem perform_readText_watched (p : Path) (s : Session (List Path)) :
    (c.watched.readText p).perform s = (.ok (c.files.readText p.toString), ⟨s.state ++ [p], s.console⟩) := by
  rw [Checkout.watched, Checkout.direct, Run.perform_bind, Run.perform_update]
  rfl

theorem twins_readable (name path : String) :
    Twins (c.watched.readable c.directory name path) (readable c name path) (c.offered name path) (c.notes path) := by
  rintro ⟨log, console⟩ ⟨log', _⟩ rfl
  rw [Access.readable, readable, Checkout.notes, Checkout.offered, Checkout.isTooLong, Checkout.isReadable,
    Checkout.dependency, Checkout.locate, Run.perform_bind, Run.perform_bind, perform_hasPath_watched, Run.perform_of,
    Files.hasPath_eq]
  cases hlong : c.files.isTooLong (c.directory.join path) with
  | true =>
    rw [Files.isThere_of_isTooLong hlong]
    exact ⟨console, rfl, rfl⟩
  | false =>
    cases hthere : c.files.isThere (c.directory.join path) with
    | false => exact ⟨console, rfl, rfl⟩
    | true =>
      simp only [Bool.false_eq_true, if_false, if_true]
      rw [Run.perform_bind, perform_readText_watched, List.append_assoc]
      cases c.files.readText (c.directory.join path).toString with
      | ok source => exact ⟨console, rfl, rfl⟩
      | error cause => exact ⟨_, rfl, rfl⟩

theorem twins_firstReadable (name : String) : ∀ paths : List String,
    Twins (c.watched.firstReadable c.directory name paths) (firstReadable c name paths) (c.searched name paths)
      (c.notesOn paths)
  | [] => .pure none
  | path :: rest => by
    have hpath := twins_readable c name path
    rw [Checkout.offered] at hpath
    rw [Access.firstReadable, firstReadable, Checkout.searched, Checkout.notesOn]
    cases hlong : c.isTooLong path with
    | true =>
      rw [hlong] at hpath
      simp only [Bool.true_or, if_true, List.append_nil] at hpath ⊢
      exact hpath.bind_error
    | false =>
      rw [hlong] at hpath
      simp only [Bool.false_or, Bool.false_eq_true, if_false] at hpath ⊢
      refine hpath.bind ?_
      cases c.isReadable path with
      | true => exact .pure _
      | false => exact twins_firstReadable name rest

theorem twins_resolveName (name : String) :
    Twins (c.watched.resolveName c.directory name) (resolveName c name) (c.resolved name) (c.notesFor name) := by
  rw [Access.resolveName, resolveName, Checkout.resolved, Checkout.notesFor]
  split
  · exact .pure none
  · exact twins_firstReadable c name _

theorem twins_mapEach : ∀ names : List String,
    Twins (Run.mapEach (c.watched.resolveName c.directory) names) (Run.mapEach (resolveName c) names)
      (names.mapM c.resolved) (c.notesForAll names)
  | [] => .pure []
  | name :: rest => by
    have hname := twins_resolveName c name
    have hrest := twins_mapEach rest
    rw [Run.mapEach, Run.mapEach, List.mapM_cons, Checkout.notesForAll]
    -- the search goes on to the rest just when it does not stumble
    rcases resolved_cases c name with ⟨hstumbles, cause, hcause⟩ | ⟨hsteady, hok⟩
    · rw [hcause] at hname ⊢
      rw [hstumbles, if_pos rfl, List.append_nil]
      exact hname.bind_error
    · rw [hok] at hname ⊢
      rw [hsteady, if_neg Bool.false_ne_true]
      refine hname.bind ?_
      cases hresult : rest.mapM c.resolved with
      | error cause =>
        rw [hresult] at hrest
        exact hrest.bind_error
      | ok found =>
        rw [hresult] at hrest
        rw [← List.append_nil (c.notesForAll rest)]
        exact hrest.bind (.pure _)

/-- **The watched search comes to the same, says the same, and notes these paths.** -/
theorem twins_resolve (names : List String) : ∃ result,
    Twins (c.watched.resolve c.directory names) (resolve c names) result (c.notesForAll names) := by
  have heach := twins_mapEach c names
  cases hresult : names.mapM c.resolved with
  | error cause =>
    rw [hresult] at heach
    exact ⟨.error cause, heach.bind_error⟩
  | ok found =>
    rw [hresult] at heach
    rw [← List.append_nil (c.notesForAll names)]
    exact ⟨_, heach.bind (.pure _)⟩

theorem asked_eq (names : List String) : c.asked names = c.notesForAll names := by
  obtain ⟨result, htwins⟩ := twins_resolve c names
  obtain ⟨console, hrun, -⟩ := htwins ⟨[], []⟩ ⟨[], []⟩ rfl
  rw [Checkout.asked, Run.start_eq, hrun]
  rfl

theorem mem_notesForAll_iff (p : Path) : ∀ names : List String, p ∈ c.notesForAll names ↔
    ∃ before name after, names = before ++ name :: after ∧ (∀ n ∈ before, c.stumbles n = false) ∧ p ∈ c.notesFor name
  | [] => by simp [Checkout.notesForAll]
  | first :: rest => by
    have ih := mem_notesForAll_iff p rest
    rw [Checkout.notesForAll, List.mem_append]
    constructor
    · rintro (hp | hp)
      · exact ⟨[], first, rest, rfl, by simp, hp⟩
      · cases hstumbles : c.stumbles first with
        | true => simp [hstumbles] at hp
        | false =>
          rw [hstumbles, if_neg Bool.false_ne_true] at hp
          obtain ⟨before, name, after, rfl, hbefore, hp⟩ := ih.1 hp
          exact ⟨first :: before, name, after, rfl, by simpa [hstumbles] using hbefore, hp⟩
    · rintro ⟨_ | ⟨_, before⟩, name, after, heq, hbefore, hp⟩ <;> cases heq
      · exact .inl hp
      · have hfirst := hbefore first List.mem_cons_self
        rw [hfirst, if_neg Bool.false_ne_true]
        exact .inr (ih.2 ⟨before, name, after, rfl, fun n hn => hbefore n (List.mem_cons_of_mem first hn), hp⟩)

/-! ## Under the repository -/

theorem mem_notes_iff (p : Path) (path : String) : p ∈ c.notes path ↔ p = c.locate path := by
  rw [Checkout.notes]
  split <;> simp

theorem mem_notesOn {p : Path} {paths : List String} (h : p ∈ c.notesOn paths) : ∃ path ∈ paths, p = c.locate path := by
  induction paths with
  | nil => simp [Checkout.notesOn] at h
  | cons path rest ih =>
    rw [Checkout.notesOn, List.mem_append, mem_notes_iff] at h
    rcases h with h | h
    · exact ⟨path, List.mem_cons_self, h⟩
    · split at h
      · exact absurd h List.not_mem_nil
      · obtain ⟨other, hother, hp⟩ := ih h
        exact ⟨other, List.mem_cons_of_mem path hother, hp⟩

theorem mem_notesFor {p : Path} {name : String} (h : p ∈ c.notesFor name) :
    startsWith "." name = false ∧ ∃ path ∈ candidates name, p = c.locate path := by
  rw [Checkout.notesFor] at h
  cases hdot : startsWith "." name with
  | true => simp [hdot] at h
  | false =>
    rw [hdot, if_neg Bool.false_ne_true] at h
    exact ⟨rfl, mem_notesOn c h⟩

theorem mem_notesFor_first {name : String} (h : startsWith "." name = false) :
    c.locate (Graph.modulePath name) ∈ c.notesFor name := by
  rw [Checkout.notesFor, h, if_neg Bool.false_ne_true, candidates, Checkout.notesOn]
  exact List.mem_append_left _ ((mem_notes_iff c _ _).2 rfl)

/-- Dots become slashes, so one dot is left, that of the ending. -/
theorem up_not_mem_modulePath (front name : String) (hfront : '.' ∉ front.toList) :
    ".." ∉ (Path.ofString (front ++ Graph.modulePath name)).names := by
  have hcount : (front ++ Graph.modulePath name).toList.count '.' = 1 := by
    have hswap : ∀ cs : List Char, (cs.map fun ch => if ch = '.' then '/' else ch).count '.' = 0 := by
      intro cs
      rw [List.count_eq_zero, List.mem_map]
      rintro ⟨ch, -, hch⟩
      by_cases hdot : ch = '.'
      · rw [if_pos hdot] at hch
        revert hch
        decide
      · rw [if_neg hdot] at hch
        exact hdot hch
    rw [Graph.modulePath, swap, String.toList_append, String.toList_append, String.toList_ofList, List.count_append,
      List.count_append, hswap, List.count_eq_zero.2 hfront]
    rfl
  intro hup
  simp only [Path.ofString, Path.namesIn, List.mem_map, List.mem_filter] at hup
  obtain ⟨piece, ⟨hpiece, -⟩, hname⟩ := hup
  -- a part of the path cannot hold more dots than the path
  have hdots : piece = ['.', '.'] := by simpa using congrArg String.toList hname
  have hle := (infix_of_mem_splitOn '/' _ piece hpiece).sublist.count_le '.'
  rw [hcount, hdots] at hle
  revert hle
  decide

theorem root_ofString_iff (s : String) : (Path.ofString s).root = "" ↔ startsWith "/" s = false := by
  rw [Path.ofString, startsWith, Path.rootOf]
  cases hs : s.toList with
  | nil => decide
  | cons ch rest =>
    by_cases hch : ch = '/'
    · have hslash : ("/".toList.isPrefixOf (ch :: rest)) = true := by simp [hch]
      rw [List.takeWhile_cons_of_pos (by simpa using hch), hslash]
      simp only [Bool.true_eq_false, iff_false]
      split <;> simp_all
    · have hslash : ("/".toList.isPrefixOf (ch :: rest)) = false := by simp [List.isPrefixOf, Ne.symm hch]
      rw [List.takeWhile_cons_of_neg (by simpa using hch), hslash]
      simp

theorem startsWith_modulePath {name : String} (h : startsWith "." name = false) :
    startsWith "/" (Graph.modulePath name) = startsWith "/" name := by
  rw [startsWith, startsWith, Graph.modulePath, swap, String.toList_append, String.toList_ofList]
  rw [startsWith] at h
  cases hname : name.toList with
  | nil => rfl
  | cons ch rest =>
    rw [hname] at h
    have hdot : ch ≠ '.' := by
      rintro rfl
      simp at h
    simp [List.isPrefixOf, hdot]

theorem isUnder_join {dir : Path} {s : String} (hroot : startsWith "/" s = false)
    (hup : ".." ∉ (Path.ofString s).names) : (dir.join s).IsUnder dir := by
  refine ⟨(Path.ofString s).names, ?_, hup⟩
  rw [Path.join, Path.isAbsolute, (root_ofString_iff s).2 hroot]
  rfl

theorem join_of_absolute {dir : Path} {s : String} (hroot : startsWith "/" s = true) : dir.join s = Path.ofString s := by
  have habsolute : (Path.ofString s).root ≠ "" := by simp [root_ofString_iff, hroot]
  rw [Path.join, Path.isAbsolute]
  simp [habsolute]

/-- **All candidates of an import lie under the repository**, unless it starts with a slash; then the first one has to be
there by itself. -/
theorem isUnder_candidates_iff (name : String) : (∀ p ∈ c.notesFor name, p.IsUnder c.directory) ↔
    (startsWith "/" name = true → (Path.ofString (Graph.modulePath name)).IsUnder c.directory) := by
  constructor
  · intro hunder hslash
    have hdot : startsWith "." name = false := by
      rw [startsWith] at hslash ⊢
      cases hname : name.toList with
      | nil => rfl
      | cons ch rest =>
        rw [hname] at hslash
        have hch : '/' = ch := by simpa using hslash
        rw [← hch]
        rfl
    have hfirst := hunder _ (mem_notesFor_first c hdot)
    rwa [Checkout.locate, join_of_absolute (by rw [startsWith_modulePath hdot, hslash])] at hfirst
  · intro habsolute p hp
    obtain ⟨hdot, path, hpath, rfl⟩ := mem_notesFor c hp
    rw [candidates, List.mem_pair] at hpath
    rcases hpath with rfl | rfl
    · cases hslash : startsWith "/" name with
      | true =>
        rw [Checkout.locate, join_of_absolute (by rw [startsWith_modulePath hdot, hslash])]
        exact habsolute hslash
      | false =>
        have hup := up_not_mem_modulePath "" name (by decide)
        rw [String.empty_append] at hup
        exact isUnder_join (by rw [startsWith_modulePath hdot, hslash]) hup
    · refine isUnder_join ?_ (up_not_mem_modulePath "src/" name (by decide))
      rw [startsWith, String.toList_append]
      rfl

/-- **The search looks outside the repository just at absolute imports.**  It can be watched without a difference, and
every path that is asked about or read lies under the repository if and only if no import that the search gets to starts
with a slash, save one that leads back there.  The search gets to an import if it stumbles over none before. -/
theorem search_confined_iff (lang : Language) (source : Source) (root : Node) :
    let names := root.imports lang source
    (c.direct : Access σ).resolve c.directory names = resolve c names ∧
      (∃ result, Twins (c.watched.resolve c.directory names) (resolve c names) result (c.asked names)) ∧
      ((∀ p ∈ c.asked names, p.IsUnder c.directory) ↔
        ∀ before name after, names = before ++ name :: after → (∀ n ∈ before, c.stumbles n = false) →
          startsWith "/" name = true → (Path.ofString (Graph.modulePath name)).IsUnder c.directory) := by
  intro names
  refine ⟨resolve_direct c names, asked_eq c names ▸ twins_resolve c names, ?_⟩
  rw [asked_eq]
  constructor
  · intro hunder before name after hnames hbefore
    refine (isUnder_candidates_iff c name).1 fun p hp => hunder p ?_
    exact (mem_notesForAll_iff c p names).2 ⟨before, name, after, hnames, hbefore, hp⟩
  · intro habsolute p hp
    obtain ⟨before, name, after, hnames, hbefore, hp⟩ := (mem_notesForAll_iff c p names).1 hp
    exact (isUnder_candidates_iff c name).2 (habsolute before name after hnames hbefore) p hp

def straySource : String := "import \"/etc/hosts\""

def strayTree : Node :=
  ⟨"program", 0, 19, 0, 0, none,
    [⟨"import_statement", 0, 19, 0, 0, none, [⟨"string", 7, 19, 0, 0, some "source", []⟩]⟩]⟩

def strayCheckout : Checkout :=
  { files := ⟨[(["repo"], .directory)]⟩, directory := .ofString "repo", parse := fun _ _ => .ok strayTree }

theorem search_strays_strayTree : strayTree.imports .javascript straySource = ["/etc/hosts"] ∧
    ∃ p ∈ strayCheckout.asked (strayTree.imports .javascript straySource), ¬ p.IsUnder strayCheckout.directory := by
  have himports : strayTree.imports .javascript straySource = ["/etc/hosts"] := by decide +kernel
  have hstray : ¬ (Path.ofString (Graph.modulePath "/etc/hosts")).IsUnder strayCheckout.directory := by
    rintro ⟨below, heq, -⟩
    have hroot : (Path.ofString (Graph.modulePath "/etc/hosts")).root = strayCheckout.directory.root := by rw [heq]
    revert hroot
    decide
  refine ⟨himports, by_contra fun hnone => hstray ?_⟩
  obtain ⟨-, -, hiff⟩ := search_confined_iff (σ := Unit) strayCheckout .javascript straySource strayTree
  refine hiff.1 (fun p hp => by_contra fun hout => hnone ⟨p, hp, hout⟩) [] "/etc/hosts" [] himports (by simp) (by decide)

end Context
end PullReview
