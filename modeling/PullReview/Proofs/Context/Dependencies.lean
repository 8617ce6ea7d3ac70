import Mathlib.Data.String.Basic
import PullReview.Context.Build
import PullReview.Proofs.Keyed
import PullReview.Proofs.Files.Walk
import PullReview.Proofs.Json
import PullReview.Proofs.Run
/-!
# Exactly the dependencies

What the search for an import comes to can be told from the files alone (`result_resolveName`): it is the first candidate
that can be read, unless a candidate that is too long to be asked for comes up before it (`resolved_cases`).  Such an import
takes all others of its file with it (`result_dependenciesOf`), and a changed path that is too long takes everything
(`dependencies_exact`).  In all other cases the dependencies are exactly the files that imports lead to, changed ones left
out, each at the place where it is first met (`map_path_firstByPath`).
-/
namespace PullReview
namespace Context

open Text

variable {σ : Type}

namespace Checkout

variable (c : Checkout)

/-! ## One import -/

def isReadable (path : String) : Bool :=
  c.files.isThere (c.locate path) && (c.files.readText (c.locate path).toString).isOk

def isTooLong (path : String) : Bool := c.files.isTooLong (c.locate path)

/-- The path that an import leads to: the first candidate that is there and can be read. -/
def leadsTo? (name : String) : Option String :=
  if startsWith "." name then none else (candidates name).find? c.isReadable

/-- A candidate that is too long comes up before one that can be read. -/
def stumbles (name : String) : Bool :=
  !startsWith "." name && (c.isTooLong (Graph.modulePath name) ||
    !c.isReadable (Graph.modulePath name) && c.isTooLong ("src/" ++ Graph.modulePath name))

def dependency (name path : String) : Dependency :=
  let source := (c.files.readText (c.locate path).toString).toOption.getD ""
  { name, path, source, size := source.length }

def offered (name path : String) : Except Fault (Option Dependency) :=
  if c.isTooLong path then .error (.nameTooLong (c.locate path).toString)
  else .ok (if c.isReadable path then some (c.dependency name path) else none)

def searched (name : String) : List String → Except Fault (Option Dependency)
  | [] => .ok none
  | path :: rest =>
    if c.isTooLong path then .error (.nameTooLong (c.locate path).toString)
    else if c.isReadable path then .ok (some (c.dependency name path))
    else searched name rest

def resolved (name : String) : Except Fault (Option Dependency) :=
  if startsWith "." name then .ok none else c.searched name (candidates name)

end Checkout

variable (c : Checkout)

theorem result_readable (name path : String) (s : Session σ) :
    ((readable c name path).perform s).1 = c.offered name path := by
  rw [readable, Files.hasPath_eq, Checkout.offered, Checkout.isTooLong, Checkout.isReadable, Checkout.dependency]
  cases c.files.isTooLong (c.locate path) with
  | true => rfl
  | false =>
    cases c.files.isThere (c.locate path) with
    | false => rfl
    | true => cases c.files.readText (c.locate path).toString <;> rfl

theorem result_firstReadable (name : String) : ∀ (paths : List String) (s : Session σ),
    ((firstReadable c name paths).perform s).1 = c.searched name paths
  | [], _ => rfl
  | path :: rest, s => by
    have hpath := result_readable c name path s
    rw [firstReadable, Run.perform_bind, Checkout.searched]
    rcases hrun : (readable c name path).perform s with ⟨result, t⟩
    rw [hrun] at hpath
    dsimp only at hpath ⊢
    rw [hpath, Checkout.offered]
    cases c.isTooLong path with
    | true => rfl
    | false =>
      cases c.isReadable path with
      | true => rfl
      | false => exact result_firstReadable name rest t

theorem result_resolveName (name : String) (s : Session σ) :
    ((resolveName c name).perform s).1 = c.resolved name := by
  rw [resolveName, Checkout.resolved]
  split
  · rfl
  · exact result_firstReadable c name _ s

/-- **An import leads to its first readable candidate, unless the search stumbles.** -/
theorem resolved_cases (name : String) :
    (c.stumbles name = true ∧ ∃ cause, c.resolved name = .error cause) ∨
      (c.stumbles name = false ∧ c.resolved name = .ok ((c.leadsTo? name).map (c.dependency name))) := by
  rw [Checkout.stumbles, Checkout.resolved, Checkout.leadsTo?, candidates]
  cases startsWith "." name with
  | true => exact .inr ⟨rfl, rfl⟩
  | false =>
    simp only [Checkout.searched]
    cases hfirst : c.isTooLong (Graph.modulePath name) with
    | true => simp
    | false =>
      cases hread : c.isReadable (Graph.modulePath name) with
      | true => simp [hread]
      | false =>
        cases hsecond : c.isTooLong ("src/" ++ Graph.modulePath name) with
        | true => simp
        | false =>
          cases hread' : c.isReadable ("src/" ++ Graph.modulePath name) <;> simp [hread, hread']

/-! ## One changed file -/

namespace Checkout

/-- The imports of a file that is there, parses and decodes. -/
def imports? (f : String) : Option (List String) :=
  if c.files.isThere (c.locate f) then
    (c.parseFile (Language.ofPath f) (c.locate f).toString).toOption.map fun (root, text) =>
      root.imports (Language.ofPath f) text
  else none

/-- The imports of such a file, if the search stumbles over none of them. -/
def steadyImports (f : String) : List String := ((c.imports? f).filter fun names => !names.any c.stumbles).getD []

def found (names : List String) : List Dependency :=
  names.filterMap fun name => (c.leadsTo? name).map (c.dependency name)

end Checkout

theorem map_path_found (names : List String) : (c.found names).map (·.path) = names.filterMap c.leadsTo? := by
  rw [Checkout.found, List.map_filterMap]
  refine List.filterMap_congr fun name _ => ?_
  cases c.leadsTo? name <;> rfl

theorem mem_steadyImports_iff (f name : String) : name ∈ c.steadyImports f ↔
    ∃ names, c.imports? f = some names ∧ (∀ n ∈ names, c.stumbles n = false) ∧ name ∈ names := by
  rw [Checkout.steadyImports]
  cases c.imports? f with
  | none => simp
  | some names =>
    by_cases hany : names.any c.stumbles = true
    · obtain ⟨n, hn, hstumbles⟩ := List.any_eq_true.1 hany
      rw [Option.filter_some, if_neg (by simp [hany])]
      refine iff_of_false List.not_mem_nil ?_
      rintro ⟨_, ⟨⟩, hsteady, -⟩
      simp [hsteady n hn] at hstumbles
    · have hsteady : ∀ n ∈ names, c.stumbles n = false := by simpa using hany
      rw [Option.filter_some, if_pos (by simpa using hany)]
      constructor
      · exact fun h => ⟨names, rfl, hsteady, h⟩
      · rintro ⟨_, ⟨⟩, -, h⟩
        exact h

theorem result_resolve (names : List String) (s : Session σ) :
    ((resolve c names).perform s).1 = (names.mapM c.resolved).map fun found => found.filterMap id := by
  rw [resolve, Run.perform_bind, ← Run.mapEach_mapM (result_resolveName c) names s]
  rcases (Run.mapEach (resolveName c) names).perform s with ⟨_ | _, t⟩ <;> rfl

theorem resolve_cases (names : List String) (s : Session σ) :
    (names.any c.stumbles = true ∧ ∃ cause, ((resolve c names).perform s).1 = .error cause) ∨
      (names.any c.stumbles = false ∧ ((resolve c names).perform s).1 = .ok (c.found names)) := by
  rw [result_resolve]
  by_cases hany : names.any c.stumbles = true
  · refine .inl ⟨hany, ?_⟩
    obtain ⟨name, hname, hstumbles⟩ := List.any_eq_true.1 hany
    rcases Run.mapM_ok_or_first_error c.resolved names with ⟨found, hfound⟩ | ⟨_, _, cause, _, herror⟩
    · obtain ⟨d, hd⟩ := Run.ok_of_mapM hfound name hname
      rcases resolved_cases c name with ⟨-, cause, hcause⟩ | ⟨hnot, -⟩
      · rw [hd] at hcause
        cases hcause
      · rw [hnot] at hstumbles
        cases hstumbles
    · rw [herror]
      exact ⟨cause, rfl⟩
  · have hok : names.mapM c.resolved = .ok (names.map fun name => (c.leadsTo? name).map (c.dependency name)) := by
      refine Run.mapM_eq_ok fun name hname => ?_
      rcases resolved_cases c name with ⟨hstumbles, -⟩ | ⟨-, hok⟩
      · exact absurd (List.any_eq_true.2 ⟨name, hname, hstumbles⟩) hany
      · exact hok
    rw [hok]
    exact .inr ⟨Bool.eq_false_iff.2 hany, congrArg Except.ok List.filterMap_map⟩

/-- **A file that fails adds nothing**, and so does one that has an import over which the search stumbles. -/
theorem result_dependenciesOf (f : String) (s : Session σ) :
    ((dependenciesOf c f).perform s).1 =
      if c.isTooLong f then .error (.nameTooLong (c.locate f).toString) else .ok (c.found (c.steadyImports f)) := by
  unfold dependenciesOf
  rw [Files.hasPath_eq, Checkout.isTooLong, Checkout.steadyImports, Checkout.imports?]
  by_cases hlong : c.files.isTooLong (c.locate f) = true
  · rw [if_pos hlong, if_pos hlong, Run.perform_bind_error (Run.perform_of _ s)]
  rw [if_neg hlong, if_neg hlong, Run.of_ok_bind]
  by_cases hthere : c.files.isThere (c.locate f) = true
  · rw [if_pos hthere, if_pos hthere, Run.perform_orElse, dependenciesOf.analysed]
    cases c.parseFile (Language.ofPath f) (c.locate f).toString with
    | error cause =>
      rw [Run.perform_bind_error (Run.perform_of _ s)]
      rfl
    | ok parsed =>
      obtain ⟨root, text⟩ := parsed
      rw [Run.of_ok_bind, show (Except.ok (root, text)).toOption = some (root, text) from rfl, Option.map_some,
        Option.filter_some]
      dsimp only
      -- a fault in the search is reported, and nothing is found then
      rcases hrun : (resolve c (root.imports (Language.ofPath f) text)).perform s with ⟨result, t⟩
      have hcases := resolve_cases c (root.imports (Language.ofPath f) text) s
      rw [hrun] at hcases
      rcases hcases with ⟨hany, cause, rfl⟩ | ⟨hany, rfl⟩
      · rw [hany]
        rfl
      · rw [hany]
        rfl
  · rw [if_neg hthere, if_neg hthere]
    rfl

/-! ## All changed files -/

theorem map_path_firstByPath (ds : List Dependency) :
    (firstByPath ds).map (·.path) = distinct (ds.map (·.path)) := by
  induction ds with
  | nil => rfl
  | cons d rest ih =>
    rw [firstByPath, List.map_cons, List.map_cons, distinct, ← ih, List.filter_map]
    rfl

theorem isListed_ofTexts (changed : List String) (path : String) :
    isListed (.ofTexts changed) path = decide (path ∈ changed) := by
  have hany : (changed.map Json.text).any (·.isText path) = decide (path ∈ changed) := by
    rw [Bool.eq_iff_iff, List.any_eq_true, decide_eq_true_eq]
    simp [Json.isText_iff]
  exact hany

theorem collect_cases (changed : List String) (isChanged : String → Bool) (s : Session σ) :
    ((∃ f ∈ changed, c.isTooLong f = true) ∧ ∃ cause, ((collect c changed isChanged).perform s).1 = .error cause) ∨
      ((∀ f ∈ changed, c.isTooLong f = false) ∧ ((collect c changed isChanged).perform s).1 =
        .ok (firstByPath ((changed.flatMap fun f => c.found (c.steadyImports f)).filter fun d => !isChanged d.path))) := by
  have hresult : ((collect c changed isChanged).perform s).1 = (changed.mapM fun f =>
      if c.isTooLong f then Except.error (Fault.nameTooLong (c.locate f).toString) else .ok (c.found (c.steadyImports f))).map fun found =>
        firstByPath (found.flatten.filter fun d => !isChanged d.path) := by
    rw [collect, Run.perform_bind, ← Run.mapEach_mapM (result_dependenciesOf c) changed s]
    rcases (Run.mapEach (dependenciesOf c) changed).perform s with ⟨_ | _, t⟩ <;> rfl
  rw [hresult]
  by_cases hlong : ∃ f ∈ changed, c.isTooLong f = true
  · refine .inl ⟨hlong, ?_⟩
    obtain ⟨f, hf, hlong⟩ := hlong
    rcases Run.mapM_ok_or_first_error (fun f => if c.isTooLong f then
        Except.error (Fault.nameTooLong (c.locate f).toString) else .ok (c.found (c.steadyImports f))) changed with
      ⟨found, hfound⟩ | ⟨_, _, cause, _, herror⟩
    · obtain ⟨ds, hds⟩ := Run.ok_of_mapM hfound f hf
      rw [if_pos hlong] at hds
      cases hds
    · rw [herror]
      exact ⟨cause, rfl⟩
  · have hshort : ∀ f ∈ changed, c.isTooLong f = false := fun f hf =>
      Bool.eq_false_iff.2 fun h => hlong ⟨f, hf, h⟩
    refine .inr ⟨hshort, ?_⟩
    rw [Run.mapM_eq_ok (g := fun f => c.found (c.steadyImports f)) fun f hf => by rw [hshort f hf]; rfl]
    rfl

/-- **The dependencies are exactly what the imports lead to, as far as nothing stumbles.**  There is a list unless a
changed path is too long.  It names no path twice and no changed one, and it has a path if and only if an import of some
changed file leads there and the search stumbles over none of that file's imports; the paths stand in the order in which
the files and their imports first lead to them. -/
theorem dependencies_exact (changed : List String) (s : Session σ) :
    let result := ((collect c changed (isListed (.ofTexts changed))).perform s).1
    ((∃ ds, result = .ok ds) ↔ ∀ f ∈ changed, c.isTooLong f = false) ∧
      ∀ ds, result = .ok ds →
        (ds.map (·.path)).Nodup ∧
        (∀ r, r ∈ ds.map (·.path) ↔ r ∉ changed ∧ ∃ f ∈ changed, ∃ names, c.imports? f = some names ∧
          (∀ name ∈ names, c.stumbles name = false) ∧ ∃ name ∈ names, c.leadsTo? name = some r) ∧
        ds.map (·.path) = distinct ((changed.flatMap fun f => (c.steadyImports f).filterMap c.leadsTo?).filter (· ∉ changed)) := by
  intro result
  rcases collect_cases c changed (isListed (.ofTexts changed)) s with ⟨⟨f, hf, hlong⟩, cause, herror⟩ | ⟨hshort, hok⟩
  · have herror : result = .error cause := herror
    refine ⟨iff_of_false ?_ fun h => by simp [h f hf] at hlong, fun ds hds => ?_⟩
    · rintro ⟨ds, hds⟩
      rw [herror] at hds
      cases hds
    · rw [herror] at hds
      cases hds
  · have hok : result = _ := hok
    refine ⟨iff_of_true ⟨_, hok⟩ hshort, fun ds hds => ?_⟩
    have hpaths : ds.map (·.path) =
        distinct ((changed.flatMap fun f => (c.steadyImports f).filterMap c.leadsTo?).filter (· ∉ changed)) := by
      rw [hok] at hds
      cases hds
      simp only [← map_path_found]
      rw [map_path_firstByPath, ← List.map_flatMap, List.filter_map]
      simp only [isListed_ofTexts, Function.comp_def, decide_not]
    refine ⟨hpaths ▸ nodup_distinct _, fun r => ?_, hpaths⟩
    have hoffered (f : String) : r ∈ (c.steadyImports f).filterMap c.leadsTo? ↔ ∃ names, c.imports? f = some names ∧
        (∀ name ∈ names, c.stumbles name = false) ∧ ∃ name ∈ names, c.leadsTo? name = some r := by
      rw [List.mem_filterMap]
      simp only [mem_steadyImports_iff]
      constructor
      · rintro ⟨name, ⟨names, hnames, hsteady, hname⟩, hleads⟩
        exact ⟨names, hnames, hsteady, name, hname, hleads⟩
      · rintro ⟨names, hnames, hsteady, name, hname, hleads⟩
        exact ⟨name, ⟨names, hnames, hsteady, hname⟩, hleads⟩
    rw [hpaths, mem_distinct_iff, List.mem_filter, decide_eq_true_eq, List.mem_flatMap, and_comm]
    simp only [hoffered]

/-! A file with two imports, of which the second is too long to be asked for and takes the first with it: -/

theorem decodeFrom_plain : ∀ (cs : List Char) (pos : Nat), (∀ ch ∈ cs, ch.toNat < 128) →
    decodeFrom pos (cs.map fun ch => UInt8.ofNat ch.toNat) = .ok cs
  | [], _, _ => rfl
  | ch :: cs, pos, h => by
    have hch : ch.toNat < 128 := h ch List.mem_cons_self
    have hoctet : (UInt8.ofNat ch.toNat).toNat = ch.toNat := by
      rw [UInt8.toNat_ofNat']
      omega
    have hsmall : UInt8.ofNat ch.toNat < 0x80 := by
      rw [UInt8.lt_iff_toNat_lt, hoctet]
      exact hch
    have hrest := decodeFrom_plain cs (pos + 1) fun d hd => h d (List.mem_cons_of_mem ch hd)
    rw [List.map_cons, decodeFrom.eq_def]
    dsimp only
    rw [if_pos hsmall, hoctet, Char.ofNat_toNat, hrest]
    rfl

@[irreducible] def overlong : List Char := List.replicate 256 'm'

@[irreducible] def overlongText : List Char := "import top\nimport ".toList ++ overlong

/-- A plain import of a name that stands behind a text. -/
def importBehind (before name : List Char) : Node :=
  ⟨"import_statement", 0, 0, 0, 0, none,
    [⟨"dotted_name", before.length, before.length + name.length, 0, 0, some "name", []⟩]⟩

def overlongTree : Node :=
  ⟨"module", 0, 0, 0, 0, none,
    [importBehind "import ".toList "top".toList, importBehind "import top\nimport ".toList overlong]⟩

def overlongCheckout : Checkout :=
  { files := ⟨[(["repo"], .directory), (["repo", "top.py"], .file [0x74]),
      (["repo", "a.py"], .file (overlongText.map fun ch => UInt8.ofNat ch.toNat))]⟩
    directory := .ofString "repo"
    parse := fun _ _ => .ok overlongTree }

theorem imports_overlongTree :
    overlongTree.imports .python (String.ofList overlongText) = ["top", String.ofList overlong] := by
  have hfirst := slice_middle "import ".toList "top".toList ("\nimport ".toList ++ overlong)
  have hsecond := slice_middle "import top\nimport ".toList overlong []
  have htext : overlongText = "import ".toList ++ "top".toList ++ ("\nimport ".toList ++ overlong) := by
    unfold overlongText
    simp
  have htext' : overlongText = "import top\nimport ".toList ++ overlong ++ [] := by
    unfold overlongText
    simp
  rw [← htext] at hfirst
  rw [← htext'] at hsecond
  have himports : overlongTree.imports .python (String.ofList overlongText) =
      [slice ("import ".toList.length : Int) ("import ".toList.length + "top".toList.length : Int)
          (String.ofList overlongText),
        slice ("import top\nimport ".toList.length : Int) ("import top\nimport ".toList.length + overlong.length : Int)
          (String.ofList overlongText)] := rfl
  rw [himports, hfirst, hsecond]
  rfl

theorem imports?_overlongCheckout :
    overlongCheckout.imports? "a.py" = some ["top", String.ofList overlong] := by
  have hplain : ∀ ch ∈ overlongText, ch.toNat < 128 := by
    unfold overlongText overlong
    intro ch hch
    rcases List.mem_append.1 hch with hch | hch
    · have hall : ("import top\nimport ".toList.all fun ch => ch.toNat < 128) = true := by decide
      exact of_decide_eq_true (List.all_eq_true.1 hall ch hch)
    · rw [List.eq_of_mem_replicate hch]
      decide
  have hdecode : Files.decode (overlongText.map fun ch => UInt8.ofNat ch.toNat) = .ok (String.ofList overlongText) := by
    rw [Files.decode, decodeUtf8, decodeFrom_plain overlongText 0 hplain]
    rfl
  have hfind : overlongCheckout.files.find (overlongCheckout.locate "a.py").toString =
      .file (overlongText.map fun ch => UInt8.ofNat ch.toNat) := rfl
  have hthere : overlongCheckout.files.isThere (overlongCheckout.locate "a.py") = true := by
    rw [Files.isThere, hfind]
  have hread : overlongCheckout.files.read (overlongCheckout.locate "a.py").toString =
      .ok (overlongText.map fun ch => UInt8.ofNat ch.toNat) := by
    rw [Files.read, hfind]
  have hparse : overlongCheckout.parseFile (Language.ofPath "a.py") (overlongCheckout.locate "a.py").toString =
      .ok (overlongTree, String.ofList overlongText) := by
    rw [Checkout.parseFile, hread]
    change (Files.decode _ >>= fun text => pure (overlongTree, text)) = _
    rw [hdecode]
    rfl
  rw [Checkout.imports?, if_pos hthere, hparse, ← imports_overlongTree]
  rfl

theorem stumbles_overlong : overlongCheckout.stumbles (String.ofList overlong) = true := by
  have hswap : (overlong.map fun ch => if ch = '.' then '/' else ch) = overlong := by
    unfold overlong
    decide +kernel
  have hpath : Graph.modulePath (String.ofList overlong) = String.ofList (overlong ++ ".py".toList) := by
    rw [Graph.modulePath, swap, String.toList_ofList, hswap, String.ofList_append, String.ofList_toList]
  have hnot : '/' ∉ overlong ++ ".py".toList ∧ '\x00' ∉ overlong ++ ".py".toList := by
    unfold overlong
    decide +kernel
  have hsize : Files.nameLimit < (String.ofList (overlong ++ ".py".toList)).utf8ByteSize := by
    rw [String.utf8ByteSize_ofList]
    unfold overlong
    decide +kernel
  have hdir : overlongCheckout.files.walk (Files.startOf overlongCheckout.directory.isAbsolute)
      overlongCheckout.directory.names = .directory ["repo"] := rfl
  have hlong : overlongCheckout.isTooLong (Graph.modulePath (String.ofList overlong)) = true := by
    rw [hpath]
    refine Files.isTooLong_join (Path.isClean_ofString _) hdir ?_ hsize ?_
    · rw [String.toList_ofList]
      exact hnot.1
    · rw [show overlongCheckout.directory.names = ["repo"] from rfl]
      simpa using hnot.2
  have hstart : startsWith "." (String.ofList overlong) = false := by
    unfold overlong
    rw [startsWith, show ".".toList = ['.'] from rfl, String.toList_ofList, List.replicate_succ, List.isPrefixOf_cons_cons,
      show ('.' == 'm') = false from rfl, Bool.false_and]
  rw [Checkout.stumbles, hstart, hlong]
  rfl

theorem dependencies_lost_overlong :
    overlongCheckout.imports? "a.py" = some ["top", String.ofList overlong] ∧
      overlongCheckout.leadsTo? "top" = some "top.py" ∧
      ∃ ds, ((collect overlongCheckout ["a.py"] (isListed (.ofTexts ["a.py"]))).perform (⟨(), []⟩ : Session Unit)).1 = .ok ds ∧
        "top.py" ∉ ds.map (·.path) := by
  have hleads : overlongCheckout.leadsTo? "top" = some "top.py" := rfl
  have hexact := dependencies_exact overlongCheckout ["a.py"] (⟨(), []⟩ : Session Unit)
  obtain ⟨ds, hds⟩ := hexact.1.2 (by simp; rfl)
  refine ⟨imports?_overlongCheckout, hleads, ds, hds, fun hmem => ?_⟩
  obtain ⟨-, f, hf, names, hnames, hsteady, -⟩ := ((hexact.2 ds hds).2.1 "top.py").1 hmem
  rw [List.mem_singleton.1 hf, imports?_overlongCheckout] at hnames
  cases hnames
  have := hsteady (String.ofList overlong) (by simp)
  rw [stumbles_overlong] at this
  cases this

end Context
end PullReview
