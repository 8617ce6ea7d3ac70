import PullReview.Proofs.Webhook.Stored
/-!
# Two readings of a file

A changed file is read twice: once with its line ends made one, for what is stored about it, and once as it is, for the
document about the pull request.  Both cut their names out by the positions of one tree.  They find the same in every
tree just when the file has no carriage return (`indexed_as_documented_iff`).
-/
namespace PullReview

/-! ## Line ends -/

namespace Text

theorem return_not_mem_unifyLineEnds (s : List Char) : '\r' ∉ unifyLineEnds s := by
  fun_induction unifyLineEnds s with
  | case1 => exact List.not_mem_nil
  | case2 rest ih => exact List.not_mem_cons_of_ne_of_not_mem (by decide) ih
  | case3 rest _ ih => exact List.not_mem_cons_of_ne_of_not_mem (by decide) ih
  | case4 c rest hcrlf hreturn ih =>
    exact List.not_mem_cons_of_ne_of_not_mem (fun hc => hreturn hc.symm) ih

theorem unifyLineEnds_eq_self_iff (s : List Char) : unifyLineEnds s = s ↔ '\r' ∉ s := by
  constructor
  · intro h
    rw [← h]
    exact return_not_mem_unifyLineEnds s
  · intro h
    fun_induction unifyLineEnds s with
    | case1 => rfl
    | case2 rest ih => exact absurd List.mem_cons_self h
    | case3 rest _ ih => exact absurd List.mem_cons_self h
    | case4 c rest hcrlf hreturn ih => rw [ih (List.not_mem_of_not_mem_cons h)]

theorem length_unifyLineEnds_le (s : List Char) : (unifyLineEnds s).length ≤ s.length := by
  fun_induction unifyLineEnds s <;> grind

end Text

/-! ## The language -/

namespace Language

/-- The last piece of a path keeps its ending. -/
theorem getLast?_splitOn {ending : List Char} (hne : ending ≠ []) (hslash : '/' ∉ ending) : ∀ {s : List Char},
    ending <:+ s → ∃ piece, (Text.splitOn '/' s).getLast? = some piece ∧ ending <:+ piece
  | [], h => absurd (List.suffix_nil.1 h) hne
  | c :: cs, h => by
    rcases List.suffix_cons_iff.1 h with rfl | hcs
    · exact ⟨c :: cs, by rw [Text.splitOn_of_not_mem '/' _ hslash]; rfl, List.suffix_rfl⟩
    · obtain ⟨piece, hlast, hpiece⟩ := getLast?_splitOn hne hslash hcs
      obtain ⟨before, hsplit⟩ := List.getLast?_eq_some_iff.1 hlast
      rw [Text.splitOn, hsplit]
      split_ifs with hc
      · exact ⟨piece, by rw [← List.cons_append, List.getLast?_concat], hpiece⟩
      · cases before with
        | nil => exact ⟨c :: piece, rfl, hpiece.trans (List.suffix_cons c piece)⟩
        | cons first more => exact ⟨piece, List.getLast?_concat (l := (c :: first) :: more), hpiece⟩

/-- A file whose name ends so is taken for Python, also when there is nothing before the ending. -/
theorem ofPath_python {path : String} (h : Text.endsWith ".py" path = true) : ofPath path = .python := by
  obtain ⟨piece, hlast, stem, hpiece⟩ :=
    getLast?_splitOn (by decide) (by decide) (List.isSuffixOf_iff_suffix.1 h : ".py".toList <:+ path.toList)
  obtain ⟨before, hsplit⟩ := List.getLast?_eq_some_iff.1 hlast
  have hkept : (!piece.isEmpty && piece ≠ ['.']) = true := by
    rw [← hpiece]
    cases stem <;> simp
  have hname : (Path.ofString path).names.getLast? = some (String.ofList piece) := by
    rw [Path.ofString, Path.namesIn, hsplit, List.filter_append, List.map_append]
    simp only [List.filter_cons, hkept]
    simp
  have hcut : Text.cutLast '.' piece = some (stem, ['p', 'y']) :=
    (Text.cutLast_eq_some_iff _ _ _ _).2 ⟨hpiece.symm, by decide⟩
  rw [ofPath, ofFile, Path.suffix, hname, Option.getD_some, String.toList_ofList, Path.nameSuffix, hcut]
  cases stem with
  | nil => rfl
  | cons c cs =>
    have hlower : Text.lower (String.ofList ['.', 'p', 'y']) = ".py" := by decide +kernel
    dsimp only
    rw [hlower]
    rfl

end Language

/-! ## What is found in a file -/

/-- The names that a tree shows in a text: functions, classes, calls and imports. -/
structure Names where
  functions : List String
  classes : List String
  calls : List String
  imports : List String
deriving DecidableEq

namespace Names

def ofTree (lang : Language) (source : String) (root : Node) : Names :=
  let g := Graph.ofTree lang source root
  { functions := g.namesOf .function, classes := g.namesOf .classType, calls := g.namesOf .call,
    imports := root.imports lang source }

/-- Two points, for a graph and for a source, that hold these names. -/
def AreIn (f : Names) (points : List (Collection × Json)) : Prop :=
  ∃ graph source, points = [(.codeGraphs, graph), (.importFiles, source)] ∧
    graph.get? "functions" = some (.ofTexts f.functions) ∧ graph.get? "classes" = some (.ofTexts f.classes) ∧
    graph.get? "calls" = some (.ofTexts f.calls) ∧ source.get? "imports" = some (.ofTexts f.imports)

theorem AreIn.length_eq {f : Names} {points : List (Collection × Json)} (h : f.AreIn points) : points.length = 2 := by
  obtain ⟨graph, source, rfl, -⟩ := h
  rfl

theorem AreIn.unique {f f' : Names} {points : List (Collection × Json)} (h : f.AreIn points) (h' : f'.AreIn points) :
    f = f' := by
  have htexts {xs ys : List String} {found : Option Json} (hxs : found = some (.ofTexts xs))
      (hys : found = some (.ofTexts ys)) : xs = ys := by
    rw [hxs] at hys
    exact List.map_injective_iff.2 (fun _ _ => Json.text.inj) (Json.list.inj (Option.some.inj hys))
  obtain ⟨graph, source, rfl, hfunctions, hclasses, hcalls, himports⟩ := h
  obtain ⟨graph', source', hpoints, hfunctions', hclasses', hcalls', himports'⟩ := h'
  cases hpoints
  obtain ⟨functions, classes, calls, imports⟩ := f
  obtain ⟨functions', classes', calls', imports'⟩ := f'
  obtain rfl := htexts hfunctions hfunctions'
  obtain rfl := htexts hclasses hclasses'
  obtain rfl := htexts hcalls hcalls'
  obtain rfl := htexts himports himports'
  rfl

/-- A tree that is one import of the whole text. -/
def wholeImport (n : Nat) : Node :=
  ⟨"import_statement", 0, n, 0, 0, none, [⟨"dotted_name", 0, n, 0, 0, none, []⟩]⟩

theorem imports_wholeImport {s : String} {n : Nat} (h : s.length ≤ n) : (wholeImport n).imports .python s = [s] := by
  show [Text.slice 0 n s] = [s]
  rw [Text.slice_whole h]

/-- **Every tree shows the same in both texts just when they are equal**, which is when there is no carriage return. -/
theorem ofTree_unified_iff (text : String) :
    (∀ root, ofTree .python (String.ofList (Text.unifyLineEnds text.toList)) root = ofTree .python text root) ↔
      '\r' ∉ text.toList := by
  rw [← Text.unifyLineEnds_eq_self_iff]
  constructor
  · -- one import of the whole text shows the text itself, and the shorter one is cut at its own end
    intro h
    have himports := congrArg Names.imports (h (wholeImport text.length))
    have hshorter : (String.ofList (Text.unifyLineEnds text.toList)).length ≤ text.length := by
      rw [← String.length_toList, String.toList_ofList, ← String.length_toList]
      exact Text.length_unifyLineEnds_le _
    simp only [ofTree] at himports
    rw [imports_wholeImport hshorter, imports_wholeImport (Nat.le_refl _)] at himports
    have hsame := congrArg String.toList (List.singleton_inj.1 himports)
    rwa [String.toList_ofList] at hsame
  · intro h root
    rw [h, String.ofList_toList]

end Names

namespace Context

/-- The same checkout with this tree for every file. -/
def Checkout.parsed (c : Checkout) (root : Node) : Checkout := { c with parse := fun _ _ => .ok root }

theorem parseFile_parsed {c : Checkout} {lang : Language} {written : String} {bytes : List UInt8} {text : String}
    (hlang : lang.loadGrammar = .ok ()) (hread : c.files.read written = .ok bytes)
    (htext : Files.decode bytes = .ok text) (root : Node) : (c.parsed root).parseFile lang written = .ok (root, text) := by
  have hfiles : (c.parsed root).files.read written = .ok bytes := hread
  rw [Checkout.parseFile, hlang, hfiles]
  show (do let text ← Files.decode bytes; return (root, text)) = _
  rw [htext]
  rfl

/-- The names in a changed file as it is read for its part of the document. -/
def Reading.names (r : Reading) : Names :=
  ⟨r.graph.namesOf .function, r.graph.namesOf .classType, r.graph.namesOf .call, r.analysis.imports⟩

def names (c : Checkout) (path : String) : Except Fault Names := (c.reading path).map Reading.names

end Context

namespace Webhook

/-- Indexing a file adds two points with these names, or the first ones of them when the store refuses the others. -/
def Indexes (world : World) (c : Context.Checkout) (file : String × Nat) (f : Names) : Prop :=
  ∃ whole, f.AreIn whole ∧ ∀ s : Session Store, ∃ points, points <+: whole ∧
    ((indexChanged world c file).perform s).2.state.points = s.state.points ++ points

theorem pointsFor_parsed {c : Context.Checkout} {path : String} {bytes : List UInt8} {text : String}
    (hread : c.files.read (c.directory.toString ++ "/" ++ path) = .ok bytes) (htext : Files.decode bytes = .ok text)
    (root : Node) : (Names.ofTree .python (String.ofList (Text.unifyLineEnds text.toList)) root).AreIn
      (pointsFor (c.parsed root) path) := by
  have hsource : (c.parsed root).files.readText (c.directory.toString ++ "/" ++ path) =
      .ok (String.ofList (Text.unifyLineEnds text.toList)) := by
    have hfiles : (c.parsed root).files.read (c.directory.toString ++ "/" ++ path) = .ok bytes := hread
    rw [Files.readText, hfiles]
    show (do let s ← Files.decode bytes; return String.ofList (Text.unifyLineEnds s.toList)) = _
    rw [htext]
    rfl
  have hanalysed : analysed (c.parsed root) path = .ok (String.ofList (Text.unifyLineEnds text.toList), root) := by
    have hdirectory : (c.parsed root).directory = c.directory := rfl
    rw [analysed, hdirectory, hsource, Context.parseFile_parsed rfl hread htext root]
    rfl
  rw [pointsFor, hanalysed]
  exact ⟨_, _, rfl, rfl, rfl, rfl, rfl⟩

theorem indexes_parsed (world : World) {c : Context.Checkout} {path : String} {bytes : List UInt8} {text : String}
    (hpython : Text.endsWith ".py" path = true) (hread : c.files.read (c.directory.toString ++ "/" ++ path) = .ok bytes)
    (htext : Files.decode bytes = .ok text) (root : Node) (place : Nat) : Indexes world (c.parsed root) (path, place)
      (.ofTree .python (String.ofList (Text.unifyLineEnds text.toList)) root) := by
  refine ⟨pointsFor (c.parsed root) path, pointsFor_parsed hread htext root, fun s => ?_⟩
  refine ⟨world.keptOf (c.parsed root) (path, place), kept_isPrefix, ?_⟩
  rw [indexChanged_points, if_pos hpython]

/-- A store that takes everything shows which names are indexed. -/
theorem Indexes.areIn {world : World} (hsound : ∀ m, (world.storeAt m).IsSound) {c : Context.Checkout}
    {path : String} (hpython : Text.endsWith ".py" path = true) {place : Nat} {f f' : Names}
    (h : Indexes world c (path, place) f) (hf : f'.AreIn (pointsFor c path)) : f.AreIn (pointsFor c path) := by
  obtain ⟨whole, hwhole, hadds⟩ := h
  obtain ⟨points, hbegins, hadded⟩ := hadds ⟨.empty, []⟩
  rw [indexChanged_points, if_pos hpython, World.keptOf, kept_eq (hsound _) (hsound _)] at hadded
  obtain rfl := List.append_cancel_left hadded
  rwa [hbegins.eq_of_length (hf.length_eq.trans hwhole.length_eq.symm)]

/-- **Where the two readings of a file agree.**  What is stored are the names that the tree shows in the text with its
line ends made one, and the document is made from those that it shows in the text as it is.  These are the same, whatever
the tree, just when there is no carriage return in the file. -/
theorem indexed_as_documented_iff (world : World) {c : Context.Checkout} {path : String}
    (hpython : Text.endsWith ".py" path = true) {bytes : List UInt8}
    (hread : c.files.read (c.directory.toString ++ "/" ++ path) = .ok bytes)
    (hlocated : c.files.read (c.locate path).toString = .ok bytes) {text : String}
    (htext : Files.decode bytes = .ok text) (place : Nat) :
    (∀ root, Indexes world (c.parsed root) (path, place)
        (.ofTree .python (String.ofList (Text.unifyLineEnds text.toList)) root) ∧
      Context.names (c.parsed root) path = .ok (.ofTree .python text root)) ∧
    ((∀ m, (world.storeAt m).IsSound) →
      ((∀ root f, Context.names (c.parsed root) path = .ok f → Indexes world (c.parsed root) (path, place) f) ↔
        '\r' ∉ text.toList)) := by
  have hindexed (root : Node) := indexes_parsed world hpython hread htext root place
  have hdocumented (root : Node) : Context.names (c.parsed root) path = .ok (.ofTree .python text root) := by
    have hlocate : (c.parsed root).locate path = c.locate path := rfl
    rw [Context.names, Context.Checkout.reading, Language.ofPath_python hpython, hlocate,
      Context.parseFile_parsed rfl hlocated htext root]
    rfl
  refine ⟨fun root => ⟨hindexed root, hdocumented root⟩, fun hsound => ?_⟩
  rw [← Names.ofTree_unified_iff]
  constructor
  · intro h root
    have hstored := pointsFor_parsed hread htext root
    exact hstored.unique ((h root _ (hdocumented root)).areIn hsound hpython hstored)
  · intro h root f hf
    rw [hdocumented, ← h root] at hf
    cases hf
    exact hindexed root

/-! A file with a carriage return before its second line, where a function is defined: -/

def returningText : String := "x\r\ndef f(): pass"

def returningBytes : List UInt8 :=
  [0x78, 0x0D, 0x0A, 0x64, 0x65, 0x66, 0x20, 0x66, 0x28, 0x29, 0x3A, 0x20, 0x70, 0x61, 0x73, 0x73]

def returningCheckout : Context.Checkout :=
  ⟨⟨[(["repo"], .directory), (["repo", "a.py"], .file returningBytes)]⟩, ⟨"", ["repo"]⟩, fun _ _ => .ok Node.bare⟩

def returningTree : Node :=
  ⟨"module", 0, 16, 0, 1, none,
    [⟨"expression_statement", 0, 1, 0, 0, none, [⟨"identifier", 0, 1, 0, 0, none, []⟩]⟩,
      ⟨"function_definition", 3, 16, 1, 1, none,
        [⟨"def", 3, 6, 1, 1, none, []⟩, ⟨"identifier", 7, 8, 1, 1, some "name", []⟩,
          ⟨"parameters", 8, 10, 1, 1, some "parameters", []⟩, ⟨":", 10, 11, 1, 1, none, []⟩,
          ⟨"block", 12, 16, 1, 1, some "body", []⟩]⟩]⟩

def readyWorld : World := { roughWorld with store := Review.readyService }

/-- The bracket after the name is stored where the name is meant, so the two readings differ. -/
theorem indexed_as_documented_returningTree :
    (∃ f, Indexes readyWorld (returningCheckout.parsed returningTree) ("a.py", 0) f ∧ f.functions = ["("]) ∧
      (∃ f, Context.names (returningCheckout.parsed returningTree) "a.py" = .ok f ∧ f.functions = ["f"]) ∧
      ¬∀ root f, Context.names (returningCheckout.parsed root) "a.py" = .ok f →
        Indexes readyWorld (returningCheckout.parsed root) ("a.py", 0) f := by
  have hwritten : returningCheckout.directory.toString ++ "/" ++ "a.py" = "repo/a.py" := by decide +kernel
  have hlocate : (returningCheckout.locate "a.py").toString = "repo/a.py" := by decide +kernel
  have hsound (m : Moment) : (readyWorld.storeAt m).IsSound := ⟨rfl, fun _ => rfl⟩
  have hpython : Text.endsWith ".py" "a.py" = true := by decide +kernel
  have htext : Files.decode returningBytes = .ok returningText := rfl
  obtain ⟨hfound, hagree⟩ := indexed_as_documented_iff readyWorld hpython (c := returningCheckout)
    (by rw [hwritten]; rfl) (by rw [hlocate]; rfl) htext 0
  obtain ⟨hindexed, hdocumented⟩ := hfound returningTree
  refine ⟨⟨_, hindexed, by decide +kernel⟩, ⟨_, hdocumented, by decide +kernel⟩, fun hsame => ?_⟩
  exact (hagree hsound).1 hsame (by decide +kernel)

end Webhook
end PullReview
