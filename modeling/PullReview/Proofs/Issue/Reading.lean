import Mathlib.Data.Nat.Digits.Defs
import PullReview.Proofs.Issue.RoundTrip
import PullReview.Proofs.Run
/-!
# What is read out of a text

Reading goes line by line, and a header looks ahead no further than the next location.  So a text can be cut before any
line that holds one, and read in two parts (`parse_append`).  Every issue comes from one line and the lines below it
(`mem_parse`).  Its path only has to stand somewhere in the path of a changed file, so what is reported may be about
another file (`reported_beside_changed`); nothing more is asked of a path (`reported_path_iff`).  Reading fails for one
reason only, a header whose number is too long (`parse_ok_iff`), so a number that was read can be written again
(`length_line_le`).
-/
namespace PullReview
namespace Issue

open Text

/-! ## In two parts -/

section Seam

variable {changed : Json} {rest : List (List Char)} (hrest : ∀ line ∈ rest.head?, hasLocation line = true)

include hrest

theorem issueAt?_append (line : List Char) (above : List (List Char)) :
    issueAt? changed line (above ++ rest) = issueAt? changed line above := by
  unfold issueAt?
  rw [window_append above rest hrest]

theorem parseLines_seam : ∀ above : List (List Char), parseLines changed (above ++ rest) = do
    let found ← parseLines changed above
    let more ← parseLines changed rest
    return found ++ more
  | [] => by
    rw [List.nil_append, parseLines]
    cases parseLines changed rest <;> rfl
  | line :: above => by
    rw [List.cons_append, parseLines, issueAt?_append hrest, parseLines_seam above, parseLines]
    cases issueAt? changed line above with
    | error cause => rfl
    | ok here =>
      cases parseLines changed above with
      | error cause => rfl
      | ok found =>
        cases parseLines changed rest with
        | error cause => rfl
        | ok more => exact congrArg Except.ok (List.append_assoc here.toList found more).symm

end Seam

theorem hasLocation_trim (line : List Char) : hasLocation (trim line) = hasLocation line := by
  rw [Bool.eq_iff_iff, hasLocation_iff, hasLocation_iff, holdsLocation_trim]

/-- **A text can be read in two parts when the second begins with a location on its first line.**  What is found and what
fails first are the same.  So no issue takes code from beyond the next location. -/
theorem parse_append (changed : Json) (a b : String) (h : HoldsLocation (b.toList.takeWhile (· ≠ '\n'))) :
    (parse changed (a ++ "\n" ++ b) = do
      let found ← parse changed a
      let more ← parse changed b
      return found ++ more) ∧
    ∀ line above located beyond, HoldsLocation located →
      issueAt? changed line (above ++ located :: beyond) = issueAt? changed line above := by
  constructor
  · have hlines : (lines (a ++ "\n" ++ b).toList).map trim = (lines a.toList).map trim ++ (lines b.toList).map trim := by
      rw [String.toList_append, String.toList_append, List.append_assoc, ← List.map_append]
      exact congrArg (List.map trim) (splitOn_append '\n' b.toList a.toList)
    have hfirst : ∀ line ∈ ((lines b.toList).map trim).head?, hasLocation line = true := by
      intro line hline
      rw [List.head?_map, lines, head?_splitOn, Option.map_some, Option.mem_some_iff] at hline
      rw [← hline, hasLocation_trim, hasLocation_iff]
      exact h
    rw [parse, hlines, parseLines_seam hfirst]
    rfl
  · intro line above located beyond hlocated
    refine issueAt?_append (fun first hfirst => ?_) line above
    obtain rfl : located = first := Option.some.inj hfirst
    exact (hasLocation_iff located).2 hlocated

/-- The search for the code of the first issue ends at the location below it, so the fix behind that is not its own. -/
theorem parse_append_dividing :
    HoldsLocation ("As in `b.py:2`:\n  - **Fix:** `x`".toList.takeWhile (· ≠ '\n')) ∧
      parse (.ofTexts ["a.py"]) ("- `a.py:1` - divides by zero\n  - **Current code:** `x / 0`" ++ "\n" ++
        "As in `b.py:2`:\n  - **Fix:** `x`") =
        .ok [⟨"a.py", 1, .medium, "divides by zero", some "x / 0", none⟩] := by
  have hlocated : HoldsLocation ("As in `b.py:2`:\n  - **Fix:** `x`".toList.takeWhile (· ≠ '\n')) :=
    (hasLocation_iff _).1 (by decide)
  refine ⟨hlocated, (parse_append _ _ _ hlocated).1.trans ?_⟩
  decide +kernel

/-! ## Where issues come from -/

theorem issueAt?_eq_some {changed : Json} {line : List Char} {below : List (List Char)} {i : Issue}
    (h : issueAt? changed line below = .ok (some i)) :
    ∃ header files, opening? line = some header ∧ readLine header.location.digits = .ok i.line ∧
      changed.elements = .ok files ∧ isChanged (String.ofList header.location.path) files = .ok true ∧
      (isFilled i.fix || isFilled i.current) = true ∧
      i = { path := String.ofList header.location.path, line := i.line, severity := severityOf line,
            description := String.ofList header.description, current := code? currentLabels (window below),
            fix := code? fixLabels (window below) } := by
  unfold issueAt? at h
  split at h
  · cases h
  · rename_i header hopening
    obtain ⟨number, hnumber, h⟩ := Run.ok_of_bind h
    obtain ⟨files, hfiles, h⟩ := Run.ok_of_bind h
    obtain ⟨there, hthere, h⟩ := Run.ok_of_bind h
    split at h
    · rename_i hkept
      obtain ⟨rfl, hfilled⟩ := Bool.and_eq_true_iff.1 hkept
      cases h
      exact ⟨header, files, hopening, hnumber, hfiles, hthere, hfilled, rfl⟩
    · cases h

theorem mem_parseLines {changed : Json} {i : Issue} : ∀ {read : List (List Char)} {found : List Issue},
    parseLines changed read = .ok found → i ∈ found →
      ∃ line below, line :: below <:+ read ∧ issueAt? changed line below = .ok (some i)
  | [], found, h, hi => by
    cases h
    cases hi
  | line :: below, found, h, hi => by
    obtain ⟨here, hhere, h⟩ := Run.ok_of_bind h
    obtain ⟨more, hmore, h⟩ := Run.ok_of_bind h
    cases h
    rcases List.mem_append.1 hi with hi | hi
    · exact ⟨line, below, List.suffix_rfl, by rw [hhere, Option.mem_toList.1 hi]⟩
    · obtain ⟨line', below', hsuffix, hissue⟩ := mem_parseLines hmore hi
      exact ⟨line', below', hsuffix.trans (List.suffix_cons line below), hissue⟩

/-- **Every issue comes from one line and the lines below it.** -/
theorem mem_parse {changed : Json} {text : String} {found : List Issue} (h : parse changed text = .ok found)
    {i : Issue} (hi : i ∈ found) :
    ∃ line below, line :: below <:+ (lines text.toList).map trim ∧ issueAt? changed line below = .ok (some i) :=
  mem_parseLines h hi

theorem opening?_location_iff (line : List Char) (loc : Location) :
    (opening? line).map (·.location) = some loc ↔ line ≠ [] ∧ line.head? ≠ some '#' ∧ IsFirstHeader line loc := by
  rw [← header?_location_iff, opening?]
  split
  · rename_i hskip
    refine iff_of_false (by simp) fun h => ?_
    simp [isSkipped, h.1, h.2.1] at hskip
  · rename_i hskip
    simp only [isSkipped, Bool.not_eq_true, Bool.or_eq_false_iff, List.isEmpty_eq_false_iff, beq_eq_false_iff_ne] at hskip
    rw [and_iff_right hskip.1, and_iff_right hskip.2]

theorem sound_of_opening {line : List Char} {header : Header} (h : opening? line = some header) :
    header.location.IsSound ∧ header.location.quoted <:+: line := by
  have hlocation : (opening? line).map (·.location) = some header.location := by rw [h]; rfl
  obtain ⟨-, -, pre, ⟨gap, rest, rfl, hsound, -⟩, -⟩ := (opening?_location_iff line _).1 hlocation
  exact ⟨hsound, pre, gap ++ '-' :: rest, by simp⟩

/-! ## Which paths are reported -/

def remark (path : String) : Issue := ⟨path, 1, .medium, "x", none, some "x"⟩

theorem isWritable_remark {files : List String} {path : String} (hne : path ≠ "") (htick : '\x60' ∉ path.toList)
    (hbreak : '\n' ∉ path.toList) (hchanged : ∃ file ∈ files, path.toList <:+: file.toList) :
    (remark path).IsWritable files := by
  have hdigits : (toString 1).length ≤ digitLimit := by decide
  have hx : IsShowable "x" := ⟨by decide, by decide, by decide, by decide⟩
  refine ⟨hne, htick, hbreak, hchanged, hdigits, hx.ne, hx.noBreak, hx.stripped, .inr (Option.some_ne_none _), ?_⟩
  rintro code (h | h) <;> cases h
  exact hx

/-- **A path is reported exactly when it stands somewhere in the path of a changed file**, as long as it can stand between
backticks on one line. -/
theorem reported_path_iff (files : List String) (path : String) :
    (∃ text found, parse (.ofTexts files) text = .ok found ∧ ∃ i ∈ found, i.path = path) ↔
      path ≠ "" ∧ '\x60' ∉ path.toList ∧ '\n' ∉ path.toList ∧ ∃ file ∈ files, path.toList <:+: file.toList := by
  constructor
  · rintro ⟨text, found, hparse, i, hi, rfl⟩
    obtain ⟨line, below, hsuffix, hissue⟩ := mem_parse hparse hi
    obtain ⟨header, _, hopening, -, hfiles, hchanged, -, hi⟩ := issueAt?_eq_some hissue
    obtain ⟨hsound, hquoted⟩ := sound_of_opening hopening
    have hpath : i.path = String.ofList header.location.path := by rw [hi]
    have hline : '\n' ∉ line := by
      obtain ⟨piece, hpiece, rfl⟩ := List.mem_map.1 (hsuffix.subset List.mem_cons_self)
      exact fun h => not_mem_of_mem_splitOn '\n' _ piece hpiece ((trim_isInfix piece).subset h)
    have hbreak : '\n' ∉ header.location.path := fun h =>
      hline (hquoted.subset (List.mem_cons_of_mem _ (List.mem_append_left _ h)))
    cases hfiles
    rw [isChanged_texts, Except.ok.injEq, List.any_eq_true] at hchanged
    obtain ⟨file, hfile, hthere⟩ := hchanged
    rw [containsText, contains_iff, String.toList_ofList] at hthere
    rw [hpath, String.toList_ofList]
    refine ⟨fun hempty => hsound.pathNe ?_, hsound.pathNoTick, hbreak, file, hfile, hthere⟩
    simpa using congrArg String.toList hempty
  · rintro ⟨hne, htick, hbreak, hchanged⟩
    -- the text is that of a single issue, which is read back
    have hwritable := isWritable_remark hne htick hbreak hchanged
    have hparse := parse_written [remark path] (by simpa using hwritable)
    refine ⟨written [remark path], _, hparse, (remark path).asRead, ?_, rfl⟩
    exact List.mem_filterMap.2 ⟨remark path, List.mem_singleton_self _, rfl⟩

/-- The path of a file, or what follows some slash in it. -/
def IsEndOf (path file : String) : Prop := path = file ∨ ∃ directory, file = directory ++ "/" ++ path

/-- **An issue is reported about a file that was not changed**, and whose name no changed file has. -/
theorem reported_beside_changed :
    parse (.ofTexts ["schema.py"]) "- `a.py:1` - divides by zero\n  - **Fix:** `x = 1`" =
        .ok [⟨"a.py", 1, .medium, "divides by zero", none, some "x = 1"⟩] ∧
      ¬ ∃ file ∈ ["schema.py"], IsEndOf "a.py" file := by
  refine ⟨by decide +kernel, ?_⟩
  rintro ⟨file, hfile, hend⟩
  obtain rfl := List.mem_singleton.1 hfile
  rcases hend with heq | ⟨directory, heq⟩
  · exact absurd heq (by decide)
  · have hslash : '/' ∈ "schema.py".toList := by
      rw [heq]
      simp
    exact absurd hslash (by decide)

/-! ## When reading fails -/

/-- The first header of the line, trimmed, has a number of more than 4300 digits.  Empty lines and headings have none. -/
def IsOverlong (line : List Char) : Prop :=
  trim line ≠ [] ∧ (trim line).head? ≠ some '#' ∧ ∃ loc, IsFirstHeader (trim line) loc ∧ 4300 < loc.digits.length

theorem isOverlong_iff (line : List Char) :
    IsOverlong line ↔ ∃ header, opening? (trim line) = some header ∧ digitLimit < header.location.digits.length := by
  constructor
  · rintro ⟨hne, hhash, loc, hfirst, hlong⟩
    have hlocation := (opening?_location_iff (trim line) loc).2 ⟨hne, hhash, hfirst⟩
    obtain ⟨header, hheader, rfl⟩ := Option.map_eq_some_iff.1 hlocation
    exact ⟨header, hheader, hlong⟩
  · rintro ⟨header, hheader, hlong⟩
    obtain ⟨hne, hhash, hfirst⟩ := (opening?_location_iff (trim line) header.location).1 (by rw [hheader]; rfl)
    exact ⟨hne, hhash, header.location, hfirst, hlong⟩

/-- Whether a line can be read does not depend on the lines below it or on what was changed. -/
theorem issueAt?_ok_iff (files : List String) (line : List Char) (below : List (List Char)) :
    (∃ here, issueAt? (.ofTexts files) line below = .ok here) ↔
      ∀ header, opening? line = some header → header.location.digits.length ≤ digitLimit := by
  unfold issueAt?
  cases opening? line with
  | none => simp
  | some header =>
    simp only [Option.some.injEq, forall_eq', Json.ofTexts, Json.elements, readLine]
    by_cases hlong : digitLimit < header.location.digits.length
    · rw [if_pos hlong]
      simp [bind, Except.bind, hlong]
    · rw [if_neg hlong]
      simp only [bind, Except.bind, isChanged_texts, not_lt.1 hlong, iff_true]
      split <;> exact ⟨_, rfl⟩

theorem parseLines_ok_iff (files : List String) : ∀ read : List (List Char),
    (∃ found, parseLines (.ofTexts files) read = .ok found) ↔
      ∀ line ∈ read, ∀ header, opening? line = some header → header.location.digits.length ≤ digitLimit
  | [] => by simp [parseLines]
  | line :: below => by
    have ih := parseLines_ok_iff files below
    rw [List.forall_mem_cons, ← ih, ← issueAt?_ok_iff files line below]
    constructor
    · rintro ⟨found, h⟩
      obtain ⟨here, hhere, h⟩ := Run.ok_of_bind h
      obtain ⟨more, hmore, -⟩ := Run.ok_of_bind h
      exact ⟨⟨here, hhere⟩, more, hmore⟩
    · rintro ⟨⟨here, hhere⟩, more, hmore⟩
      exact ⟨here.toList ++ more, by rw [parseLines, hhere, hmore]; rfl⟩

/-- **A text can be read exactly when no line of it is overlong.** -/
theorem parse_ok_iff (files : List String) (text : String) :
    (∃ found, parse (.ofTexts files) text = .ok found) ↔ ∀ line ∈ lines text.toList, ¬ IsOverlong line := by
  rw [parse, parseLines_ok_iff, List.forall_mem_map]
  simp only [isOverlong_iff, not_exists, not_and, not_lt]

/-! ## Numbers that are read -/

theorem digit?_lt {c : Char} {d : Nat} (h : digit? c = some d) : d < 10 := by
  unfold digit? at h
  dsimp only at h
  split at h
  · split at h
    · rename_i hrange
      simp only [Bool.and_eq_true, decide_eq_true_eq] at hrange
      cases h
      omega
    · cases h
  · obtain ⟨z, hz, rfl⟩ := Option.map_eq_some_iff.1 h
    have hrange := List.find?_some hz
    simp only [Bool.and_eq_true, decide_eq_true_eq] at hrange
    omega

theorem numeral_lt (ds : List Char) : numeral ds < 10 ^ ds.length := by
  have hfold : ∀ (ds : List Char) (acc : Nat),
      ds.foldl (fun acc c => 10 * acc + (digit? c).getD 0) acc < (acc + 1) * 10 ^ ds.length := by
    intro ds
    induction ds with
    | nil => intro acc; simp
    | cons c rest ih =>
      intro acc
      have hdigit : (digit? c).getD 0 < 10 := by
        cases hc : digit? c with
        | none => decide
        | some d => exact digit?_lt hc
      calc (c :: rest).foldl (fun acc c => 10 * acc + (digit? c).getD 0) acc
          < (10 * acc + (digit? c).getD 0 + 1) * 10 ^ rest.length := ih _
        _ ≤ (acc + 1) * 10 * 10 ^ rest.length := Nat.mul_le_mul_right _ (by omega)
        _ = (acc + 1) * 10 ^ (c :: rest).length := by rw [List.length_cons, Nat.pow_succ', Nat.mul_assoc]
  simpa [numeral] using hfold ds 0

/-- **A number that was read can be written again.** -/
theorem length_line_le {changed : Json} {text : String} {found : List Issue} (h : parse changed text = .ok found)
    {i : Issue} (hi : i ∈ found) : (toString i.line).length ≤ digitLimit := by
  obtain ⟨line, below, -, hissue⟩ := mem_parse h hi
  obtain ⟨header, _, hopening, hread, -⟩ := issueAt?_eq_some hissue
  have hne : 0 < header.location.digits.length := List.length_pos_iff.2 (sound_of_opening hopening).1.digitsNe
  unfold readLine at hread
  split at hread
  · cases hread
  · rename_i hshort
    rw [← Except.ok.inj hread]
    exact (Nat.repr_length _ _ hne (numeral_lt _)).trans (not_lt.1 hshort)

end Issue
end PullReview
