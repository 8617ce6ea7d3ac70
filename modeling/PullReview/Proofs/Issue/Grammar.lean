import PullReview.Issue.Grammar
import PullReview.Proofs.Text.Cut
/-!
# What the grammar finds on a line

The recognisers of reviewers' lines, said through the shape of the text: a run between backticks is a location exactly
when it is a path, a colon and digits (`location?_eq_some_iff`), and code stands behind a label exactly when only white
space is between the label and its opening backtick (`codeAt?_eq_some_iff`).  A location is found wherever it stands on a
line (`hasLocation_iff`), and of several headers the leftmost is (`header?_location_iff`).  Then the lines that reviewers
are asked to write: one that ends with code between backticks holds a location exactly when the code is one, is never a
header, and shows its code to the labels that stand right before it.
-/
namespace PullReview
namespace Issue

open Text

/-! ## Locations -/

def IsLocation (run : List Char) : Prop :=
  ∃ path digits, run = path ++ ':' :: digits ∧ path ≠ [] ∧ digits ≠ [] ∧ ∀ d ∈ digits, isDigit d = true

theorem colon_not_mem {digits : List Char} (h : ∀ d ∈ digits, isDigit d = true) : ':' ∉ digits := fun hmem =>
  absurd (h ':' hmem) (by decide)

/-- **A location is read off its only possible cut**: digits hold no colon. -/
theorem location?_eq_some_iff (run : List Char) (loc : Location) :
    location? run = some loc ↔
      run = loc.path ++ ':' :: loc.digits ∧ loc.path ≠ [] ∧ loc.digits ≠ [] ∧ ∀ d ∈ loc.digits, isDigit d = true := by
  obtain ⟨path, digits⟩ := loc
  rw [location?]
  constructor
  · intro h
    split at h
    · rename_i p ds hcut
      obtain ⟨hrun, -⟩ := (cutLast_eq_some_iff ':' run p ds).1 hcut
      split at h
      · rename_i hok
        simp only [Bool.and_eq_true, Bool.not_eq_true', List.isEmpty_eq_false_iff, List.all_eq_true] at hok
        obtain ⟨rfl, rfl⟩ := Location.mk.inj (Option.some.inj h)
        exact ⟨hrun, hok.1.1, hok.1.2, hok.2⟩
      · cases h
    · cases h
  · rintro ⟨hrun, hp, hne, hd⟩
    rw [(cutLast_eq_some_iff ':' run path digits).2 ⟨hrun, colon_not_mem hd⟩]
    have hok : (!path.isEmpty && !digits.isEmpty && digits.all isDigit) = true := by
      simp only [Bool.and_eq_true, Bool.not_eq_true', List.isEmpty_eq_false_iff, List.all_eq_true]
      exact ⟨⟨hp, hne⟩, hd⟩
    simp only [hok, if_true]

theorem location?_isSome_iff (run : List Char) : (location? run).isSome = true ↔ IsLocation run := by
  rw [Option.isSome_iff_exists]
  constructor
  · rintro ⟨loc, h⟩
    exact ⟨loc.path, loc.digits, (location?_eq_some_iff run loc).1 h⟩
  · rintro ⟨path, digits, h⟩
    exact ⟨⟨path, digits⟩, (location?_eq_some_iff run ⟨path, digits⟩).2 h⟩

theorem locationAt?_append {run : List Char} (h : '\x60' ∉ run) (rest : List Char) :
    locationAt? (run ++ '\x60' :: rest) = (location? run).map fun loc => (loc, rest) := by
  rw [locationAt?, (cutFirst_eq_some_iff '\x60' _ run rest).2 ⟨rfl, h⟩]

/-- There is a path without backticks, and there are digits. -/
structure Location.IsSound (loc : Location) : Prop where
  pathNe : loc.path ≠ []
  pathNoTick : '\x60' ∉ loc.path
  digitsNe : loc.digits ≠ []
  digits : ∀ d ∈ loc.digits, isDigit d = true

/-- The location as it stands on a line, with its backticks. -/
def Location.quoted (loc : Location) : List Char := '\x60' :: (loc.path ++ ':' :: (loc.digits ++ ['\x60']))

def HoldsLocation (line : List Char) : Prop := ∃ loc : Location, loc.IsSound ∧ loc.quoted <:+: line

theorem locationAt?_eq_some_iff (s rest : List Char) (loc : Location) :
    locationAt? s = some (loc, rest) ↔ '\x60' :: s = loc.quoted ++ rest ∧ loc.IsSound := by
  have hquoted : '\x60' :: s = loc.quoted ++ rest ↔ s = (loc.path ++ ':' :: loc.digits) ++ '\x60' :: rest := by
    simp [Location.quoted]
  rw [hquoted, locationAt?]
  constructor
  · intro h
    split at h
    · rename_i run post hcut
      obtain ⟨rfl, hrun⟩ := (cutFirst_eq_some_iff '\x60' s run post).1 hcut
      obtain ⟨_, hloc, heq⟩ := Option.map_eq_some_iff.1 h
      obtain ⟨rfl, rfl⟩ := Prod.mk.inj heq
      obtain ⟨rfl, hpath, hne, hdigits⟩ := (location?_eq_some_iff run _).1 hloc
      exact ⟨rfl, hpath, fun hmem => hrun (List.mem_append_left _ hmem), hne, hdigits⟩
    · cases h
  · rintro ⟨rfl, hsound⟩
    have hrun : '\x60' ∉ loc.path ++ ':' :: loc.digits := by
      rw [List.mem_append, List.mem_cons, not_or, not_or]
      exact ⟨hsound.pathNoTick, by decide, fun hmem => absurd (hsound.digits _ hmem) (by decide)⟩
    have hloc := (location?_eq_some_iff _ loc).2 ⟨rfl, hsound.pathNe, hsound.digitsNe, hsound.digits⟩
    rw [(cutFirst_eq_some_iff '\x60' _ _ rest).2 ⟨rfl, hrun⟩]
    simp only [hloc, Option.map_some]

theorem hasLocation_iff : ∀ line : List Char, hasLocation line = true ↔ HoldsLocation line
  | [] => by simp [hasLocation, HoldsLocation, Location.quoted]
  | c :: cs => by
    have hhere : (c == '\x60' && (locationAt? cs).isSome) = true ↔
        ∃ loc : Location, loc.IsSound ∧ loc.quoted <+: c :: cs := by
      rw [Bool.and_eq_true, beq_iff_eq, Option.isSome_iff_exists]
      constructor
      · rintro ⟨rfl, ⟨loc, rest⟩, h⟩
        obtain ⟨hcs, hsound⟩ := (locationAt?_eq_some_iff cs rest loc).1 h
        exact ⟨loc, hsound, rest, hcs.symm⟩
      · rintro ⟨loc, hsound, rest, hcs⟩
        obtain rfl : '\x60' = c := (List.cons.inj hcs).1
        exact ⟨rfl, (loc, rest), (locationAt?_eq_some_iff cs rest loc).2 ⟨hcs.symm, hsound⟩⟩
    rw [hasLocation, Bool.or_eq_true, hhere, hasLocation_iff cs, HoldsLocation, HoldsLocation, ← exists_or]
    simp only [← and_or_left, ← List.infix_cons_iff]

/-- A location begins and ends with a backtick, so it does not matter whether a line is trimmed. -/
theorem holdsLocation_trim (line : List Char) : HoldsLocation (trim line) ↔ HoldsLocation line := by
  refine exists_congr fun loc => and_congr_right fun _ => ?_
  refine infix_trim_iff ⟨'\x60', rfl, by decide⟩ ⟨'\x60', ?_, by decide⟩ line
  simp [Location.quoted, List.getLast?_append, List.getLast?_cons]

theorem hasLocation_append (rest : List Char) : ∀ pre : List Char, '\x60' ∉ pre →
    hasLocation (pre ++ rest) = hasLocation rest
  | [], _ => rfl
  | c :: cs, h => by
    have hc : (c == '\x60') = false := beq_false_of_ne (Ne.symm (List.ne_of_not_mem_cons h))
    rw [List.cons_append, hasLocation, hc, Bool.false_and, Bool.false_or,
      hasLocation_append rest cs (List.not_mem_of_not_mem_cons h)]

/-! ## Headers -/

theorem header?_append (rest : List Char) : ∀ pre : List Char, '\x60' ∉ pre → header? (pre ++ rest) = header? rest
  | [], _ => rfl
  | c :: cs, h => by
    have hc : (c == '\x60') = false := beq_false_of_ne (Ne.symm (List.ne_of_not_mem_cons h))
    rw [List.cons_append, header?, hc, header?_append rest cs (List.not_mem_of_not_mem_cons h)]
    rfl

theorem description?_dash {d : List Char} (hd : isTrimmed d) :
    description? (' ' :: '-' :: ' ' :: d) = some d := by
  have htrim : trimStart (' ' :: '-' :: ' ' :: d) = '-' :: ' ' :: d := by
    rw [trimStart, List.dropWhile_cons_of_pos (by decide), List.dropWhile_cons_of_neg (by decide)]
  have hblank : trim (' ' :: d) = d := by
    rw [← List.singleton_append, trim_append_of_blank [' '] d (by simp; decide), (trim_eq_self_iff d).2 hd]
  rw [description?, htrim]
  simp only [hblank]

/-- **The first run between backticks is the header's location, when a dash and a description follow it.** -/
theorem header?_located {pre run rest d : List Char} {loc : Location} (hpre : '\x60' ∉ pre) (hrun : '\x60' ∉ run)
    (hloc : location? run = some loc) (hd : description? rest = some d) :
    header? (pre ++ '\x60' :: (run ++ '\x60' :: rest)) = some ⟨loc, d⟩ := by
  rw [header?_append _ pre hpre, header?, headerAt?, locationAt?_append hrun, hloc]
  simp [hd]

theorem hasLocation_located {pre run : List Char} (rest : List Char) (hpre : '\x60' ∉ pre) (hrun : '\x60' ∉ run)
    (hloc : (location? run).isSome = true) : hasLocation (pre ++ '\x60' :: (run ++ '\x60' :: rest)) = true := by
  rw [hasLocation_append _ pre hpre, hasLocation, locationAt?_append hrun, Option.isSome_map, hloc]
  rfl

theorem description?_eq_some_iff (s d : List Char) :
    description? s = some d ↔
      ∃ gap c rest, s = gap ++ '-' :: c :: rest ∧ gap.all isBlank = true ∧ d = trim (c :: rest) := by
  rw [description?]
  constructor
  · intro h
    split at h
    · rename_i c rest htrim
      obtain ⟨gap, hs, hgap⟩ := (trimStart_eq_cons_iff (by decide) s _).1 htrim
      exact ⟨gap, c, rest, hs, hgap, (Option.some.inj h).symm⟩
    · cases h
  · rintro ⟨gap, c, rest, hs, hgap, rfl⟩
    rw [(trimStart_eq_cons_iff (by decide) s _).2 ⟨gap, hs, hgap⟩]
    rfl

/-- A header with this location stands on the line, right behind `pre`: a dash and at least one more character follow. -/
def IsHeaderAt (line pre : List Char) (loc : Location) : Prop :=
  ∃ gap rest, line = pre ++ (loc.quoted ++ (gap ++ '-' :: rest)) ∧ loc.IsSound ∧ gap.all isBlank = true ∧ rest ≠ []

/-- The location of the leftmost header of a line. -/
def IsFirstHeader (line : List Char) (loc : Location) : Prop :=
  ∃ pre, IsHeaderAt line pre loc ∧ ∀ pre' loc', IsHeaderAt line pre' loc' → pre.length ≤ pre'.length

theorem headerAt?_location_iff (s : List Char) (loc : Location) :
    (headerAt? s).map (·.location) = some loc ↔ IsHeaderAt ('\x60' :: s) [] loc := by
  rw [headerAt?]
  constructor
  · intro h
    split at h
    · rename_i loc' rest hloc
      obtain ⟨hs, hsound⟩ := (locationAt?_eq_some_iff s rest loc').1 hloc
      obtain ⟨_, hheader, rfl⟩ := Option.map_eq_some_iff.1 h
      obtain ⟨d, hd, rfl⟩ := Option.map_eq_some_iff.1 hheader
      obtain ⟨gap, c, post, rfl, hgap, -⟩ := (description?_eq_some_iff rest d).1 hd
      exact ⟨gap, c :: post, hs, hsound, hgap, List.cons_ne_nil c post⟩
    · cases h
  · rintro ⟨gap, rest, hs, hsound, hgap, hne⟩
    obtain ⟨c, post, rfl⟩ := List.exists_cons_of_ne_nil hne
    rw [(locationAt?_eq_some_iff s _ loc).2 ⟨hs, hsound⟩]
    simp only [(description?_eq_some_iff _ _).2 ⟨gap, c, post, rfl, hgap, rfl⟩, Option.map_some]

theorem isHeaderAt_cons_iff (c : Char) (cs pre : List Char) (loc : Location) :
    IsHeaderAt (c :: cs) pre loc ↔
      pre = [] ∧ c = '\x60' ∧ (headerAt? cs).map (·.location) = some loc ∨
        ∃ pre', pre = c :: pre' ∧ IsHeaderAt cs pre' loc := by
  cases pre with
  | nil =>
    rw [headerAt?_location_iff]
    constructor
    · rintro ⟨gap, rest, hs, h⟩
      obtain rfl : c = '\x60' := (List.cons.inj hs).1
      exact .inl ⟨rfl, rfl, gap, rest, hs, h⟩
    · rintro (⟨-, rfl, h⟩ | ⟨pre', hpre, -⟩)
      · exact h
      · cases hpre
  | cons d pre =>
    constructor
    · rintro ⟨gap, rest, hs, h⟩
      obtain ⟨rfl, rfl⟩ := List.cons.inj hs
      exact .inr ⟨pre, rfl, gap, rest, rfl, h⟩
    · rintro (⟨hpre, -⟩ | ⟨pre', hpre, gap, rest, rfl, h⟩)
      · cases hpre
      · obtain ⟨rfl, rfl⟩ := List.cons.inj hpre
        exact ⟨gap, rest, rfl, h⟩

/-- **The header that is found is the leftmost one.** -/
theorem header?_location_iff : ∀ (line : List Char) (loc : Location),
    (header? line).map (·.location) = some loc ↔ IsFirstHeader line loc
  | [], loc => by
    refine iff_of_false (by simp [header?]) ?_
    rintro ⟨pre, ⟨gap, rest, hs, -⟩, -⟩
    simp [Location.quoted] at hs
  | c :: cs, loc => by
    by_cases hhere : ∃ here, c = '\x60' ∧ (headerAt? cs).map (·.location) = some here
    · -- nothing stands further left than the beginning
      obtain ⟨here, rfl, hat⟩ := hhere
      obtain ⟨h, hh, rfl⟩ := Option.map_eq_some_iff.1 hat
      have hheader : header? ('\x60' :: cs) = some h := by simp [header?, hh]
      rw [hheader, Option.map_some, Option.some.injEq]
      constructor
      · rintro rfl
        exact ⟨[], (headerAt?_location_iff cs _).1 hat, fun _ _ _ => Nat.zero_le _⟩
      · rintro ⟨pre, hpre, hfirst⟩
        have hlen := hfirst [] _ ((headerAt?_location_iff cs _).1 hat)
        obtain rfl : pre = [] := List.length_eq_zero_iff.1 (Nat.le_zero.1 hlen)
        exact Option.some.inj (hat.symm.trans ((headerAt?_location_iff cs loc).2 hpre))
    · have hheader : header? (c :: cs) = header? cs := by
        rw [header?]
        by_cases hc : c = '\x60'
        · have hnone : headerAt? cs = none := by
            cases hat : headerAt? cs with
            | none => rfl
            | some h => exact absurd ⟨h.location, hc, by rw [hat]; rfl⟩ hhere
          simp [hnone]
        · simp [hc]
      have hcons (pre : List Char) (loc : Location) :
          IsHeaderAt (c :: cs) pre loc ↔ ∃ pre', pre = c :: pre' ∧ IsHeaderAt cs pre' loc := by
        rw [isHeaderAt_cons_iff, or_iff_right]
        rintro ⟨-, hc, hat⟩
        exact hhere ⟨loc, hc, hat⟩
      rw [hheader, header?_location_iff cs loc]
      constructor
      · rintro ⟨pre, hpre, hfirst⟩
        refine ⟨c :: pre, (hcons _ _).2 ⟨pre, rfl, hpre⟩, fun pre' loc' h => ?_⟩
        obtain ⟨rest, rfl, hrest⟩ := (hcons _ _).1 h
        exact Nat.succ_le_succ (hfirst rest loc' hrest)
      · rintro ⟨pre, hpre, hfirst⟩
        obtain ⟨rest, rfl, hrest⟩ := (hcons _ _).1 hpre
        exact ⟨rest, hrest, fun pre' loc' h =>
          Nat.le_of_succ_le_succ (hfirst (c :: pre') loc' ((hcons _ _).2 ⟨pre', rfl, h⟩))⟩

/-! ## Labelled code -/

/-- **Code behind a label**: white space, a backtick, at least one character, and the next backtick ends it. -/
theorem codeAt?_eq_some_iff (label s x : List Char) :
    codeAt? label s = some x ↔ ∃ blanks c code rest,
      s = label ++ (blanks ++ '\x60' :: c :: (code ++ '\x60' :: rest)) ∧ blanks.all isBlank = true ∧ '\x60' ∉ code ∧
        x = trim (c :: code) := by
  have htick : isBlank '\x60' = false := by decide
  rw [codeAt?]
  constructor
  · intro h
    split at h
    · rename_i c rest hopen
      obtain ⟨t, hafter, ht⟩ := Option.map_eq_some_iff.1 hopen
      obtain ⟨blanks, rfl, hb⟩ := (trimStart_eq_cons_iff htick t _).1 ht
      obtain ⟨⟨code, post⟩, hcut, rfl⟩ := Option.map_eq_some_iff.1 h
      obtain ⟨rfl, hcode⟩ := (cutFirst_eq_some_iff '\x60' rest code post).1 hcut
      exact ⟨blanks, c, code, post, (after?_eq_some_iff label s _).1 hafter, hb, hcode, rfl⟩
    · cases h
  · rintro ⟨blanks, c, code, rest, rfl, hb, hcode, rfl⟩
    have hopen := (trimStart_eq_cons_iff htick (blanks ++ '\x60' :: c :: (code ++ '\x60' :: rest)) _).2
      ⟨blanks, rfl, hb⟩
    rw [(after?_eq_some_iff label _ _).2 rfl, Option.map_some, hopen]
    simp only [(cutFirst_eq_some_iff '\x60' _ code rest).2 ⟨rfl, hcode⟩, Option.map_some]

theorem labelled?_eq_none_of_count (label : List Char) : ∀ s : List Char, s.count '\x60' < 2 → labelled? label s = none
  | [], _ => rfl
  | c :: cs, h => by
    -- code stands between two backticks, and here is one at most
    have hat : codeAt? label (c :: cs) = none := by
      rw [Option.eq_none_iff_forall_ne_some]
      intro x hx
      obtain ⟨blanks, d, code, rest, hs, -, -, -⟩ := (codeAt?_eq_some_iff label _ x).1 hx
      rw [hs] at h
      simp only [List.count_append, List.count_cons_self, List.count_cons] at h
      omega
    have hcs : cs.count '\x60' < 2 := lt_of_le_of_lt (List.count_le_count_cons) h
    rw [labelled?, hat, labelled?_eq_none_of_count label cs hcs]
    rfl

/-! ## Lines that end with code -/

/-- A line whose end is code between backticks. -/
def quotedLine (pre code : List Char) : List Char := pre ++ '\x60' :: (code ++ ['\x60'])

/-- The label stands at the end of the text, but for white space. -/
def announcesHere (label pre : List Char) : Bool := (after? label pre).any (·.all isBlank)

/-- The text ends with the label, but for white space. -/
def announces (label : List Char) : List Char → Bool
  | [] => announcesHere label []
  | c :: cs => announcesHere label (c :: cs) || announces label cs

section QuotedLine

variable {pre code : List Char} (hpre : '\x60' ∉ pre) (hcode : '\x60' ∉ code)

include hpre hcode

theorem hasLocation_quotedLine : hasLocation (quotedLine pre code) = (location? code).isSome := by
  rw [quotedLine, hasLocation_append _ pre hpre, hasLocation, locationAt?_append hcode, Option.isSome_map,
    hasLocation_append _ code hcode]
  simp [hasLocation, locationAt?, cutFirst]

theorem header?_quotedLine : header? (quotedLine pre code) = none := by
  -- nothing follows the closing backtick, so no description does
  have hat : headerAt? (code ++ ['\x60']) = none := by
    rw [headerAt?, locationAt?_append hcode]
    cases location? code <;> rfl
  rw [quotedLine, header?_append _ pre hpre, header?, if_pos (beq_self_eq_true _), hat,
    header?_append _ code hcode]
  rfl

theorem codeAt?_quotedLine (label : List Char) (hlabel : '\x60' ∉ label) (hne : code ≠ []) :
    codeAt? label (quotedLine pre code) = if announcesHere label pre then some (trim code) else none := by
  obtain ⟨c, code, rfl⟩ := List.exists_cons_of_ne_nil hne
  split
  · rename_i h
    obtain ⟨blanks, hafter, hb⟩ := (Option.any_eq_true _ _).1 h
    rw [codeAt?_eq_some_iff]
    refine ⟨blanks, c, code, [], ?_, hb, List.not_mem_of_not_mem_cons hcode, rfl⟩
    rw [quotedLine, (after?_eq_some_iff label pre blanks).1 hafter, List.append_assoc]
    rfl
  · rename_i h
    rw [Option.eq_none_iff_forall_ne_some]
    intro x hx
    obtain ⟨blanks, d, code', rest, hs, hb, -, -⟩ := (codeAt?_eq_some_iff label _ x).1 hx
    have hblanks : '\x60' ∉ blanks := fun hmem => absurd (List.all_eq_true.1 hb _ hmem) (by decide)
    rw [quotedLine, ← List.append_assoc] at hs
    obtain ⟨rfl, -⟩ := cut_unique hs hpre (by rw [List.mem_append]; exact fun hmem => hmem.elim hlabel hblanks)
    exact h ((Option.any_eq_true _ _).2 ⟨blanks, (after?_eq_some_iff label _ _).2 rfl, hb⟩)

end QuotedLine

/-- **A label finds the code at the end of a line exactly when it stands right before it.** -/
theorem labelled?_quotedLine {label code : List Char} (hlabel : '\x60' ∉ label) (hcode : '\x60' ∉ code)
    (hne : code ≠ []) : ∀ pre : List Char, '\x60' ∉ pre →
      labelled? label (quotedLine pre code) = if announces label pre then some (trim code) else none
  | [], h => by
    have hcount : (code ++ ['\x60']).count '\x60' < 2 := by
      rw [List.count_append, List.count_eq_zero.2 hcode]
      decide
    have hat := codeAt?_quotedLine h hcode label hlabel hne
    rw [quotedLine, List.nil_append] at hat ⊢
    rw [labelled?, hat, labelled?_eq_none_of_count label _ hcount, announces]
    split <;> rfl
  | c :: cs, h => by
    have hat := codeAt?_quotedLine h hcode label hlabel hne
    have ih := labelled?_quotedLine hlabel hcode hne cs (List.not_mem_of_not_mem_cons h)
    rw [quotedLine, List.cons_append] at hat ⊢
    rw [labelled?, hat, ← quotedLine, ih, announces]
    cases announcesHere label (c :: cs) <;> rfl

theorem firstLabelled?_quotedLine {pre code : List Char} (hpre : '\x60' ∉ pre) (hcode : '\x60' ∉ code)
    (hne : code ≠ []) : ∀ labels : List (List Char), (∀ label ∈ labels, '\x60' ∉ label) →
      firstLabelled? labels (quotedLine pre code) =
        if labels.any (announces · pre) then some (trim code) else none
  | [], _ => rfl
  | label :: labels, h => by
    have ih := firstLabelled?_quotedLine hpre hcode hne labels fun l hl => h l (List.mem_cons_of_mem label hl)
    rw [firstLabelled?] at ih ⊢
    rw [List.findSome?_cons, labelled?_quotedLine (h label List.mem_cons_self) hcode hne pre hpre, ih, List.any_cons]
    cases announces label pre <;> rfl

end Issue
end PullReview
