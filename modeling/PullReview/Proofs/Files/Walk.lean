import PullReview.Files.Make
import PullReview.Proofs.Text.Cut
/-!
# Where paths lead

A path whose names are clean is found by the walk along these names (`find_eq_walk`), from the root or from the working
directory.  A direct path goes up only at its beginning, so the entry it leads to is at the very place that the path says
(`find_direct_place`), and what it leads to hangs on the entries along the way to that place and on nothing else
(`find_congr`, `isThere_of_keepsTo`).  Asking whether a path is there has an answer unless the path is too long
(`hasPath_eq`).
-/
namespace PullReview
namespace Path

/-- A name that a path can hold. -/
def IsName (name : String) : Prop := name ≠ "" ∧ name ≠ "." ∧ '/' ∉ name.toList

structure IsClean (p : Path) : Prop where
  root : p.root = "" ∨ p.root = "/" ∨ p.root = "//"
  name : ∀ name ∈ p.names, IsName name

/-- Where a path leads that does not go up on its way. -/
def place (p : Path) : List String := Files.startOf p.isAbsolute ++ p.names

/-- A path that goes up only at its beginning, and never from the root. -/
structure IsDirect (p : Path) : Prop where
  clean : p.IsClean
  straight : ∃ ups below, p.names = ups ++ below ∧ (∀ name ∈ ups, name = "..") ∧ (p.isAbsolute = true → ups = []) ∧
    ".." ∉ below

theorem rootOf_cases (s : List Char) : rootOf s = "" ∨ rootOf s = "/" ∨ rootOf s = "//" := by
  unfold rootOf
  split
  · exact .inl rfl
  · exact .inr (.inr rfl)
  · exact .inr (.inl rfl)

theorem isName_of_mem_namesIn {s : List Char} {name : String} (h : name ∈ namesIn s) : IsName name := by
  simp only [namesIn, List.mem_map, List.mem_filter, Bool.and_eq_true, Bool.not_eq_true', decide_eq_true_eq] at h
  obtain ⟨piece, ⟨hpiece, hfull, hdot⟩, rfl⟩ := h
  refine ⟨fun h => ?_, fun h => ?_, ?_⟩
  · have hnil : piece = [] := by simpa using congrArg String.toList h
    simp [hnil] at hfull
  · exact hdot (by simpa using congrArg String.toList h)
  · rw [String.toList_ofList]
    exact Text.not_mem_of_mem_splitOn '/' _ piece hpiece

theorem isClean_ofString (s : String) : (ofString s).IsClean :=
  ⟨rootOf_cases s.toList, fun _ => isName_of_mem_namesIn⟩

theorem ofString_of_isName {s : String} (h : IsName s) : ofString s = ⟨"", [s]⟩ := by
  obtain ⟨hne, hdot, hslash⟩ := h
  have hlist : s.toList ≠ [] := fun h => hne (String.toList_eq_nil_iff.1 h)
  have hroot : s.toList.takeWhile (· = '/') = [] := by
    cases hs : s.toList with
    | nil => rfl
    | cons c cs =>
      have hc : c ≠ '/' := fun h => hslash (by rw [hs, h]; exact List.mem_cons_self)
      simp [hc]
  have hdots : s.toList ≠ ['.'] := fun h => hdot (by rw [← String.ofList_toList (s := s), h])
  rw [ofString, rootOf, namesIn, hroot, Text.splitOn_of_not_mem '/' _ hslash]
  simp [hlist, hdots]

theorem join_of_isName (p : Path) {s : String} (h : IsName s) : p.join s = ⟨p.root, p.names ++ [s]⟩ := by
  simp [join, ofString_of_isName h, isAbsolute]

theorem IsClean.append {p : Path} (h : p.IsClean) {names : List String} (hnames : ∀ name ∈ names, IsName name) :
    IsClean ⟨p.root, p.names ++ names⟩ :=
  ⟨h.root, fun name hname => (List.mem_append.1 hname).elim (h.name name) (hnames name)⟩

theorem IsClean.join {p : Path} (h : p.IsClean) (s : String) : (p.join s).IsClean := by
  simp only [Path.join]
  split
  · exact isClean_ofString s
  · exact h.append (isClean_ofString s).name

theorem place_append (root : String) (names below : List String) :
    place ⟨root, names ++ below⟩ = place ⟨root, names⟩ ++ below := (List.append_assoc _ _ _).symm

theorem place_prefix (root : String) {names names' : List String} (h : names <+: names') :
    place ⟨root, names⟩ <+: place ⟨root, names'⟩ := (List.prefix_append_right_inj _).2 h

theorem IsDirect.append {p : Path} (h : p.IsDirect) {names : List String} (hclean : ∀ name ∈ names, IsName name)
    (hup : ".." ∉ names) : IsDirect ⟨p.root, p.names ++ names⟩ := by
  obtain ⟨ups, below, hnames, hups, hroot, hbelow⟩ := h.straight
  refine ⟨h.clean.append hclean, ups, below ++ names, by simp [hnames], hups, hroot, ?_⟩
  rw [List.mem_append, not_or]
  exact ⟨hbelow, hup⟩

theorem IsDirect.snoc {p : Path} (h : p.IsDirect) {s : String} (hs : IsName s) (hup : s ≠ "..") :
    IsDirect ⟨p.root, p.names ++ [s]⟩ :=
  h.append (fun name hname => by rwa [List.mem_singleton.1 hname]) (by simpa using hup.symm)

theorem IsDirect.of_prefix {p : Path} (h : p.IsDirect) {names : List String} (hnames : names <+: p.names) :
    IsDirect ⟨p.root, names⟩ := by
  obtain ⟨ups, below, hsplit, hups, hroot, hbelow⟩ := h.straight
  refine ⟨⟨h.clean.root, fun name hname => h.clean.name name (hnames.subset hname)⟩, ups.take names.length,
    below.take (names.length - ups.length), ?_, fun name hname => hups name (List.mem_of_mem_take hname), fun habs => ?_,
    fun hup => hbelow (List.mem_of_mem_take hup)⟩
  · rw [← List.take_append, ← hsplit]
    exact List.prefix_iff_eq_take.1 hnames
  · rw [hroot habs, List.take_nil]

/-! ## Writing a path and reading it -/

theorem joinWith_toList_cons (sep first : String) (rest : List String) :
    ∃ tail, (Text.joinWith sep (first :: rest)).toList = first.toList ++ tail := by
  cases rest with
  | nil => exact ⟨[], by simp [Text.joinWith]⟩
  | cons second rest => exact ⟨sep.toList ++ (Text.joinWith sep (second :: rest)).toList, by simp [Text.joinWith]⟩

theorem toString_eq {p : Path} (hne : p.names ≠ []) : p.toString = p.root ++ Text.joinWith "/" p.names := by
  simp [toString, hne]

/-- A clean path is written with a slash in front just when it starts at the root. -/
theorem toString_head {p : Path} (h : p.IsClean) :
    ∃ c cs, p.toString.toList = c :: cs ∧ (c = '/' ↔ p.isAbsolute = true) := by
  obtain ⟨root, names⟩ := p
  rcases h.root with rfl | rfl | rfl
  · cases names with
    | nil => exact ⟨'.', [], rfl, by decide⟩
    | cons first rest =>
      obtain ⟨hfirst, -, hslash⟩ := h.name first List.mem_cons_self
      obtain ⟨c, cs, hcs⟩ := List.exists_cons_of_ne_nil fun h => hfirst (String.toList_eq_nil_iff.1 h)
      obtain ⟨tail, htail⟩ := joinWith_toList_cons "/" first rest
      refine ⟨c, cs ++ tail, ?_, iff_of_false (fun h => ?_) (by simp [isAbsolute])⟩
      · rw [toString_eq (List.cons_ne_nil _ _), String.toList_append, htail, hcs]
        rfl
      · exact hslash (by rw [hcs, h]; exact List.mem_cons_self)
  · exact ⟨'/', (Text.joinWith "/" names).toList, by simp [toString], by simp [isAbsolute]⟩
  · exact ⟨'/', '/' :: (Text.joinWith "/" names).toList, by simp [toString], by simp [isAbsolute]⟩

/-- A name that stays where it is. -/
def IsIdle (name : String) : Prop := name = "" ∨ name = "."

theorem split_slash (s : List Char) : (Text.splitOn '/' ('/' :: s)).map String.ofList =
    "" :: (Text.splitOn '/' s).map String.ofList := by
  rw [Text.splitOn, if_pos rfl]
  rfl

/-- **A clean path is read off the text that it is written as**, up to what stays in front. -/
theorem split_toString {p : Path} (h : p.IsClean) : ∃ idle, (∀ name ∈ idle, IsIdle name) ∧
    (Text.splitOn '/' p.toString.toList).map String.ofList = idle ++ p.names := by
  obtain ⟨root, names⟩ := p
  by_cases hne : names = []
  · subst hne
    rcases h.root with rfl | rfl | rfl
    · exact ⟨["."], by simp [IsIdle], rfl⟩
    · exact ⟨["", ""], by simp [IsIdle], rfl⟩
    · exact ⟨["", "", ""], by simp [IsIdle], rfl⟩
  have hjoined : (Text.splitOn '/' (Text.joinWith "/" names).toList).map String.ofList = names := by
    rw [show Text.joinWith "/" names = Text.joinWith (String.singleton '/') names from rfl,
      Text.splitOn_joinWith '/' names hne fun name hname => (h.name name hname).2.2, List.map_map]
    simp
  rw [toString_eq hne, String.toList_append]
  rcases h.root with rfl | rfl | rfl
  · exact ⟨[], by simp, hjoined⟩
  · refine ⟨[""], by simp [IsIdle], ?_⟩
    rw [show "/".toList = ['/'] by simp, List.singleton_append, split_slash, hjoined]
    rfl
  · refine ⟨["", ""], by simp [IsIdle], ?_⟩
    rw [show "//".toList = ['/', '/'] by simp, List.cons_append, List.singleton_append, split_slash, split_slash, hjoined]
    rfl

end Path

/-- What is found, whatever is in it. -/
def Found.outline : Found → Option (Option (List String))
  | .file _ => some none
  | .directory place => some (some place)
  | _ => none

namespace Files

open PullReview.Path (IsName IsIdle)

/-! ## Finding is walking -/

theorem walk_idle (fs : Files) (here names : List String) : ∀ {idle : List String}, (∀ name ∈ idle, IsIdle name) →
    fs.walk here (idle ++ names) = fs.walk here names
  | [], _ => rfl
  | name :: rest, h => by
    have hname : (name = "" || name = ".") = true := by simpa [IsIdle] using h name List.mem_cons_self
    rw [List.cons_append, walk, if_pos hname, walk_idle fs here names fun n hn => h n (List.mem_cons_of_mem name hn)]

/-- **A clean path is found by the walk along its names**, unless no path can be written so. -/
theorem find_eq_walk {p : Path} (h : p.IsClean) (fs : Files) :
    fs.find p.toString =
      if p.toString.toList.contains '\x00' then .unspeakable
      else if pathLimit < p.toString.utf8ByteSize then .tooLong
      else fs.walk (startOf p.isAbsolute) p.names := by
  obtain ⟨c, cs, hlist, hc⟩ := Path.toString_head h
  obtain ⟨idle, hidle, hsplit⟩ := Path.split_toString h
  have hempty : p.toString ≠ "" := fun h => by simp [h] at hlist
  have hstart : Text.startsWith "/" p.toString = p.isAbsolute := by
    rw [Text.startsWith, hlist, Bool.eq_iff_iff, ← hc]
    simpa [List.isPrefixOf] using eq_comm
  rw [find, if_neg hempty, hstart, hsplit, walk_idle fs _ _ hidle]

/-! ## Walks along plain names -/

/-- A name that leads one step down. -/
def IsPlain (name : String) : Prop := name ≠ "" ∧ name ≠ "." ∧ name ≠ ".."

theorem walk_cons (fs : Files) (here : List String) {name : String} (h : IsPlain name) (rest : List String) :
    fs.walk here (name :: rest) =
      if nameLimit < name.utf8ByteSize then .tooLong
      else match fs.get? (here ++ [name]) with
        | some (.directory _) => fs.walk (here ++ [name]) rest
        | some (.file bytes) => if rest.isEmpty then .file bytes else .blocked
        | none => .missing := by
  obtain ⟨hne, hdot, hup⟩ := h
  rw [walk, if_neg (by simp [hne, hdot])]
  exact if_neg hup

def IsDirectoryAt (fs : Files) (place : List String) : Prop := ∃ origin, fs.get? place = some (.directory origin)

/-- **A walk that comes to a directory, by its first name**: it goes on from some place, and so does every walk with
this first name wherever the same directories are. -/
theorem walk_cons_eq_directory {fs : Files} {here there : List String} {name : String} {rest : List String}
    (h : fs.walk here (name :: rest) = .directory there) : ∃ next, fs.walk next rest = .directory there ∧
      ∀ fs' : Files, (∀ place, fs.IsDirectoryAt place → fs'.IsDirectoryAt place) →
        ∀ names, fs'.walk here (name :: names) = fs'.walk next names := by
  rw [walk] at h
  by_cases hidle : (name = "" || name = ".") = true
  · rw [if_pos hidle] at h
    exact ⟨here, h, fun fs' _ names => by rw [walk, if_pos hidle]⟩
  by_cases hup : name = ".."
  · rw [if_neg hidle, if_pos hup] at h
    exact ⟨up here, h, fun fs' _ names => by rw [walk, if_neg hidle, if_pos hup]⟩
  by_cases hlong : nameLimit < name.utf8ByteSize
  · rw [if_neg hidle, if_neg hup, if_pos hlong] at h
    cases h
  rw [if_neg hidle, if_neg hup, if_neg hlong] at h
  split at h
  · rename_i origin hget
    refine ⟨here ++ [name], h, fun fs' hdir names => ?_⟩
    obtain ⟨origin', hget'⟩ := hdir _ ⟨origin, hget⟩
    rw [walk, if_neg hidle, if_neg hup, if_neg hlong, hget']
  · split at h <;> cases h
  · cases h

theorem walk_append {fs : Files} (ys : List String) : ∀ (xs : List String) {here there : List String},
    fs.walk here xs = .directory there → fs.walk here (xs ++ ys) = fs.walk there ys
  | [], here, there, h => by
    rw [walk] at h
    cases h
    rfl
  | name :: rest, here, there, h => by
    obtain ⟨next, hrest, hstep⟩ := walk_cons_eq_directory h
    rw [List.cons_append, hstep fs fun _ hplace => hplace]
    exact walk_append ys rest hrest

/-- Directories that stay lead walks to the same end. -/
theorem walk_directory_mono {fs fs' : Files} (hdir : ∀ place, fs.IsDirectoryAt place → fs'.IsDirectoryAt place) :
    ∀ (names : List String) {here there : List String},
      fs.walk here names = .directory there → fs'.walk here names = .directory there
  | [], here, there, h => by rwa [walk] at h ⊢
  | name :: rest, here, there, h => by
    obtain ⟨next, hrest, hstep⟩ := walk_cons_eq_directory h
    rw [hstep fs' hdir]
    exact walk_directory_mono hdir rest hrest

/-- Double dots in the working directory and above it lead further out. -/
theorem walk_ups (fs : Files) (below : List String) : ∀ (ups here : List String), (∀ name ∈ here, name = "..") →
    (∀ name ∈ ups, name = "..") → fs.walk here (ups ++ below) = fs.walk (here ++ ups) below
  | [], here, _, _ => by rw [List.nil_append, List.append_nil]
  | name :: rest, here, hhere, hups => by
    obtain rfl := hups name List.mem_cons_self
    have hroot : here ≠ rootPlace := by
      rintro rfl
      exact absurd (hhere "/" List.mem_cons_self) (by decide)
    have hbase : isBase here = true := by
      rw [isBase, Bool.or_eq_true, List.all_eq_true]
      exact .inr fun n hn => decide_eq_true (hhere n hn)
    have hout : ∀ n ∈ here ++ [".."], n = ".." := fun n hn =>
      (List.mem_append.1 hn).elim (hhere n) List.mem_singleton.1
    have ih := walk_ups fs below rest (here ++ [".."]) hout fun n hn => hups n (List.mem_cons_of_mem _ hn)
    rw [List.cons_append, walk, if_neg (by decide), if_pos rfl, up, if_neg hroot, if_pos hbase, ih, List.append_assoc]
    rfl

theorem walk_plain_place {fs : Files} : ∀ (names here : List String) {place : List String},
    (∀ name ∈ names, IsPlain name) → fs.walk here names = .directory place → place = here ++ names
  | [], here, place, _, h => by
    rw [walk] at h
    cases h
    rw [List.append_nil]
  | name :: rest, here, place, hplain, h => by
    have hrest : ∀ n ∈ rest, IsPlain n := fun n hn => hplain n (List.mem_cons_of_mem name hn)
    rw [walk_cons fs here (hplain name List.mem_cons_self)] at h
    by_cases hlong : nameLimit < name.utf8ByteSize
    · rw [if_pos hlong] at h
      cases h
    rw [if_neg hlong] at h
    split at h
    · rw [walk_plain_place rest (here ++ [name]) hrest h, List.append_assoc]
      rfl
    · split at h <;> cases h
    · cases h

/-- What a walk comes to hangs on the entries along its way alone. -/
theorem walk_congr (fs fs' : Files) : ∀ (names here : List String), (∀ name ∈ names, IsPlain name) →
    (∀ place, place <+: names → fs.get? (here ++ place) = fs'.get? (here ++ place)) →
    fs.walk here names = fs'.walk here names
  | [], _, _, _ => rfl
  | name :: rest, here, hplain, hget => by
    have hname := hplain name List.mem_cons_self
    have ih := walk_congr fs fs' rest (here ++ [name]) (fun n hn => hplain n (List.mem_cons_of_mem name hn))
      fun place hplace => by
        have h := hget (name :: place) (List.cons_prefix_cons.2 ⟨rfl, hplace⟩)
        rwa [List.append_assoc, List.singleton_append]
    rw [walk_cons fs here hname, walk_cons fs' here hname, ih, hget [name] (List.prefix_append [name] rest)]

/-! ## What stays along a way -/

/-- An entry, whatever is in it: a file, or a directory with its origin. -/
def kindAt (fs : Files) (names : List String) : Option FileEntry :=
  (fs.get? names).map fun
    | .file _ => .file []
    | .directory origin => .directory origin

/-- What there is along the way to `names` stays: directories with their origins, and files as files. -/
def KeepsTo (names : List String) (fs fs' : Files) : Prop :=
  ∀ place, place <+: names → ∀ kind, fs.kindAt place = some kind → fs'.kindAt place = some kind

theorem KeepsTo.refl (names : List String) (fs : Files) : KeepsTo names fs fs := fun _ _ _ h => h

theorem KeepsTo.trans {names : List String} {fs fs' fs'' : Files} (h : KeepsTo names fs fs')
    (h' : KeepsTo names fs' fs'') : KeepsTo names fs fs'' := fun place hplace kind hkind =>
  h' place hplace kind (h place hplace kind hkind)

theorem KeepsTo.of_get? {names : List String} {fs fs' : Files}
    (h : ∀ place, place <+: names → fs'.get? place = fs.get? place) : KeepsTo names fs fs' :=
  fun place hplace kind hkind => by rw [kindAt, h place hplace]; exact hkind

theorem kindAt_eq_directory_iff (fs : Files) (names : List String) (origin : Option String) :
    fs.kindAt names = some (.directory origin) ↔ fs.get? names = some (.directory origin) := by
  rw [kindAt]
  rcases fs.get? names with _ | _ | _ <;> simp

theorem kindAt_eq_file_iff (fs : Files) (names : List String) :
    fs.kindAt names = some (.file []) ↔ ∃ bytes, fs.get? names = some (.file bytes) := by
  rw [kindAt]
  rcases fs.get? names with _ | _ | _ <;> simp

/-- A walk that found something finds the like while its way stays. -/
theorem walk_outline (fs fs' : Files) : ∀ (names here : List String), (∀ name ∈ names, IsPlain name) →
    KeepsTo (here ++ names) fs fs' → ∀ found, (fs.walk here names).outline = some found →
      (fs'.walk here names).outline = some found
  | [], _, _, _, _, h => h
  | name :: rest, here, hplain, hkeeps, found, h => by
    have hname := hplain name List.mem_cons_self
    have hway : here ++ [name] ++ rest = here ++ name :: rest := by simp
    have hstep : here ++ [name] <+: here ++ name :: rest := hway ▸ List.prefix_append _ _
    have ih := walk_outline fs fs' rest (here ++ [name])
      (fun n hn => hplain n (List.mem_cons_of_mem name hn)) (hway ▸ hkeeps)
    rw [walk_cons fs here hname] at h
    rw [walk_cons fs' here hname]
    by_cases hlong : nameLimit < name.utf8ByteSize
    · rw [if_pos hlong] at h
      cases h
    rw [if_neg hlong] at h ⊢
    split at h
    · -- a directory is on the way and still is
      rename_i origin hget
      have hget' := (kindAt_eq_directory_iff _ _ _).1
        (hkeeps _ hstep _ ((kindAt_eq_directory_iff _ _ _).2 hget))
      rw [hget']
      exact ih found h
    · -- a file ends the walk, and still does
      rename_i bytes hget
      obtain ⟨bytes', hget'⟩ := (kindAt_eq_file_iff _ _).1 (hkeeps _ hstep _ ((kindAt_eq_file_iff _ _).2 ⟨bytes, hget⟩))
      rw [hget']
      by_cases hrest : rest.isEmpty = true
      · rw [if_pos hrest] at h
        dsimp only
        rw [if_pos hrest]
        exact h
      · rw [if_neg hrest] at h
        cases h
    · cases h

/-! ## Direct paths -/

theorem isThere_eq (fs : Files) (p : Path) : fs.isThere p = (fs.find p.toString).outline.isSome := by
  unfold isThere
  cases fs.find p.toString <;> rfl

theorem isPlain_of_mem {below : List String} (hclean : ∀ name ∈ below, IsName name) (hup : ".." ∉ below) :
    ∀ name ∈ below, IsPlain name := fun name hname =>
  ⟨(hclean name hname).1, (hclean name hname).2.1, fun h => hup (h ▸ hname)⟩

/-- A walk along a direct path goes on downwards from some place on its way. -/
theorem walk_direct {p : Path} (h : p.IsDirect) : ∃ base below, p.place = base ++ below ∧
    (∀ name ∈ below, IsPlain name) ∧ ∀ fs : Files, fs.walk (startOf p.isAbsolute) p.names = fs.walk base below := by
  obtain ⟨ups, below, hnames, hups, hroot, hup⟩ := h.straight
  have hplain : ∀ name ∈ below, IsPlain name :=
    isPlain_of_mem (fun name hname => h.clean.name name (hnames ▸ List.mem_append_right ups hname)) hup
  refine ⟨startOf p.isAbsolute ++ ups, below, by rw [Path.place, hnames, List.append_assoc], hplain, fun fs => ?_⟩
  cases habs : p.isAbsolute with
  | true => rw [hnames, hroot habs, List.nil_append, List.append_nil]
  | false => rw [hnames, walk_ups fs below ups _ (by simp [startOf]) hups]

theorem walk_direct_place {p : Path} (h : p.IsDirect) {fs : Files} {place : List String}
    (hwalk : fs.walk (startOf p.isAbsolute) p.names = .directory place) : place = p.place := by
  obtain ⟨base, below, hplace, hplain, hdirect⟩ := walk_direct h
  rw [hdirect] at hwalk
  rw [walk_plain_place below base hplain hwalk, hplace]

/-- **The entry at the end of a direct path is at the place of the path.** -/
theorem find_direct_place {p : Path} (h : p.IsDirect) {fs : Files} {place : List String}
    (hfind : fs.find p.toString = .directory place) : place = p.place := by
  rw [find_eq_walk h.clean] at hfind
  split_ifs at hfind
  exact walk_direct_place h hfind

/-- **What a direct path leads to hangs on the entries along its way alone.** -/
theorem find_congr {p : Path} (h : p.IsDirect) {fs fs' : Files}
    (hget : ∀ place, place <+: p.place → fs.get? place = fs'.get? place) :
    fs.find p.toString = fs'.find p.toString := by
  obtain ⟨base, below, hplace, hplain, hwalk⟩ := walk_direct h
  have hsame := walk_congr fs fs' below base hplain fun place hbelow =>
    hget _ (hplace ▸ (List.prefix_append_right_inj base).2 hbelow)
  rw [find_eq_walk h.clean, find_eq_walk h.clean, hwalk, hwalk, hsame]

/-- **What a direct path leads to stays as long as what is along its way does.** -/
theorem outline_of_keepsTo {p : Path} (h : p.IsDirect) {fs fs' : Files} (hkeeps : KeepsTo p.place fs fs')
    (found : Option (List String)) (hfound : (fs.find p.toString).outline = some found) :
    (fs'.find p.toString).outline = some found := by
  obtain ⟨base, below, hplace, hplain, hwalk⟩ := walk_direct h
  rw [find_eq_walk h.clean, hwalk] at hfound ⊢
  split_ifs at hfound ⊢
  · cases hfound
  · cases hfound
  · exact walk_outline fs fs' below base hplain (hplace ▸ hkeeps) found hfound

theorem isThere_of_keepsTo {p : Path} (h : p.IsDirect) {fs fs' : Files} (hkeeps : KeepsTo p.place fs fs')
    (hthere : fs.isThere p = true) : fs'.isThere p = true := by
  rw [isThere_eq] at hthere ⊢
  obtain ⟨found, hfound⟩ := Option.isSome_iff_exists.1 hthere
  rw [outline_of_keepsTo h hkeeps found hfound]
  rfl

/-! ## Clones -/

theorem origin?_eq_some_iff (fs : Files) (written url : String) : fs.origin? written = some url ↔
    ∃ place, fs.find written = .directory place ∧ fs.get? place = some (.directory (some url)) := by
  rw [origin?]
  cases fs.find written with
  | directory place => rcases hget : fs.get? place with _ | _ | _ <;> simp [hget]
  | _ => simp

/-- A clone is there. -/
theorem isThere_of_origin? {fs : Files} {p : Path} {url : String} (h : fs.origin? p.toString = some url) :
    fs.isThere p = true := by
  obtain ⟨place, hfind, -⟩ := (origin?_eq_some_iff fs _ url).1 h
  rw [isThere, hfind]

theorem origin?_of_keepsTo {p : Path} (h : p.IsDirect) {fs fs' : Files} (hkeeps : KeepsTo p.place fs fs') {url : String}
    (horigin : fs.origin? p.toString = some url) : fs'.origin? p.toString = some url := by
  obtain ⟨place, hfind, hget⟩ := (origin?_eq_some_iff fs _ url).1 horigin
  have hstill := outline_of_keepsTo h hkeeps (some place) (by rw [hfind]; rfl)
  obtain rfl := find_direct_place h hfind
  refine (origin?_eq_some_iff fs' _ url).2 ⟨p.place, ?_, ?_⟩
  · cases hfind' : fs'.find p.toString <;> rw [hfind'] at hstill <;> simp [Found.outline] at hstill
    rw [hstill]
  · exact (kindAt_eq_directory_iff _ _ _).1 (hkeeps _ List.prefix_rfl _ ((kindAt_eq_directory_iff _ _ _).2 hget))

/-! ## Asking for paths -/

/-- The path, or a name that is met on it, has too many octets. -/
def isTooLong (fs : Files) (p : Path) : Bool := fs.find p.toString = .tooLong

theorem hasPath_eq (fs : Files) (p : Path) :
    fs.hasPath p = if fs.isTooLong p then .error (.nameTooLong p.toString) else .ok (fs.isThere p) := by
  unfold hasPath isTooLong isThere
  cases fs.find p.toString <;> simp

theorem isThere_of_isTooLong {fs : Files} {p : Path} (h : fs.isTooLong p = true) : fs.isThere p = false := by
  simp only [isTooLong, decide_eq_true_eq] at h
  rw [isThere, h]

theorem ne_of_size_lt {s t : String} (h : nameLimit < s.utf8ByteSize) (ht : t.utf8ByteSize ≤ nameLimit) : s ≠ t :=
  fun heq => Nat.lt_irrefl _ (Nat.lt_of_lt_of_le (heq ▸ h) ht)

/-- A name with too many octets cannot be asked for in any directory that is there. -/
theorem isTooLong_join {fs : Files} {dir : Path} {s : String} {place : List String} (hclean : dir.IsClean)
    (hdir : fs.walk (startOf dir.isAbsolute) dir.names = .directory place) (hslash : '/' ∉ s.toList)
    (hlong : nameLimit < s.utf8ByteSize) (hnull : ∀ name ∈ dir.names ++ [s], '\x00' ∉ name.toList) :
    fs.isTooLong (dir.join s) = true := by
  have hname : IsName s := ⟨ne_of_size_lt hlong (by decide), ne_of_size_lt hlong (by decide), hslash⟩
  have hjoined := hclean.join s
  rw [Path.join_of_isName dir hname] at hjoined ⊢
  have hspeakable : (Path.toString ⟨dir.root, dir.names ++ [s]⟩).toList.contains '\x00' = false := by
    rw [List.contains_eq_mem, decide_eq_false_iff_not, Path.toString_eq (by simp), String.toList_append, List.mem_append,
      not_or]
    refine ⟨?_, fun hmem => ?_⟩
    · rcases hclean.root with hroot | hroot | hroot <;> rw [hroot] <;> decide
    · rcases Text.mem_joinWith hmem with hmem | ⟨name, hin, hmem⟩
      · revert hmem
        decide
      · exact hnull name hin hmem
  have hstep : fs.walk place [s] = .tooLong := by
    rw [walk, if_neg (by simp [hname.1, hname.2.1]), if_neg (ne_of_size_lt hlong (by decide)), if_pos hlong]
  have hwalk : fs.walk (startOf (Path.isAbsolute ⟨dir.root, dir.names ++ [s]⟩)) (dir.names ++ [s]) = .tooLong :=
    (walk_append [s] dir.names hdir).trans hstep
  rw [isTooLong, decide_eq_true_eq, find_eq_walk hjoined, hspeakable, hwalk]
  simp

end Files
end PullReview
