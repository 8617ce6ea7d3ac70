import PullReview.Proofs.Files.Walk
import PullReview.Proofs.Keyed
import PullReview.Proofs.Run
/-!
# What stays among the files

Removing the directory at a direct path touches only what is in it (`removeTree_get?`).  Making directories and writing
files takes nothing away: what is a directory stays one, with its origin, and what is a file stays one
(`makeBackwards_keeps`, `bring_keeps`).  A directory that was made is there (`makeNew_isDirectory`), and one that became a
clone has its origin (`origin?_setOrigin`).
-/
namespace PullReview
namespace Files

/-! ## Looking up -/

theorem get?_putEntry (fs : Files) (names place : List String) (entry : FileEntry) :
    (fs.putEntry names entry).get? place = if place = names then some entry else fs.get? place := by
  rw [get?, putEntry, find?_putBy]
  split_ifs <;> rfl

theorem get?_filter (fs : Files) (keep : List String × FileEntry → Bool) (place : List String)
    (h : ∀ entry, keep (place, entry) = true) : get? ⟨fs.entries.filter keep⟩ place = fs.get? place := by
  simp only [get?, List.find?_filter]
  congr 2
  funext e
  by_cases he : e.1 = place
  · obtain ⟨names, entry⟩ := e
    obtain rfl : names = place := he
    simp [h entry]
  · simp [he]

theorem get?_emptied (fs : Files) {dir place : List String} (h : place ≠ dir) :
    get? ⟨fs.entries.map (emptied dir)⟩ place = fs.get? place := by
  simp only [get?, List.find?_map, Option.map_map]
  refine Option.map_congr fun e he => ?_
  have hfound := List.find?_some he
  have hplace : e.1 = place := of_decide_eq_true hfound
  simp [emptied, hplace, h]

theorem not_isInside {dir names : List String} (h : ¬ dir <+: names) : isInside dir names = false := by
  have hbelow : dir.isPrefixOf names = false := by
    rw [Bool.eq_false_iff]
    exact fun hp => h (List.isPrefixOf_iff_prefix.1 hp)
  rw [isInside, hbelow, Bool.false_and]

theorem get?_clear (fs : Files) {dir place : List String} (h : ¬ dir <+: place) :
    (fs.clear dir).get? place = fs.get? place := by
  have hne : place ≠ dir := fun he => h (he ▸ List.prefix_rfl)
  refine (get?_emptied ⟨fs.entries.filter fun e => !isInside dir e.1⟩ hne).trans ?_
  exact get?_filter fs _ place fun _ => by rw [not_isInside h]; rfl

theorem get?_remove (fs : Files) {dir place : List String} (h : ¬ dir <+: place) :
    (fs.remove dir).get? place = fs.get? place :=
  get?_filter fs _ place fun _ => by
    have hne : place ≠ dir := fun he => h (he ▸ List.prefix_rfl)
    simp [not_isInside h, hne]

/-- **Removing what a direct path leads to leaves everything that is not below it.** -/
theorem removeTree_get? {p : Path} (h : p.IsDirect) (s : Session Files) {place : List String}
    (hplace : ¬ p.place <+: place) : ((removeTree p).perform s).2.state.get? place = s.state.get? place := by
  rw [removeTree, Run.perform_bind_ok (Run.perform_state s)]
  cases hfind : s.state.find p.toString with
  | directory found =>
    obtain rfl := find_direct_place h hfind
    simp only
    rw [Run.perform_bind_ok (Run.perform_update _ s)]
    have hclear := get?_clear s.state hplace
    split_ifs with hdot
    · exact hclear
    · rw [Run.perform_bind_ok (Run.perform_state _)]
      split_ifs with hstill
      · exact (get?_remove _ hplace).trans hclear
      · exact hclear
  | _ => rfl

/-! ## One entry more -/

theorem keepsTo_putEntry (names : List String) (fs : Files) {place : List String} {entry : FileEntry}
    (h : ∀ kind, fs.kindAt place = some kind → (fs.putEntry place entry).kindAt place = some kind) :
    KeepsTo names fs (fs.putEntry place entry) := by
  intro at_ _ kind hkind
  by_cases hat : at_ = place
  · exact hat ▸ h kind (hat ▸ hkind)
  · rw [kindAt, get?_putEntry, if_neg hat]
    exact hkind

/-- **Making a directory**: it fails and changes nothing, or there is one more directory, at a name that was free. -/
theorem perform_makeDirectory (p : Path) (s : Session Files) :
    (∃ cause, (makeDirectory p).perform s = (.error cause, s)) ∨
      ∃ above name, s.state.destination p = .ok (above, some name) ∧ name ≠ ".." ∧ ¬ nameLimit < name.utf8ByteSize ∧
        s.state.get? (above ++ [name]) = none ∧
        (makeDirectory p).perform s = (.ok (), { s with state := s.state.putEntry (above ++ [name]) .directory }) := by
  rw [makeDirectory, Run.perform_bind_ok (Run.perform_state s)]
  cases hdest : s.state.destination p with
  | error cause => exact Or.inl ⟨cause, Run.perform_bind_error (Run.perform_of _ s) _⟩
  | ok found =>
    obtain ⟨above, last⟩ := found
    rw [Run.perform_bind_ok (Run.perform_of _ s)]
    cases last with
    | none => exact Or.inl ⟨_, rfl⟩
    | some name =>
      simp only
      split_ifs with hup hlong
      · exact Or.inl ⟨_, rfl⟩
      · exact Or.inl ⟨_, rfl⟩
      · rw [Run.perform_bind_ok (Run.perform_state s)]
        cases hget : s.state.get? (above ++ [name]) with
        | some entry => exact Or.inl ⟨_, rfl⟩
        | none => exact Or.inr ⟨above, name, rfl, hup, hlong, hget, rfl⟩

/-- **Writing a file**: it fails and changes nothing, or there is a file where no directory was found. -/
theorem perform_write (p : Path) (bytes : List UInt8) (s : Session Files) :
    (∃ cause, (write p bytes).perform s = (.error cause, s)) ∨
      ∃ above name, s.state.destination p = .ok (above, some name) ∧ s.state.isDirectory p = false ∧
        ¬ nameLimit < name.utf8ByteSize ∧
        (write p bytes).perform s = (.ok (), { s with state := s.state.putEntry (above ++ [name]) (.file bytes) }) := by
  rw [write, Run.perform_bind_ok (Run.perform_state s)]
  cases hdest : s.state.destination p with
  | error cause => exact Or.inl ⟨cause, Run.perform_bind_error (Run.perform_of _ s) _⟩
  | ok found =>
    obtain ⟨above, last⟩ := found
    rw [Run.perform_bind_ok (Run.perform_of _ s)]
    cases last with
    | none => exact Or.inl ⟨_, rfl⟩
    | some name =>
      simp only
      rw [Run.perform_bind_ok (Run.perform_state s)]
      split_ifs with hdir hlong
      · exact Or.inl ⟨_, rfl⟩
      · exact Or.inl ⟨_, rfl⟩
      · exact Or.inr ⟨above, name, rfl, by simpa using hdir, hlong, rfl⟩

/-- **A destination**: the path can be written, and the walk to its last name ends in a directory. -/
theorem destination_eq_ok {p : Path} {fs : Files} {above : List String} {name : String}
    (h : fs.destination p = .ok (above, some name)) :
    p.names = p.names.dropLast ++ [name] ∧
      p.toString.toList.contains '\x00' = false ∧ ¬ pathLimit < p.toString.utf8ByteSize ∧
      fs.walk (startOf p.isAbsolute) p.names.dropLast = .directory above := by
  rw [destination] at h
  by_cases hnull : p.toString.toList.contains '\x00' = true
  · rw [if_pos hnull] at h
    cases h
  by_cases hlong : pathLimit < p.toString.utf8ByteSize
  · rw [if_neg hnull, if_pos hlong] at h
    cases h
  rw [if_neg hnull, if_neg hlong] at h
  split at h
  case h_1 found hwalk =>
    obtain ⟨rfl, hlast⟩ := Prod.mk.inj (Except.ok.inj h)
    obtain ⟨ys, hys⟩ := List.getLast?_eq_some_iff.1 hlast
    exact ⟨by rw [hys, List.dropLast_concat], by simpa using hnull, hlong, hwalk⟩
  all_goals cases h

/-- What a clean path leads to is found in the directory above its destination. -/
theorem find_of_destination {p : Path} (hclean : p.IsClean) {fs fs' : Files} {above : List String} {name : String}
    (h : fs.destination p = .ok (above, some name))
    (hwalk : fs'.walk (startOf p.isAbsolute) p.names.dropLast = .directory above) :
    Path.IsName name ∧ fs'.find p.toString = fs'.walk above [name] := by
  obtain ⟨hnames, hnull, hfits, -⟩ := destination_eq_ok h
  refine ⟨hclean.name name (by rw [hnames]; simp), ?_⟩
  rw [find_eq_walk hclean, hnull, if_neg (by decide), if_neg hfits, hnames, walk_append [name] _ hwalk]

/-! ## Nothing is lost -/

theorem makeDirectory_keeps (names : List String) (fs : Files) (p : Path) :
    (makeDirectory p).Preserves (KeepsTo names fs) := by
  intro s hs
  rcases perform_makeDirectory p s with ⟨cause, h⟩ | ⟨above, name, -, -, -, hfree, h⟩
  · rw [h]
    exact hs
  · rw [h]
    exact hs.trans (keepsTo_putEntry names s.state fun kind hkind => by simp [kindAt, hfree] at hkind)

/-- Making a way of directories preserves what making each of them does. -/
theorem makeBackwards_preserves {P : Files → Prop} (mayBeThere : Bool) (root : String) : ∀ backwards : List String,
    (∀ names, names <+: backwards.reverse → (makeDirectory ⟨root, names⟩).Preserves P) →
    (makeBackwards mayBeThere root backwards).Preserves P
  | [], _ => by
    rw [makeBackwards]
    split
    · exact Run.Preserves.pure ()
    · exact Run.Preserves.throw _
  | name :: above, hstep => by
    have hmake : ((makeDirectory ⟨root, (name :: above).reverse⟩).orElse fun cause => do
        if mayBeThere && (← Run.state).isDirectory ⟨root, (name :: above).reverse⟩ then pure ()
        else throw cause).Preserves P := by
      refine (hstep _ List.prefix_rfl).orElse fun cause => Run.Preserves.state.bind fun t => ?_
      split
      · exact Run.Preserves.pure ()
      · exact Run.Preserves.throw _
    have habove : (unlessThere (makeBackwards mayBeThere root above)).Preserves P := by
      rw [List.reverse_cons] at hstep
      refine (makeBackwards_preserves mayBeThere root above fun names hnames =>
        hstep names (hnames.trans (List.prefix_append _ _))).orElse fun cause => ?_
      split
      · exact Run.Preserves.pure ()
      · exact Run.Preserves.throw _
    rw [makeBackwards]
    refine Run.Preserves.state.bind fun t => ?_
    split
    · exact habove.bind fun _ => hmake
    · exact hmake

theorem makeBackwards_keeps (names : List String) (fs : Files) (mayBeThere : Bool) (root : String)
    (backwards : List String) : (makeBackwards mayBeThere root backwards).Preserves (KeepsTo names fs) :=
  makeBackwards_preserves mayBeThere root backwards fun _ _ => makeDirectory_keeps names fs _

/-- Where a path that leads to no directory ends, there is none. -/
theorem not_isDirectoryAt {p : Path} (hclean : p.IsClean) {fs : Files} {above : List String} {name : String}
    (hdest : fs.destination p = .ok (above, some name)) (hlong : ¬ nameLimit < name.utf8ByteSize)
    (hdir : fs.isDirectory p = false) : ¬ fs.IsDirectoryAt (above ++ [name]) := by
  rintro ⟨origin, hget⟩
  obtain ⟨hname, hfind⟩ := find_of_destination hclean hdest (destination_eq_ok hdest).2.2.2
  rw [isDirectory, hfind, walk, if_neg (by simp [hname.1, hname.2.1])] at hdir
  by_cases hup : name = ".."
  · rw [if_pos hup, walk] at hdir
    cases hdir
  · rw [if_neg hup, if_neg hlong, hget] at hdir
    cases hdir

theorem write_keeps (names : List String) (fs : Files) {p : Path} (hclean : p.IsClean) (bytes : List UInt8) :
    (write p bytes).Preserves (KeepsTo names fs) := by
  intro s hs
  rcases perform_write p bytes s with ⟨cause, h⟩ | ⟨above, name, hdest, hdir, hlong, h⟩
  · rw [h]
    exact hs
  · rw [h]
    refine hs.trans (keepsTo_putEntry names s.state fun kind hkind => ?_)
    -- only a file can be there
    have hnone := not_isDirectoryAt hclean hdest hlong hdir
    rw [kindAt, get?_putEntry, if_pos rfl]
    rw [kindAt] at hkind
    rcases hget : s.state.get? (above ++ [name]) with _ | _ | origin <;> rw [hget] at hkind
    · cases hkind
    · exact hkind
    · exact absurd ⟨origin, hget⟩ hnone

theorem bring_keeps (names : List String) (fs : Files) {p : Path} (hclean : p.IsClean) (entry : FileEntry) :
    (bring p entry).Preserves (KeepsTo names fs) := by
  cases entry with
  | directory _ => exact makeBackwards_keeps names fs true p.root _
  | file bytes => exact (makeBackwards_keeps names fs true p.root _).bind fun _ => write_keeps names fs hclean bytes

/-! ## What was made is there -/

theorem isDirectory_eq_true_iff (fs : Files) (p : Path) :
    fs.isDirectory p = true ↔ ∃ place, fs.find p.toString = .directory place := by
  rw [isDirectory]
  cases fs.find p.toString <;> simp

/-- A directory that is put takes no other one away. -/
theorem isDirectoryAt_putEntry {fs : Files} (names : List String) (origin : Option String) {place : List String}
    (h : fs.IsDirectoryAt place) : (fs.putEntry names (.directory origin)).IsDirectoryAt place := by
  rw [IsDirectoryAt, get?_putEntry]
  split_ifs
  · exact ⟨origin, rfl⟩
  · exact h

/-- **A directory that was made is there.** -/
theorem makeDirectory_isDirectory {p : Path} (hclean : p.IsClean) {s t : Session Files}
    (h : (makeDirectory p).perform s = (.ok (), t)) : t.state.isDirectory p = true := by
  rcases perform_makeDirectory p s with ⟨cause, hfails⟩ | ⟨above, name, hdest, hup, hlong, hfree, hmade⟩
  · rw [hfails] at h
    cases h
  · rw [hmade] at h
    cases h
    have hkept := walk_directory_mono (fun _ => isDirectoryAt_putEntry (above ++ [name]) none) _
      (destination_eq_ok hdest).2.2.2
    obtain ⟨hname, hfind⟩ := find_of_destination hclean hdest hkept
    refine (isDirectory_eq_true_iff _ _).2 ⟨above ++ [name], ?_⟩
    rw [hfind, walk_cons _ above ⟨hname.1, hname.2.1, hup⟩, if_neg hlong, get?_putEntry, if_pos rfl]
    rfl

theorem makeNew_isDirectory {p : Path} (hclean : p.IsClean) {s t : Session Files}
    (h : (makeNew p).perform s = (.ok (), t)) : t.state.isDirectory p = true := by
  have hmade (u : Session Files) (hu : ((makeDirectory p).orElse fun cause => do
      if false && (← Run.state).isDirectory p then pure () else throw cause).perform u = (.ok (), t)) :
      t.state.isDirectory p = true := by
    rw [Run.perform_orElse] at hu
    rcases hres : (makeDirectory p).perform u with ⟨_ | _, v⟩ <;> rw [hres] at hu <;> cases hu
    exact makeDirectory_isDirectory hclean hres
  rw [makeNew] at h
  cases hback : p.names.reverse with
  | nil =>
    rw [hback, makeBackwards] at h
    cases h
  | cons name above =>
    have hpath : (⟨p.root, (name :: above).reverse⟩ : Path) = p := by rw [← hback, List.reverse_reverse]
    rw [hback, makeBackwards, hpath, Run.perform_bind_ok (Run.perform_state s)] at h
    split at h
    · obtain ⟨_, u, -, hu⟩ := (Run.perform_bind_eq_ok_iff _ _ _ _ _).1 h
      exact hmade u hu
    · exact hmade s h

/-! ## Clones -/

/-- **A directory that becomes a clone has its origin.** -/
theorem origin?_setOrigin {fs : Files} {p : Path} (h : fs.isDirectory p = true) (url : String) :
    (fs.setOrigin p.toString url).origin? p.toString = some url := by
  obtain ⟨place, hfind⟩ := (isDirectory_eq_true_iff fs p).1 h
  have hset : fs.setOrigin p.toString url = fs.putEntry place (.directory (some url)) := by rw [setOrigin, hfind]
  refine (origin?_eq_some_iff _ _ _).2 ⟨place, ?_, by rw [hset, get?_putEntry, if_pos rfl]⟩
  rw [hset]
  rw [find] at hfind ⊢
  split_ifs at hfind ⊢
  exact walk_directory_mono (fun _ => isDirectoryAt_putEntry place (some url)) _ hfind

theorem setOrigin_get? {p : Path} (h : p.IsDirect) (fs : Files) (url : String) {place : List String}
    (hplace : place ≠ p.place) : (fs.setOrigin p.toString url).get? place = fs.get? place := by
  rw [setOrigin]
  split
  · rename_i found hfind
    obtain rfl := find_direct_place h hfind
    rw [get?_putEntry, if_neg hplace]
  · rfl

end Files
end PullReview
