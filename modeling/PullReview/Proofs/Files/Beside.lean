import PullReview.Proofs.Files.Keep
/-!
# What stays beside a directory

Work below a directory leaves everything beside it as it is, except that the directories above it are made if they are
missing (`SameBeside`).  Removing what is at a direct path is such work, and so is bringing entries to direct paths below
the directory (`bring_beside`).
-/
namespace PullReview
namespace Files

/-- Everything that is not below `dir` is as before, or a directory on the way to `dir` that was missing. -/
def SameBeside (dir : List String) (fs fs' : Files) : Prop :=
  ∀ place, ¬ dir <+: place → fs'.get? place = fs.get? place ∨
    (place <+: dir ∧ fs.get? place = none ∧ fs'.get? place = some .directory)

variable {dir : List String} {fs fs' fs'' : Files}

namespace SameBeside

theorem refl (dir : List String) (fs : Files) : SameBeside dir fs fs := fun _ _ => Or.inl rfl

theorem trans (h : SameBeside dir fs fs') (h' : SameBeside dir fs' fs'') : SameBeside dir fs fs'' := by
  intro place hplace
  rcases h place hplace with hsame | ⟨hway, hmissing, hmade⟩
  · rcases h' place hplace with hsame' | ⟨hway, hmissing, hmade⟩
    · exact Or.inl (hsame'.trans hsame)
    · exact Or.inr ⟨hway, hsame ▸ hmissing, hmade⟩
  · rcases h' place hplace with hsame' | ⟨-, hmissing', -⟩
    · exact Or.inr ⟨hway, hmissing, hsame'.trans hmade⟩
    · -- what was made once is not missing any more
      rw [hmade] at hmissing'
      cases hmissing'

theorem putEntry_below {place : List String} (h : dir <+: place) (entry : FileEntry) :
    SameBeside dir fs (fs.putEntry place entry) := by
  intro other hother
  have hne : other ≠ place := fun he => hother (he ▸ h)
  rw [get?_putEntry, if_neg hne]
  exact Or.inl rfl

theorem putEntry_above {place : List String} (h : place <+: dir) (hmissing : fs.get? place = none) :
    SameBeside dir fs (fs.putEntry place .directory) := by
  intro other _
  rw [get?_putEntry]
  split_ifs with he
  · exact Or.inr ⟨he ▸ h, he ▸ hmissing, rfl⟩
  · exact Or.inl rfl

end SameBeside

theorem removeTree_beside {p : Path} (h : p.IsDirect) (fs : Files) :
    (removeTree p).Preserves (SameBeside p.place fs) := fun s hs =>
  hs.trans fun _ hplace => Or.inl (removeTree_get? h s hplace)

theorem setOrigin_beside {p : Path} (h : p.IsDirect) (url : String) (hs : SameBeside p.place fs fs') :
    SameBeside p.place fs (fs'.setOrigin p.toString url) :=
  hs.trans fun _ hplace => Or.inl (setOrigin_get? h fs' url fun he => hplace (he ▸ List.prefix_rfl))

/-! ## Making and writing -/

/-- The destination of a direct path is its place. -/
theorem destination_direct {p : Path} (h : p.IsDirect) {above : List String} {name : String}
    (hdest : fs.destination p = .ok (above, some name)) : above ++ [name] = p.place := by
  obtain ⟨hnames, -, -, hwalk⟩ := destination_eq_ok hdest
  have habove := walk_direct_place (h.of_prefix (List.dropLast_prefix p.names)) hwalk
  rw [habove, ← Path.place_append, ← hnames]

theorem makeDirectory_beside {p : Path} (h : p.IsDirect) (hway : dir <+: p.place ∨ p.place <+: dir) (fs : Files) :
    (makeDirectory p).Preserves (SameBeside dir fs) := by
  intro s hs
  rcases perform_makeDirectory p s with ⟨cause, hrun⟩ | ⟨above, name, hdest, -, -, hfree, hrun⟩
  · rw [hrun]
    exact hs
  · rw [hrun]
    rw [destination_direct h hdest] at hfree ⊢
    rcases hway with hbelow | habove
    · exact hs.trans (.putEntry_below hbelow _)
    · exact hs.trans (.putEntry_above habove hfree)

theorem make_beside (mayBeThere : Bool) {p : Path} (h : p.IsDirect) (hway : dir <+: p.place ∨ p.place <+: dir)
    (fs : Files) : (makeBackwards mayBeThere p.root p.names.reverse).Preserves (SameBeside dir fs) := by
  refine makeBackwards_preserves mayBeThere p.root _ fun names hnames => ?_
  rw [List.reverse_reverse] at hnames
  have hplace := Path.place_prefix p.root hnames
  refine makeDirectory_beside (h.of_prefix hnames) ?_ fs
  rcases hway with hbelow | habove
  · exact List.prefix_or_prefix_of_prefix hbelow hplace
  · exact Or.inr (hplace.trans habove)

theorem write_beside {p : Path} (h : p.IsDirect) (hbelow : dir <+: p.place) (bytes : List UInt8) (fs : Files) :
    (write p bytes).Preserves (SameBeside dir fs) := by
  intro s hs
  rcases perform_write p bytes s with ⟨cause, hrun⟩ | ⟨above, name, hdest, -, -, hrun⟩
  · rw [hrun]
    exact hs
  · rw [hrun]
    rw [destination_direct h hdest]
    exact hs.trans (.putEntry_below hbelow _)

/-- **Bringing an entry to a direct path below a directory leaves what is beside the directory.** -/
theorem bring_beside {p : Path} (h : p.IsDirect) (hbelow : dir <+: p.place) (entry : FileEntry) (fs : Files) :
    (bring p entry).Preserves (SameBeside dir fs) := by
  cases entry with
  | directory _ => exact make_beside true h (Or.inl hbelow) fs
  | file bytes =>
    have hway := List.prefix_or_prefix_of_prefix hbelow (Path.place_prefix p.root (List.dropLast_prefix p.names))
    exact Run.Preserves.bind (make_beside true (h.of_prefix (List.dropLast_prefix p.names)) hway fs) fun _ =>
      write_beside h hbelow bytes fs

end Files
end PullReview
