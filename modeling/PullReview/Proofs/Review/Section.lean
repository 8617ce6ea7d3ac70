import PullReview.Proofs.Keyed
import PullReview.Review.Summary
/-!
# What a section shows of its entries

A section shows its entries by rank and file, with their lines, descriptions and current code.  A change to anything else
is not seen (`issuePart_map`).  Files may also be told apart in another way, as long as no two of one rank become one.
-/
namespace PullReview
namespace Review

/-- A change of entries that a section does not show: `rekey` tells the files of each rank apart. -/
structure IsUnseen (f : Entry → Entry) (rekey : Rank → Place → Place) : Prop where
  file : ∀ e, (f e).file = rekey e.rank e.file
  path : ∀ rank place, (rekey rank place).path = place.path
  line : ∀ e, (f e).line = e.line
  rank : ∀ e, (f e).rank = e.rank
  description : ∀ e, (f e).description = e.description
  current : ∀ e, (f e).current = e.current

def KeepsApart (f : Entry → Entry) (entries : List Entry) : Prop :=
  ∀ a ∈ entries, ∀ b ∈ entries, a.rank = b.rank → (f a).file = (f b).file → a.file = b.file

section Unseen

variable {f : Entry → Entry} {rekey : Rank → Place → Place} (h : IsUnseen f rekey)

include h

theorem ofRank_map (rank : Rank) (entries : List Entry) : ofRank rank (entries.map f) = (ofRank rank entries).map f := by
  unfold ofRank
  rw [List.filter_map]
  simp only [Function.comp_def, h.rank]

theorem hasCritical_map (entries : List Entry) : hasCritical (entries.map f) = hasCritical entries := by
  rw [hasCritical, ofRank_map h, List.isEmpty_map, hasCritical]

theorem impact_map (entries : List Entry) : impact (entries.map f) = impact entries := by
  unfold impact
  rw [List.length_map, ← List.map_take, List.map_map]
  simp only [Function.comp_def, h.description]

theorem fileBlock_map (path : String) (entries : List Entry) : fileBlock path (entries.map f) = fileBlock path entries := by
  have hline : codeLine? ∘ f = codeLine? := funext fun e => by
    rw [Function.comp_apply, codeLine?, h.current, h.line, codeLine?]
  rw [fileBlock, List.filterMap_map, hline, fileBlock]

theorem rankBlock_map {rank : Rank} {entries : List Entry} (hrank : ∀ e ∈ entries, e.rank = rank)
    (hfiles : KeepsApart f entries) : rankBlock rank (entries.map f) = rankBlock rank entries := by
  have hgroups : groupBy (·.file) (entries.map f) =
      (groupBy (·.file) entries).map fun g => (rekey rank g.1, g.2.map f) := by
    have hkey : ∀ e ∈ entries, (f e).file = rekey rank e.file := fun e he => by rw [h.file, hrank e he]
    refine groupBy_map f (rekey rank) hkey fun a ha b hb hab => hfiles a ha b hb ((hrank a ha).trans (hrank b hb).symm) ?_
    rw [hkey a ha, hkey b hb, hab]
  unfold rankBlock
  rw [List.length_map, impact_map h, hgroups, List.flatMap_map]
  simp only [fileBlock_map h, h.path]

theorem rankBlocks_map {entries : List Entry} (hfiles : KeepsApart f entries) :
    rankBlocks (entries.map f) = rankBlocks entries := by
  unfold rankBlocks
  refine List.filterMap_congr fun rank _ => ?_
  have hblock : rankBlock rank ((ofRank rank entries).map f) = rankBlock rank (ofRank rank entries) :=
    rankBlock_map h (fun e he => of_decide_eq_true (List.mem_filter.1 he).2) fun a ha b hb =>
      hfiles a (List.mem_filter.1 ha).1 b (List.mem_filter.1 hb).1
  rw [ofRank_map h]
  cases hgroup : ofRank rank entries with
  | nil => rfl
  | cons e rest =>
    rw [hgroup] at hblock
    exact congrArg some hblock

/-- **A section does not show the change.** -/
theorem issuePart_map {entries : List Entry} (hfiles : KeepsApart f entries) (title topic : String) :
    issuePart title topic (entries.map f) = issuePart title topic entries := by
  have hparts : sectionParts (entries.map f) topic = sectionParts entries topic := by
    simp only [sectionParts, alert, tip, hasCritical_map h, rankBlocks_map h hfiles, List.length_map]
  simp only [issuePart, severitySection, List.isEmpty_map, hparts]

end Unseen

end Review
end PullReview
