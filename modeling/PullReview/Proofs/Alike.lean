import PullReview.Proofs.Run
/-!
# Two runs side by side

Two runs are *alike* under a relation on states when, from related states and with the same said so far, they come to
matching results, say the same and leave related states, also when they fail (`Run.Alike`).  What a run shows to the
outside can then be compared for two different states: one lemma for each way of putting runs together.
-/
namespace PullReview
namespace Run

variable {σ τ α β γ δ : Type}

/-- Both results are values that match, or both are the same fault. -/
inductive Matches (Q : α → β → Prop) : Except Fault α → Except Fault β → Prop where
  | ok {a : α} {b : β} (h : Q a b) : Matches Q (.ok a) (.ok b)
  | error (cause : Fault) : Matches Q (.error cause) (.error cause)

theorem Matches.refl (r : Except Fault α) : Matches Eq r r := by
  cases r with
  | error cause => exact .error cause
  | ok a => exact .ok rfl

theorem Matches.eq {r r' : Except Fault α} (h : Matches Eq r r') : r = r' := by
  cases h with
  | ok h => rw [h]
  | error cause => rfl

def Alike (R : σ → σ → Prop) (Q : α → β → Prop) (x : Run σ α) (y : Run σ β) : Prop :=
  ∀ s t : Session σ, R s.state t.state → s.console = t.console →
    Matches Q (x.perform s).1 (y.perform t).1 ∧ R (x.perform s).2.state (y.perform t).2.state ∧
      (x.perform s).2.console = (y.perform t).2.console

namespace Alike

variable {R : σ → σ → Prop} {Q : α → β → Prop}

theorem same (x : Run σ α) : Alike Eq Eq x x := by
  rintro ⟨s, console⟩ ⟨t, -⟩ rfl rfl
  exact ⟨.refl _, rfl, rfl⟩

theorem of_tells {x : Run σ α} (h : x.Tells) : Alike R Eq x x := by
  intro s t hstate hconsole
  obtain ⟨result, lines, hrun⟩ := h
  rw [hrun, hrun]
  exact ⟨.refl _, hstate, by rw [hconsole]⟩

theorem pure {a : α} {b : β} (h : Q a b) : Alike R Q (pure a : Run σ α) (pure b : Run σ β) :=
  fun _ _ hstate hconsole => ⟨.ok h, hstate, hconsole⟩

theorem throw (cause : Fault) : Alike R Q (throw cause : Run σ α) (throw cause : Run σ β) :=
  fun _ _ hstate hconsole => ⟨.error cause, hstate, hconsole⟩

theorem say (line : String) : Alike R Eq (Run.say line) (Run.say line) := of_tells (Tells.say line)

theorem of (r : Except Fault α) : Alike R Eq (Run.of r) (Run.of r) := of_tells (Tells.of r)

/-- The same, with where the value comes from. -/
theorem of_result (r : Except Fault α) : Alike R (fun a b => a = b ∧ r = .ok a) (Run.of r) (Run.of r) := by
  intro s t hstate hconsole
  rw [perform_of, perform_of]
  cases r with
  | error cause => exact ⟨.error cause, hstate, hconsole⟩
  | ok a => exact ⟨.ok ⟨rfl, rfl⟩, hstate, hconsole⟩

theorem state : Alike R R Run.state Run.state := fun _ _ hstate hconsole => ⟨.ok hstate, hstate, hconsole⟩

theorem update {f : σ → σ} (h : ∀ s t, R s t → R (f s) (f t)) : Alike R Eq (Run.update f) (Run.update f) :=
  fun _ _ hstate hconsole => ⟨.ok rfl, h _ _ hstate, hconsole⟩

theorem bind {S : γ → δ → Prop} {x : Run σ α} {y : Run σ β} {f : α → Run σ γ} {g : β → Run σ δ}
    (hx : Alike R Q x y) (hf : ∀ a b, Q a b → Alike R S (f a) (g b)) : Alike R S (x >>= f) (y >>= g) := by
  intro s t hstate hconsole
  obtain ⟨hmatches, hstate, hconsole⟩ := hx s t hstate hconsole
  rw [perform_bind, perform_bind]
  rcases hp : x.perform s with ⟨r, s'⟩
  rcases hq : y.perform t with ⟨r', t'⟩
  rw [hp, hq] at hmatches hstate hconsole
  -- either both go on or both stop here
  cases hmatches with
  | ok h => exact hf _ _ h s' t' hstate hconsole
  | error cause => exact ⟨.error cause, hstate, hconsole⟩

theorem orElse {x : Run σ α} {y : Run σ β} {handler : Fault → Run σ α} {handler' : Fault → Run σ β}
    (hx : Alike R Q x y) (hhandler : ∀ e, Alike R Q (handler e) (handler' e)) :
    Alike R Q (x.orElse handler) (y.orElse handler') := by
  intro s t hstate hconsole
  obtain ⟨hmatches, hstate, hconsole⟩ := hx s t hstate hconsole
  rw [perform_orElse, perform_orElse]
  rcases hp : x.perform s with ⟨r, s'⟩
  rcases hq : y.perform t with ⟨r', t'⟩
  rw [hp, hq] at hmatches hstate hconsole
  cases hmatches with
  | ok h => exact ⟨.ok h, hstate, hconsole⟩
  | error cause => exact hhandler cause s' t' hstate hconsole

theorem each {f : α → Run σ Unit} : ∀ {xs : List α}, (∀ a ∈ xs, Alike R Eq (f a) (f a)) →
    Alike R Eq (Run.each f xs) (Run.each f xs)
  | [], _ => pure rfl
  | a :: _, hf => (hf a List.mem_cons_self).bind fun _ _ _ => each fun b hb => hf b (List.mem_cons_of_mem a hb)

theorem mapEach {f : α → Run σ γ} : ∀ {xs : List α}, (∀ a ∈ xs, Alike R Eq (f a) (f a)) →
    Alike R Eq (Run.mapEach f xs) (Run.mapEach f xs)
  | [], _ => pure rfl
  | a :: _, hf => by
    refine (hf a List.mem_cons_self).bind fun b b' hb => ?_
    refine (mapEach fun c hc => hf c (List.mem_cons_of_mem a hc)).bind fun bs bs' hbs => ?_
    rw [hb, hbs]
    exact pure rfl

theorem within {R' : τ → τ → Prop} {part : σ → τ} {put : τ → σ → σ} {x : Run τ α} {y : Run τ β} (hx : Alike R' Q x y)
    (hpart : ∀ s t, R s t → R' (part s) (part t))
    (hput : ∀ s t u v, R s t → R' u v → R (put u s) (put v t)) :
    Alike R Q (x.within part put) (y.within part put) := by
  intro s t hstate hconsole
  obtain ⟨hmatches, hinner, hsaid⟩ :=
    hx ⟨part s.state, s.console⟩ ⟨part t.state, t.console⟩ (hpart _ _ hstate) hconsole
  exact ⟨hmatches, hput _ _ _ _ hstate hinner, hsaid⟩

end Alike
end Run
end PullReview
