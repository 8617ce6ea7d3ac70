import Mathlib.Data.List.Forall2
import PullReview.Run
/-!
# What runs do

A run is a function of the session it starts in: first what each way of putting runs together makes of a session.  Then
three notions that are carried through whole programs step by step: a run *preserves* a property of the state when the
property holds after it whenever it held before, also when the run fails (`Run.Preserves`), a run *tells* when all that
it does is to come to a result and say some lines, the same from everywhere (`Run.Tells`), and a run *succeeds* when it
never fails (`Run.Succeeds`).
-/
namespace PullReview
namespace Run

variable {σ τ α β : Type}

/-- The result of a run from a session, and the session it leaves. -/
def perform (act : Run σ α) (s : Session σ) : Except Fault α × Session σ := act s

theorem start_eq (act : Run σ α) (s : σ) : act.start s = act.perform ⟨s, []⟩ := rfl

/-! ## One step -/

@[simp] theorem perform_pure (a : α) (s : Session σ) : perform (pure a) s = (.ok a, s) := rfl

@[simp] theorem perform_throw (f : Fault) (s : Session σ) : perform (throw f : Run σ α) s = (.error f, s) := rfl

@[simp] theorem perform_say (line : String) (s : Session σ) :
    perform (say line) s = (.ok (), { s with console := s.console ++ [line] }) := rfl

@[simp] theorem perform_state (s : Session σ) : perform state s = (.ok s.state, s) := rfl

@[simp] theorem perform_update (f : σ → σ) (s : Session σ) :
    perform (update f) s = (.ok (), { s with state := f s.state }) := rfl

@[simp] theorem perform_of (r : Except Fault α) (s : Session σ) : perform (of r) s = (r, s) := by cases r <;> rfl

theorem perform_bind (x : Run σ α) (f : α → Run σ β) (s : Session σ) :
    perform (x >>= f) s = match x.perform s with
      | (.ok a, t) => (f a).perform t
      | (.error e, t) => (.error e, t) := by
  show (ExceptT.bind x f) s = _
  simp only [ExceptT.bind, ExceptT.mk, bind, StateT.bind, ExceptT.bindCont, perform]
  rcases x s with ⟨_ | a, t⟩ <;> rfl

theorem perform_orElse (act : Run σ α) (handler : Fault → Run σ α) (s : Session σ) :
    (act.orElse handler).perform s = match act.perform s with
      | (.ok a, t) => (.ok a, t)
      | (.error e, t) => (handler e).perform t := by
  show (ExceptT.tryCatch act handler) s = _
  simp only [ExceptT.tryCatch, ExceptT.mk, bind, StateT.bind, perform]
  rcases act s with ⟨_ | a, t⟩ <;> rfl

theorem perform_within (part : τ → σ) (put : σ → τ → τ) (act : Run σ α) (s : Session τ) :
    (act.within part put).perform s =
      ((act.perform ⟨part s.state, s.console⟩).1,
        ⟨put (act.perform ⟨part s.state, s.console⟩).2.state s.state,
          (act.perform ⟨part s.state, s.console⟩).2.console⟩) := rfl

theorem perform_bind_ok {x : Run σ α} {s t : Session σ} {a : α} (h : x.perform s = (.ok a, t)) (f : α → Run σ β) :
    perform (x >>= f) s = (f a).perform t := by rw [perform_bind, h]

theorem perform_bind_error {x : Run σ α} {s t : Session σ} {e : Fault} (h : x.perform s = (.error e, t))
    (f : α → Run σ β) : perform (x >>= f) s = (.error e, t) := by rw [perform_bind, h]

theorem of_ok_bind (a : α) (f : α → Run σ β) : (of (.ok a) >>= f) = f a := rfl

theorem perform_bind_pure_snd (x : Run σ α) (g : α → β) (s : Session σ) :
    (perform (x >>= fun a => pure (g a)) s).2 = (x.perform s).2 := by
  rw [perform_bind]
  rcases x.perform s with ⟨_ | _, t⟩ <;> rfl

/-- **A sequence that succeeded, unpacked**: its first part did, and then the rest. -/
theorem perform_bind_eq_ok_iff (x : Run σ α) (f : α → Run σ β) (s t : Session σ) (b : β) :
    perform (x >>= f) s = (.ok b, t) ↔ ∃ a u, x.perform s = (.ok a, u) ∧ (f a).perform u = (.ok b, t) := by
  rw [perform_bind]
  rcases x.perform s with ⟨_ | a, u⟩
  · simp
  · constructor
    · intro h
      exact ⟨a, u, rfl, h⟩
    · rintro ⟨a', u', heq, h⟩
      cases heq
      exact h

/-- Steps that leave the session alone, one after the other. -/
theorem perform_mapEach {f : α → Run σ β} {g : α → β} {s : Session σ} :
    ∀ {xs : List α}, (∀ a ∈ xs, (f a).perform s = (.ok (g a), s)) → (mapEach f xs).perform s = (.ok (xs.map g), s)
  | [], _ => rfl
  | a :: xs, hf => by
    have hrest := perform_mapEach fun b hb => hf b (List.mem_cons_of_mem a hb)
    rw [mapEach, perform_bind_ok (hf a List.mem_cons_self), perform_bind_ok hrest]
    rfl

/-- When each item's result can be told beforehand, faults included, so can that of all. -/
theorem mapEach_mapM {f : α → Run σ β} {g : α → Except Fault β} (hf : ∀ a s, ((f a).perform s).1 = g a) :
    ∀ (xs : List α) (s : Session σ), ((mapEach f xs).perform s).1 = xs.mapM g
  | [], _ => rfl
  | a :: rest, s => by
    have hfirst : (f a).perform s = (g a, ((f a).perform s).2) := Prod.ext (hf a s) rfl
    rw [mapEach, List.mapM_cons]
    cases hg : g a with
    | error cause =>
      rw [hg] at hfirst
      rw [perform_bind_error hfirst]
      rfl
    | ok b =>
      rw [hg] at hfirst
      have hrest := mapEach_mapM hf rest ((f a).perform s).2
      rw [perform_bind_ok hfirst, perform_bind, ← hrest]
      rcases (mapEach f rest).perform ((f a).perform s).2 with ⟨_ | _, t⟩ <;> rfl

theorem mapEach_result {f : α → Run σ β} {g : α → β} (hf : ∀ a s, ((f a).perform s).1 = .ok (g a))
    (xs : List α) (s : Session σ) : ((mapEach f xs).perform s).1 = .ok (xs.map g) := by
  rw [mapEach_mapM hf]
  exact List.mapM_pure

theorem mapEach_map {γ : Type} (f : β → Run σ γ) (k : α → β) (xs : List α) :
    mapEach f (xs.map k) = mapEach (fun a => f (k a)) xs := by
  induction xs with
  | nil => rfl
  | cons a rest ih => rw [List.map_cons, mapEach, mapEach, ih]

theorem each_map (f : β → Run σ Unit) (k : α → β) (xs : List α) :
    each f (xs.map k) = each (fun a => f (k a)) xs := by
  induction xs with
  | nil => rfl
  | cons a rest ih => rw [List.map_cons, each, each, ih]

theorem ok_of_bind {x : Except Fault α} {f : α → Except Fault β} {b : β} (h : (x >>= f) = .ok b) :
    ∃ a, x = .ok a ∧ f a = .ok b := by
  cases x with
  | error e => cases h
  | ok a => exact ⟨a, rfl, h⟩

/-- A list that is gone through without a fault: each item has its result. -/
theorem forall₂_of_mapM {f : α → Except Fault β} {xs : List α} {ys : List β} (h : xs.mapM f = .ok ys) :
    List.Forall₂ (fun x y => f x = .ok y) xs ys := by
  induction xs generalizing ys with
  | nil =>
    cases h
    exact .nil
  | cons x rest ih =>
    rw [List.mapM_cons] at h
    obtain ⟨y, hy, h⟩ := ok_of_bind h
    obtain ⟨more, hmore, h⟩ := ok_of_bind h
    cases h
    exact .cons hy (ih hmore)

theorem exists_of_forall₂ {R : α → β → Prop} {xs : List α} {ys : List β} {y : β} (h : List.Forall₂ R xs ys) (hy : y ∈ ys) :
    ∃ x ∈ xs, R x y := by
  induction h with
  | nil => cases hy
  | cons hxz _ ih =>
    rcases List.mem_cons.1 hy with rfl | hy
    · exact ⟨_, List.mem_cons_self, hxz⟩
    · obtain ⟨x, hx, hxy⟩ := ih hy
      exact ⟨x, List.mem_cons_of_mem _ hx, hxy⟩

/-- A list that is gone through to its end, or to the first item with a fault. -/
theorem mapM_ok_or_first_error (f : α → Except Fault β) (xs : List α) :
    (∃ ys, xs.mapM f = .ok ys) ∨ ∃ x ∈ xs, ∃ cause, f x = .error cause ∧ xs.mapM f = .error cause := by
  induction xs with
  | nil => exact .inl ⟨[], rfl⟩
  | cons x rest ih =>
    rw [List.mapM_cons]
    cases hx : f x with
    | error cause => exact .inr ⟨x, List.mem_cons_self, cause, hx, rfl⟩
    | ok y =>
      rcases ih with ⟨ys, hys⟩ | ⟨z, hz, cause, hcause, hrest⟩
      · rw [hys]
        exact .inl ⟨y :: ys, rfl⟩
      · rw [hrest]
        exact .inr ⟨z, List.mem_cons_of_mem x hz, cause, hcause, rfl⟩

theorem ok_of_mapM {f : α → Except Fault β} {xs : List α} {ys : List β} (h : xs.mapM f = .ok ys) :
    ∀ x ∈ xs, ∃ y, f x = .ok y := by
  have hall := forall₂_of_mapM h
  clear h
  induction hall with
  | nil => exact List.forall_mem_nil _
  | cons hxy _ ih => exact List.forall_mem_cons.2 ⟨⟨_, hxy⟩, ih⟩

theorem mapM_eq_ok {f : α → Except Fault β} {g : α → β} {xs : List α} (h : ∀ x ∈ xs, f x = .ok (g x)) :
    xs.mapM f = .ok (xs.map g) := by
  induction xs with
  | nil => rfl
  | cons x rest ih =>
    rw [List.mapM_cons, h x List.mem_cons_self, ih fun y hy => h y (List.mem_cons_of_mem x hy)]
    rfl

/-- One fault for all items that have any. -/
theorem mapM_ok_or_error {f : α → Except Fault β} {bad : α → Prop} {cause : Fault} {xs : List α}
    (hgood : ∀ x ∈ xs, ¬ bad x → ∃ y, f x = .ok y) (hbad : ∀ x ∈ xs, bad x → f x = .error cause) :
    ((∃ ys, xs.mapM f = .ok ys) ∧ ∀ x ∈ xs, ¬ bad x) ∨ (xs.mapM f = .error cause ∧ ∃ x ∈ xs, bad x) := by
  rcases mapM_ok_or_first_error f xs with ⟨ys, hys⟩ | ⟨x, hx, cause', hcause, herror⟩
  · refine .inl ⟨⟨ys, hys⟩, fun x hx hxbad => ?_⟩
    obtain ⟨y, hy⟩ := ok_of_mapM hys x hx
    rw [hbad x hx hxbad] at hy
    cases hy
  · have hxbad : bad x := Classical.byContradiction fun hxgood => by
      obtain ⟨y, hy⟩ := hgood x hx hxgood
      rw [hcause] at hy
      cases hy
    rw [hbad x hx hxbad] at hcause
    cases hcause
    exact .inr ⟨herror, x, hx, hxbad⟩

/-! ## Properties that stay -/

/-- The property holds after the run whenever it held before, whether the run succeeds or fails. -/
def Preserves (P : σ → Prop) (act : Run σ α) : Prop := ∀ s : Session σ, P s.state → P (act.perform s).2.state

namespace Preserves

variable {P : σ → Prop}

theorem after {act : Run σ α} (h : Preserves P act) {s t : Session σ} {r : Except Fault α}
    (hrun : act.perform s = (r, t)) (hs : P s.state) : P t.state := by
  have hafter := h s hs
  rwa [hrun] at hafter

theorem pure (a : α) : Preserves P (pure a : Run σ α) := fun _ h => h

theorem throw (f : Fault) : Preserves P (throw f : Run σ α) := fun _ h => h

theorem say (line : String) : Preserves P (Run.say line : Run σ Unit) := fun _ h => h

theorem state : Preserves P (Run.state : Run σ σ) := fun _ h => h

theorem of (r : Except Fault α) : Preserves P (Run.of r : Run σ α) := fun s h => by rw [perform_of]; exact h

theorem update {f : σ → σ} (h : ∀ s, P s → P (f s)) : Preserves P (Run.update f) := fun s hs => h s.state hs

theorem bind {x : Run σ α} {f : α → Run σ β} (hx : Preserves P x) (hf : ∀ a, Preserves P (f a)) :
    Preserves P (x >>= f) := fun s hs => by
  have hs := hx s hs
  rw [perform_bind]
  rcases hres : x.perform s with ⟨_ | a, t⟩ <;> rw [hres] at hs
  · exact hs
  · exact hf a t hs

theorem orElse {act : Run σ α} {handler : Fault → Run σ α} (hact : Preserves P act)
    (hhandler : ∀ e, Preserves P (handler e)) : Preserves P (act.orElse handler) := fun s hs => by
  have hs := hact s hs
  rw [perform_orElse]
  rcases hres : act.perform s with ⟨e | _, t⟩ <;> rw [hres] at hs
  · exact hhandler e t hs
  · exact hs

theorem each_of_mem {f : α → Run σ Unit} : ∀ {xs : List α}, (∀ a ∈ xs, Preserves P (f a)) → Preserves P (Run.each f xs)
  | [], _ => pure ()
  | a :: _, hf => (hf a List.mem_cons_self).bind fun _ => each_of_mem fun b hb => hf b (List.mem_cons_of_mem a hb)

theorem each {f : α → Run σ Unit} (hf : ∀ a, Preserves P (f a)) (xs : List α) : Preserves P (Run.each f xs) :=
  each_of_mem fun a _ => hf a

theorem mapEach {f : α → Run σ β} (hf : ∀ a, Preserves P (f a)) : ∀ xs : List α, Preserves P (Run.mapEach f xs)
  | [] => pure []
  | a :: rest => (hf a).bind fun _ => (mapEach hf rest).bind fun _ => pure _

/-- Work on a part preserves what hangs on that part alone and is preserved there, and what does not hang on it. -/
theorem within {Q : τ → Prop} {part : τ → σ} {put : σ → τ → τ} {act : Run σ α}
    (h : ∀ t : τ, Q t → Preserves (fun s => Q (put s t)) act) (hput : ∀ t : τ, Q t → Q (put (part t) t)) :
    Preserves Q (act.within part put) := fun s hs => h s.state hs ⟨part s.state, s.console⟩ (hput s.state hs)

end Preserves

/-! ## Runs that only tell -/

/-- The run leaves the state alone and does not look at it: from everywhere it has the same result and says the same. -/
def Tells (act : Run σ α) : Prop :=
  ∃ result lines, ∀ s : Session σ, act.perform s = (result, { s with console := s.console ++ lines })

namespace Tells

theorem preserves {act : Run σ α} (h : act.Tells) (P : σ → Prop) : act.Preserves P := fun s hs => by
  obtain ⟨result, lines, hrun⟩ := h
  rw [hrun]
  exact hs

/-- What a run that tells comes to from one session it comes to from every other. -/
theorem eq_ok {act : Run σ α} (h : act.Tells) {s : Session σ} {a : α} (hs : (act.perform s).1 = .ok a) (t : Session σ) :
    ∃ u, act.perform t = (.ok a, u) := by
  obtain ⟨result, lines, hrun⟩ := h
  rw [hrun] at hs
  exact ⟨_, (hrun t).trans (congrArg (·, _) hs)⟩

theorem of (r : Except Fault α) : (Run.of r : Run σ α).Tells :=
  ⟨r, [], fun s => by rw [perform_of, List.append_nil]⟩

theorem pure (a : α) : (pure a : Run σ α).Tells := of (.ok a)

theorem say (line : String) : (Run.say line : Run σ Unit).Tells := ⟨.ok (), [line], perform_say line⟩

theorem bind {x : Run σ α} {f : α → Run σ β} (hx : x.Tells) (hf : ∀ a, (f a).Tells) : (x >>= f).Tells := by
  obtain ⟨result, lines, hrun⟩ := hx
  cases result with
  | error cause => exact ⟨.error cause, lines, fun s => perform_bind_error (hrun s) f⟩
  | ok a =>
    obtain ⟨result, more, hrest⟩ := hf a
    exact ⟨result, lines ++ more, fun s => by rw [perform_bind_ok (hrun s), hrest, List.append_assoc]⟩

theorem orElse {act : Run σ α} {handler : Fault → Run σ α} (hact : act.Tells) (hhandler : ∀ e, (handler e).Tells) :
    (act.orElse handler).Tells := by
  obtain ⟨result, lines, hrun⟩ := hact
  cases result with
  | ok a => exact ⟨.ok a, lines, fun s => by rw [perform_orElse, hrun]⟩
  | error cause =>
    obtain ⟨result, more, hrest⟩ := hhandler cause
    refine ⟨result, lines ++ more, fun s => ?_⟩
    rw [perform_orElse, hrun]
    exact (hrest _).trans (by rw [List.append_assoc])

theorem mapEach {f : α → Run σ β} (hf : ∀ a, (f a).Tells) : ∀ xs : List α, (Run.mapEach f xs).Tells
  | [] => pure []
  | a :: rest => (hf a).bind fun _ => (mapEach hf rest).bind fun _ => pure _

end Tells

/-! ## Runs that cannot fail -/

/-- The run never fails, whatever it starts from. -/
def Succeeds (act : Run σ α) : Prop := ∀ s : Session σ, ∃ a, (act.perform s).1 = .ok a

namespace Succeeds

theorem eq_ok {act : Run σ α} (h : act.Succeeds) (s : Session σ) : ∃ a t, act.perform s = (.ok a, t) := by
  obtain ⟨a, ha⟩ := h s
  exact ⟨a, _, Prod.ext ha rfl⟩

theorem pure (a : α) : (pure a : Run σ α).Succeeds := fun _ => ⟨a, rfl⟩

theorem say (line : String) : (Run.say line : Run σ Unit).Succeeds := fun _ => ⟨(), rfl⟩

theorem bind {x : Run σ α} {f : α → Run σ β} (hx : x.Succeeds) (hf : ∀ a, (f a).Succeeds) : (x >>= f).Succeeds :=
  fun s => by
    obtain ⟨a, t, ha⟩ := hx.eq_ok s
    rw [perform_bind_ok ha]
    exact hf a t

theorem orElse (act : Run σ α) {handler : Fault → Run σ α} (h : ∀ e, (handler e).Succeeds) :
    (act.orElse handler).Succeeds := fun s => by
  rw [perform_orElse]
  rcases act.perform s with ⟨e | a, t⟩
  · exact h e t
  · exact ⟨a, rfl⟩

theorem each {f : α → Run σ Unit} (hf : ∀ a, (f a).Succeeds) : ∀ xs : List α, (Run.each f xs).Succeeds
  | [] => pure ()
  | a :: rest => (hf a).bind fun _ => each hf rest

theorem within {part : τ → σ} {put : σ → τ → τ} {act : Run σ α} (h : act.Succeeds) :
    (act.within part put).Succeeds := fun s => h ⟨part s.state, s.console⟩

end Succeeds
end Run
end PullReview
