import PullReview.Proofs.Run
import PullReview.Webhook.Gate
/-!
# What passes the gate

A delivery announces a payload when its signature is that of its body, its event is about a pull request, and its body
is an object whose pull request, if it has one, is an object (`Announces`).  Every other delivery changes nothing
(`receive_of_not_announces`).  Of those that announce something, the ones with a review action are queued, the ones that
close a pull request remove what is in one directory, and the rest change nothing (`receive_of_announces`).  So the
queue is what the qualifying deliveries announced, in the order of their arrival (`receive_effects`).
-/
namespace PullReview
namespace Webhook

/-! ## Signatures -/

theorem toNat_lt_of_mem_hex : ∀ (width n : Nat) (c : Char), c ∈ Text.hex width n → c.toNat < 128
  | 0, _, _, h => absurd h List.not_mem_nil
  | width + 1, n, c, h => by
    have hdigit : ∀ m < 16, (Text.hexDigit m).toNat < 128 := by decide
    rw [Text.hex, List.mem_append, List.mem_singleton] at h
    rcases h with h | rfl
    · exact toNat_lt_of_mem_hex width (n / 16) c h
    · exact hdigit _ (Nat.mod_lt n (by decide))

theorem isAscii_hexText (bytes : List UInt8) : isAscii (Digest.hexText bytes) = true := by
  unfold isAscii Digest.hexText
  rw [String.toList_ofList, List.all_eq_true]
  intro c hc
  obtain ⟨b, -, hb⟩ := List.mem_flatMap.1 hc
  exact decide_eq_true (toNat_lt_of_mem_hex 2 b.toNat c hb)

theorem isAscii_signatureOf (secret : String) (body : List UInt8) : isAscii (signatureOf secret body) = true := by
  have hdigest := isAscii_hexText (Digest.hmacSha256 (Text.encodeUtf8 secret) body)
  unfold isAscii at hdigest ⊢
  rw [signatureOf, String.toList_append, List.all_append, hdigest, Bool.and_true]
  decide

theorem verify_eq_true_iff (secret : String) (body : List UInt8) (signature : Option String) :
    verify secret body signature = .ok true ↔ signature = some (signatureOf secret body) := by
  cases signature with
  | none => simp [verify]
  | some s =>
    by_cases hs : signatureOf secret body = s
    · subst hs
      simp [verify, isAscii_signatureOf]
    · have hne : some s ≠ some (signatureOf secret body) := fun h => hs (Option.some.inj h).symm
      simp only [verify, hne, iff_false]
      by_cases hascii : isAscii s = true <;> simp [hascii, hs]

/-! ## Announcements -/

structure Announces (secret : String) (d : Delivery) (p : Json) : Prop where
  signature : d.signature = some ("sha256=" ++ Digest.hexText (Digest.hmacSha256 (Text.encodeUtf8 secret) d.body))
  event : d.event = some "pull_request"
  body : ∃ text, Text.decodeUtf8 d.body = .ok text ∧ Json.decode text = .ok p
  isObject : p.kind = .object
  pull : ∀ pull, p.get? "pull_request" = some pull → pull.kind = .object

/-- The delivery announces a payload after which its pull request is to be reviewed. -/
def AsksReview (secret : String) (d : Delivery) (p : Json) : Prop :=
  Announces secret d p ∧ ∃ a ∈ ["opened", "synchronize", "reopened"], p.get? "action" = some (.text a)

def AsksClosing (secret : String) (d : Delivery) (p : Json) : Prop :=
  Announces secret d p ∧ p.get? "action" = some (.text "closed")

/-- The number of a payload's pull request, null if it tells none. -/
def numberOf (p : Json) : Json := (((p.get? "pull_request").getD (.object [])).get? "number").getD .null

def actionOf (p : Json) : Json := (p.get? "action").getD ""

variable {secret : String} {d : Delivery} {p : Json}

theorem Announces.unique {q : Json} (hp : Announces secret d p) (hq : Announces secret d q) : p = q := by
  obtain ⟨text, hdecode, hjson⟩ := hp.body
  obtain ⟨text', hdecode', hjson'⟩ := hq.body
  obtain rfl := Except.ok.inj (hdecode.symm.trans hdecode')
  exact Except.ok.inj (hjson.symm.trans hjson')

theorem field_of_object {v : Json} (h : v.kind = .object) (name : String) (fallback : Json) :
    v.field name fallback = .ok ((v.get? name).getD fallback) := by
  cases v with
  | object fields => rfl
  | _ => cases h

theorem object_of_field {v w : Json} {name : String} {fallback : Json} (h : v.field name fallback = .ok w) :
    v.kind = .object := by
  cases v with
  | object fields => rfl
  | _ => cases h

theorem payload_eq_ok_iff :
    payload secret d = .ok p ↔ d.signature = some (signatureOf secret d.body) ∧
      ∃ text, Text.decodeUtf8 d.body = .ok text ∧ Json.decode text = .ok p := by
  rw [← verify_eq_true_iff]
  unfold payload Files.decode
  cases hverify : verify secret d.body d.signature with
  | error cause => simp [bind, Except.bind]
  | ok right =>
    cases right with
    | false => simp [bind, Except.bind]
    | true => cases hdecode : Text.decodeUtf8 d.body <;> simp [bind, Except.bind]

theorem pullNumber_eq_ok_iff {number : Json} :
    pullNumber p = .ok number ↔
      p.kind = .object ∧ (∀ pull, p.get? "pull_request" = some pull → pull.kind = .object) ∧ numberOf p = number := by
  constructor
  · intro h
    obtain ⟨pull, hpull, hnumber⟩ := Run.ok_of_bind h
    have hobject := object_of_field hpull
    rw [field_of_object hobject] at hpull
    have hgiven := Except.ok.inj hpull
    have hkind := object_of_field hnumber
    rw [field_of_object hkind] at hnumber
    refine ⟨hobject, fun given hget => ?_, ?_⟩
    · rw [hget, Option.getD_some] at hgiven
      rw [hgiven]
      exact hkind
    · unfold numberOf
      rw [hgiven]
      exact Except.ok.inj hnumber
  · rintro ⟨hobject, hpull, rfl⟩
    have hkind : ((p.get? "pull_request").getD (.object [])).kind = .object := by
      cases hget : p.get? "pull_request" with
      | none => rfl
      | some pull => exact hpull pull hget
    unfold pullNumber numberOf
    rw [field_of_object hobject]
    exact field_of_object hkind "number" .null

theorem announces_iff :
    Announces secret d p ↔
      payload secret d = .ok p ∧ d.event = some "pull_request" ∧ pullNumber p = .ok (numberOf p) := by
  rw [payload_eq_ok_iff, pullNumber_eq_ok_iff]
  constructor
  · intro h
    exact ⟨⟨h.signature, h.body⟩, h.event, h.isObject, h.pull, rfl⟩
  · rintro ⟨⟨hsignature, hbody⟩, hevent, hobject, hpull, -⟩
    exact ⟨hsignature, hevent, hbody, hobject, hpull⟩

theorem isText_actionOf {a : String} (ha : a ≠ "") : (actionOf p).isText a = true ↔ p.get? "action" = some (.text a) := by
  unfold actionOf
  cases p.get? "action" with
  | none => simp [Json.isText, Ne.symm ha]
  | some action => cases action <;> simp [Json.isText]

theorem isReviewAction_actionOf :
    isReviewAction (actionOf p) = true ↔
      ∃ a ∈ ["opened", "synchronize", "reopened"], p.get? "action" = some (.text a) := by
  unfold isReviewAction reviewActions
  rw [List.any_eq_true]
  have hfilled : ∀ a ∈ ["opened", "synchronize", "reopened"], a ≠ "" := by decide
  exact exists_congr fun a => and_congr_right fun ha => isText_actionOf (hfilled a ha)

/-! ## One delivery -/

theorem receive_of_announces (root : Path) (h : Announces secret d p) (s : Session Yard) :
    (receive root secret d).perform s =
      if (actionOf p).isText "closed" then (close root (numberOf p)).perform s
      else if isReviewAction (actionOf p) then
        (.ok (.accepted (numberOf p) (actionOf p)), { s with state := { s.state with queue := s.state.queue ++ [p] } })
      else (.ok (.ignored (numberOf p) (actionOf p)), s) := by
  obtain ⟨hpayload, hevent, hnumber⟩ := announces_iff.1 h
  have haction : p.field "action" "" = .ok (actionOf p) := field_of_object h.isObject "action" ""
  rw [receive, hpayload, Run.perform_bind_ok (Run.perform_of _ s), if_neg (not_not_intro hevent), hnumber,
    Run.perform_bind_ok (Run.perform_of _ s), haction, Run.perform_bind_ok (Run.perform_of _ s)]
  by_cases hclosed : (actionOf p).isText "closed" = true
  · rw [if_pos hclosed, if_pos hclosed]
  · rw [if_neg hclosed, if_neg hclosed]
    by_cases hreview : isReviewAction (actionOf p) = true
    · rw [if_pos hreview, if_pos hreview]
      rfl
    · rw [if_neg hreview, if_neg hreview]
      rfl

/-- **A delivery that announces nothing changes nothing.** -/
theorem receive_of_not_announces (root : Path) (h : ∀ p, ¬ Announces secret d p) (s : Session Yard) :
    ∃ result, (receive root secret d).perform s = (result, s) := by
  rw [receive]
  cases hpayload : payload secret d with
  | error cause => exact ⟨_, Run.perform_bind_error (Run.perform_of _ s) _⟩
  | ok q =>
    rw [Run.perform_bind_ok (Run.perform_of _ s)]
    by_cases hevent : d.event = some "pull_request"
    · rw [if_neg (not_not_intro hevent)]
      cases hnumber : pullNumber q with
      | error cause => exact ⟨_, Run.perform_bind_error (Run.perform_of _ s) _⟩
      | ok number =>
        have hsame := (pullNumber_eq_ok_iff.1 hnumber).2.2
        exact absurd (announces_iff.2 ⟨hpayload, hevent, hsame ▸ hnumber⟩) (h q)
    · rw [if_pos hevent]
      exact ⟨_, rfl⟩

/-! ## One directory -/

/-- The second files are the first without some of what is at a place or inside it.  If the directory itself is left, it is
left empty and is no clone any more. -/
def LosesWithin (place : List String) (before after : Files) : Prop :=
  ∃ kept : List (List String × FileEntry), kept.Sublist before.entries ∧ after.entries = kept.map (Files.emptied place) ∧
    ∀ e ∈ before.entries, e ∉ kept → e.1 = place ∨ Files.isInside place e.1 = true

theorem losesWithin_filter {place : List String} (fs : Files) {keep : List String × FileEntry → Bool}
    (h : ∀ e, keep e = false → e.1 = place ∨ Files.isInside place e.1 = true) :
    LosesWithin place fs ⟨(fs.entries.filter keep).map (Files.emptied place)⟩ := by
  refine ⟨_, List.filter_sublist, rfl, fun e he hgone => h e ?_⟩
  rw [Bool.eq_false_iff]
  exact fun hkeep => hgone (List.mem_filter.2 ⟨he, hkeep⟩)

theorem removeTree_losesWithin (p : Path) (s : Session Files) :
    ((Files.removeTree p).perform s).2.state = s.state ∨
      ∃ place, s.state.find p.toString = .directory place ∧
        LosesWithin place s.state ((Files.removeTree p).perform s).2.state := by
  rw [Files.removeTree, Run.perform_bind_ok (Run.perform_state s)]
  cases hfind : s.state.find p.toString with
  | directory place =>
    refine Or.inr ⟨place, rfl, ?_⟩
    have hclear : LosesWithin place s.state (s.state.clear place) :=
      losesWithin_filter s.state fun e he => Or.inr (by simpa using he)
    have hremove : LosesWithin place s.state ((s.state.clear place).remove place) := by
      unfold Files.remove Files.clear
      rw [List.filter_map, List.filter_filter]
      refine losesWithin_filter s.state fun e he => ?_
      by_cases hplace : e.1 = place
      · exact Or.inl hplace
      · exact Or.inr (by simpa [Files.emptied, hplace] using he)
    simp only
    rw [Run.perform_bind_ok (Run.perform_update _ s)]
    split
    · exact hclear
    · rw [Run.perform_bind_ok (Run.perform_state _)]
      split
      · exact hremove
      · exact hclear
  | _ => exact Or.inl rfl

/-- **Closing leaves the queue, and of the files all that is not in the one directory it looks for**; when it fails it
leaves everything. -/
theorem close_effects (root : Path) (number : Json) (s : Session Yard) :
    let done := (close root number).perform s
    done.2.state.queue = s.state.queue ∧
      (done.2.state.files = s.state.files ∨
        ∃ place, s.state.files.find (closedDirectory root number).toString = .directory place ∧
          LosesWithin place s.state.files done.2.state.files) ∧
      ∀ cause, done.1 = .error cause → done.2.state = s.state := by
  intro done
  have hdone : done = (close root number).perform s := rfl
  rw [close, Run.perform_bind_ok (Run.perform_state s)] at hdone
  cases hpath : s.state.files.hasPath (closedDirectory root number) with
  | error cause =>
    rw [hpath, Run.perform_bind_error (Run.perform_of _ s)] at hdone
    rw [hdone]
    exact ⟨rfl, Or.inl rfl, fun _ _ => rfl⟩
  | ok present =>
    rw [hpath, Run.perform_bind_ok (Run.perform_of _ s)] at hdone
    cases present with
    | false =>
      rw [if_neg Bool.false_ne_true, Run.perform_pure] at hdone
      rw [hdone]
      exact ⟨rfl, Or.inl rfl, fun _ _ => rfl⟩
    | true =>
      rw [if_pos rfl, cleanUp, Run.perform_orElse, cleanUp.cleaned, Run.perform_bind, Yard.atFiles,
        Run.perform_within] at hdone
      have hloses := removeTree_losesWithin (closedDirectory root number) ⟨s.state.files, s.console⟩
      -- whether the removal fails or not, what it left is what there is, and there is an answer
      rcases hremoved : (Files.removeTree (closedDirectory root number)).perform ⟨s.state.files, s.console⟩ with
        ⟨cause | ⟨⟩, t⟩
      all_goals
        rw [hremoved] at hdone hloses
        have hstate : done.2.state = { s.state with files := t.state } := by rw [hdone]; rfl
        have hanswer : ∃ answer, done.1 = .ok answer := by rw [hdone]; exact ⟨_, rfl⟩
        refine ⟨by rw [hstate], by rw [hstate]; exact hloses, fun cause hcause => ?_⟩
        obtain ⟨answer, hok⟩ := hanswer
        rw [hok] at hcause
        cases hcause

/-! ## All deliveries -/

/-- The payloads of those deliveries that ask for a review, in their order. -/
inductive Qualifying (secret : String) : List Delivery → List Json → Prop where
  | nil : Qualifying secret [] []
  | queued {d : Delivery} {p : Json} {ds : List Delivery} {ps : List Json} :
      AsksReview secret d p → Qualifying secret ds ps → Qualifying secret (d :: ds) (p :: ps)
  | passed {d : Delivery} {ds : List Delivery} {ps : List Json} :
      (∀ p, ¬ AsksReview secret d p) → Qualifying secret ds ps → Qualifying secret (d :: ds) ps

theorem not_closing_of_review {action : Json} (h : isReviewAction action = true) : action.isText "closed" = false := by
  obtain ⟨a, ha, htext⟩ := List.any_eq_true.1 h
  cases action with
  | text t =>
    have hsame : t = a := by simpa [Json.isText] using htext
    have hopen : ∀ a ∈ reviewActions, a ≠ "closed" := by decide
    simpa [Json.isText, hsame] using hopen a ha
  | _ => cases htext

theorem receive_of_asksReview (root : Path) (h : AsksReview secret d p) (y : Yard) :
    ((receive root secret d).start y).1 = .ok (.accepted (numberOf p) (actionOf p)) ∧
      ((receive root secret d).start y).2.state = { y with queue := y.queue ++ [p] } := by
  have hreview := isReviewAction_actionOf.2 h.2
  rw [Run.start_eq, receive_of_announces root h.1, not_closing_of_review hreview, hreview]
  exact ⟨rfl, rfl⟩

theorem receive_of_asksClosing (root : Path) (h : AsksClosing secret d p) (y : Yard) :
    (receive root secret d).start y = (close root (numberOf p)).perform ⟨y, []⟩ := by
  have hclosed : (actionOf p).isText "closed" = true := (isText_actionOf (by decide)).2 h.2
  rw [Run.start_eq, receive_of_announces root h.1, if_pos hclosed]

theorem receive_of_asksNothing (root : Path) (hreview : ∀ p, ¬ AsksReview secret d p)
    (hclosing : ∀ p, ¬ AsksClosing secret d p) (y : Yard) : ((receive root secret d).start y).2.state = y := by
  by_cases hannounces : ∃ p, Announces secret d p
  · obtain ⟨p, hp⟩ := hannounces
    have hopen : ¬ (actionOf p).isText "closed" = true := fun h =>
      hclosing p ⟨hp, (isText_actionOf (by decide)).1 h⟩
    have hother : ¬ isReviewAction (actionOf p) = true := fun h => hreview p ⟨hp, isReviewAction_actionOf.1 h⟩
    rw [Run.start_eq, receive_of_announces root hp, if_neg hopen, if_neg hother]
  · obtain ⟨result, hresult⟩ := receive_of_not_announces root (not_exists.1 hannounces) ⟨y, []⟩
    rw [Run.start_eq, hresult]

theorem receive_queue (root : Path) (hreview : ∀ p, ¬ AsksReview secret d p) (y : Yard) :
    ((receive root secret d).start y).2.state.queue = y.queue := by
  by_cases hclosing : ∃ p, AsksClosing secret d p
  · obtain ⟨p, hp⟩ := hclosing
    rw [receive_of_asksClosing root hp]
    exact (close_effects root (numberOf p) ⟨y, []⟩).1
  · rw [receive_of_asksNothing root hreview (not_exists.1 hclosing)]

theorem receiveAll_queue (root : Path) {ds : List Delivery} {ps : List Json} (h : Qualifying secret ds ps) (y : Yard) :
    (receiveAll root secret y ds).queue = y.queue ++ ps := by
  induction h generalizing y with
  | nil => exact (List.append_nil _).symm
  | queued hreview _ ih =>
    unfold receiveAll at ih ⊢
    rw [List.foldl_cons, ih, (receive_of_asksReview root hreview y).2, List.append_assoc]
    rfl
  | passed hreview _ ih =>
    unfold receiveAll at ih ⊢
    rw [List.foldl_cons, ih, receive_queue root hreview]

theorem qualifying_total (secret : String) : ∀ ds : List Delivery, ∃ ps, Qualifying secret ds ps
  | [] => ⟨[], .nil⟩
  | d :: ds => by
    obtain ⟨ps, hps⟩ := qualifying_total secret ds
    by_cases hreview : ∃ p, AsksReview secret d p
    · obtain ⟨p, hp⟩ := hreview
      exact ⟨p :: ps, .queued hp hps⟩
    · exact ⟨ps, .passed (not_exists.1 hreview) hps⟩

/-- **The gate.**  A delivery adds to the queue exactly if it asks for a review, and then it adds the payload that it
announced.  The files lose something only if it closes a pull request, and then only in the one directory for its
number.  In every other case, and whenever there is no answer but a fault, all stays as it was.  So after any deliveries
the queue has grown by the payloads of those that ask for a review, in the order of their arrival. -/
theorem receive_effects (root : Path) (secret : String) :
    (∀ (d : Delivery) (y : Yard),
      let done := (receive root secret d).start y
      let after := done.2.state
      (after.queue ≠ y.queue ↔ ∃ p, AsksReview secret d p) ∧
      (∀ p, AsksReview secret d p → after.queue = y.queue ++ [p] ∧ after.files = y.files) ∧
      (after.files ≠ y.files → ∃ p place, AsksClosing secret d p ∧
        y.files.find (root.join ("pr_" ++ (numberOf p).display)).toString = .directory place ∧
        LosesWithin place y.files after.files) ∧
      ((∀ p, ¬ AsksReview secret d p ∧ ¬ AsksClosing secret d p) → after = y) ∧
      ∀ cause, done.1 = .error cause → after = y) ∧
    ∀ (ds : List Delivery) (y : Yard), ∃ ps, Qualifying secret ds ps ∧
      (receiveAll root secret y ds).queue = y.queue ++ ps := by
  refine ⟨fun d y => ?_, fun ds y => ?_⟩
  · intro done after
    by_cases hreview : ∃ p, AsksReview secret d p
    · obtain ⟨p, hp⟩ := hreview
      obtain ⟨hanswer, hafter⟩ : done.1 = .ok (.accepted (numberOf p) (actionOf p)) ∧
          after = { y with queue := y.queue ++ [p] } := receive_of_asksReview root hp y
      rw [hafter]
      refine ⟨⟨fun _ => ⟨p, hp⟩, fun _ => by simp⟩, fun q hq => ?_, fun h => absurd rfl h, fun h => ?_, fun cause h => ?_⟩
      · rw [hp.1.unique hq.1]
        exact ⟨rfl, rfl⟩
      · exact absurd hp (h p).1
      · rw [hanswer] at h
        cases h
    · have hnone := not_exists.1 hreview
      have hqueue : after.queue = y.queue := receive_queue root hnone y
      refine ⟨⟨fun h => absurd hqueue h, fun h => absurd h hreview⟩, fun p hp => absurd hp (hnone p), ?_⟩
      by_cases hclosing : ∃ p, AsksClosing secret d p
      · obtain ⟨p, hp⟩ := hclosing
        have hdone : done = (close root (numberOf p)).perform ⟨y, []⟩ := receive_of_asksClosing root hp y
        obtain ⟨-, hfiles, hfault⟩ := close_effects root (numberOf p) ⟨y, []⟩
        rw [← hdone] at hfiles hfault
        refine ⟨fun hchanged => ?_, fun h => absurd hp (h p).2, hfault⟩
        obtain ⟨place, hfound, hloses⟩ := hfiles.resolve_left hchanged
        exact ⟨p, place, hp, hfound, hloses⟩
      · have hafter : after = y := receive_of_asksNothing root hnone (not_exists.1 hclosing) y
        exact ⟨fun h => absurd (congrArg Yard.files hafter) h, fun _ => hafter, fun _ _ => hafter⟩
  · obtain ⟨ps, hps⟩ := qualifying_total secret ds
    exact ⟨ps, hps, receiveAll_queue root hps y⟩

end Webhook
end PullReview
