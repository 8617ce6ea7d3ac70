import PullReview.Json.Access
/-!
# Texts among JSON values

Only a text is the same as a text (`same_text_iff`), and a list of texts is read as these texts (`listed_ofTexts`).
-/
namespace PullReview
namespace Json

theorem same_text (v : Json) (s : String) : v.same (.text s) = v.isText s := by
  cases v <;> simp [same, isText, sameNumber, whole?]

theorem isText_iff (v : Json) (s : String) : v.isText s = true ↔ v = .text s := by
  cases v <;> simp [isText]

theorem same_text_iff (v : Json) (s : String) : v.same (.text s) = true ↔ v = .text s := by
  rw [same_text, isText_iff]

theorem textFor_eq_ok {v : Json} {name s : String} (h : v.textFor name = .ok s) : v = .text s := by
  cases v with
  | text t => exact congrArg Json.text (Except.ok.inj h)
  | _ => cases h

theorem textsFrom_map_text (place : Nat) (xs : List String) : textsFrom place (xs.map .text) = .ok xs := by
  induction xs generalizing place with
  | nil => rfl
  | cons x rest ih =>
    rw [List.map_cons, textsFrom, ih]
    rfl

theorem listed_ofTexts (xs : List String) : (ofTexts xs).listed = .ok (Text.joinWith ", " xs) := by
  show (do return Text.joinWith ", " (← textsFrom 0 (xs.map .text))) = _
  rw [textsFrom_map_text]
  rfl

end Json
end PullReview
