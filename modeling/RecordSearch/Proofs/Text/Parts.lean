import Mathlib.Data.List.Forall2
import RecordSearch.Text.Basic

/-!
# Texts in parts

A text that can be cut into consecutive parts, one for each of a list of items that say what their
part may be. Where the items are refined, the parts are cut further.
-/

namespace RecordSearch.Text

variable {α β : Type} {takes : α → Text → Prop}

/-- A text that consists of consecutive parts, each taken by its item. -/
def CutBy (takes : α → Text → Prop) (items : List α) (s : Text) : Prop :=
  ∃ parts : List Text, List.Forall₂ takes items parts ∧ s = parts.flatten

theorem cutBy_nil {s : Text} : CutBy takes [] s ↔ s = [] := by
  simp [CutBy, List.forall₂_nil_left_iff]

theorem cutBy_cons {item : α} {items : List α} {s : Text} :
    CutBy takes (item :: items) s ↔
      ∃ front back, s = front ++ back ∧ takes item front ∧ CutBy takes items back := by
  constructor
  · rintro ⟨parts, hparts, rfl⟩
    cases hparts with
    | cons htakes hparts => exact ⟨_, _, rfl, htakes, _, hparts, rfl⟩
  · rintro ⟨front, _, rfl, htakes, parts, hparts, rfl⟩
    exact ⟨front :: parts, .cons htakes hparts, rfl⟩

theorem cutBy_append {items more : List α} {s : Text} :
    CutBy takes (items ++ more) s ↔
      ∃ front back, s = front ++ back ∧ CutBy takes items front ∧ CutBy takes more back := by
  induction items generalizing s with
  | nil => simp [cutBy_nil]
  | cons item items ih =>
    simp only [List.cons_append, cutBy_cons, ih]
    constructor
    · rintro ⟨front, _, rfl, htakes, middle, back, rfl, hmiddle, hback⟩
      exact ⟨front ++ middle, back, by simp, ⟨front, middle, rfl, htakes, hmiddle⟩, hback⟩
    · rintro ⟨_, back, rfl, ⟨front, middle, rfl, htakes, hmiddle⟩, hback⟩
      exact ⟨front, middle ++ back, by simp, htakes, middle, back, rfl, hmiddle, hback⟩

/-- Cutting by refined items is cutting by items that take what their refinement takes. -/
theorem cutBy_flatMap {takes' : β → Text → Prop} {refine : β → List α}
    (hrefine : ∀ item s, takes' item s ↔ CutBy takes (refine item) s) {items : List β} {s : Text} :
    CutBy takes (items.flatMap refine) s ↔ CutBy takes' items s := by
  induction items generalizing s with
  | nil => simp [cutBy_nil]
  | cons item items ih => simp only [List.flatMap_cons, cutBy_append, cutBy_cons, ih, hrefine]

end RecordSearch.Text
