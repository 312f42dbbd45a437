import RecordSearch.Proofs.Literal.Wildcards
import RecordSearch.Proofs.Text.Folding

/-!
# Filters without wildcards

A filter without wildcards is looked for anywhere in a text. It takes as many characters as its
lower-case form has, so each `İ` in it takes two. Without one, the filter takes its own text.
-/

namespace RecordSearch

open Text

theorem Wildcards.occurIn_iff {wildcards : Wildcards} {s : Text} :
    wildcards.occurIn s ↔
      wildcards.many ≠ [] ∧ wildcards.many <:+: s ∨ wildcards.one ≠ [] ∧ wildcards.one <:+: s := by
  simp [occurIn, contains_iff]

namespace FilterToken

variable {wildcards : Wildcards} {s part : Text}

/-- A filter in which no wildcard occurs is read character by character. -/
theorem reads_map_char (hmany : ¬ (wildcards.many ≠ [] ∧ wildcards.many <:+: s))
    (hone : ¬ (wildcards.one ≠ [] ∧ wildcards.one <:+: s)) : wildcards.Reads s (s.map .char) := by
  induction s with
  | nil => exact .done
  | cons c s ih =>
    have hnever {token : Text} (h : ¬ (token ≠ [] ∧ token <:+: c :: s)) :
        ¬ Leads token (c :: s) ∧ ¬ (token ≠ [] ∧ token <:+: s) :=
      ⟨fun hleads ↦ h ⟨hleads.1, hleads.2.isInfix⟩,
        fun hoccurs ↦ h ⟨hoccurs.1, List.infix_cons hoccurs.2⟩⟩
    exact .char (hnever hmany).1 (hnever hone).1 (ih (hnever hmany).2 (hnever hone).2)

theorem length_lowerChar (c : Char) : (lowerChar c).length = [c].length + [c].count 'İ' := by
  by_cases hc : c = 'İ'
  · subst hc
    rfl
  · obtain ⟨d, hlower, -⟩ := exists_lowerChar_eq hc
    simp [hlower, hc]

theorem takes_char_self {c : Char} (hc : c ≠ 'İ') : Takes (.char c) [c] := by
  obtain ⟨d, hlower, hfold⟩ := exists_lowerChar_eq hc
  simp [Takes, hlower, hfold]

theorem cutBy_map_char_self (hs : 'İ' ∉ s) : CutBy Takes (s.map .char) s := by
  induction s with
  | nil => exact cutBy_nil.mpr rfl
  | cons c s ih =>
    obtain ⟨hc, hs⟩ := not_or.mp (mt List.mem_cons.mpr hs)
    exact cutBy_cons.mpr ⟨[c], s, rfl, takes_char_self (Ne.symm hc), ih hs⟩

/-- What a filter takes is as long as its lower-case form. -/
theorem length_of_cutBy_map_char (h : CutBy Takes (s.map .char) part) :
    part.length = s.length + s.count 'İ' := by
  induction s generalizing part with
  | nil => simp [cutBy_nil.mp h]
  | cons c s ih =>
    obtain ⟨front, back, rfl, hfront, hback⟩ := cutBy_cons.mp h
    have hlength : front.length = [c].length + [c].count 'İ' := by
      rw [← length_lowerChar, List.Forall₂.length_eq hfront]
    calc
      (front ++ back).length = [c].length + [c].count 'İ' + (s.length + s.count 'İ') := by
        rw [List.length_append, hlength, ih hback]
      _ = ([c] ++ s).length + ([c] ++ s).count 'İ' := by
        rw [List.length_append, List.count_append]
        omega

end FilterToken

namespace Pattern

variable [Engine] {wildcards : Wildcards} {filter text : Text} {pattern : Pattern}

theorem accepts_iff_of_not_occurIn (hwildcards : wildcards.occurIn filter = false)
    (h : ofFilter? wildcards filter = some pattern) :
    pattern.accepts text ↔ ∃ before middle after, text = before ++ middle ++ after ∧
      CutBy FilterToken.Takes (filter.map .char) middle := by
  have hnever : ¬ wildcards.occurIn filter := by simp [hwildcards]
  obtain ⟨hmany, hone⟩ := not_or.mp (mt Wildcards.occurIn_iff.mpr hnever)
  have hread : wildcards.Reads filter (filter.map .char) :=
    FilterToken.reads_map_char hmany hone
  have hnone : (filter.map FilterToken.char).any FilterToken.isWildcard = false := by
    simp [FilterToken.isWildcard]
  rw [accepts_of_ofFilter? hread h, hnone, if_neg Bool.false_ne_true, cutBy_between_many]

variable (hwildcards : wildcards.occurIn filter = false)
  (h : ofFilter? wildcards filter = some pattern)

include hwildcards h

theorem accepts_around (hfilter : 'İ' ∉ filter) (before after : Text) :
    pattern.accepts (before ++ filter ++ after) :=
  (accepts_iff_of_not_occurIn hwildcards h).mpr
    ⟨before, filter, after, rfl, FilterToken.cutBy_map_char_self hfilter⟩

/-- A text that is not longer than the filter has no room for the lower-case form of `İ`. -/
theorem not_accepts_self (hfilter : 'İ' ∈ filter) : ¬ pattern.accepts filter := by
  intro haccepts
  obtain ⟨before, middle, after, heq, hmiddle⟩ :=
    (accepts_iff_of_not_occurIn hwildcards h).mp haccepts
  have hlength := congrArg List.length heq
  have hcount : 0 < filter.count 'İ' := List.count_pos_iff.mpr hfilter
  simp only [List.length_append, FilterToken.length_of_cutBy_map_char hmiddle] at hlength
  omega

end Pattern

end RecordSearch
