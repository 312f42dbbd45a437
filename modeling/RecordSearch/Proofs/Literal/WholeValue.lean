import RecordSearch.Proofs.Literal.Contained

/-!
# Patterns for whole values

A filter in which a wildcard occurs is a pattern for the whole of a value; any other filter is put
between two wildcards and looked for anywhere in it. Occurrence is asked of the text, while the
pattern is made of the tokens read from left to right, where a token can take away the start of
another. Both agree, since the scan passes by a wildcard only if it reads one.
-/

namespace RecordSearch

open Text

namespace FilterToken

variable {wildcards : Wildcards} {filter : Text}

/-- Tokens that overlap, are equal or are empty make no difference here. -/
theorem occurIn_iff_exists_scan :
    wildcards.occurIn filter ↔ ∃ token ∈ scan wildcards filter, token.isWildcard := by
  rw [Wildcards.occurIn_iff, ← any_isWildcard_iff (reads_scan wildcards filter), List.any_eq_true]

theorem scan_of_not_occurIn (h : ¬ wildcards.occurIn filter) :
    scan wildcards filter = filter.map .char := by
  obtain ⟨hmany, hone⟩ := not_or.mp (mt Wildcards.occurIn_iff.mpr h)
  exact scan_eq_iff.mpr (reads_map_char hmany hone)

theorem cutBy_map_char_lower (s : Text) : CutBy Takes (s.map .char) (s.flatMap lowerChar) := by
  induction s with
  | nil => exact cutBy_nil.mpr rfl
  | cons c s ih =>
    have hself : Takes (.char c) (lowerChar c) := List.forall₂_same.mpr fun _ _ ↦ rfl
    exact cutBy_cons.mpr ⟨lowerChar c, s.flatMap lowerChar, rfl, hself, ih⟩

end FilterToken

namespace Pattern

/-- The tokens of a filter, for the whole of a value. -/
def whole (tokens : List FilterToken) : Pattern :=
  ⟨tokens.flatMap FilterToken.toPattern⟩

/-- The tokens of a filter between two wildcards, for any part of a value. -/
def within (tokens : List FilterToken) : Pattern :=
  ⟨'%' :: (whole tokens).text ++ ['%']⟩

variable {wildcards : Wildcards} {filter text : Text} {tokens : List FilterToken}
  {pattern : Pattern}

theorem accepts_whole : (whole tokens).accepts text ↔ CutBy FilterToken.Takes tokens text :=
  accepts_flatMap_toPattern

theorem within_eq_whole : within tokens = whole (.many :: tokens ++ [.many]) := by
  simp [within, whole, FilterToken.toPattern]

theorem accepts_within :
    (within tokens).accepts text ↔ ∃ before middle after, text = before ++ middle ++ after ∧
      CutBy FilterToken.Takes tokens middle := by
  rw [within_eq_whole, accepts_whole, cutBy_between_many]

/-- No tokens give one pattern both ways, although `*a*` gives the pattern by which `a` is looked
for. -/
theorem whole_ne_within : whole tokens ≠ within tokens := by
  intro h
  have hlength : (whole tokens).text.length = (within tokens).text.length := by rw [← h]
  simp only [within, List.length_append, List.length_cons] at hlength
  omega

/-- Characters looked for anywhere are also found behind another character. -/
theorem exists_accepts_within (s : Text) :
    ∃ text, (within (s.map .char)).accepts text ∧
      ¬ CutBy FilterToken.Takes (s.map .char) text := by
  have hcut := FilterToken.cutBy_map_char_lower s
  have hbehind : (within (s.map .char)).accepts ('x' :: s.flatMap lowerChar) :=
    accepts_within.mpr ⟨['x'], _, [], by simp, hcut⟩
  refine ⟨_, hbehind, fun hlonger ↦ ?_⟩
  have hlength := FilterToken.length_of_cutBy_map_char hcut
  have hlength' := FilterToken.length_of_cutBy_map_char hlonger
  rw [List.length_cons] at hlength'
  omega

/-- What a filter becomes, unless the engine refuses it. -/
theorem ofFilter?_eq [Pattern.Engine] (wildcards : Wildcards) (filter : Text) :
    let tokens := FilterToken.scan wildcards filter
    ofFilter? wildcards filter =
      ofText? (if wildcards.occurIn filter then whole tokens else within tokens).text := by
  intro tokens
  have hwildcard : tokens.any FilterToken.isWildcard = wildcards.occurIn filter := by
    rw [Bool.eq_iff_iff, FilterToken.occurIn_iff_exists_scan, List.any_eq_true]
  rw [ofFilter?, hwildcard]
  split <;> rfl

theorem eq_of_ofFilter? [Pattern.Engine] (h : ofFilter? wildcards filter = some pattern) :
    let tokens := FilterToken.scan wildcards filter
    pattern = if wildcards.occurIn filter then whole tokens else within tokens := by
  rw [ofFilter?_eq] at h
  exact eq_of_ofText? h

/-- The text of a filter, its tokens, its pattern and what the pattern accepts tell alike whether
the filter is for the whole of a value. -/
theorem whole_iff_occurIn [Pattern.Engine] (wildcards : Wildcards) (filter : Text) :
    let tokens := FilterToken.scan wildcards filter
    (wildcards.occurIn filter ↔ ∃ token ∈ tokens, token.isWildcard) ∧
      ofFilter? wildcards filter =
        ofText? (if wildcards.occurIn filter then whole tokens else within tokens).text ∧
      ∀ pattern, ofFilter? wildcards filter = some pattern →
        (wildcards.occurIn filter ↔ pattern = whole tokens) ∧
        (wildcards.occurIn filter ↔ pattern ≠ within tokens) ∧
        (wildcards.occurIn filter ↔
          ∀ text, pattern.accepts text ↔ CutBy FilterToken.Takes tokens text) := by
  intro tokens
  refine ⟨FilterToken.occurIn_iff_exists_scan, ofFilter?_eq wildcards filter, ?_⟩
  intro pattern hpattern
  by_cases hoccurs : wildcards.occurIn filter
  · obtain rfl : pattern = whole tokens := by
      rw [eq_of_ofFilter? hpattern, if_pos hoccurs]
    exact ⟨iff_of_true hoccurs rfl, iff_of_true hoccurs whole_ne_within,
      iff_of_true hoccurs fun text ↦ accepts_whole⟩
  · obtain rfl : pattern = within tokens := by
      rw [eq_of_ofFilter? hpattern, if_neg hoccurs]
    -- A pattern such as `%a%` for a whole value accepts as much as one for any part of it; that of
    -- characters only does not.
    have htokens : tokens = filter.map .char := FilterToken.scan_of_not_occurIn hoccurs
    obtain ⟨text, haccepts, hcut⟩ := exists_accepts_within filter
    rw [← htokens] at haccepts hcut
    exact ⟨iff_of_false hoccurs whole_ne_within.symm, iff_of_false hoccurs fun hne ↦ hne rfl,
      iff_of_false hoccurs fun hall ↦ hcut ((hall text).mp haccepts)⟩

/-- One token takes away the start of the other, and an empty one stands nowhere. -/
theorem whole_iff_occurIn_overlapping :
    let overlapping : Wildcards := ⟨"a*".toList, "*b".toList⟩
    let tokens : List FilterToken := [.char 'x', .many, .char 'b']
    let pattern : Pattern := ⟨"x%b".toList⟩
    let single : Wildcards := ⟨[], "??".toList⟩
    let characters : List FilterToken := [.char 'a', .char '?']
    let contained : Pattern := ⟨"%a?%".toList⟩
    (ofFilter? overlapping "xa*b".toList = some pattern ∧ (∃ token ∈ tokens, token.isWildcard) ∧
      overlapping.occurIn "xa*b".toList ∧ pattern = whole tokens ∧ pattern ≠ within tokens ∧
      ∀ text, pattern.accepts text ↔ CutBy FilterToken.Takes tokens text) ∧
    (ofFilter? single "a?".toList = some contained ∧
      ¬ single.occurIn "a?".toList ∧ ¬ (∃ token ∈ characters, token.isWildcard) ∧
      contained ≠ whole characters ∧ contained = within characters ∧
      ¬ ∀ text, contained.accepts text ↔ CutBy FilterToken.Takes characters text) := by
  intro overlapping tokens pattern single characters contained
  refine ⟨?_, ?_⟩
  · have hpattern : ofFilter? overlapping "xa*b".toList = some pattern := by decide +kernel
    have htokens : FilterToken.scan overlapping "xa*b".toList = tokens := by decide +kernel
    have hoccurs : overlapping.occurIn "xa*b".toList := by decide +kernel
    obtain ⟨hread, -, hall⟩ := whole_iff_occurIn overlapping "xa*b".toList
    obtain ⟨hwhole, hwithin, haccepts⟩ := hall pattern hpattern
    rw [htokens] at hread hwhole hwithin haccepts
    exact ⟨hpattern, hread.mp hoccurs, hoccurs, hwhole.mp hoccurs, hwithin.mp hoccurs,
      haccepts.mp hoccurs⟩
  · have hpattern : ofFilter? single "a?".toList = some contained := by decide +kernel
    have htokens : FilterToken.scan single "a?".toList = characters := by decide +kernel
    have hnever : ¬ single.occurIn "a?".toList := by decide +kernel
    obtain ⟨hread, -, hall⟩ := whole_iff_occurIn single "a?".toList
    obtain ⟨hwhole, hwithin, haccepts⟩ := hall contained hpattern
    rw [htokens] at hread hwhole hwithin haccepts
    exact ⟨hpattern, hnever, mt hread.mpr hnever, mt hwhole.mpr hnever,
      not_not.mp (mt hwithin.mpr hnever), mt haccepts.mpr hnever⟩

end Pattern

end RecordSearch
