import Mathlib.Data.List.Infix
import RecordSearch.Literal.Engine
import RecordSearch.Proofs.Literal.Pattern
import RecordSearch.Proofs.Text.Case

/-!
# Filters with wildcards

A filter is read from left to right as wildcards and characters. The pattern it is turned into
accepts a text exactly when the text can be cut into one part for each of them. The notation of
patterns in between, with its own special characters, does not show.
-/

namespace RecordSearch

open Text

/-- Whether a wildcard token stands at the start of a text; an empty token stands nowhere. -/
def FilterToken.Leads (token s : Text) : Prop :=
  token ≠ [] ∧ token <+: s

open FilterToken (Leads)

/-- How a filter is read: the token for any text first, then the token for one character. -/
inductive Wildcards.Reads (wildcards : Wildcards) : Text → List FilterToken → Prop
  | done : wildcards.Reads [] []
  | many {s : Text} {tokens : List FilterToken} : Leads wildcards.many (wildcards.many ++ s) →
      wildcards.Reads s tokens → wildcards.Reads (wildcards.many ++ s) (.many :: tokens)
  | one {s : Text} {tokens : List FilterToken} : ¬ Leads wildcards.many (wildcards.one ++ s) →
      Leads wildcards.one (wildcards.one ++ s) →
      wildcards.Reads s tokens → wildcards.Reads (wildcards.one ++ s) (.one :: tokens)
  | char {c : Char} {s : Text} {tokens : List FilterToken} : ¬ Leads wildcards.many (c :: s) →
      ¬ Leads wildcards.one (c :: s) →
      wildcards.Reads s tokens → wildcards.Reads (c :: s) (.char c :: tokens)

namespace FilterToken

variable {wildcards : Wildcards} {filter : Text} {tokens : List FilterToken}

theorem leads_iff {token s : Text} : leads token s ↔ Leads token s := by
  simp [leads, Leads, startsWith_iff]

theorem scanFrom_skip (wildcards : Wildcards) (skip : ℕ) (s : Text) :
    scanFrom wildcards skip s = scan wildcards (s.drop skip) := by
  induction s generalizing skip with
  | nil => cases skip <;> rfl
  | cons c s ih =>
    cases skip with
    | zero => rfl
    | succ skip => exact ih skip

theorem scan_many_append {s : Text} (hmany : Leads wildcards.many (wildcards.many ++ s)) :
    scan wildcards (wildcards.many ++ s) = .many :: scan wildcards s := by
  have hleads := leads_iff.mpr hmany
  rcases wildcards with ⟨_ | ⟨c, many⟩, one⟩
  · exact absurd rfl hmany.1
  · simp only [List.cons_append] at hleads ⊢
    rw [scan, scanFrom, if_pos hleads, scanFrom_skip]
    simp

theorem scan_one_append {s : Text} (hmany : ¬ Leads wildcards.many (wildcards.one ++ s))
    (hone : Leads wildcards.one (wildcards.one ++ s)) :
    scan wildcards (wildcards.one ++ s) = .one :: scan wildcards s := by
  have hleads := leads_iff.mpr hone
  rcases wildcards with ⟨many, _ | ⟨c, one⟩⟩
  · exact absurd rfl hone.1
  · simp only [List.cons_append] at hleads hmany ⊢
    rw [scan, scanFrom, if_neg (mt leads_iff.mp hmany), if_pos hleads, scanFrom_skip]
    simp

theorem scan_cons {c : Char} {s : Text} (hmany : ¬ Leads wildcards.many (c :: s))
    (hone : ¬ Leads wildcards.one (c :: s)) :
    scan wildcards (c :: s) = .char c :: scan wildcards s := by
  rw [scan, scanFrom, if_neg (mt leads_iff.mp hmany), if_neg (mt leads_iff.mp hone)]
  rfl

theorem reads_scan (wildcards : Wildcards) (filter : Text) :
    wildcards.Reads filter (scan wildcards filter) := by
  induction hlength : filter.length using Nat.strong_induction_on generalizing filter with
  | _ n ih =>
    subst hlength
    -- Behind a part that is not empty, the rest is read as it is scanned.
    have hbehind (part s : Text) (hpart : part ≠ []) (h : filter = part ++ s) :
        wildcards.Reads s (scan wildcards s) := by
      have hpos : 0 < part.length := List.length_pos_iff.mpr hpart
      exact ih s.length (by rw [h, List.length_append]; omega) s rfl
    by_cases hmany : Leads wildcards.many filter
    · obtain ⟨s, rfl⟩ := hmany.2
      rw [scan_many_append hmany]
      exact .many hmany (hbehind _ s hmany.1 rfl)
    · by_cases hone : Leads wildcards.one filter
      · obtain ⟨s, rfl⟩ := hone.2
        rw [scan_one_append hmany hone]
        exact .one hmany hone (hbehind _ s hone.1 rfl)
      · cases filter with
        | nil => exact .done
        | cons c s =>
          rw [scan_cons hmany hone]
          exact .char hmany hone (hbehind [c] s (List.cons_ne_nil c []) rfl)

/-- The scan finds the one way to read a filter. -/
theorem scan_eq_iff : scan wildcards filter = tokens ↔ wildcards.Reads filter tokens := by
  constructor
  · rintro rfl
    exact reads_scan wildcards filter
  · intro h
    induction h with
    | done => rfl
    | many hmany _ ih => rw [scan_many_append hmany, ih]
    | one hmany hone _ ih => rw [scan_one_append hmany hone, ih]
    | char hmany hone _ ih => rw [scan_cons hmany hone, ih]

/-- A filter is read with a wildcard if a wildcard token occurs in it. -/
theorem any_isWildcard_iff (h : wildcards.Reads filter tokens) :
    tokens.any isWildcard ↔
      wildcards.many ≠ [] ∧ wildcards.many <:+: filter ∨
        wildcards.one ≠ [] ∧ wildcards.one <:+: filter := by
  induction h with
  | done => simp
  | many hmany => simp [isWildcard, hmany.1, hmany.2.isInfix]
  | one _ hone => simp [isWildcard, hone.1, hone.2.isInfix]
  | char hmany hone _ ih =>
    simp only [List.any_cons, isWildcard, Bool.false_or, ih, List.infix_cons_iff]
    unfold Leads at hmany hone
    tauto

theorem takes_char_of_isSign {c : Char} {part : Text} (hc : IsSign c) :
    Takes (.char c) part ↔ part = [c] := by
  simp [Takes, lowerChar_of_isSign hc, List.forall₂_cons_left_iff, fold_eq_fold_iff hc]

end FilterToken

namespace Pattern

variable {wildcards : Wildcards} {filter text : Text} {tokens : List FilterToken}
  {pattern : Pattern}

/-- The notation of patterns carries the tokens of a filter over unchanged. -/
theorem accepts_flatMap_toPattern :
    (Pattern.mk (tokens.flatMap FilterToken.toPattern)).accepts text ↔
      CutBy FilterToken.Takes tokens text := by
  have hpieces : pieces (tokens.flatMap FilterToken.toPattern) =
      tokens.flatMap FilterToken.pieces := by
    have h := FilterToken.pieces_flatMap_toPattern tokens []
    rwa [List.append_nil, pieces, List.append_nil] at h
  calc
    _ ↔ CutBy Piece.Takes (tokens.flatMap FilterToken.pieces) text := by
      rw [accepts, hpieces, matchesPieces_iff]
    _ ↔ _ := cutBy_flatMap FilterToken.takes_iff_cutBy_pieces

/-- Between two wildcards for any text, the tokens take a part anywhere in a text. -/
theorem cutBy_between_many :
    CutBy FilterToken.Takes (.many :: tokens ++ [.many]) text ↔
      ∃ before middle after, text = before ++ middle ++ after ∧
        CutBy FilterToken.Takes tokens middle := by
  simp only [List.cons_append, cutBy_cons, cutBy_append, cutBy_nil, FilterToken.Takes]
  constructor
  · rintro ⟨before, _, rfl, -, middle, _, rfl, hmiddle, after, _, rfl, -, rfl⟩
    exact ⟨before, middle, after, by simp, hmiddle⟩
  · rintro ⟨before, middle, after, rfl, hmiddle⟩
    exact ⟨before, middle ++ after, by simp, trivial, middle, after, rfl, hmiddle, after, [],
      by simp, trivial, rfl⟩

theorem eq_of_ofText? [Pattern.Engine] {s : Text} (h : ofText? s = some pattern) :
    pattern = ⟨s⟩ := by
  unfold ofText? at h
  split at h
  · exact (Option.some.inj h).symm
  · cases h

theorem accepts_of_ofFilter? [Pattern.Engine] (hread : wildcards.Reads filter tokens)
    (h : ofFilter? wildcards filter = some pattern) :
    pattern.accepts text ↔
      CutBy FilterToken.Takes
        (if tokens.any FilterToken.isWildcard then tokens else .many :: tokens ++ [.many]) text := by
  rw [ofFilter?, FilterToken.scan_eq_iff.mpr hread] at h
  rw [eq_of_ofText? h, ← accepts_flatMap_toPattern]
  split <;> simp [FilterToken.toPattern]

/-- The tokens of a filter with wildcards are cut from the whole of a text, those of a filter
without from any part of it. -/
theorem accepts_iff_exists_middle [Pattern.Engine] (hmany : wildcards.many ≠ [])
    (hone : wildcards.one ≠ [])
    (hread : wildcards.Reads filter tokens) (h : ofFilter? wildcards filter = some pattern) :
    pattern.accepts text ↔
      ∃ before middle after, text = before ++ middle ++ after ∧
        CutBy FilterToken.Takes tokens middle ∧
        (wildcards.many <:+: filter ∨ wildcards.one <:+: filter → before = [] ∧ after = []) := by
  have hwildcard : tokens.any FilterToken.isWildcard ↔
      wildcards.many <:+: filter ∨ wildcards.one <:+: filter := by
    rw [FilterToken.any_isWildcard_iff hread]
    simp [hmany, hone]
  rw [accepts_of_ofFilter? hread h, ← hwildcard]
  split
  · rename_i hany
    constructor
    · intro htext
      exact ⟨[], text, [], by simp, htext, fun _ ↦ ⟨rfl, rfl⟩⟩
    · rintro ⟨before, middle, after, rfl, hmiddle, hends⟩
      obtain ⟨rfl, rfl⟩ := hends hany
      simpa using hmiddle
  · rename_i hany
    rw [cutBy_between_many]
    simp [hany]

/-- A pattern accepts what can be cut into parts for the wildcards and characters of its filter.
Signs, those with a meaning in the notation of patterns among them, take themselves alone. -/
theorem accepts_iff_cut [Pattern.Engine] (hmany : wildcards.many ≠ []) (hone : wildcards.one ≠ [])
    (h : ofFilter? wildcards filter = some pattern) :
    (∃! tokens, wildcards.Reads filter tokens) ∧
      (∀ tokens, wildcards.Reads filter tokens → ∀ text, pattern.accepts text ↔
        ∃ before middle after, text = before ++ middle ++ after ∧
          CutBy FilterToken.Takes tokens middle ∧
          (wildcards.many <:+: filter ∨ wildcards.one <:+: filter → before = [] ∧ after = [])) ∧
      ∀ c part, IsSign c → (FilterToken.Takes (.char c) part ↔ part = [c]) := by
  refine ⟨⟨_, FilterToken.reads_scan wildcards filter, ?_⟩, ?_, ?_⟩
  · intro tokens hread
    exact (FilterToken.scan_eq_iff.mpr hread).symm
  · intro tokens hread text
    exact accepts_iff_exists_middle hmany hone hread h
  · intro c part hc
    exact FilterToken.takes_char_of_isSign hc

/-- Tokens that overlap, next to characters with a meaning in patterns and a long lower-case
form. -/
theorem accepts_iff_cut_overlapping :
    let wildcards : Wildcards := ⟨"..".toList, ".".toList⟩
    let filter := "A%...\\İ_".toList
    let tokens : List FilterToken :=
      [.char 'A', .char '%', .many, .one, .char '\\', .char 'İ', .char '_']
    let pattern : Pattern := ⟨"a\\%%_\\\\i\u0307\\_".toList⟩
    wildcards.many ≠ [] ∧ wildcards.one ≠ [] ∧ ofFilter? wildcards filter = some pattern ∧
      wildcards.Reads filter tokens ∧
      (∀ text, pattern.accepts text ↔ ∃ before middle after, text = before ++ middle ++ after ∧
        CutBy FilterToken.Takes tokens middle ∧
        (wildcards.many <:+: filter ∨ wildcards.one <:+: filter → before = [] ∧ after = [])) ∧
      IsSign '%' ∧ ∀ part, FilterToken.Takes (.char '%') part ↔ part = ['%'] := by
  intro wildcards filter tokens pattern
  have hmany : wildcards.many ≠ [] := by decide
  have hone : wildcards.one ≠ [] := by decide
  have hpattern : ofFilter? wildcards filter = some pattern := by decide +kernel
  have hread : wildcards.Reads filter tokens := FilterToken.scan_eq_iff.mp (by decide +kernel)
  have hsign : IsSign '%' := ⟨by decide, by decide⟩
  obtain ⟨-, haccepts, hsigns⟩ := accepts_iff_cut hmany hone hpattern
  exact ⟨hmany, hone, hpattern, hread, haccepts tokens hread, hsign, fun part ↦
    hsigns '%' part hsign⟩

end Pattern

end RecordSearch
