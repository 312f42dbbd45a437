import Mathlib.Data.Nat.Notation
import RecordSearch.Text.Case

/-!
# Characters without case

The case tables shift letters to letters only. An ASCII character that is no letter is its own
lower-case form, and no other character folds to it.
-/

namespace RecordSearch.Text

/-- An ASCII character that is no letter. -/
def IsSign (c : Char) : Prop :=
  c.toNat < 0x80 ∧ ¬ c.isAlpha

/-- A run that neither starts from a sign nor leads to one, nor to what is no character. -/
def CaseRun.AvoidsSigns (run : CaseRun) : Prop :=
  (65 ≤ run.first ∧ run.last ≤ 90 ∨ 0x80 ≤ run.first) ∧
    (97 ≤ run.first + run.shift ∧ run.last + run.shift ≤ 122 ∨
      0x80 ≤ run.first + run.shift ∧ run.last + run.shift < 0xD800 ∨
      0xE000 ≤ run.first + run.shift ∧ run.last + run.shift < 0x110000)

instance (run : CaseRun) : Decidable run.AvoidsSigns :=
  inferInstanceAs (Decidable (_ ∧ _))

theorem lowerRuns_avoidsSigns : ∀ run ∈ lowerRuns, run.AvoidsSigns := by
  decide +kernel

theorem foldRuns_avoidsSigns : ∀ run ∈ foldRuns, run.AvoidsSigns := by
  decide +kernel

theorem isSign_iff {c : Char} :
    IsSign c ↔ c.toNat < 65 ∨ 90 < c.toNat ∧ c.toNat < 97 ∨ 122 < c.toNat ∧ c.toNat < 0x80 := by
  have halpha : c.isAlpha =
      (decide (65 ≤ c.val ∧ c.val ≤ 90) || decide (97 ≤ c.val) && decide (c.val ≤ 122)) := rfl
  simp only [IsSign, halpha, UInt32.le_iff_toNat_le, Bool.or_eq_true, Bool.and_eq_true,
    decide_eq_true_eq, Char.toNat, UInt32.reduceToNat]
  omega

theorem CaseRun.of_map? {run : CaseRun} {n m : ℕ} (h : run.map? n = some m) :
    run.first ≤ n ∧ n ≤ run.last ∧ m = (n + run.shift).toNat := by
  unfold map? at h
  split at h
  · rename_i hmem
    simp only [Bool.and_eq_true, decide_eq_true_eq] at hmem
    exact ⟨hmem.1.1, hmem.1.2, (Option.some.inj h).symm⟩
  · cases h

/-- What a character is mapped to is a character. -/
theorem CaseRun.toNat_ofNat_of_map? {run : CaseRun} (hrun : run.AvoidsSigns) {n m : ℕ}
    (h : run.map? n = some m) : (Char.ofNat m).toNat = m := by
  obtain ⟨hfirst, hlast, rfl⟩ := of_map? h
  unfold AvoidsSigns at hrun
  have hvalid : (n + run.shift).toNat.isValidChar := by
    unfold Nat.isValidChar
    omega
  rw [Char.ofNat, dif_pos hvalid]
  rfl

theorem CaseRun.not_isSign_of_map? {run : CaseRun} (hrun : run.AvoidsSigns) {c : Char} {m : ℕ}
    (h : run.map? c.toNat = some m) : ¬ IsSign c ∧ ¬ IsSign (Char.ofNat m) := by
  rw [isSign_iff, isSign_iff, toNat_ofNat_of_map? hrun h]
  obtain ⟨hfirst, hlast, rfl⟩ := of_map? h
  unfold AvoidsSigns at hrun
  omega

variable {runs : List CaseRun} {c : Char}

theorem mapCase_of_isSign (hruns : ∀ run ∈ runs, run.AvoidsSigns) (hc : IsSign c) :
    mapCase runs c = c := by
  rw [mapCase, List.findSome?_eq_none_iff.mpr]
  · rfl
  · intro run hrun
    cases hmap : run.map? c.toNat with
    | none => rfl
    | some m => exact absurd hc (CaseRun.not_isSign_of_map? (hruns run hrun) hmap).1

/-- Only a sign is mapped to a sign. -/
theorem isSign_of_mapCase (hruns : ∀ run ∈ runs, run.AvoidsSigns)
    (hc : IsSign (mapCase runs c)) : IsSign c := by
  unfold mapCase at hc
  cases hfind : runs.findSome? (fun run ↦ run.map? c.toNat) with
  | none => rwa [hfind] at hc
  | some m =>
    rw [hfind] at hc
    obtain ⟨run, hrun, hmap⟩ := List.exists_of_findSome?_eq_some hfind
    exact absurd hc (CaseRun.not_isSign_of_map? (hruns run hrun) hmap).2

theorem lowerChar_of_isSign (hc : IsSign c) : lowerChar c = [c] := by
  have hne : c.toNat ≠ 0x130 := by
    have := hc.1
    omega
  rw [lowerChar, if_neg hne, mapCase_of_isSign lowerRuns_avoidsSigns hc]

/-- A sign folds like itself only. -/
theorem fold_eq_fold_iff (hc : IsSign c) {d : Char} : fold c = fold d ↔ d = c := by
  constructor
  · intro h
    have hfold : fold c = c := mapCase_of_isSign foldRuns_avoidsSigns hc
    have hd : IsSign d := by
      apply isSign_of_mapCase foldRuns_avoidsSigns
      change IsSign (fold d)
      rwa [← h, hfold]
    rw [← hfold, h]
    exact (mapCase_of_isSign foldRuns_avoidsSigns hd).symm
  · rintro rfl
    rfl

end RecordSearch.Text
