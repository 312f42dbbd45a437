import Mathlib.Data.List.Chain
import RecordSearch.Proofs.Text.Case

/-!
# Lower case and folding

Character by character, lower case keeps the folded form. A run of the lower-case table is a run of
the folding table, to which none of its lower-case forms belongs, or it is such a run backwards, and
then none of its capital forms does. Only the capital `İ` is out of line: its lower-case form has two
characters, and it folds to itself.
-/

namespace RecordSearch.Text

namespace CaseRun

/-- The run that maps back. -/
def reverse (run : CaseRun) : CaseRun :=
  ⟨(run.first + run.shift).toNat, (run.last + run.shift).toNat, run.step, -run.shift⟩

/-- Whether one run starts after the other ends, or both only have every other code point and are
one off from each other. -/
def apart (a b : CaseRun) : Bool :=
  a.last.blt b.first || (b.last.blt a.first ||
    ((a.step.beq 2 || a.last.beq a.first) && (b.step.beq 2 && ((a.first + b.first) % 2).beq 1)))

/-- Whether two runs map the same code points by the same shift. -/
def sameAs (a b : CaseRun) : Bool :=
  a.first.beq b.first && (a.last.beq b.last && (a.step.beq b.step && decide (a.shift = b.shift)))

theorem eq_of_sameAs {a b : CaseRun} (h : a.sameAs b) : a = b := by
  obtain ⟨⟩ := a
  obtain ⟨⟩ := b
  simpa [sameAs, Nat.beq_eq] using h

variable {run other : CaseRun} {n m : ℕ}

theorem map?_eq_some_iff :
    run.map? n = some m ↔ run.first ≤ n ∧ n ≤ run.last ∧ (n - run.first) % run.step = 0 ∧
      m = (n + run.shift).toNat := by
  unfold map?
  split
  · rename_i hmem
    simp only [Bool.and_eq_true, decide_eq_true_eq, beq_iff_eq] at hmem
    simp [hmem, eq_comm]
  · rename_i hmem
    simp only [Bool.and_eq_true, decide_eq_true_eq, beq_iff_eq] at hmem
    simp only [reduceCtorEq, false_iff]
    tauto

/-- Runs that are apart share no code point. -/
theorem map?_eq_none_of_apart (happart : run.apart other) (h : run.map? n = some m) :
    other.map? n = none := by
  cases hother : other.map? n with
  | none => rfl
  | some k =>
    obtain ⟨hfirst, hlast, hstep, -⟩ := map?_eq_some_iff.mp h
    obtain ⟨hfirst', hlast', hstep', -⟩ := map?_eq_some_iff.mp hother
    simp only [apart, Bool.or_eq_true, Bool.and_eq_true, Nat.blt_eq, Nat.beq_eq] at happart
    rcases happart with hlt | hlt | ⟨hodd | hsingle, heven, hparity⟩
    · omega
    · omega
    · rw [hodd] at hstep
      rw [heven] at hstep'
      omega
    · rw [heven] at hstep'
      omega

theorem map?_reverse (hstart : 0 ≤ run.first + run.shift) (h : run.map? n = some m) :
    run.reverse.map? m = some n := by
  obtain ⟨hfirst, hlast, hstep, rfl⟩ := map?_eq_some_iff.mp h
  have hoffset : (n + run.shift).toNat - (run.first + run.shift).toNat = n - run.first := by omega
  rw [map?_eq_some_iff]
  simp only [reverse, hoffset]
  omega

/-- Where the runs of a table follow one another, the one with a code point maps it. -/
theorem findSome?_map? {runs : List CaseRun} (hsorted : runs.Pairwise (·.last < ·.first))
    (hrun : run ∈ runs) (h : run.map? n = some m) :
    runs.findSome? (fun run ↦ run.map? n) = some m := by
  induction runs with
  | nil => cases hrun
  | cons first runs ih =>
    obtain ⟨hfirst, hsorted⟩ := List.pairwise_cons.mp hsorted
    rcases List.mem_cons.mp hrun with rfl | hlater
    · rw [List.findSome?_cons_of_isSome (by simp [h]), h]
    · have hbefore : first.map? n = none := by
        apply map?_eq_none_of_apart _ h
        simp [apart, hfirst run hlater]
      rw [List.findSome?_cons_of_isNone (by simp [hbefore])]
      exact ih hsorted hlater

end CaseRun

theorem foldRuns_pairwise : foldRuns.Pairwise (·.last < ·.first) := by
  have hchain : foldRuns.IsChain fun a b ↦ a.last < b.first ∧ b.first ≤ b.last := by
    decide +kernel
  have htrans : IsTrans CaseRun fun a b ↦ a.last < b.first ∧ b.first ≤ b.last :=
    ⟨fun a b c hab hbc ↦ ⟨by omega, hbc.2⟩⟩
  exact (List.isChain_iff_pairwise.mp hchain).imp fun h ↦ h.1

/-- A run of the lower-case table is one of folding that leads to what does not fold, or it leads from
what does not fold and folding has it backwards. -/
theorem lowerRuns_fold : lowerRuns.all fun run ↦
    (foldRuns.any run.sameAs && foldRuns.all run.reverse.apart) ||
      (foldRuns.any run.reverse.sameAs && foldRuns.all run.apart) := by
  decide +kernel

variable {c : Char} {n m : ℕ} {run : CaseRun}

theorem mapCase_eq_of_map? {runs : List CaseRun} (hsorted : runs.Pairwise (·.last < ·.first))
    (hrun : run ∈ runs) (h : run.map? c.toNat = some m) : mapCase runs c = Char.ofNat m := by
  rw [mapCase, CaseRun.findSome?_map? hsorted hrun h]
  rfl

/-- What lies in a run that is apart from all folding runs folds to itself. -/
theorem fold_eq_self_of_apart (happart : foldRuns.all run.apart) (h : run.map? c.toNat = some m) :
    fold c = c := by
  have hnone : foldRuns.findSome? (fun run ↦ run.map? c.toNat) = none := by
    rw [List.findSome?_eq_none_iff]
    intro other hother
    exact CaseRun.map?_eq_none_of_apart (List.all_eq_true.mp happart other hother) h
  rw [fold, mapCase, hnone]
  rfl

theorem mem_of_any_sameAs {runs : List CaseRun} (h : runs.any run.sameAs) : run ∈ runs := by
  obtain ⟨other, hother, hsame⟩ := List.any_eq_true.mp h
  rwa [CaseRun.eq_of_sameAs hsame]

/-- A lower-case form folds like its character. -/
theorem fold_mapCase_lowerRuns (c : Char) : fold (mapCase lowerRuns c) = fold c := by
  cases hfind : lowerRuns.findSome? fun run ↦ run.map? c.toNat with
  | none => rw [show mapCase lowerRuns c = c by rw [mapCase, hfind]; rfl]
  | some m =>
    obtain ⟨run, hrun, hmap⟩ := List.exists_of_findSome?_eq_some hfind
    have hlower : mapCase lowerRuns c = Char.ofNat m := by
      rw [mapCase, hfind]
      rfl
    have havoids : run.AvoidsSigns := lowerRuns_avoidsSigns run hrun
    have hcode : (Char.ofNat m).toNat = m := CaseRun.toNat_ofNat_of_map? havoids hmap
    have hback : run.reverse.map? (Char.ofNat m).toNat = some c.toNat := by
      rw [hcode]
      apply CaseRun.map?_reverse _ hmap
      have := havoids.2
      omega
    rw [hlower]
    rcases Bool.or_eq_true _ _ ▸ List.all_eq_true.mp lowerRuns_fold run hrun with hfold | hfold
    · rw [Bool.and_eq_true] at hfold
      calc
        fold (Char.ofNat m) = Char.ofNat m := fold_eq_self_of_apart hfold.2 hback
        _ = fold c :=
          (mapCase_eq_of_map? foldRuns_pairwise (mem_of_any_sameAs hfold.1) hmap).symm
    · rw [Bool.and_eq_true] at hfold
      calc
        fold (Char.ofNat m) = Char.ofNat c.toNat :=
          mapCase_eq_of_map? foldRuns_pairwise (mem_of_any_sameAs hfold.1) hback
        _ = c := Char.ofNat_toNat c
        _ = fold c := (fold_eq_self_of_apart hfold.2 hmap).symm

/-- The lower-case form of a character is one that folds alike, unless the character is `İ`. -/
theorem exists_lowerChar_eq (hc : c ≠ 'İ') : ∃ d, lowerChar c = [d] ∧ fold d = fold c := by
  have hcode : c.toNat ≠ 0x130 := by
    intro h
    apply hc
    rw [← Char.ofNat_toNat c, h]
  exact ⟨mapCase lowerRuns c, by rw [lowerChar, if_neg hcode], fold_mapCase_lowerRuns c⟩

end RecordSearch.Text
