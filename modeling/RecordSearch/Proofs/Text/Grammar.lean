import RecordSearch.Literal.Classify

/-!
# Preferred ways through a grammar

A grammar lists its ways by preference. Where the preferred way of each part leads to the end, a
sequence takes it, and so do the two parts around a separator.
-/

namespace RecordSearch.Grammar

/-- The preferred way of taking a front part off a text leaves the rest. -/
def Prefers (g : Grammar) (s rest : Text) : Prop :=
  (g s).head? = some rest

variable {g h : Grammar} {test : Char → Bool} {s middle rest : Text}

theorem prefers_nothing (s : Text) : Prefers nothing s s := rfl

theorem prefers_piece (p rest : Text) : Prefers (piece p) (p ++ rest) rest := by
  have hdrop : Text.dropFront? p (p ++ rest) = some rest := Text.dropFront?_eq_some_iff.mpr rfl
  simp only [Prefers, piece, hdrop]
  rfl

theorem prefers_satisfying {c : Char} (hc : test c) (s : Text) :
    Prefers (satisfying test) (c :: s) s := by
  simp [Prefers, satisfying, hc]

theorem Prefers.followedBy (hg : Prefers g s middle) (hh : Prefers h middle rest) :
    Prefers (followedBy g h) s rest := by
  obtain ⟨others, hways⟩ := List.head?_eq_some_iff.mp hg
  obtain ⟨further, hnext⟩ := List.head?_eq_some_iff.mp hh
  rw [Prefers, Grammar.followedBy, hways, List.flatMap_cons, hnext]
  rfl

theorem Prefers.orElse (hg : Prefers g s rest) : Prefers (orElse g h) s rest := by
  obtain ⟨others, hways⟩ := List.head?_eq_some_iff.mp hg
  rw [Prefers, Grammar.orElse, hways]
  rfl

theorem Prefers.orElse_of_nil (hg : g s = []) (hh : Prefers h s rest) :
    Prefers (Grammar.orElse g h) s rest := by
  rw [Prefers, Grammar.orElse, hg]
  exact hh

theorem prefers_runOnto {front : Text} (hfront : ∀ c ∈ front, test c)
    (hrest : ∀ c ∈ rest.head?, test c = false) (shorter : List Text) :
    (runOnto test shorter (front ++ rest)).head? = some rest := by
  induction front generalizing shorter with
  | nil =>
    cases rest with
    | nil => rfl
    | cons c rest => simp [runOnto, hrest c rfl]
  | cons c front ih =>
    rw [List.cons_append, runOnto, if_pos (hfront c List.mem_cons_self)]
    exact ih (fun d hd ↦ hfront d (List.mem_cons_of_mem c hd)) _

/-- A run ends in front of the first character that is not of its class. -/
theorem prefers_run {front : Text} (hfront : ∀ c ∈ front, test c)
    (hrest : ∀ c ∈ rest.head?, test c = false) : Prefers (run test) (front ++ rest) rest :=
  prefers_runOnto hfront hrest []

theorem prefers_nonEmptyRun {front : Text} (hne : front ≠ []) (hfront : ∀ c ∈ front, test c)
    (hrest : ∀ c ∈ rest.head?, test c = false) :
    Prefers (nonEmptyRun test) (front ++ rest) rest := by
  cases front with
  | nil => exact absurd rfl hne
  | cons c front =>
    have hfirst : Prefers (satisfying test) (c :: (front ++ rest)) (front ++ rest) :=
      prefers_satisfying (hfront c List.mem_cons_self) _
    exact hfirst.followedBy
      (prefers_run (fun d hd ↦ hfront d (List.mem_cons_of_mem c hd)) hrest)

theorem prefers_blanks (hs : ∀ c ∈ s.head?, Text.isBlank c = false) : Prefers blanks s s := by
  have hnone : ∀ c ∈ ([] : Text), Text.isBlank c := by simp
  exact prefers_run hnone hs

theorem front_append (front rest : Text) : Grammar.front (front ++ rest) rest = front := by
  rw [Grammar.front, List.length_append, Nat.add_sub_cancel, List.take_left]

/-- Two parts around a separator are found if each is taken in the preferred way. -/
theorem splitPair?_of_prefers {part separator : Grammar} {low mark high : Text}
    (hstart : ∀ c ∈ (low ++ (mark ++ high)).head?, Text.isBlank c = false)
    (hlow : Prefers part (low ++ (mark ++ high)) (mark ++ high))
    (hmark : Prefers separator (mark ++ high) high) (hhigh : Prefers part high []) :
    splitPair? part separator (low ++ (mark ++ high)) = some (low, high) := by
  have hfirst {α : Type} {ways : List Text} {way : Text} {f : Text → Option α} {a : α}
      (hway : ways.head? = some way) (hf : f way = some a) : ways.findSome? f = some a := by
    obtain ⟨others, rfl⟩ := List.head?_eq_some_iff.mp hway
    rw [List.findSome?_cons, hf]
  apply hfirst (prefers_blanks hstart)
  apply hfirst hlow
  apply hfirst hmark
  apply hfirst hhigh
  have hall : front high [] = high := by simpa using front_append high []
  rw [if_pos (by rfl), front_append, hall]

section Range

/-- The range operator between two values, as its symbol or as its word between blanks. -/
def rangeMark (byWord : Bool) : Text :=
  if byWord then " TO ".toList else "-".toList

/-- The range operator is taken before any sign of the value after it. -/
theorem prefers_rangeSeparator (byWord : Bool)
    (hs : ∀ c ∈ s.head?, Text.isBlank c = false) :
    Prefers (rangeSeparator Operators.default.range) (rangeMark byWord ++ s) s := by
  cases byWord with
  | false =>
    have hblanks : Prefers blanks ('-' :: s) ('-' :: s) :=
      prefers_blanks fun c hc ↦ by
        obtain rfl : '-' = c := by simpa using hc
        rfl
    have hsymbol : Prefers (sequence [blanks, piece ['-'], blanks]) ('-' :: s) s :=
      hblanks.followedBy ((prefers_piece ['-'] s).followedBy
        ((prefers_blanks hs).followedBy (prefers_nothing s)))
    exact hsymbol.orElse
  | true =>
    have hways : blanks (' ' :: 'T' :: 'O' :: ' ' :: s) =
        ['T' :: 'O' :: ' ' :: s, ' ' :: 'T' :: 'O' :: ' ' :: s] := rfl
    have hsymbol : sequence [blanks, piece ['-'], blanks] (' ' :: 'T' :: 'O' :: ' ' :: s) = [] := by
      simp only [sequence, List.foldr_cons, followedBy, hways, List.flatMap_cons, List.flatMap_nil]
      rfl
    have hfirst : Prefers someBlanks (' ' :: 'T' :: 'O' :: ' ' :: s) ('T' :: 'O' :: ' ' :: s) := rfl
    have hblank : ∀ c ∈ [' '], Text.isBlank c := by
      rintro c hc
      obtain rfl := List.mem_singleton.mp hc
      rfl
    have hlast : Prefers someBlanks ([' '] ++ s) s :=
      prefers_nonEmptyRun (List.cons_ne_nil _ _) hblank hs
    have hword : Prefers (sequence [someBlanks, piece ['T', 'O'], someBlanks])
        (' ' :: 'T' :: 'O' :: ' ' :: s) s :=
      hfirst.followedBy ((prefers_piece ['T', 'O'] (' ' :: s)).followedBy
        (hlast.followedBy (prefers_nothing s)))
    exact Prefers.orElse_of_nil hsymbol hword

end Range

section Integer

theorem isDigit_of_ascii {c : Char} (hc : c.isDigit) : Text.isDigit c := by
  simp only [Char.isDigit, Bool.and_eq_true, decide_eq_true_eq, UInt32.le_iff_toNat_le] at hc
  have hlow : 48 ≤ c.toNat := hc.1
  have hhigh : c.toNat ≤ 57 := hc.2
  rw [Text.isDigit, List.any_eq_true]
  exact ⟨0x30, by decide, by simp; omega⟩

/-- An integer in digits is taken whole. -/
theorem prefers_integer {sign digits rest : Text} (hsign : sign = [] ∨ sign = ['+'] ∨ sign = ['-'])
    (hne : digits ≠ []) (hdigits : ∀ c ∈ digits, c.isDigit)
    (hrest : ∀ c ∈ rest.head?, Text.isDigit c = false) :
    Prefers integer (sign ++ digits ++ rest) rest := by
  have hrun : Prefers Grammar.digits (digits ++ rest) rest :=
    prefers_nonEmptyRun hne (fun c hc ↦ isDigit_of_ascii (hdigits c hc)) hrest
  have hfirst : Prefers Grammar.sign (sign ++ (digits ++ rest)) (digits ++ rest) := by
    rcases hsign with rfl | rfl | rfl
    · cases digits with
      | nil => exact absurd rfl hne
      | cons c digits =>
        have hc : c.isDigit := hdigits c List.mem_cons_self
        have hplus : c ≠ '+' := fun h ↦ absurd (h ▸ hc) (by decide)
        have hminus : c ≠ '-' := fun h ↦ absurd (h ▸ hc) (by decide)
        refine Prefers.orElse_of_nil ?_ (prefers_nothing _)
        simp [satisfying, hplus, hminus]
    · exact (prefers_satisfying rfl _).orElse
    · exact (prefers_satisfying rfl _).orElse
  rw [List.append_assoc]
  exact hfirst.followedBy hrun

end Integer

end RecordSearch.Grammar
