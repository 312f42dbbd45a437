import RecordSearch.Proofs.Text.Grammar
import RecordSearch.Proofs.Text.Parts

/-!
# The language of a grammar

Which front parts a grammar can take off a text does not depend on what follows them, so a grammar
has a language. That of a composed grammar is composed of the languages of its parts.
-/

namespace RecordSearch.Grammar

/-- A grammar takes the texts of a language off the front of a text, and nothing else. -/
def Takes (g : Grammar) (language : Text → Prop) : Prop :=
  ∀ s rest, rest ∈ g s ↔ ∃ front, s = front ++ rest ∧ language front

variable {g h : Grammar} {language further : Text → Prop} {test : Char → Bool} {s : Text}

theorem Takes.congr (hg : Takes g language) (hlanguage : ∀ front, language front ↔ further front) :
    Takes g further := by
  have heq : language = further := funext fun front ↦ propext (hlanguage front)
  exact heq ▸ hg

/-- A grammar accepts the texts of its language. -/
theorem Takes.accepts_iff (hg : Takes g language) : g.accepts s ↔ language s := by
  calc
    _ ↔ [] ∈ g s := by simp [accepts]
    _ ↔ _ := by simp [hg s []]

theorem takes_nothing : Takes nothing (· = []) := by
  intro s rest
  simp [nothing, eq_comm]

theorem takes_piece (p : Text) : Takes (piece p) (· = p) := by
  intro s rest
  unfold piece
  cases hdrop : Text.dropFront? p s with
  | none =>
    have hne : s ≠ p ++ rest := fun hs ↦ by
      rw [Text.dropFront?_eq_some_iff.mpr hs] at hdrop
      cases hdrop
    simpa using hne
  | some left =>
    rw [Text.dropFront?_eq_some_iff] at hdrop
    simp [hdrop, eq_comm]

theorem takes_satisfying (test : Char → Bool) :
    Takes (satisfying test) (fun front ↦ ∃ c, front = [c] ∧ test c) := by
  intro s rest
  cases s with
  | nil =>
    simp [satisfying]
  | cons c s =>
    rw [satisfying]
    constructor
    · intro hrest
      split at hrest
      · rename_i hc
        obtain rfl := List.mem_singleton.mp hrest
        exact ⟨[c], rfl, c, rfl, hc⟩
      · cases hrest
    · rintro ⟨_, hs, d, rfl, hd⟩
      obtain ⟨rfl, rfl⟩ := List.cons.inj hs
      simp [hd]

theorem Takes.followedBy (hg : Takes g language) (hh : Takes h further) :
    Takes (followedBy g h) fun front ↦ ∃ a b, front = a ++ b ∧ language a ∧ further b := by
  intro s rest
  rw [Grammar.followedBy, List.mem_flatMap]
  constructor
  · rintro ⟨middle, hmiddle, hrest⟩
    obtain ⟨a, rfl, ha⟩ := (hg s middle).mp hmiddle
    obtain ⟨b, rfl, hb⟩ := (hh middle rest).mp hrest
    exact ⟨a ++ b, by simp, a, b, rfl, ha, hb⟩
  · rintro ⟨_, rfl, a, b, rfl, ha, hb⟩
    exact ⟨b ++ rest, (hg _ _).mpr ⟨a, by simp, ha⟩, (hh _ _).mpr ⟨b, rfl, hb⟩⟩

theorem Takes.orElse (hg : Takes g language) (hh : Takes h further) :
    Takes (orElse g h) fun front ↦ language front ∨ further front := by
  intro s rest
  rw [Grammar.orElse, List.mem_append, hg s rest, hh s rest, ← exists_or]
  simp only [and_or_left]

theorem Takes.optional (hg : Takes g language) :
    Takes (optional g) fun front ↦ language front ∨ front = [] :=
  hg.orElse takes_nothing

/-- The parts of a sequence take consecutive parts of a text. -/
theorem takes_sequence {parts : List Grammar} {languages : List (Text → Prop)}
    (hparts : List.Forall₂ Takes parts languages) :
    Takes (sequence parts) (Text.CutBy (fun language part ↦ language part) languages) := by
  induction hparts with
  | nil => exact takes_nothing.congr fun _ ↦ Text.cutBy_nil.symm
  | cons hpart _ ih =>
    apply (hpart.followedBy ih).congr
    intro front
    rw [Text.cutBy_cons]

theorem takes_oneOf {parts : List Grammar} {languages : List (Text → Prop)}
    (hparts : List.Forall₂ Takes parts languages) :
    Takes (oneOf parts) fun front ↦ ∃ language ∈ languages, language front := by
  induction hparts with
  | nil =>
    intro s rest
    simp [oneOf]
  | cons hpart _ ih =>
    apply (hpart.orElse ih).congr
    simp

/-- A number of characters of a class. -/
def Run (test : Char → Bool) (low high : ℕ) (s : Text) : Prop :=
  low ≤ s.length ∧ s.length ≤ high ∧ ∀ c ∈ s, test c

instance (low high : ℕ) (s : Text) : Decidable (Run test low high s) :=
  decidable_of_iff (low ≤ s.length ∧ s.length ≤ high ∧ s.all test) (by simp [Run])

theorem takes_exactly (n : ℕ) (test : Char → Bool) : Takes (exactly n test) (Run test n n) := by
  induction n with
  | zero =>
    apply takes_nothing.congr
    rintro (_ | ⟨c, front⟩) <;> simp [Run]
  | succ n ih =>
    apply ((takes_satisfying test).followedBy ih).congr
    intro front
    constructor
    · rintro ⟨_, b, rfl, ⟨c, rfl, hc⟩, hlow, hhigh, hall⟩
      refine ⟨by simpa using hlow, by simpa using hhigh, ?_⟩
      simpa [hc] using hall
    · rintro ⟨hlow, hhigh, hall⟩
      cases front with
      | nil => simp at hlow
      | cons c front =>
        simp only [List.length_cons, Nat.add_le_add_iff_right, List.forall_mem_cons] at *
        exact ⟨[c], front, rfl, ⟨c, rfl, hall.1⟩, hlow, hhigh, hall.2⟩

section Run

theorem mem_runOnto {rest : Text} {shorter : List Text} :
    rest ∈ runOnto test shorter s ↔
      rest ∈ shorter ∨ ∃ front, s = front ++ rest ∧ ∀ c ∈ front, test c := by
  induction s generalizing shorter with
  | nil => simp [runOnto, or_comm]
  | cons c s ih =>
    have hfront : (∃ front, c :: s = front ++ rest ∧ ∀ d ∈ front, test d) ↔
        rest = c :: s ∨ test c ∧ ∃ front, s = front ++ rest ∧ ∀ d ∈ front, test d := by
      constructor
      · rintro ⟨_ | ⟨d, front⟩, hs, hall⟩
        · exact .inl hs.symm
        · obtain ⟨rfl, rfl⟩ := List.cons.inj hs
          obtain ⟨hc, hall⟩ := List.forall_mem_cons.mp hall
          exact .inr ⟨hc, front, rfl, hall⟩
      · rintro (rfl | ⟨hc, front, rfl, hall⟩)
        · exact ⟨[], rfl, by simp⟩
        · exact ⟨c :: front, rfl, List.forall_mem_cons.mpr ⟨hc, hall⟩⟩
    rw [hfront, runOnto]
    split
    · rw [ih, List.mem_cons]
      tauto
    · rw [List.mem_cons]
      tauto

theorem takes_run (test : Char → Bool) : Takes (run test) fun front ↦ ∀ c ∈ front, test c := by
  intro s rest
  rw [run, mem_runOnto]
  simp

/-- At least one character, all of a class. -/
def SomeOf (test : Char → Bool) (s : Text) : Prop :=
  s ≠ [] ∧ ∀ c ∈ s, test c

theorem takes_nonEmptyRun (test : Char → Bool) : Takes (nonEmptyRun test) (SomeOf test) := by
  apply ((takes_satisfying test).followedBy (takes_run test)).congr
  intro front
  constructor
  · rintro ⟨_, b, rfl, ⟨c, rfl, hc⟩, hall⟩
    exact ⟨List.cons_ne_nil _ _, List.forall_mem_cons.mpr ⟨hc, hall⟩⟩
  · rintro ⟨hne, hall⟩
    cases front with
    | nil => exact absurd rfl hne
    | cons c front =>
      obtain ⟨hc, hall⟩ := List.forall_mem_cons.mp hall
      exact ⟨[c], front, rfl, ⟨c, rfl, hc⟩, hall⟩

end Run

/-- Two parts that are found around a separator make up the text, blanks at its ends apart. -/
theorem spelling_of_splitPair? {part separator : Grammar} {low high : Text}
    (hpart : Takes part language) (hseparator : Takes separator further)
    (h : splitPair? part separator s = some (low, high)) :
    ∃ start mark stop, s = start ++ (low ++ (mark ++ (high ++ stop))) ∧
      (∀ c ∈ start, Text.isBlank c) ∧ language low ∧ further mark ∧ language high ∧
        ∀ c ∈ stop, Text.isBlank c := by
  obtain ⟨_, hstart, hfound⟩ := List.exists_of_findSome?_eq_some h
  obtain ⟨_, hlow, hfound⟩ := List.exists_of_findSome?_eq_some hfound
  obtain ⟨_, hmark, hfound⟩ := List.exists_of_findSome?_eq_some hfound
  obtain ⟨stop, hhigh, hfound⟩ := List.exists_of_findSome?_eq_some hfound
  obtain ⟨start, rfl, hblanks⟩ := (takes_run Text.isBlank _ _).mp hstart
  obtain ⟨low', rfl, hlow'⟩ := (hpart _ _).mp hlow
  obtain ⟨mark, rfl, hmark'⟩ := (hseparator _ _).mp hmark
  obtain ⟨high', rfl, hhigh'⟩ := (hpart _ _).mp hhigh
  rw [front_append, front_append] at hfound
  split at hfound
  · rename_i hstop
    obtain ⟨rfl, rfl⟩ := Prod.mk.inj (Option.some.inj hfound)
    exact ⟨start, mark, stop, rfl, hblanks, hlow', hmark', hhigh', List.all_eq_true.mp hstop⟩
  · cases hfound

/-- Wherever a text has two parts around a separator, some are found. -/
theorem isSome_splitPair? {part separator : Grammar} {low mark high : Text}
    (hpart : Takes part language) (hseparator : Takes separator further) (hlow : language low)
    (hmark : further mark) (hhigh : language high) :
    (splitPair? part separator (low ++ (mark ++ high))).isSome := by
  have hstart : low ++ (mark ++ high) ∈ blanks (low ++ (mark ++ high)) :=
    (takes_run Text.isBlank _ _).mpr ⟨[], rfl, by simp⟩
  have hstop : [] ∈ part high := (hpart _ _).mpr ⟨high, by simp, hhigh⟩
  simp only [splitPair?, List.findSome?_isSome_iff]
  exact ⟨_, hstart, _, (hpart _ _).mpr ⟨low, rfl, hlow⟩, _,
    (hseparator _ _).mpr ⟨mark, rfl, hmark⟩, [], hstop, rfl⟩

section Range

/-- The range operator as its symbol among blanks, or as its word between blanks. -/
def IsRangeMark (mark : Text) : Prop :=
  (∃ before after, mark = before ++ '-' :: after ∧
    (∀ c ∈ before, Text.isBlank c) ∧ ∀ c ∈ after, Text.isBlank c) ∨
  ∃ before after, mark = before ++ 'T' :: 'O' :: after ∧
    SomeOf Text.isBlank before ∧ SomeOf Text.isBlank after

theorem takes_rangeSeparator : Takes (rangeSeparator Operators.default.range) IsRangeMark := by
  have hblanks := takes_run Text.isBlank
  have hsomeBlanks := takes_nonEmptyRun Text.isBlank
  have hsymbol := takes_sequence (.cons hblanks (.cons (takes_piece ['-']) (.cons hblanks .nil)))
  have hword := takes_sequence
    (.cons hsomeBlanks (.cons (takes_piece ['T', 'O']) (.cons hsomeBlanks .nil)))
  apply (hsymbol.orElse hword).congr
  intro mark
  simp only [Text.cutBy_cons, Text.cutBy_nil]
  apply or_congr
  · constructor
    · rintro ⟨before, _, rfl, hbefore, _, _, rfl, rfl, after, _, rfl, hafter, rfl⟩
      exact ⟨before, after, by simp, hbefore, hafter⟩
    · rintro ⟨before, after, rfl, hbefore, hafter⟩
      exact ⟨before, _, rfl, hbefore, ['-'], after, rfl, rfl, after, [], by simp, hafter, rfl⟩
  · constructor
    · rintro ⟨before, _, rfl, hbefore, _, _, rfl, rfl, after, _, rfl, hafter, rfl⟩
      exact ⟨before, after, by simp, hbefore, hafter⟩
    · rintro ⟨before, after, rfl, hbefore, hafter⟩
      exact ⟨before, _, rfl, hbefore, ['T', 'O'], after, rfl, rfl, after, [], by simp, hafter, rfl⟩

end Range

end RecordSearch.Grammar
