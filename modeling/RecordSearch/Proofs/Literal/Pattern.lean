import RecordSearch.Literal.Pattern
import RecordSearch.Proofs.Text.Parts

/-!
# What a pattern takes

A pattern takes a text that can be cut into parts for its pieces. The matcher keeps, for each rest
of a text, whether the pieces read so far from the right take that rest; each further piece turns
the table of its successors into its own.
-/

namespace RecordSearch

open Text

/-- What a piece of a pattern takes from a text. -/
def Piece.Takes : Piece → Text → Prop
  | .many, _ => True
  | .one, part => ∃ d, part = [d]
  | .char c, part => ∃ d, part = [d] ∧ fold c = fold d

namespace Pattern

section Table

/-- A row of answers, one for each rest of a text. -/
inductive Tabulates (p : Text → Prop) : List Bool → Text → Prop
  | nil {b : Bool} : (b = true ↔ p []) → Tabulates p [b] []
  | cons {b : Bool} {row : List Bool} {c : Char} {s : Text} :
      (b = true ↔ p (c :: s)) → Tabulates p row s → Tabulates p (b :: row) (c :: s)

variable {p q : Text → Prop} {row : List Bool} {s : Text}

theorem Tabulates.headD (h : Tabulates p row s) : row.headD false = true ↔ p s := by
  cases h with
  | nil hb => exact hb
  | cons hb _ => exact hb

theorem Tabulates.congr (h : Tabulates p row s) (hpq : ∀ rest, p rest ↔ q rest) :
    Tabulates q row s := by
  induction h with
  | nil hb => exact .nil (hb.trans (hpq _))
  | cons hb _ ih => exact .cons (hb.trans (hpq _)) ih

/-- Before the first piece, counted from the right, only the empty rest is taken. -/
theorem tabulates_initial (s : Text) :
    Tabulates (· = []) (List.replicate s.length false ++ [true]) s := by
  induction s with
  | nil => exact .nil (by simp)
  | cons c s ih => exact .cons (by simp) ih

theorem Tabulates.extendMany (h : Tabulates p row s) :
    Tabulates (fun rest ↦ ∃ front back, rest = front ++ back ∧ p back) (extendMany row) s := by
  induction h with
  | nil hb => exact .nil (by simpa [Pattern.extendMany] using hb)
  | @cons b row c s hb _ ih =>
    refine .cons ?_ ih
    rw [Bool.or_eq_true, hb, ih.headD]
    constructor
    · rintro (hp | ⟨front, back, rfl, hp⟩)
      · exact ⟨[], c :: s, rfl, hp⟩
      · exact ⟨c :: front, back, rfl, hp⟩
    · rintro ⟨front, back, heq, hp⟩
      cases front with
      | nil => exact .inl (by rwa [heq])
      | cons d front =>
        injection heq with _ heq
        exact .inr ⟨front, back, heq, hp⟩

theorem Tabulates.extendOne {accepts : Char → Bool} (h : Tabulates p row s) :
    Tabulates (fun rest ↦ ∃ d back, rest = d :: back ∧ accepts d ∧ p back)
      (extendOne accepts s row) s := by
  induction h with
  | nil => exact .nil (by simp)
  | cons _ hrow ih =>
    refine .cons ?_ ih
    rw [Bool.and_eq_true, hrow.headD]
    constructor
    · rintro ⟨hc, hp⟩
      exact ⟨_, _, rfl, hc, hp⟩
    · rintro ⟨d, back, heq, hd, hp⟩
      obtain ⟨rfl, rfl⟩ := List.cons.inj heq
      exact ⟨hd, hp⟩

end Table

/-- One more piece turns the table of the later pieces into its own. -/
theorem Tabulates.extend {p : Text → Prop} {row : List Bool} {s : Text} (h : Tabulates p row s)
    (piece : Piece) :
    Tabulates (fun rest ↦ ∃ front back, rest = front ++ back ∧ piece.Takes front ∧ p back)
      (extend s piece row) s := by
  cases piece with
  | many => exact h.extendMany.congr fun rest ↦ by simp [Piece.Takes]
  | one =>
    apply h.extendOne.congr
    intro rest
    simp only [Piece.Takes]
    constructor
    · rintro ⟨d, back, rfl, -, hp⟩
      exact ⟨[d], back, rfl, ⟨d, rfl⟩, hp⟩
    · rintro ⟨_, back, rfl, ⟨d, rfl⟩, hp⟩
      exact ⟨d, back, rfl, trivial, hp⟩
  | char c =>
    apply h.extendOne.congr
    intro rest
    simp only [Piece.Takes, alike, beq_iff_eq]
    constructor
    · rintro ⟨d, back, rfl, hd, hp⟩
      exact ⟨[d], back, rfl, ⟨d, rfl, hd⟩, hp⟩
    · rintro ⟨_, back, rfl, ⟨d, rfl, hd⟩, hp⟩
      exact ⟨d, back, rfl, hd, hp⟩

theorem tabulates_matchRow (s : Text) (pieces : List Piece) :
    Tabulates (CutBy Piece.Takes pieces) (matchRow s pieces) s := by
  induction pieces with
  | nil => exact (tabulates_initial s).congr fun _ ↦ cutBy_nil.symm
  | cons piece pieces ih => exact (ih.extend piece).congr fun _ ↦ cutBy_cons.symm

/-- The matcher accepts the texts that can be cut into parts for the pieces. -/
theorem matchesPieces_iff {pieces : List Piece} {s : Text} :
    matchesPieces pieces s ↔ CutBy Piece.Takes pieces s :=
  (tabulates_matchRow s pieces).headD

section Written

theorem pieces_percent (s : Text) : pieces ('%' :: s) = .many :: pieces s := by
  cases s <;> simp [pieces, escapeMark]

theorem pieces_underscore (s : Text) : pieces ('_' :: s) = .one :: pieces s := by
  cases s <;> simp [pieces, escapeMark]

/-- An escaped character stands for itself, whatever follows it. -/
theorem pieces_escape (c : Char) (s : Text) :
    pieces (FilterToken.escape c ++ s) = .char c :: pieces s := by
  unfold FilterToken.escape
  split
  · simp [pieces]
  · rename_i hc
    simp only [Bool.or_eq_true, decide_eq_true_eq, not_or] at hc
    cases s <;> simp [pieces, hc]

end Written

end Pattern

namespace FilterToken

/-- The pieces of a pattern that a token of a filter becomes. -/
def pieces : FilterToken → List Piece
  | .many => [.many]
  | .one => [.one]
  | .char c => (lowerChar c).map .char

/-- What a token of a filter takes from a text. -/
def Takes : FilterToken → Text → Prop
  | .many, _ => True
  | .one, part => part.length = 1
  | .char c, part => List.Forall₂ (fun a b ↦ fold a = fold b) (lowerChar c) part

theorem pieces_flatMap_escape (word s : Text) :
    Pattern.pieces (word.flatMap escape ++ s) = word.map .char ++ Pattern.pieces s := by
  induction word with
  | nil => rfl
  | cons c word ih =>
    rw [List.flatMap_cons, List.append_assoc, Pattern.pieces_escape, ih, List.map_cons,
      List.cons_append]

theorem pieces_toPattern (token : FilterToken) (s : Text) :
    Pattern.pieces (token.toPattern ++ s) = token.pieces ++ Pattern.pieces s := by
  cases token with
  | many => exact Pattern.pieces_percent s
  | one => exact Pattern.pieces_underscore s
  | char c => exact pieces_flatMap_escape (lowerChar c) s

/-- Reading a pattern text undoes writing the tokens. -/
theorem pieces_flatMap_toPattern (tokens : List FilterToken) (s : Text) :
    Pattern.pieces (tokens.flatMap toPattern ++ s) =
      tokens.flatMap pieces ++ Pattern.pieces s := by
  induction tokens with
  | nil => rfl
  | cons token tokens ih =>
    rw [List.flatMap_cons, List.append_assoc, pieces_toPattern, ih, List.flatMap_cons,
      List.append_assoc]

theorem cutBy_chars {word part : Text} :
    CutBy Piece.Takes (word.map .char) part ↔
      List.Forall₂ (fun a b ↦ fold a = fold b) word part := by
  induction word generalizing part with
  | nil => simp [cutBy_nil, List.forall₂_nil_left_iff]
  | cons c word ih =>
    simp only [List.map_cons, cutBy_cons, ih, List.forall₂_cons_left_iff, Piece.Takes]
    constructor
    · rintro ⟨_, back, rfl, ⟨d, rfl, hd⟩, hback⟩
      exact ⟨d, back, hd, hback, rfl⟩
    · rintro ⟨d, back, hd, hback, rfl⟩
      exact ⟨[d], back, rfl, ⟨d, rfl, hd⟩, hback⟩

theorem takes_iff_cutBy_pieces (token : FilterToken) (part : Text) :
    token.Takes part ↔ CutBy Piece.Takes token.pieces part := by
  cases token with
  | many => simp [Takes, pieces, cutBy_cons, cutBy_nil, Piece.Takes]
  | one => simp [Takes, pieces, cutBy_cons, cutBy_nil, Piece.Takes, List.length_eq_one_iff]
  | char c => exact cutBy_chars.symm

end FilterToken

end RecordSearch
