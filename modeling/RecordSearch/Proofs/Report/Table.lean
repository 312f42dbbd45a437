import Mathlib.Algebra.Ring.Nat
import Mathlib.Order.Bounds.Basic
import RecordSearch.Proofs.Text.Ends
import RecordSearch.Report.Table

/-!
# Columns of tables

A line of a table is its cells, each filled up to two more than the width of its column, without the
blanks at the end. So the text of a column begins at the same place in every line, as far as the line
reaches. The width of a column is the greatest length of the texts in it.
-/

namespace RecordSearch

namespace Text

variable {s back : Text} {n width : ℕ}

theorem length_pad (width : ℕ) (s : Text) : (pad width s).length = max width s.length := by
  rw [pad, List.length_append, List.length_replicate]
  omega

theorem prefix_pad (width : ℕ) (s : Text) : s <+: pad width s :=
  List.prefix_append _ _

/-- A text that fits is filled up further by the blanks that are added to the width. -/
theorem pad_add (h : s.length ≤ width) (n : ℕ) :
    pad (width + n) s = pad width s ++ List.replicate n ' ' := by
  have hfill : width + n - s.length = (width - s.length) + n := by omega
  rw [pad, pad, hfill, List.replicate_add, List.append_assoc]

theorem trimEnd_isPrefix (s : Text) : trimEnd s <+: s :=
  List.rdropWhile_prefix isBlank s

/-- Up to its trailing blanks a text stands where it stood before blanks were cut off. -/
theorem trimEnd_prefix_drop (hback : ∀ c ∈ back, isBlank c) {line : Text}
    (h : s <+: (line ++ back).drop n) : trimEnd s <+: line.drop n := by
  have hwhole : (line ++ back).drop n = line.drop n ++ back.drop (n - line.length) :=
    List.drop_append
  rw [hwhole] at h
  rcases List.prefix_or_prefix_of_prefix h (List.prefix_append _ _) with hwithin | ⟨rest, rfl⟩
  · exact (trimEnd_isPrefix s).trans hwithin
  · have hblank : ∀ c ∈ rest, isBlank c := fun c hc ↦ by
      rw [List.prefix_append_right_inj] at h
      exact hback c (List.mem_of_mem_drop (h.subset hc))
    rw [trimEnd_append_of_blank hblank]
    exact trimEnd_isPrefix _

/-- With a separator behind each part, the last one included, parts are joined piece by piece. -/
theorem join_append (separator : Text) {parts : List Text} (h : parts ≠ []) :
    join separator parts ++ separator = parts.flatMap (· ++ separator) := by
  induction parts with
  | nil => exact absurd rfl h
  | cons part parts ih =>
    by_cases hparts : parts = []
    · simp [hparts, join]
    · rw [join] at ih ⊢
      rw [List.intercalate_cons_of_ne_nil hparts, List.append_assoc, ih hparts, List.flatMap_cons]

end Text

namespace Table

variable {widths : List ℕ} {cells : List Text} {line : Text}

/-- Each cell is no longer than its column is wide. -/
abbrev Fit (cells : List Text) (widths : List ℕ) : Prop :=
  List.Forall₂ (fun cell width ↦ cell.length ≤ width) cells widths

/-- Cells one behind the other, each in two more characters than its column is wide. -/
def filled (widths : List ℕ) (cells : List Text) : Text :=
  (List.zipWith (fun width cell ↦ Text.pad (width + 2) cell) widths cells).flatten

/-- The place where a column begins: two more than the width, for each column before it. -/
def offset (widths : List ℕ) (j : ℕ) : ℕ :=
  ((widths.take j).map (· + 2)).sum

/-- A line of a table with columns of the given widths. -/
structure IsLine (widths : List ℕ) (cells : List Text) (line : Text) : Prop where
  trimmed : Text.trimEnd line = line
  /-- Only blanks at the end have been cut off. -/
  filled : ∃ back, (∀ c ∈ back, Text.isBlank c) ∧ line ++ back = filled widths cells
  /-- Each cell begins where its column does, without the blanks that are cut off with the end. -/
  column : ∀ j cell, cells[j]? = some cell → Text.trimEnd cell <+: line.drop (offset widths j)

theorem filled_eq (h : Fit cells widths) :
    filled widths cells = (List.zipWith Text.pad widths cells).flatMap (· ++ "  ".toList) := by
  induction h with
  | nil => rfl
  | @cons cell width cells widths hcell _ ih =>
    rw [List.zipWith_cons_cons, List.flatMap_cons, ← ih]
    change Text.pad (width + 2) cell ++ filled widths cells = _
    rw [Text.pad_add hcell]
    rfl

theorem prefix_drop_filled (h : Fit cells widths) {j : ℕ} {cell : Text}
    (hcell : cells[j]? = some cell) : cell <+: (filled widths cells).drop (offset widths j) := by
  induction h generalizing j with
  | nil => cases hcell
  | @cons first width cells widths hfirst _ ih =>
    cases j with
    | zero =>
      obtain rfl : first = cell := by simpa using hcell
      exact (Text.prefix_pad (width + 2) first).trans (List.prefix_append _ _)
    | succ j =>
      have hlength : (Text.pad (width + 2) first).length = width + 2 := by
        rw [Text.length_pad]
        omega
      have hdrop : (Text.pad (width + 2) first ++ filled widths cells).drop
          ((Text.pad (width + 2) first).length + offset widths j) =
            (filled widths cells).drop (offset widths j) :=
        List.drop_length_add_append _
      rw [hlength] at hdrop
      change cell <+: (Text.pad (width + 2) first ++ filled widths cells).drop
        (width + 2 + offset widths j)
      rw [hdrop]
      exact ih (by simpa using hcell)

/-- The line of cells that fit their columns. -/
theorem isLine_line (h : Fit cells widths) : IsLine widths cells (Table.line widths cells) := by
  have hfilled : ∃ back, (∀ c ∈ back, Text.isBlank c) ∧
      Table.line widths cells ++ back = Table.filled widths cells := by
    obtain ⟨back, hline, hback⟩ :=
      Text.exists_trimEnd_append (Text.join "  ".toList (List.zipWith Text.pad widths cells))
    by_cases hparts : List.zipWith Text.pad widths cells = []
    · refine ⟨[], by simp, ?_⟩
      rw [filled_eq h, Table.line, hparts]
      rfl
    · have hseparator : ∀ c ∈ "  ".toList, Text.isBlank c := by
        intro c hc
        obtain rfl : c = ' ' := by simpa using hc
        rfl
      refine ⟨back ++ "  ".toList, List.forall_mem_append.mpr ⟨hback, hseparator⟩, ?_⟩
      rw [filled_eq h, ← Text.join_append _ hparts, ← List.append_assoc]
      exact congrArg (· ++ "  ".toList) hline.symm
  refine ⟨Text.trimEnd_eq_self_iff.mpr (Text.getLast?_trimEnd _), hfilled, ?_⟩
  intro j cell hcell
  obtain ⟨back, hback, hline⟩ := hfilled
  apply Text.trimEnd_prefix_drop hback
  rw [hline]
  exact prefix_drop_filled h hcell

/-- A line has no other characters than its cells, but for the blanks that fill them up. -/
theorem IsLine.not_mem (h : IsLine widths cells line) {c : Char} (hc : c ≠ ' ')
    (hcells : ∀ cell ∈ cells, c ∉ cell) : c ∉ line := by
  intro hmem
  obtain ⟨back, -, hline⟩ := h.filled
  have hfilled : c ∈ Table.filled widths cells := hline ▸ List.mem_append_left back hmem
  obtain ⟨part, hpart, hmem⟩ := List.mem_flatten.mp hfilled
  rw [← List.map_uncurry_zip_eq_zipWith] at hpart
  obtain ⟨⟨width, cell⟩, hentry, rfl⟩ := List.mem_map.mp hpart
  rcases List.mem_append.mp hmem with hcell | hfill
  · exact hcells cell (List.of_mem_zip hentry).2 hcell
  · exact hc (List.eq_of_mem_replicate hfill)

/-- An uncolored table is its lines, each with its end. -/
theorem render_eq (header : List Text) (rows : List (List Text)) :
    render false header rows =
      (Table.line (Table.widths header rows) header ::
        rows.map (Table.line (Table.widths header rows))).flatMap (· ++ ['\n']) := by
  rw [List.flatMap_cons, List.flatMap_map]
  rfl

section Widths

variable {ρ : Type}

/-- Each column is widened by each row in turn. -/
theorem widths_eq (names : List Text) (cell : ρ → Text → Text) (records : List ρ) :
    Table.widths names (records.map fun record ↦ names.map (cell record)) =
      names.map fun name ↦
        records.foldl (fun width record ↦ max width (cell record name).length) name.length := by
  have hrows (start : Text → ℕ) :
      (records.map fun record ↦ names.map (cell record)).foldl
          (fun widths row ↦ List.zipWith max widths (row.map List.length)) (names.map start) =
        names.map fun name ↦
          records.foldl (fun width record ↦ max width (cell record name).length) (start name) := by
    induction records generalizing start with
    | nil => rfl
    | cons record records ih =>
      rw [List.map_cons, List.foldl_cons, List.map_map, List.zipWith_map, List.zipWith_self, ih]
      rfl
  exact hrows List.length

theorem isGreatest_foldl_max (f : ρ → ℕ) (start : ℕ) (records : List ρ) :
    IsGreatest (insert start {n | ∃ record ∈ records, n = f record})
      (records.foldl (fun n record ↦ max n (f record)) start) := by
  induction records using List.reverseRecOn with
  | nil => simp
  | append_singleton records record ih =>
    have hset : insert start {n | ∃ r ∈ records ++ [record], n = f r} =
        insert (f record) (insert start {n | ∃ r ∈ records, n = f r}) := by
      ext n
      simp only [Set.mem_insert_iff, Set.mem_ofPred_eq, List.mem_append, List.mem_singleton,
        or_and_right, exists_or, exists_eq_left]
      exact or_rotate.symm
    rw [hset, List.foldl_append, List.foldl_cons, List.foldl_nil, max_comm]
    exact ih.insert (f record)

end Widths

end Table

end RecordSearch
