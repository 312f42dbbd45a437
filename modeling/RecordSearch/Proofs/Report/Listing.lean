import Mathlib.Data.List.Forall2
import RecordSearch.Proofs.Report.Table
import RecordSearch.Report.Listing

/-!
# Results as tables

A page of results is printed as a line for the names of the attributes, a line for each record in the
order of the results, an empty line, and the footer. All of these lines have the same columns. A line
break in a name or in a text of a record is printed as it is, so it ends a line early.
-/

namespace RecordSearch

namespace Text

/-- Ended lines in front of a text are found again, one after the other. -/
theorem splitOn_flatMap_ended (mark : Char) (lines : List Text) (s : Text) :
    List.splitOn mark (lines.flatMap (· ++ [mark]) ++ s) =
      lines.flatMap (List.splitOn mark) ++ List.splitOn mark s := by
  induction lines with
  | nil => rfl
  | cons line lines ih =>
    have hfirst : (line :: lines).flatMap (· ++ [mark]) ++ s =
        line ++ mark :: (lines.flatMap (· ++ [mark]) ++ s) := by simp
    rw [hfirst, List.splitOn_append_cons_self, ih, List.flatMap_cons, List.append_assoc]

theorem flatMap_splitOn_of_forall {mark : Char} {lines : List Text}
    (h : ∀ line ∈ lines, mark ∉ line) : lines.flatMap (List.splitOn mark) = lines := by
  induction lines with
  | nil => rfl
  | cons line lines ih =>
    obtain ⟨hline, hlines⟩ := List.forall_mem_cons.mp h
    rw [List.flatMap_cons, List.splitOn_eq_singleton hline, ih hlines, List.singleton_append]

end Text

namespace Results

variable {ρ : Type} [Record ρ]

/-- The lengths of the texts in a column: of its name, and of the cells of the records. -/
def columnLengths (records : List ρ) (name : Text) : Set ℕ :=
  insert name.length {n | ∃ record ∈ records, n = (Table.cell (Record.value record name)).length}

theorem forall₂_isGreatest_widths (schema : Schema) (records : List ρ) :
    List.Forall₂ (fun name width ↦ IsGreatest (columnLengths records name) width) schema.keys
      (Table.widths schema.keys (records.map (row schema))) := by
  have hwidths := Table.widths_eq schema.keys (fun record name ↦ Table.cell (Record.value record name))
    records
  change Table.widths schema.keys (records.map (row schema)) = _ at hwidths
  rw [hwidths, List.forall₂_map_right_iff, List.forall₂_same]
  exact fun name _ ↦ Table.isGreatest_foldl_max _ _ _

section Fit

variable {schema : Schema} {records : List ρ} {widths : List ℕ}
  (h : List.Forall₂ (fun name width ↦ IsGreatest (columnLengths records name) width)
    schema.keys widths)

include h

theorem fit_names : Table.Fit schema.keys widths :=
  h.imp fun _ _ hwidth ↦ hwidth.2 (Set.mem_insert _ _)

theorem fit_row {record : ρ} (hrecord : record ∈ records) : Table.Fit (row schema record) widths := by
  rw [Table.Fit, row, List.forall₂_map_left_iff]
  exact h.imp fun _ _ hwidth ↦ hwidth.2 (Set.mem_insert_of_mem _ ⟨record, hrecord, rfl⟩)

end Fit

theorem render_of_ne_nil (schema : Schema) {results : Results ρ} (h : results.records ≠ []) :
    results.render schema false =
      Table.render false schema.keys (results.records.map (row schema)) ++
        '\n' :: results.metadata.renderFooter := by
  unfold render
  rw [if_neg (by simpa using h)]
  rfl

/-- Neither the names of the attributes nor the cells of the records hold a line break. -/
def IsUnbroken (schema : Schema) (records : List ρ) : Prop :=
  (∀ name ∈ schema.keys, '\n' ∉ name) ∧
    ∀ record ∈ records, ∀ cell ∈ row schema record, '\n' ∉ cell

instance (schema : Schema) (records : List ρ) : Decidable (IsUnbroken schema records) :=
  inferInstanceAs (Decidable (_ ∧ _))

/-- Results are printed as a header, a row for each of them in their order, an empty line and the
footer. The header and the rows have the same columns, each as wide as its longest text. A row takes
one line more for each line break in it, so without line breaks it is one line. -/
theorem render_rectangular (schema : Schema) {results : Results ρ} (h : results.records ≠ []) :
    ∃ (widths : List ℕ) (header : Text) (rows : List Text),
      let footer := results.metadata.renderFooter
      results.render schema false =
          (header :: rows).flatMap (· ++ ['\n']) ++ '\n' :: footer ∧
        List.splitOn '\n' (results.render schema false) =
          (header :: rows).flatMap (List.splitOn '\n') ++ [] :: List.splitOn '\n' footer ∧
        (IsUnbroken schema results.records → List.splitOn '\n' (results.render schema false) =
          header :: (rows ++ [] :: List.splitOn '\n' footer)) ∧
        List.Forall₂ (fun name width ↦ IsGreatest (columnLengths results.records name) width)
          schema.keys widths ∧
        Table.IsLine widths schema.keys header ∧
        List.Forall₂ (fun record line ↦ Table.IsLine widths (row schema record) line)
          results.records rows := by
  let widths := Table.widths schema.keys (results.records.map (row schema))
  let header := Table.line widths schema.keys
  let rows := results.records.map fun record ↦ Table.line widths (row schema record)
  let footer := results.metadata.renderFooter
  have hwidths : List.Forall₂ _ schema.keys widths :=
    forall₂_isGreatest_widths schema results.records
  have hheader : Table.IsLine widths schema.keys header := Table.isLine_line (fit_names hwidths)
  have hrow (record : ρ) (hrecord : record ∈ results.records) :
      Table.IsLine widths (row schema record) (Table.line widths (row schema record)) :=
    Table.isLine_line (fit_row hwidths hrecord)
  have hrender : results.render schema false =
      (header :: rows).flatMap (· ++ ['\n']) ++ '\n' :: footer := by
    rw [render_of_ne_nil schema h, Table.render_eq, List.map_map]
    rfl
  have hsplit : List.splitOn '\n' (results.render schema false) =
      (header :: rows).flatMap (List.splitOn '\n') ++ [] :: List.splitOn '\n' footer := by
    rw [hrender, Text.splitOn_flatMap_ended]
    exact congrArg _ (List.splitOn_append_cons_self [] footer)
  refine ⟨widths, header, rows, hrender, hsplit, fun hunbroken ↦ ?_, hwidths, hheader, ?_⟩
  · have hlines : ∀ line ∈ header :: rows, '\n' ∉ line := by
      refine List.forall_mem_cons.mpr ⟨?_, List.forall_mem_map.mpr fun record hrecord ↦ ?_⟩
      · exact hheader.not_mem (by decide) hunbroken.1
      · exact (hrow record hrecord).not_mem (by decide) (hunbroken.2 record hrecord)
    rw [hsplit, Text.flatMap_splitOn_of_forall hlines, List.cons_append]
  · rw [List.forall₂_map_right_iff, List.forall₂_same]
    exact hrow

/-- A missing value, a text that is cut and one with characters of several bytes. -/
theorem render_rectangular_null :
    let schema : Schema := (Dictionary.empty.insert "name".toList (Attribute.ofType .text)).insert
      "age".toList (Attribute.ofType (.numeric .integer))
    let record (name : String) (age : Value) : List (Text × Value) :=
      [("name".toList, .text name.toList), ("age".toList, age)]
    let search : Search := ⟨none, [], .resolve .default none none none⟩
    let results := search.run [record "Bärbel" .null, record "a text of many characters" (.integer 5)]
    let table := "age  name\n-    Bärbel\n5    a text of many charac...\n".toList
    results.records ≠ [] ∧ IsUnbroken schema results.records ∧
      results.render schema false = table ++ "\nShowing 1-2 of 2 (page 1 of 1)\n".toList ∧
      ∃ header rows, rows.length = results.records.length ∧
        List.splitOn '\n' (results.render schema false) =
          header :: (rows ++ [] :: List.splitOn '\n' results.metadata.renderFooter) := by
  intro schema record search results table
  have hne : results.records ≠ [] := by decide +kernel
  have hunbroken : IsUnbroken schema results.records := by decide +kernel
  obtain ⟨widths, header, rows, -, -, hlines, -, -, hrows⟩ := render_rectangular schema hne
  exact ⟨hne, hunbroken, by decide +kernel, header, rows, hrows.length_eq.symm, hlines hunbroken⟩

/-- A line break in a text ends the line of its record early. -/
theorem render_broken :
    let schema : Schema := Dictionary.empty.insert "k".toList (Attribute.ofType .text)
    let search : Search := ⟨none, [], .resolve .default none none none⟩
    let results := search.run [[("k".toList, Value.text "a\nb".toList)]]
    results.records.length = 1 ∧
      results.render schema false = "k\na\nb\n\nShowing 1-1 of 1 (page 1 of 1)\n".toList ∧
      ¬ ∃ header line, '\n' ∉ header ∧ '\n' ∉ line ∧ results.render schema false =
        [header, line].flatMap (· ++ ['\n']) ++ '\n' :: results.metadata.renderFooter := by
  intro schema search results
  have hone : results.records.length = 1 := by decide +kernel
  have hrender : results.render schema false =
      "k\na\nb\n\nShowing 1-1 of 1 (page 1 of 1)\n".toList := by decide +kernel
  have hfooter : results.metadata.renderFooter =
      "Showing 1-1 of 1 (page 1 of 1)\n".toList := by decide +kernel
  refine ⟨hone, hrender, ?_⟩
  rintro ⟨header, line, hheader, hline, heq⟩
  have hcount := congrArg (List.count '\n') heq
  rw [hrender, hfooter] at hcount
  simp [List.count_eq_zero.mpr hheader, List.count_eq_zero.mpr hline] at hcount

end Results

end RecordSearch
