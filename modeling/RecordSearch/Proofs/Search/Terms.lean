import Mathlib.Algebra.BigOperators.Group.List.Lemmas
import Mathlib.Data.List.Dedup
import Mathlib.Data.List.Perm.Subperm
import RecordSearch.Proofs.Record.Key
import RecordSearch.Proofs.Search.StableSort

/-!
# Counted terms

The terms of a search are the front of one list, in which each different value of the results stands
once with its count, by descending counts and then by first occurrence. The table that counts them
finds a value again by its key, so values are different here as far as their keys show it. That is
everywhere but with floats and with leap seconds within a minute.
-/

namespace RecordSearch

namespace TermTable

def values (table : TermTable) : List Value :=
  table.terms.map Term.value

/-- What a table holds after some values were counted: of those with one key the first, with the
count of all of them. The positions belong to the terms as long as these are not sorted. -/
structure Counts (table : TermTable) (counted : List Value) : Prop where
  complete : ∀ v ∈ counted, v.key ∈ table.values.map Value.key
  first : ∀ v ∈ table.values, counted.find? (fun w ↦ w.key = v.key) = some v
  count_eq : ∀ term ∈ table.terms, term.count = counted.countP fun v ↦ v.key = term.value.key
  ordered : table.values.Pairwise fun v w ↦ counted.idxOf v < counted.idxOf w
  position_iff : ∀ key i, table.positions.get? key = some i ↔
    (table.values.map Value.key)[i]? = some key

variable {table : TermTable} {counted : List Value} {value : Value}

theorem Counts.mem_counted (h : table.Counts counted) {v : Value} (hv : v ∈ table.values) :
    v ∈ counted :=
  List.mem_of_find?_eq_some (h.first v hv)

/-- Two values with one key are both the first with that key. -/
theorem Counts.nodup (h : table.Counts counted) : (table.values.map Value.key).Nodup := by
  rw [List.Nodup, List.pairwise_map]
  refine h.ordered.imp_of_mem fun {v w} hv hw hlt hkey ↦ ?_
  have hsame : some v = some w := by
    rw [← h.first v hv, ← h.first w hw, hkey]
  obtain rfl := Option.some.inj hsame
  exact Nat.lt_irrefl _ hlt

/-- Values that were counted keep their order of first occurrence when one more is counted. -/
theorem Counts.ordered_append (h : table.Counts counted) (value : Value) :
    table.values.Pairwise fun v w ↦
      (counted ++ [value]).idxOf v < (counted ++ [value]).idxOf w := by
  refine h.ordered.imp_of_mem fun hv hw hlt ↦ ?_
  rw [List.idxOf_append_of_mem (h.mem_counted hv), List.idxOf_append_of_mem (h.mem_counted hw)]
  exact hlt

theorem Counts.first_append (h : table.Counts counted) (value : Value) {v : Value}
    (hv : v ∈ table.values) : (counted ++ [value]).find? (fun w ↦ w.key = v.key) = some v := by
  rw [List.find?_append, h.first v hv, Option.some_or]

theorem values_modify (terms : List Term) (position : ℕ) :
    (terms.modify position Term.increment).map Term.value = terms.map Term.value := by
  refine List.ext_getElem? fun i ↦ ?_
  simp only [List.getElem?_map, List.getElem?_modify]
  cases terms[i]? with
  | none => rfl
  | some term =>
    simp only [Option.map_eq_map, Option.map_some]
    split <;> rfl

/-- Keys stand at different positions, so one term is changed. -/
theorem Counts.count_increment (h : table.Counts counted) {position : ℕ}
    (hkey : (table.values.map Value.key)[position]? = some value.key) {term : Term}
    (hterm : term ∈ table.terms.modify position Term.increment) :
    term.count = (counted ++ [value]).countP fun v ↦ v.key = term.value.key := by
  obtain ⟨i, hi⟩ := List.mem_iff_getElem?.mp hterm
  rw [List.getElem?_modify] at hi
  obtain ⟨old, hold, rfl⟩ := Option.map_eq_some_iff.mp hi
  have hcount := h.count_eq old (List.mem_of_getElem? hold)
  have hat : (table.values.map Value.key)[i]? = some old.value.key := by simp [values, hold]
  split
  · rename_i hsame
    have heq : value.key = old.value.key := by
      rw [← hsame, hkey] at hat
      exact Option.some.inj hat
    simp [Term.increment, hcount, heq]
  · rename_i hother
    have hne : value.key ≠ old.value.key := by
      intro heq
      obtain ⟨hlt, -⟩ := List.getElem?_eq_some_iff.mp hkey
      exact hother ((List.getElem?_inj hlt h.nodup).mp (by rw [hkey, hat, heq]))
    simp [hcount, hne]

/-- Counting a value whose key the table holds at a position. -/
theorem Counts.increment (h : table.Counts counted) {position : ℕ}
    (hkey : (table.values.map Value.key)[position]? = some value.key) :
    Counts { table with terms := table.terms.modify position Term.increment }
      (counted ++ [value]) := by
  have hvalues : values { table with terms := table.terms.modify position Term.increment } =
      table.values := values_modify table.terms position
  refine ⟨?_, ?_, fun term hterm ↦ h.count_increment hkey hterm, ?_, ?_⟩ <;> rw [hvalues]
  · rw [List.forall_mem_append, List.forall_mem_singleton]
    exact ⟨h.complete, List.mem_of_getElem? hkey⟩
  · exact fun v hv ↦ h.first_append value hv
  · exact h.ordered_append value
  · exact h.position_iff

/-- A new key gets the position behind all others. -/
theorem position_iff_append {positions : Dictionary ℕ} {keys : List Text} {key : Text}
    (h : ∀ k i, positions.get? k = some i ↔ keys[i]? = some k)
    (hnew : positions.get? key = none) (k : Text) (i : ℕ) :
    (positions.insert key keys.length).get? k = some i ↔ (keys ++ [key])[i]? = some k := by
  rw [Dictionary.get?_insert]
  by_cases hk : k = key
  · subst hk
    have hno : keys[i]? ≠ some k := fun hat ↦ by
      rw [(h k i).mpr hat] at hnew
      cases hnew
    rw [if_pos rfl, Option.some_inj, List.getElem?_append]
    split
    · simp only [hno, iff_false]
      omega
    · simp only [List.getElem?_singleton, ite_eq_left_iff, reduceCtorEq, imp_false, not_not]
      omega
  · rw [if_neg hk, h, List.getElem?_append]
    split
    · rfl
    · rename_i hge
      rw [List.getElem?_eq_none (Nat.le_of_not_lt hge)]
      simp [List.getElem?_singleton, Ne.symm hk]

/-- Counting a value with a new key. -/
theorem Counts.append (h : table.Counts counted)
    (hkey : table.positions.get? value.key = none) :
    Counts ⟨table.terms ++ [⟨value, 1⟩], table.positions.insert value.key table.terms.length⟩
      (counted ++ [value]) := by
  have hvalues : values ⟨table.terms ++ [⟨value, 1⟩],
      table.positions.insert value.key table.terms.length⟩ = table.values ++ [value] := by
    simp [values]
  have hnot : value.key ∉ table.values.map Value.key := fun hmem ↦ by
    obtain ⟨position, hat⟩ := List.mem_iff_getElem?.mp hmem
    rw [(h.position_iff _ _).mpr hat] at hkey
    cases hkey
  have hnew : ∀ v ∈ counted, v.key ≠ value.key := fun v hv heq ↦ hnot (heq ▸ h.complete v hv)
  refine ⟨?_, ?_, ?_, ?_, ?_⟩
  · rw [hvalues, List.map_append, List.forall_mem_append, List.forall_mem_singleton]
    exact ⟨fun v hv ↦ List.mem_append_left _ (h.complete v hv), by simp⟩
  · rw [hvalues, List.forall_mem_append, List.forall_mem_singleton]
    refine ⟨fun v hv ↦ h.first_append value hv, ?_⟩
    have hnone : counted.find? (fun w ↦ w.key = value.key) = none := by simpa using hnew
    rw [List.find?_append, hnone]
    simp
  · rw [List.forall_mem_append, List.forall_mem_singleton]
    refine ⟨fun term hterm ↦ ?_, ?_⟩
    · have hne : value.key ≠ term.value.key := fun heq ↦
        hnot (heq ▸ List.mem_map_of_mem (List.mem_map_of_mem hterm))
      simp [h.count_eq term hterm, hne]
    · have hzero : counted.countP (fun v ↦ v.key = value.key) = 0 := by
        simpa [List.countP_eq_zero] using hnew
      simp [hzero]
  · rw [hvalues]
    refine List.pairwise_append.mpr
      ⟨h.ordered_append value, List.pairwise_singleton _ _, fun v hv w hw ↦ ?_⟩
    obtain rfl := List.mem_singleton.mp hw
    have hmem : v ∈ counted := h.mem_counted hv
    rw [List.idxOf_append_of_mem hmem, List.idxOf_append_of_notMem fun hmem ↦ hnew _ hmem rfl]
    exact Nat.lt_add_right _ (List.idxOf_lt_length_of_mem hmem)
  · have hlength : (table.values.map Value.key).length = table.terms.length := by
      simp [values]
    rw [hvalues, List.map_append, ← hlength]
    exact position_iff_append h.position_iff hkey

theorem Counts.add (h : table.Counts counted) (value : Value) :
    (table.add value).Counts (counted ++ [value]) := by
  unfold TermTable.add
  split
  · rename_i position hposition
    exact h.increment ((h.position_iff _ _).mp hposition)
  · rename_i hnone
    exact h.append hnone

end TermTable

/-- The terms of a list of values, as far as `shown` tells these apart: one term for all that show
the same, with the first of them and with their count, by descending counts and then in the order in
which they first occur. -/
structure IsHistogram {α : Type} [DecidableEq α] (shown : Value → α) (values : List Value)
    (terms : List Term) : Prop where
  complete : ∀ v ∈ values, ∃ term ∈ terms, shown term.value = shown v
  apart : terms.Pairwise fun a b ↦ shown a.value ≠ shown b.value
  first : ∀ term ∈ terms, values.find? (fun v ↦ shown v = shown term.value) = some term.value
  count_eq : ∀ term ∈ terms, term.count = values.countP fun v ↦ shown v = shown term.value
  ordered : terms.Pairwise fun a b ↦
    b.count < a.count ∨ a.count = b.count ∧ values.idxOf a.value < values.idxOf b.value

namespace IsHistogram

variable {α β : Type} [DecidableEq α] [DecidableEq β] {shown : Value → α} {other : Value → β}
  {values : List Value} {terms others : List Term}

theorem mem_values (h : IsHistogram shown values terms) {term : Term} (hterm : term ∈ terms) :
    term.value ∈ values :=
  List.mem_of_find?_eq_some (h.first term hterm)

/-- What tells the same values apart has the same histogram. -/
theorem congr (h : IsHistogram shown values terms)
    (hsame : ∀ v ∈ values, ∀ w ∈ values, shown v = shown w ↔ other v = other w) :
    IsHistogram other values terms := by
  have hterm {term : Term} (hterm : term ∈ terms) :
      ∀ v ∈ values, shown v = shown term.value ↔ other v = other term.value :=
    fun v hv ↦ hsame v hv _ (h.mem_values hterm)
  refine ⟨fun v hv ↦ ?_, ?_, fun term hmem ↦ ?_, fun term hmem ↦ ?_, h.ordered⟩
  · obtain ⟨term, hmem, heq⟩ := h.complete v hv
    exact ⟨term, hmem, (hsame _ (h.mem_values hmem) v hv).mp heq⟩
  · exact h.apart.imp_of_mem fun ha hb hne ↦
      mt (hsame _ (h.mem_values ha) _ (h.mem_values hb)).mpr hne
  · rw [← h.first term hmem, ← List.head?_filter, ← List.head?_filter]
    exact congrArg List.head? (List.filter_congr fun v hv ↦ by simp [hterm hmem v hv])
  · rw [h.count_eq term hmem]
    exact List.countP_congr fun v hv ↦ by simp [hterm hmem v hv]

theorem perm_dedup (h : IsHistogram shown values terms) :
    (terms.map fun term ↦ shown term.value).Perm (values.map shown).dedup := by
  have hnodup : (terms.map fun term ↦ shown term.value).Nodup := List.pairwise_map.mpr h.apart
  refine (List.perm_ext_iff_of_nodup hnodup (List.nodup_dedup _)).mpr fun a ↦ ?_
  rw [List.mem_dedup, List.mem_map, List.mem_map]
  constructor
  · rintro ⟨term, hterm, rfl⟩
    exact ⟨_, h.mem_values hterm, rfl⟩
  · rintro ⟨v, hv, rfl⟩
    exact h.complete v hv

theorem length_le (h : IsHistogram shown values terms) : terms.length ≤ values.length := by
  have hlength := h.perm_dedup.length_eq
  have hle := (List.dedup_sublist (values.map shown)).length_le
  rwa [← hlength, List.length_map, List.length_map] at hle

theorem mem_terms_iff (h : IsHistogram shown values terms) {term : Term} :
    term ∈ terms ↔ values.find? (fun v ↦ shown v = shown term.value) = some term.value ∧
      term.count = values.countP fun v ↦ shown v = shown term.value := by
  constructor
  · exact fun hterm ↦ ⟨h.first term hterm, h.count_eq term hterm⟩
  · rintro ⟨hfirst, hcount⟩
    obtain ⟨found, hfound, hshown⟩ := h.complete _ (List.mem_of_find?_eq_some hfirst)
    have hvalue := h.first found hfound
    have hcounts := h.count_eq found hfound
    rw [hshown, hfirst, Option.some.injEq] at hvalue
    rw [hshown, ← hcount] at hcounts
    have heq : term = found := by
      cases found
      cases term
      exact congrArg₂ Term.mk hvalue hcounts.symm
    exact heq ▸ hfound

/-- A list of values has one histogram only. -/
theorem unique (h : IsHistogram shown values terms) (hothers : IsHistogram shown values others) :
    terms = others := by
  have hnodup {terms : List Term} (h : IsHistogram shown values terms) : terms.Nodup :=
    h.apart.imp fun {a b} hne heq ↦ hne (by rw [heq])
  have hperm : terms.Perm others :=
    (List.perm_ext_iff_of_nodup (hnodup h) (hnodup hothers)).mpr fun term ↦ by
      rw [h.mem_terms_iff, hothers.mem_terms_iff]
  refine hperm.eq_of_pairwise (fun a b _ _ hab hba ↦ ?_) h.ordered hothers.ordered
  -- Neither count is greater, and neither value occurs before the other.
  omega

end IsHistogram

namespace Search

variable {ρ : Type} [Record ρ]

end Search

end RecordSearch
