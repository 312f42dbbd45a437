import RecordSearch.Dictionary

/-!
# Entries of dictionaries

A dictionary is known by the values of its keys. Inserting an entry replaces at most one, those that
something ignores do not matter, and entries that are inserted by ascending key stay as they are.
-/

namespace RecordSearch.Dictionary

variable {α : Type} {key : Text} {value : α} {entries : List (Text × α)}

theorem mem_entries_iff {d : Dictionary α} : (key, value) ∈ d.entries ↔ d.get? key = some value := by
  refine ⟨get?_eq_some_of_mem, fun h ↦ ?_⟩
  obtain ⟨left, right, hentries, -⟩ := List.lookup_eq_some_iff.mp h
  rw [hentries]
  exact List.mem_append_right left List.mem_cons_self

/-- Two dictionaries with the same value for each key are the same. -/
theorem ext_get? {d e : Dictionary α} (h : ∀ key, d.get? key = e.get? key) : d = e := by
  have hnodup (d : Dictionary α) : d.entries.Nodup := by
    refine d.ascending.imp ?_
    rintro a _ hless rfl
    exact Std.OrientedCmp.not_lt_of_lt hless hless
  have hperm : d.entries.Perm e.entries := by
    rw [List.perm_ext_iff_of_nodup (hnodup d) (hnodup e)]
    rintro ⟨key, value⟩
    rw [mem_entries_iff, mem_entries_iff, h]
  refine ext (hperm.eq_of_pairwise (fun a b _ _ hless hgreater ↦ ?_) d.ascending e.ascending)
  exact absurd hgreater (Std.OrientedCmp.not_lt_of_lt hless)

theorem any_key_eq (d : Dictionary α) (key : Text) :
    (d.entries.any fun entry ↦ entry.1 == key) = d.contains key := by
  rw [contains, get?, Bool.eq_iff_iff, List.any_eq_true, List.lookup_isSome_iff]
  exact exists_congr fun entry ↦ and_congr_right fun _ ↦ by rw [beq_iff_eq, beq_iff_eq, eq_comm]

/-- An inserted entry stands in place of at most one other, which has the same key. -/
theorem exists_insertEntry (key : Text) (value : α) (entries : List (Text × α)) :
    ∃ left old right, entries = left ++ old ++ right ∧
      insertEntry key value entries = left ++ (key, value) :: right ∧
      ∀ entry ∈ old, entry.1 = key := by
  induction entries with
  | nil => exact ⟨[], [], [], rfl, rfl, by simp⟩
  | cons entry entries ih =>
    rw [insertEntry]
    split
    · exact ⟨[], [], entry :: entries, rfl, rfl, by simp⟩
    · rename_i heq
      have hkey : key = entry.1 := Std.LawfulEqCmp.eq_of_compare heq
      exact ⟨[], [entry], entries, rfl, rfl, by simp [hkey]⟩
    · obtain ⟨left, old, right, hentries, hinsert, hold⟩ := ih
      refine ⟨entry :: left, old, right, ?_, ?_, hold⟩
      · rw [hentries]
        rfl
      · rw [hinsert]
        rfl

/-- What ignores every entry with a key does not see that one is inserted. -/
theorem filterMap_insertEntry {β : Type} {f : Text × α → Option β}
    (hf : ∀ v, f (key, v) = none) (entries : List (Text × α)) :
    (insertEntry key value entries).filterMap f = entries.filterMap f := by
  obtain ⟨left, old, right, hentries, hinsert, hold⟩ := exists_insertEntry key value entries
  have hnone : old.filterMap f = [] := by
    apply List.filterMap_eq_nil_iff.mpr
    intro entry hentry
    rw [← hf entry.2, ← hold entry hentry]
  rw [hinsert, hentries, List.filterMap_append, List.filterMap_cons_none (hf value),
    List.filterMap_append, List.filterMap_append, hnone, List.append_nil]

theorem any_insertEntry {p : Text × α → Bool} (hp : ∀ v, p (key, v) = false)
    (entries : List (Text × α)) : (insertEntry key value entries).any p = entries.any p := by
  obtain ⟨left, old, right, hentries, hinsert, hold⟩ := exists_insertEntry key value entries
  have hnone : old.any p = false := by
    apply List.any_eq_false.mpr
    intro entry hentry
    have hentry : p entry = false := by rw [← hp entry.2, ← hold entry hentry]
    simp [hentry]
  rw [hinsert, hentries, List.any_append, List.any_cons, hp, List.any_append, List.any_append,
    hnone, Bool.false_or, Bool.or_false]

theorem mem_insert_self (d : Dictionary α) : (key, value) ∈ (d.insert key value).entries := by
  obtain ⟨left, old, right, -, hinsert, -⟩ := exists_insertEntry key value d.entries
  change (key, value) ∈ insertEntry key value d.entries
  rw [hinsert]
  exact List.mem_append_right left List.mem_cons_self

/-- An entry behind all others is inserted at the end. -/
theorem insertEntry_of_lt (h : ∀ entry ∈ entries, compare entry.1 key = .lt) :
    insertEntry key value entries = entries ++ [(key, value)] := by
  induction entries with
  | nil => rfl
  | cons entry entries ih =>
    obtain ⟨hentry, hentries⟩ := List.forall_mem_cons.mp h
    have hgt : compare key entry.1 = .gt := Std.OrientedCmp.gt_of_lt hentry
    rw [insertEntry, hgt, ih hentries, List.cons_append]

theorem entries_foldl_insert {done : Dictionary α} (h : Ascending (done.entries ++ entries)) :
    (entries.foldl (fun d entry ↦ d.insert entry.1 entry.2) done).entries =
      done.entries ++ entries := by
  induction entries generalizing done with
  | nil => exact (List.append_nil _).symm
  | cons entry entries ih =>
    have hless : ∀ other ∈ done.entries, compare other.1 entry.1 = .lt := fun other hother ↦
      (List.pairwise_append.mp h).2.2 other hother entry List.mem_cons_self
    have hinsert : (done.insert entry.1 entry.2).entries = done.entries ++ [entry] :=
      insertEntry_of_lt hless
    have hrest : Ascending ((done.insert entry.1 entry.2).entries ++ entries) := by
      rwa [hinsert, List.append_assoc]
    rw [List.foldl_cons, ih hrest, hinsert, List.append_assoc]
    rfl

/-- Entries by ascending key are the entries of their dictionary. -/
theorem entries_ofList (h : Ascending entries) : (ofList entries).entries = entries :=
  entries_foldl_insert h

end RecordSearch.Dictionary
