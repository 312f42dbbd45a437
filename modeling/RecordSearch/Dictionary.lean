import RecordSearch.Text.Basic

/-!
# Dictionaries

A dictionary maps texts to values and lists its entries by ascending key, code point by code point,
so two dictionaries with the same entries are equal.
-/

namespace RecordSearch

namespace Dictionary

/-- Keys ascend strictly along the list. -/
def Ascending {α : Type} (entries : List (Text × α)) : Prop :=
  entries.Pairwise fun a b ↦ compare a.1 b.1 = .lt

def insertEntry {α : Type} (key : Text) (value : α) : List (Text × α) → List (Text × α)
  | [] => [(key, value)]
  | entry :: entries =>
    match compare key entry.1 with
    | .lt => (key, value) :: entry :: entries
    | .eq => (key, value) :: entries
    | .gt => entry :: insertEntry key value entries

theorem mem_insertEntry {α : Type} {key : Text} {value : α} {x : Text × α} :
    {entries : List (Text × α)} → x ∈ insertEntry key value entries →
      x = (key, value) ∨ x ∈ entries
  | [], h => by simpa [insertEntry] using h
  | entry :: entries, h => by
    unfold insertEntry at h
    split at h
    · simpa using h
    · rcases List.mem_cons.mp h with h | h
      · exact Or.inl h
      · exact Or.inr (List.mem_cons_of_mem _ h)
    · rcases List.mem_cons.mp h with h | h
      · exact Or.inr (List.mem_cons.mpr (Or.inl h))
      · exact (mem_insertEntry h).imp_right (List.mem_cons_of_mem _)

theorem ascending_insertEntry {α : Type} {key : Text} {value : α} :
    {entries : List (Text × α)} → Ascending entries → Ascending (insertEntry key value entries)
  | [], _ => by simp [insertEntry, Ascending]
  | entry :: entries, h => by
    have hhead : ∀ x ∈ entries, compare entry.1 x.1 = .lt := (List.pairwise_cons.mp h).1
    have htail : Ascending entries := (List.pairwise_cons.mp h).2
    unfold insertEntry
    split
    · rename_i hlt
      refine List.pairwise_cons.mpr ⟨fun x hx ↦ ?_, h⟩
      rcases List.mem_cons.mp hx with rfl | hx
      · exact hlt
      · exact Std.TransCmp.lt_trans hlt (hhead x hx)
    · rename_i heq
      have hkey : key = entry.1 := Std.LawfulEqCmp.eq_of_compare heq
      exact List.pairwise_cons.mpr ⟨fun x hx ↦ hkey ▸ hhead x hx, htail⟩
    · rename_i hgt
      refine List.pairwise_cons.mpr ⟨fun x hx ↦ ?_, ascending_insertEntry htail⟩
      rcases mem_insertEntry hx with rfl | hx
      · exact Std.OrientedCmp.lt_of_gt hgt
      · exact hhead x hx

theorem lookup_cons {α : Type} {k : Text} {entry : Text × α} {entries : List (Text × α)} :
    (entry :: entries).lookup k = if k = entry.1 then some entry.2 else entries.lookup k := by
  obtain ⟨key, value⟩ := entry
  by_cases h : k = key
  · simp [h]
  · have hk : (k == key) = false := by simpa using h
    simp only [List.lookup_cons, hk, h, if_false]

theorem lookup_insertEntry {α : Type} {key k : Text} {value : α} :
    {entries : List (Text × α)} → (insertEntry key value entries).lookup k =
      if k = key then some value else entries.lookup k
  | [] => lookup_cons
  | entry :: entries => by
    unfold insertEntry
    split
    · exact lookup_cons
    · rename_i heq
      have hkey : key = entry.1 := Std.LawfulEqCmp.eq_of_compare heq
      by_cases h : k = key
      · simp only [lookup_cons, h, if_true]
      · simp only [lookup_cons, ← hkey, h, if_false]
    · rename_i hgt
      have hself : compare key key = .eq := Std.ReflCmp.compare_self
      have hne : entry.1 ≠ key := fun h ↦ by
        rw [h, hself] at hgt
        cases hgt
      by_cases h : k = entry.1
      · simp only [lookup_cons, h, if_true, hne, if_false]
      · simp only [lookup_cons, h, if_false, lookup_insertEntry]

theorem lookup_eq_some_of_mem {α : Type} {key : Text} {value : α} :
    {entries : List (Text × α)} → Ascending entries → (key, value) ∈ entries →
      entries.lookup key = some value
  | entry :: entries, h, hmem => by
    obtain ⟨hhead, htail⟩ := List.pairwise_cons.mp h
    rw [lookup_cons]
    rcases List.mem_cons.mp hmem with rfl | hmem
    · exact if_pos rfl
    · have hlt : compare entry.1 key = .lt := hhead (key, value) hmem
      have hne : key ≠ entry.1 := fun hkey ↦ by
        have hself : compare key key = .eq := Std.ReflCmp.compare_self
        rw [← hkey, hself] at hlt
        cases hlt
      rw [if_neg hne]
      exact lookup_eq_some_of_mem htail hmem

end Dictionary

structure Dictionary (α : Type) where
  entries : List (Text × α)
  ascending : Dictionary.Ascending entries

namespace Dictionary

variable {α : Type}

theorem ext {d e : Dictionary α} (h : d.entries = e.entries) : d = e := by
  cases d
  cases e
  simpa using h

instance [DecidableEq α] : DecidableEq (Dictionary α) := fun d e ↦
  decidable_of_iff (d.entries = e.entries) ⟨ext, congrArg entries⟩

def empty : Dictionary α := ⟨[], List.Pairwise.nil⟩

instance : Inhabited (Dictionary α) := ⟨empty⟩

/-- Adds an entry, in place of an earlier one with the same key. -/
def insert (d : Dictionary α) (key : Text) (value : α) : Dictionary α :=
  ⟨insertEntry key value d.entries, ascending_insertEntry d.ascending⟩

/-- The dictionary of a list of entries, a later one in place of an earlier with the same key. -/
def ofList (entries : List (Text × α)) : Dictionary α :=
  entries.foldl (fun d entry ↦ d.insert entry.1 entry.2) empty

def get? (d : Dictionary α) (key : Text) : Option α :=
  d.entries.lookup key

theorem get?_insert (d : Dictionary α) (key k : Text) (value : α) :
    (d.insert key value).get? k = if k = key then some value else d.get? k :=
  lookup_insertEntry

theorem get?_eq_some_of_mem {d : Dictionary α} {key : Text} {value : α}
    (h : (key, value) ∈ d.entries) : d.get? key = some value :=
  lookup_eq_some_of_mem d.ascending h

theorem mem_insert {d : Dictionary α} {key : Text} {value : α} {entry : Text × α}
    (h : entry ∈ (d.insert key value).entries) : entry = (key, value) ∨ entry ∈ d.entries :=
  mem_insertEntry h

theorem mem_foldl_insert {entries : List (Text × α)} {done : Dictionary α} {entry : Text × α}
    (h : entry ∈ (entries.foldl (fun d entry ↦ d.insert entry.1 entry.2) done).entries) :
    entry ∈ entries ∨ entry ∈ done.entries := by
  induction entries generalizing done with
  | nil => exact Or.inr h
  | cons next entries ih =>
    rcases ih h with hmem | hmem
    · exact Or.inl (List.mem_cons_of_mem next hmem)
    · exact (mem_insert hmem).imp_left fun heq ↦ List.mem_cons.mpr (Or.inl heq)

theorem mem_ofList {entries : List (Text × α)} {entry : Text × α}
    (h : entry ∈ (ofList entries).entries) : entry ∈ entries :=
  (mem_foldl_insert h).resolve_right List.not_mem_nil

def contains (d : Dictionary α) (key : Text) : Bool :=
  (d.get? key).isSome

def keys (d : Dictionary α) : List Text :=
  d.entries.map Prod.fst

def size (d : Dictionary α) : Nat :=
  d.entries.length

def isEmpty (d : Dictionary α) : Bool :=
  d.entries.isEmpty

end Dictionary

end RecordSearch
