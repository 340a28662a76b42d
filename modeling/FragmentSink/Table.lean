/-
  Finite tables: lists of entries in which every key stands
  once, in the order in which the keys first came in.

  Every operation is described by the look-up `get?`.

  Main statements:
    * `Table.get?_insert`
    * `Table.get?_erase`
    * `Table.get?_filterKeys`
    * `Table.mem_keys_iff`
-/

namespace FragmentSink

------------------------------------------------------------
-- Entry Lists
------------------------------------------------------------

namespace Entries

variable {κ α : Type} [DecidableEq κ]

/- The value of the first entry of a key. -/
def get? (k : κ) : List (κ × α) → Option α
| [] => none
| e :: es => if e.1 = k then some e.2 else get? k es

/- Replace the entry of a key in its place, or add one at the end. -/
def insert (k : κ) (v : α) : List (κ × α) → List (κ × α)
| [] => [(k, v)]
| e :: es =>
    if e.1 = k then (k, v) :: es else e :: insert k v es

theorem mem_keys_insert
    {k x : κ} {v : α} {es : List (κ × α)} :
    x ∈ (insert k v es).map Prod.fst ↔
      x = k ∨ x ∈ es.map Prod.fst := by
  induction es with
  | nil => simp [insert]
  | cons e es ih =>
      by_cases h : e.1 = k
      · simp [insert, h]
      · simp only [insert, h, if_false, List.map_cons,
          List.mem_cons, ih]
        grind

theorem nodup_insert
    {k : κ} {v : α} {es : List (κ × α)}
    (h : (es.map Prod.fst).Nodup) :
    ((insert k v es).map Prod.fst).Nodup := by
  induction es with
  | nil => simp [insert]
  | cons e es ih =>
      rw [List.map_cons, List.nodup_cons] at h
      by_cases hk : e.1 = k
      · simp only [insert, hk, if_true, List.map_cons,
          List.nodup_cons]
        exact ⟨hk ▸ h.1, h.2⟩
      · simp only [insert, hk, if_false, List.map_cons,
          List.nodup_cons, mem_keys_insert]
        exact ⟨by grind, ih h.2⟩

/- But for the order, a new entry is added to those of other keys. -/
theorem perm_insert
    {k : κ} {v : α} {es : List (κ × α)}
    (hNodup : (es.map Prod.fst).Nodup) :
    (insert k v es).Perm (es.filter (·.1 ≠ k) ++ [(k, v)]) := by
  induction es with
  | nil => exact .refl _
  | cons e es ih =>
      rw [List.map_cons, List.nodup_cons] at hNodup
      by_cases hk : e.1 = k
      · have hOthers : es.filter (·.1 ≠ k) = es := by
          rw [List.filter_eq_self]
          intro e' he'
          have hne : e'.1 ≠ k := fun hEq =>
            hNodup.1 (hk ▸ hEq ▸ List.mem_map_of_mem he')
          exact decide_eq_true hne
        simp only [insert, hk, if_true, List.filter_cons, ne_eq,
          not_true_eq_false, decide_false, Bool.false_eq_true,
          if_false]
        rw [hOthers]
        exact (List.perm_append_singleton (k, v) es).symm
      · simp only [insert, hk, if_false, List.filter_cons, ne_eq,
          not_false_eq_true, decide_true, if_true, List.cons_append]
        exact (ih hNodup.2).cons e

theorem get?_insert
    (k x : κ) (v : α) (es : List (κ × α)) :
    get? x (insert k v es) =
      if k = x then some v else get? x es := by
  induction es with
  | nil => simp [insert, get?]
  | cons e es ih =>
      by_cases hk : e.1 = k
      · by_cases hx : k = x <;> simp [insert, get?, hk, hx]
      · simp only [insert, hk, if_false, get?, ih]
        grind

theorem get?_filter
    (p : κ → Bool) (x : κ) (es : List (κ × α)) :
    get? x (es.filter fun e => p e.1) =
      if p x then get? x es else none := by
  induction es with
  | nil => simp [get?]
  | cons e es ih =>
      by_cases hp : p e.1
      · by_cases hx : e.1 = x
        · subst hx
          simp [get?, hp]
        · simp [get?, hp, hx, ih]
      · by_cases hx : e.1 = x
        · subst hx
          simp [hp, ih]
        · simp [get?, hp, hx, ih]

theorem get?_eq_none_iff
    {x : κ} {es : List (κ × α)} :
    get? x es = none ↔ x ∉ es.map Prod.fst := by
  induction es with
  | nil => simp [get?]
  | cons e es ih =>
      by_cases h : e.1 = x
      · simp [get?, h]
      · simp only [get?, h, if_false, ih, List.map_cons,
          List.mem_cons]
        grind

theorem get?_of_mem
    {e : κ × α} {es : List (κ × α)}
    (hNodup : (es.map Prod.fst).Nodup)
    (h : e ∈ es) :
    get? e.1 es = some e.2 := by
  induction es with
  | nil => cases h
  | cons f es ih =>
      rw [List.map_cons, List.nodup_cons] at hNodup
      rcases List.mem_cons.mp h with rfl | h
      · simp [get?]
      · have hne : f.1 ≠ e.1 := fun hEq =>
          hNodup.1 (hEq ▸ List.mem_map_of_mem h)
        simp [get?, hne, ih hNodup.2 h]

end Entries

------------------------------------------------------------
-- Tables
------------------------------------------------------------

/- A list of entries in which no two entries have the same key. -/
structure Table (κ α : Type) where
  entries : List (κ × α)
  nodup : (entries.map Prod.fst).Nodup

namespace Table

variable {κ α : Type}

/- The table without entries. -/
def empty : Table κ α :=
  ⟨[], List.nodup_nil⟩

instance : EmptyCollection (Table κ α) :=
  ⟨empty⟩

instance : Inhabited (Table κ α) :=
  ⟨empty⟩

/- The keys of a table, in the order of its entries. -/
def keys (t : Table κ α) : List κ :=
  t.entries.map Prod.fst

/- The values of a table, in the order of its entries. -/
def values (t : Table κ α) : List α :=
  t.entries.map Prod.snd

/- The number of entries. -/
def size (t : Table κ α) : Nat :=
  t.entries.length

/- Whether a table has no entry. -/
def isEmpty (t : Table κ α) : Bool :=
  t.entries.isEmpty

variable [DecidableEq κ]

/- The value of a key. -/
def get? (t : Table κ α) (k : κ) : Option α :=
  Entries.get? k t.entries

/- Give a key a value, in place of the one it had. -/
def insert (t : Table κ α) (k : κ) (v : α) : Table κ α :=
  ⟨Entries.insert k v t.entries, Entries.nodup_insert t.nodup⟩

/- Keep the entries whose key passes a test. -/
def filterKeys (t : Table κ α) (p : κ → Bool) : Table κ α :=
  ⟨t.entries.filter fun e => p e.1,
    t.nodup.sublist (List.filter_sublist.map Prod.fst)⟩

/- Remove the entry of a key. -/
def erase (t : Table κ α) (k : κ) : Table κ α :=
  t.filterKeys (· ≠ k)

@[simp] theorem get?_empty (k : κ) :
    (empty : Table κ α).get? k = none :=
  rfl

@[simp] theorem get?_insert
    (t : Table κ α) (k x : κ) (v : α) :
    (t.insert k v).get? x =
      if k = x then some v else t.get? x :=
  Entries.get?_insert k x v t.entries

@[simp] theorem get?_filterKeys
    (t : Table κ α) (p : κ → Bool) (x : κ) :
    (t.filterKeys p).get? x =
      if p x then t.get? x else none :=
  Entries.get?_filter p x t.entries

@[simp] theorem get?_erase
    (t : Table κ α) (k x : κ) :
    (t.erase k).get? x =
      if x = k then none else t.get? x := by
  simp only [erase, get?_filterKeys]
  by_cases h : x = k <;> simp [h]

/- A key is in a table exactly when the table gives it a value. -/
theorem mem_keys_iff {t : Table κ α} {k : κ} :
    k ∈ t.keys ↔ t.get? k ≠ none := by
  rw [get?, ne_eq, Entries.get?_eq_none_iff]
  simp [keys]

/- An entry of a table is the one its key looks up. -/
theorem get?_of_mem
    {t : Table κ α} {e : κ × α}
    (h : e ∈ t.entries) :
    t.get? e.1 = some e.2 :=
  Entries.get?_of_mem t.nodup h

/- What a key looks up is among the values of the table. -/
theorem mem_values_of_get?
    {t : Table κ α} {k : κ} {v : α}
    (h : t.get? k = some v) :
    v ∈ t.values := by
  have hKey : k ∈ t.keys := by
    rw [mem_keys_iff, h]
    exact nofun
  rcases List.mem_map.mp hKey with ⟨e, he, rfl⟩
  cases h.symm.trans (get?_of_mem he)
  exact List.mem_map_of_mem he

/- A value of a table is the new one or was there before. -/
theorem eq_or_mem_of_mem_values_insert
    {t : Table κ α} {k : κ} {v u : α}
    (h : u ∈ (t.insert k v).values) :
    u = v ∨ u ∈ t.values := by
  rcases List.mem_map.mp h with ⟨e, he, rfl⟩
  have hFound := get?_of_mem he
  rw [get?_insert] at hFound
  split at hFound
  · exact .inl (Option.some.inj hFound).symm
  · exact .inr (mem_values_of_get? hFound)

/- A table without the other keys has one entry at most. -/
theorem entries_of_only
    {t : Table κ α} {k : κ}
    (h : ∀ x, k ≠ x → t.get? x = none) :
    t.entries = [] ∨ ∃ v, t.entries = [(k, v)] := by
  have hKey : ∀ e ∈ t.entries, e.1 = k := by
    intro e he
    apply Decidable.byContradiction
    intro hne
    have hNone := h e.1 (Ne.symm hne)
    rw [get?_of_mem he] at hNone
    cases hNone
  have hNodup := t.nodup
  rcases hEntries : t.entries with _ | ⟨⟨x, v⟩, _ | ⟨f, es⟩⟩
  · exact .inl rfl
  · rw [hEntries] at hKey
    cases hKey (x, v) List.mem_cons_self
    exact .inr ⟨v, rfl⟩
  · rw [hEntries] at hKey hNodup
    have hSame : x = f.1 :=
      (hKey (x, v) (by simp)).trans (hKey f (by simp)).symm
    simp [hSame] at hNodup

end Table

end FragmentSink
