import TreeTable.Value.Basic

/-! # Fields put into an object

Putting fields one after another keeps the keys that are there in their places, appends the
others in the order in which they first come, and leaves under each key what was put last. Changing
what stands under a key keeps all keys in their places.
-/

namespace TreeTable.Fields

@[simp] theorem merge_nil (base : Fields) : base.merge [] = base := rfl

theorem merge_cons (base : Fields) (key : String) (value : Value) (later : Fields) :
    base.merge ((key, value) :: later) = (base.insert key value).merge later := rfl

theorem merge_append (base first second : Fields) :
    base.merge (first ++ second) = (base.merge first).merge second :=
  List.foldl_append

/-- Under a key stands what was put there last, or else what was there before. -/
theorem get?_merge (base later : Fields) (key : String) :
    (base.merge later).get? key = (get? later.reverse key).or (base.get? key) := by
  induction later generalizing base with
  | nil => rfl
  | cons field rest ih =>
      obtain ⟨k, v⟩ := field
      have last : get? (rest.reverse ++ [(k, v)]) key =
          (get? rest.reverse key).or (get? [(k, v)] key) := List.lookup_append
      rw [merge_cons, ih, get?_insert, List.reverse_cons, last, get?_cons, get?_nil,
        Option.or_assoc]
      by_cases h : key = k <;> simp [h]

/-- Keys that were there stay in their places; the others follow in the order in which they
first come. -/
theorem keys_merge (base later : Fields) :
    (base.merge later).keys =
      base.keys ++ (later.keys.filter fun key => decide (key ∉ base.keys)).eraseDups := by
  induction later generalizing base with
  | nil => simp
  | cons field rest ih =>
      obtain ⟨k, v⟩ := field
      rw [merge_cons, ih, keys_insert, keys_cons]
      by_cases h : k ∈ base.keys
      · rw [if_pos h, List.filter_cons_of_neg (by simpa using h)]
      · rw [if_neg h, List.filter_cons_of_pos (by simpa using h), List.eraseDups_cons,
          List.filter_filter, List.append_assoc, List.singleton_append]
        congr 3
        apply List.filter_congr
        intro key _
        by_cases hk : key = k <;> simp [hk]

/-- When no key stands twice, every field is what stands under its key. -/
theorem get?_of_mem {fields : Fields} {field : String × Value} (distinct : fields.keys.Nodup)
    (h : field ∈ fields) : fields.get? field.1 = some field.2 := by
  induction fields with
  | nil => cases h
  | cons first rest ih =>
      obtain ⟨k, v⟩ := first
      rw [keys_cons, List.nodup_cons] at distinct
      rw [get?_cons]
      rcases List.mem_cons.mp h with rfl | hrest
      · rw [if_pos rfl]
      · have among : field.1 ∈ keys rest := List.mem_map_of_mem hrest
        have notFirst : field.1 ≠ k := by
          intro heq
          rw [heq] at among
          exact distinct.1 among
        rw [if_neg notFirst]
        exact ih distinct.2 hrest

/-- Of two values that are put under one key the last is kept. -/
theorem insert_insert (key : String) (first second : Value) (fields : Fields) :
    (fields.insert key first).insert key second = fields.insert key second := by
  induction fields with
  | nil => simp [insert]
  | cons field rest ih =>
      obtain ⟨k, v⟩ := field
      by_cases h : k = key <;> simp [insert, h, ih]

theorem mem_insert {key : String} {value : Value} {fields : Fields} {field : String × Value}
    (h : field ∈ fields.insert key value) : field = (key, value) ∨ field ∈ fields := by
  induction fields with
  | nil => exact .inl (List.mem_singleton.mp h)
  | cons first rest ih =>
      obtain ⟨k, v⟩ := first
      rw [insert] at h
      split at h
      next same =>
        subst same
        exact (List.mem_cons.mp h).imp_right (.tail _)
      next =>
        rcases List.mem_cons.mp h with rfl | hrest
        · exact .inr List.mem_cons_self
        · exact (ih hrest).imp_right (.tail _)

/-- Changes what stands under a key. -/
def alter (key : String) (change : Value → Value) (fields : Fields) : Fields :=
  fields.map fun field => (field.1, if field.1 = key then change field.2 else field.2)

@[simp] theorem keys_alter (key : String) (change : Value → Value) (fields : Fields) :
    (fields.alter key change).keys = fields.keys := by
  simp [keys, alter]

theorem get?_alter (key : String) (change : Value → Value) (fields : Fields) (other : String) :
    (fields.alter key change).get? other =
      if other = key then (fields.get? other).map change else fields.get? other := by
  induction fields with
  | nil => simp [alter]
  | cons field rest ih =>
      obtain ⟨k, v⟩ := field
      rw [alter] at ih ⊢
      rw [List.map_cons, get?_cons, get?_cons, ih]
      by_cases h : other = k
      · subst h
        by_cases hkey : other = key <;> simp [hkey]
      · simp [h]

theorem alter_alter_self (key : String) (first second : Value → Value) (fields : Fields) :
    (fields.alter key first).alter key second =
      fields.alter key fun value => second (first value) := by
  rw [alter, alter, alter, List.map_map]
  apply List.map_congr_left
  intro field _
  by_cases h : field.1 = key <;> simp [h]

theorem alter_alter_comm {key other : String} (apart : key ≠ other)
    (first second : Value → Value) (fields : Fields) :
    (fields.alter key first).alter other second = (fields.alter other second).alter key first := by
  rw [alter, alter, alter, alter, List.map_map, List.map_map]
  apply List.map_congr_left
  intro field _
  by_cases h : field.1 = key
  · simp [h, apart]
  · simp [h]

/-- Replacing the value of a key is seen under that key only. -/
theorem get?_set (key : String) (value : Value) (fields : Fields) (other : String) :
    (fields.set key value).get? other =
      if other = key then (fields.get? other).map fun _ => value else fields.get? other := by
  induction fields with
  | nil => simp [set]
  | cons field rest ih =>
      obtain ⟨k, v⟩ := field
      by_cases hk : k = key
      · subst hk
        by_cases ho : other = k <;> simp [set, get?_cons, ho]
      · by_cases ho : other = k
        · subst ho
          simp [set, get?_cons, hk]
        · simp [set, get?_cons, hk, ho, ih]

/-- Putting back what stands under a key changes nothing. -/
theorem set_get? {fields : Fields} {key : String} {value : Value}
    (h : fields.get? key = some value) : fields.set key value = fields := by
  induction fields with
  | nil => rfl
  | cons field rest ih =>
      obtain ⟨k, v⟩ := field
      rw [get?_cons] at h
      by_cases hk : key = k
      · rw [if_pos hk] at h
        cases h
        rw [set, if_pos hk.symm]
      · rw [if_neg hk] at h
        rw [set, if_neg (Ne.symm hk), ih h]

theorem insert_of_not_mem {key : String} {fields : Fields} (h : key ∉ fields.keys)
    (value : Value) : fields.insert key value = fields ++ [(key, value)] := by
  induction fields with
  | nil => rfl
  | cons field rest ih =>
      obtain ⟨k, v⟩ := field
      rw [keys_cons, List.mem_cons, not_or] at h
      rw [insert, if_neg (Ne.symm h.1), ih h.2, List.cons_append]

/-- Fields with new keys are appended as they are. -/
theorem merge_eq_append {base later : Fields} (h : (keys (base ++ later)).Nodup) :
    base.merge later = base ++ later := by
  induction later generalizing base with
  | nil => rw [merge_nil, List.append_nil]
  | cons field rest ih =>
      obtain ⟨k, v⟩ := field
      have split : base ++ (k, v) :: rest = base ++ [(k, v)] ++ rest := by simp
      have fresh : k ∉ base.keys := by
        rw [keys, List.map_append, List.nodup_append] at h
        exact fun hk => h.2.2 k hk k List.mem_cons_self rfl
      rw [split] at h ⊢
      rw [merge_cons, insert_of_not_mem fresh, ih h]

theorem ofWrites_eq_self {writes : Fields} (h : writes.keys.Nodup) : ofWrites writes = writes :=
  merge_eq_append h

theorem keys_map (columns : List String) (make : String → Value) :
    keys (columns.map fun column => (column, make column)) = columns := by
  rw [keys, List.map_map]
  exact List.map_id columns

/-- Of fields that are made key by key each is what was made for its key. -/
theorem get?_map {columns : List String} {column : String} (h : column ∈ columns)
    (make : String → Value) :
    get? (columns.map fun column => (column, make column)) column = some (make column) := by
  induction columns with
  | nil => cases h
  | cons first rest ih =>
      rw [List.map_cons, get?_cons]
      by_cases same : column = first
      · rw [if_pos same, same]
      · rw [if_neg same]
        exact ih ((List.mem_cons.mp h).resolve_left same)

end TreeTable.Fields
